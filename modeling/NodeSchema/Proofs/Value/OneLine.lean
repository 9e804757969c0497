import NodeSchema.Proofs.Decimal.Text
import NodeSchema.Text.LowerCase
import NodeSchema.Validator.TypeText
/-!
# Values that stay on their line

A value goes into a type by one of three encoders: as a literal in single quotes, as its text on one
line, or as JSON. None of them lets a line feed or a carriage return through, whatever texts stand
in the value and however deep, so no value can end the line that its type stands on.

* `Text.OneLine` — a text without line feeds and carriage returns.
* `Text.oneLine_quoted`, `Text.oneLine_lowerFirst` — quoted texts, and names in lower case.
* `Value.oneLine_inline`, `Value.oneLine_literal`, `Json.oneLine_write` — the three encoders.
-/

namespace NodeSchema

namespace Text

/-! ## 1. Texts on one line -/

/-- A text that holds neither a line feed nor a carriage return. -/
structure OneLine (s : String) : Prop where
  noLineFeed : '\n' ∉ s.toList
  noReturn : '\r' ∉ s.toList

def staysOnLine (c : Char) : Bool := c != '\n' && c != '\r'

theorem staysOnLine_of_ne {c : Char} (hn : c ≠ '\n') (hr : c ≠ '\r') : staysOnLine c = true := by
  simp [staysOnLine, hn, hr]

theorem oneLine_iff_allChars {s : String} : OneLine s ↔ allChars staysOnLine s = true := by
  rw [allChars_eq_true_iff]
  constructor
  · intro h c hc
    exact staysOnLine_of_ne (fun hn => h.noLineFeed (hn ▸ hc)) fun hr => h.noReturn (hr ▸ hc)
  · intro h
    constructor
    · intro hn; exact absurd (h _ hn) (by decide)
    · intro hr; exact absurd (h _ hr) (by decide)

instance (s : String) : Decidable (OneLine s) := decidable_of_iff _ oneLine_iff_allChars.symm

/-- Two texts stay on one line together if each does. -/
@[simp] theorem oneLine_append {s t : String} : OneLine (s ++ t) ↔ OneLine s ∧ OneLine t := by
  simp [oneLine_iff_allChars]

/-- A text by its characters; a text that is written out is settled by looking at them. -/
theorem oneLine_ofList {l : List Char} (h : l.all staysOnLine = true) :
    OneLine (String.ofList l) := by
  rwa [oneLine_iff_allChars, allChars_ofList]

theorem oneLine_intercalate {sep : String} {l : List String} (hsep : OneLine sep)
    (hl : ∀ s ∈ l, OneLine s) : OneLine (sep.intercalate l) := by
  simp only [oneLine_iff_allChars] at hsep hl ⊢
  exact allChars_intercalate hsep hl

theorem staysOnLine_of_isNumeral (c : Char) (h : isNumeral c = true) : staysOnLine c = true := by
  refine staysOnLine_of_ne ?_ ?_
  · intro hc; subst hc; exact absurd h (by decide)
  · intro hc; subst hc; exact absurd h (by decide)

theorem oneLine_toString_int (n : Int) : OneLine (toString n) :=
  oneLine_iff_allChars.mpr (allChars_mono (allChars_toString_int n) staysOnLine_of_isNumeral)

theorem oneLine_floatText {special : SpecialNames} (hnan : OneLine special.nan)
    (hinfinity : OneLine special.infinity) (x : Binary64) : OneLine (x.text special) := by
  rw [oneLine_iff_allChars] at hnan hinfinity ⊢
  exact Binary64.allChars_text staysOnLine_of_isNumeral hnan hinfinity x

/-! ## 2. Quoted texts -/

theorem staysOnLine_digitChar : ∀ d < 16, staysOnLine (Nat.digitChar d) = true := by decide

theorem all_hexDigits (width n : Nat) : (hexDigits width n).all staysOnLine = true := by
  induction width generalizing n with
  | zero => rfl
  | succ width ih =>
    have hdigit := staysOnLine_digitChar (n % 16) (Nat.mod_lt n (by omega))
    simp [hexDigits, ih, hdigit]

/-- A quoted character stays on the line, if the quotes do. -/
theorem all_quotedChar {quote : Char} (hquote : staysOnLine quote = true) (c : Char) :
    (quotedChar quote c).all staysOnLine = true := by
  unfold quotedChar
  split
  · next h =>
    rcases h with rfl | rfl
    · rw [List.all_cons, List.all_cons, hquote]
      rfl
    · rfl
  split
  · rfl
  split
  · rfl
  split
  · rfl
  split
  · next hn hr _ _ => simp [staysOnLine_of_ne hn hr]
  split
  · simp +decide [all_hexDigits]
  split <;> simp +decide [all_hexDigits]

/-- A quoted text stays on its line, whatever it quotes. -/
theorem oneLine_quoted (s : String) : OneLine (quoted s) := by
  have hquote : staysOnLine (quoteFor s.toList) = true := by
    unfold quoteFor
    split <;> rfl
  exact oneLine_ofList (by simp [quotedChars, List.all_flatMap, hquote, all_quotedChar hquote])

/-! ## 3. Lower case -/

/-- No code point beyond U+000D ends a line; what is no code point stands for U+0000. -/
theorem staysOnLine_ofNat {n : Nat} (h : 13 < n) : staysOnLine (Char.ofNat n) = true := by
  have hvalue : (Char.ofNat n).toNat = if n.isValidChar then n else 0 := by
    by_cases hvalid : n.isValidChar
    · rw [if_pos hvalid, Char.ofNat, dif_pos hvalid]
      rfl
    · rw [if_neg hvalid, Char.ofNat, dif_neg hvalid]
      rfl
  refine staysOnLine_of_ne ?_ ?_
  · intro hc
    rw [hc, show '\n'.toNat = 10 from rfl] at hvalue
    split at hvalue <;> omega
  · intro hc
    rw [hc, show '\r'.toNat = 13 from rfl] at hvalue
    split at hvalue <;> omega

/-- No character has a lower-case form among the first ones. -/
theorem lt_first_add_shift : ∀ r ∈ lowerRuns, 13 < (r.first : Int) + r.shift := by decide +kernel

/-- Lower-case forms break no line. -/
theorem all_lowerCase {c : Char} (hc : staysOnLine c = true) :
    (lowerCase c).all staysOnLine = true := by
  unfold lowerCase
  split
  · decide
  split
  · next r hr =>
    have habove := lt_first_add_shift r (List.mem_of_find?_eq_some hr)
    have hcontains := List.find?_some hr
    simp only [CaseRun.contains, Bool.and_eq_true, decide_eq_true_eq] at hcontains
    have hfirst := hcontains.1.1
    rw [List.all_cons, List.all_nil, Bool.and_true]
    exact staysOnLine_ofNat (by omega)
  · simp [hc]

theorem oneLine_lowerFirst {s : String} (h : OneLine s) : OneLine (lowerFirst s) := by
  rw [oneLine_iff_allChars, allChars] at h
  unfold lowerFirst
  split
  · decide
  · next c rest hs =>
    rw [hs, List.all_cons, Bool.and_eq_true] at h
    exact oneLine_ofList (by rw [List.all_append, all_lowerCase h.1, h.2]; rfl)

end Text

open Text

/-! ## 4. Values -/

namespace Value

mutual

/-- The text of a value on one line is on one line. -/
theorem oneLine_inline : ∀ v : Value, OneLine v.inline
  | .null => by decide
  | .bool b => by cases b <;> decide
  | .int n => oneLine_toString_int n
  | .float x => oneLine_floatText (by decide) (by decide) x
  | .str s => oneLine_quoted s
  | .list items => by
    rw [inline]
    simp +decide [oneLine_inlineItems items]
  | .object members => by
    rw [inline]
    simp +decide [oneLine_inlineMembers members]

theorem oneLine_inlineItems : ∀ items : List Value, OneLine (inlineItems items)
  | [] => by decide
  | [v] => oneLine_inline v
  | v :: w :: rest => by
    rw [inlineItems]
    simp +decide [oneLine_inline v, oneLine_inlineItems (w :: rest)]

theorem oneLine_inlineMembers : ∀ members : List (String × Value), OneLine (inlineMembers members)
  | [] => by decide
  | [(k, v)] => by
    rw [inlineMembers]
    simp +decide [oneLine_quoted k, oneLine_inline v]
  | (k, v) :: e :: rest => by
    rw [inlineMembers]
    simp +decide [oneLine_quoted k, oneLine_inline v, oneLine_inlineMembers (e :: rest)]

end

theorem all_literalChar (c : Char) : (literalChar c).all staysOnLine = true := by
  unfold literalChar
  split
  · rfl
  split
  · rfl
  split
  · rfl
  split
  · rfl
  split
  · rfl
  · next hn hr _ => simp [staysOnLine_of_ne hn hr]

/-- A literal stays on its line, whatever the text is. -/
theorem oneLine_literalText (s : String) : OneLine (literalText s) :=
  oneLine_ofList (by simp +decide [List.all_flatMap, all_literalChar])

theorem oneLine_floatLiteral (x : Binary64) : OneLine (floatLiteral x) := by
  have htext : OneLine (x.text literalNames) := oneLine_floatText (by decide) (by decide) x
  unfold floatLiteral
  split
  · exact htext
  split
  · split
    · exact oneLine_toString_int _
    · exact htext
  · exact htext

/-- **A literal is on one line**, whatever value it stands for. -/
theorem oneLine_literal (v : Value) : OneLine v.literal := by
  cases v with
  | null => decide
  | bool b => cases b <;> decide
  | int n => exact oneLine_toString_int n
  | float x => exact oneLine_floatLiteral x
  | str s => exact oneLine_literalText s
  | list items => exact oneLine_literalText _
  | object members => exact oneLine_literalText _

end Value

namespace Json

theorem all_unitEscape (n : Nat) : (unitEscape n).all staysOnLine = true := by
  simp +decide [unitEscape, all_hexDigits]

theorem all_stringChar (c : Char) : (stringChar c).all staysOnLine = true := by
  unfold stringChar
  split
  · next h => rcases h with rfl | rfl <;> rfl
  split
  · rfl
  split
  · rfl
  split
  · rfl
  split
  · rfl
  split
  · rfl
  split
  · next hn hr _ _ _ _ => simp [staysOnLine_of_ne hn hr]
  split <;> simp [all_unitEscape]

/-- A string stays on its line, whatever the text is. -/
theorem oneLine_string (s : String) : OneLine (string s) :=
  oneLine_ofList (by simp +decide [stringChars, List.all_flatMap, all_stringChar])

mutual

/-- **The JSON text of a value is on one line**, whatever the value. -/
theorem oneLine_write : ∀ v : Value, OneLine (write v)
  | .null => by decide
  | .bool b => by cases b <;> decide
  | .int n => oneLine_toString_int n
  | .float x => oneLine_floatText (by decide) (by decide) x
  | .str s => oneLine_string s
  | .list items => by
    rw [write]
    simp +decide [oneLine_writeItems items]
  | .object members => by
    rw [write]
    simp +decide [oneLine_writeMembers members]

theorem oneLine_writeItems : ∀ items : List Value, OneLine (writeItems items)
  | [] => by decide
  | [v] => oneLine_write v
  | v :: w :: rest => by
    rw [writeItems]
    simp +decide [oneLine_write v, oneLine_writeItems (w :: rest)]

theorem oneLine_writeMembers : ∀ members : List (String × Value), OneLine (writeMembers members)
  | [] => by decide
  | [(k, v)] => by
    rw [writeMembers]
    simp +decide [oneLine_string k, oneLine_write v]
  | (k, v) :: e :: rest => by
    rw [writeMembers]
    simp +decide [oneLine_string k, oneLine_write v, oneLine_writeMembers (e :: rest)]

end

end Json

end NodeSchema
