import Mathlib.Data.List.TakeWhile
import NodeSchema.Proofs.Decimal.Text
import NodeSchema.Proofs.Json.Strings
import NodeSchema.Validator.TypeText
/-!
# Types of enumerations are faithful

The type of a choice of values tells which values there are to choose from, as long as they are
null, truth values, integers and texts. Words for the former hold neither blanks nor quotes, and the
literal of a text marks its own end, whatever stands in the text and whatever follows: so the
separators of the union are the ones that were put there. There are two ways of writing a text, with
single quotes and as in JSON, and both have a reader that finds the end.

* `SelfDelimiting` — texts none of which is the beginning of another.
* `readLiteral_chars`, `Json.scanString_stringChars` — the two readers.
* `WritesScalars` — what both ways of writing have in common. `WritesScalars.union_injective`
* `enum_types_faithful` — the statement on types.
-/

namespace NodeSchema

/-! ## 1. Texts that mark their own end -/

namespace Text

variable {α : Type}

/-- No text of this form is the beginning of another one: it ends at the same place whatever
follows. -/
def SelfDelimiting (text : α → List Char) : Prop :=
  ∀ a b rest rest', text a ++ rest = text b ++ rest' → a = b ∧ rest = rest'

/-- A text that can be read off the front of anything marks its own end. -/
theorem selfDelimiting_of_read {text : α → List Char} (read : List Char → Option (α × List Char))
    (h : ∀ a rest, read (text a ++ rest) = some (a, rest)) : SelfDelimiting text := by
  intro a b rest rest' heq
  have hread := h a rest
  rw [heq, h b rest'] at hread
  simpa [eq_comm] using hread

/-- Texts without blanks are told apart if what follows starts with a blank. -/
theorem append_inj_of_blank {s t rest rest' : List Char} (hs : ' ' ∉ s) (ht : ' ' ∉ t)
    (hrest : ∀ c ∈ rest.head?, c = ' ') (hrest' : ∀ c ∈ rest'.head?, c = ' ')
    (h : s ++ rest = t ++ rest') : s = t ∧ rest = rest' := by
  have hfront : ∀ {s rest : List Char}, ' ' ∉ s → (∀ c ∈ rest.head?, c = ' ') →
      (s ++ rest).takeWhile (· != ' ') = s := by
    intro s rest hs hrest
    rw [List.takeWhile_append_of_pos]
    · cases rest with
      | nil => simp
      | cons c rest => simp [hrest c rfl]
    · intro c hc
      have hblank : c ≠ ' ' := fun h => hs (h ▸ hc)
      simpa using hblank
  have hst : s = t := by
    have hsame := hfront hs hrest
    rwa [h, hfront ht hrest', eq_comm] at hsame
  subst hst
  exact ⟨rfl, List.append_cancel_left h⟩

end Text

open Text

/-! ## 2. Texts in single quotes -/

namespace Value

/-- The character that stands for itself or for a control character behind a backslash. -/
def unescaped : Char → Char
  | 'n' => '\n'
  | 'r' => '\r'
  | 't' => '\t'
  | c => c

/-- Reads a literal from behind its opening quote, up to the quote that closes it. -/
def readLiteral : List Char → Option (List Char × List Char)
  | [] => none
  | '\'' :: rest => some ([], rest)
  | '\\' :: c :: rest => (readLiteral rest).map fun p => (unescaped c :: p.1, p.2)
  | c :: rest => (readLiteral rest).map fun p => (c :: p.1, p.2)

theorem readLiteral_literalChar (c : Char) (rest : List Char) :
    readLiteral (literalChar c ++ rest) = (readLiteral rest).map fun p => (c :: p.1, p.2) := by
  unfold literalChar
  split
  · next h => subst h; rfl
  split
  · next h => subst h; rfl
  split
  · next h => subst h; rfl
  split
  · next h => subst h; rfl
  split
  · next h => subst h; rfl
  · next hescape hquote _ _ _ =>
    show readLiteral (c :: rest) = _
    rw [readLiteral]
    · exact hquote
    · intro d rest' h _
      exact hescape h

/-- A literal is read back whatever follows its end. -/
theorem readLiteral_chars (s rest : List Char) :
    readLiteral (s.flatMap literalChar ++ '\'' :: rest) = some (s, rest) := by
  induction s with
  | nil => rfl
  | cons c s ih => rw [List.flatMap_cons, List.append_assoc, readLiteral_literalChar, ih]; rfl

theorem toList_literalText (s : String) :
    (literalText s).toList = '\'' :: (s.toList.flatMap literalChar ++ ['\'']) := by
  simp [literalText]

/-- A literal ends at its closing quote. -/
theorem selfDelimiting_literalText : SelfDelimiting fun s : String => (literalText s).toList := by
  refine selfDelimiting_of_read
    (fun cs => (readLiteral cs.tail).map fun p => (String.ofList p.1, p.2)) fun s rest => ?_
  simp [toList_literalText, readLiteral_chars]

end Value

/-! ## 3. Texts in JSON -/

namespace Json

/-- Reads a string off the front of a text, with the scan of the JSON reader. -/
def readString (cs : List Char) : Option (String × List Char) :=
  match scanString 0 [] cs.tail with
  | (.text s, n) => some (s, cs.tail.drop n)
  | _ => none

theorem toList_string (s : String) :
    (string s).toList = '"' :: (s.toList.flatMap stringChar ++ ['"']) := by
  simp [string, stringChars]

/-- A string is read back whatever follows its end. -/
theorem readString_string (s : String) (rest : List Char) :
    readString ((string s).toList ++ rest) = some (s, rest) := by
  have hscan := scanString_stringChars s.toList rest
  rw [String.ofList_toList] at hscan
  have htail : ((string s).toList ++ rest).tail = s.toList.flatMap stringChar ++ '"' :: rest := by
    simp [toList_string]
  have hdrop : (s.toList.flatMap stringChar ++ '"' :: rest).drop
      ((s.toList.flatMap stringChar).length + 1) = rest := by
    rw [← List.drop_drop, List.drop_left]
    rfl
  rw [readString, htail, hscan]
  simp only [hdrop]

/-- A JSON string ends at its closing quote. -/
theorem selfDelimiting_string : SelfDelimiting fun s : String => (string s).toList :=
  selfDelimiting_of_read readString readString_string

end Json

/-! ## 4. Words for all other values -/

namespace Value

def isScalar : Value → Bool
  | .null => true
  | .bool _ => true
  | .int _ => true
  | .str _ => true
  | _ => false

def word? : Value → Option String
  | .null => some "null"
  | .bool true => some "true"
  | .bool false => some "false"
  | .int n => some (toString n)
  | _ => none

/-- A letter, or a character of a number. -/
def isWordChar (c : Char) : Bool := c.isAlpha || isNumeral c

/-- A scalar that is not written as a word is a text. -/
theorem word?_or_str {v : Value} (h : v.isScalar = true) :
    (∃ w, v.word? = some w) ∨ ∃ s, v = .str s := by
  cases v with
  | null => exact Or.inl ⟨_, rfl⟩
  | bool b => cases b <;> exact Or.inl ⟨_, rfl⟩
  | int n => exact Or.inl ⟨_, rfl⟩
  | str s => exact Or.inr ⟨s, rfl⟩
  | _ => cases h

theorem allChars_word {v : Value} {w : String} (h : v.word? = some w) :
    allChars isWordChar w = true := by
  unfold word? at h
  split at h <;> cases h
  · rfl
  · rfl
  · rfl
  · exact allChars_mono (allChars_toString_int _) fun c hc => by simp [isWordChar, hc]

theorem word?_ne_empty {v : Value} {w : String} (h : v.word? = some w) : w ≠ "" := by
  unfold word? at h
  split at h <;> cases h
  · decide
  · decide
  · decide
  · exact toString_int_ne_empty _

/-- A word has no blank, so that it ends where a separator starts. -/
theorem blank_not_mem_word {v : Value} {w : String} (h : v.word? = some w) : ' ' ∉ w.toList := by
  intro hblank
  have hword := allChars_eq_true_iff.mp (allChars_word h) ' ' hblank
  revert hword
  decide

theorem toString_int_ne {w : String} (hw : allChars isNumeral w = false) (n : Int) :
    toString n ≠ w := by
  intro h
  subst h
  rw [allChars_toString_int] at hw
  cases hw

/-- Nothing but an integer is written like one. -/
theorem eq_int_of_word? {v : Value} {n : Int} (h : v.word? = some (toString n)) : v = .int n := by
  unfold word? at h
  split at h
  · exact absurd (Option.some.inj h).symm (toString_int_ne rfl n)
  · exact absurd (Option.some.inj h).symm (toString_int_ne rfl n)
  · exact absurd (Option.some.inj h).symm (toString_int_ne rfl n)
  · rw [toString_int_injective (Option.some.inj h)]
  · cases h

/-- A word stands for one value. -/
theorem word?_injective {v v' : Value} {w : String} (h : v.word? = some w)
    (h' : v'.word? = some w) : v = v' := by
  cases v with
  | int n => cases h; exact (eq_int_of_word? h').symm
  | null =>
    cases v' with
    | int n => cases h'; exact eq_int_of_word? h
    | null => rfl
    | bool b => cases h; cases b <;> simp [word?] at h'
    | _ => cases h'
  | bool b =>
    cases v' with
    | int n => cases h'; exact eq_int_of_word? h
    | null => cases h'; cases b <;> simp [word?] at h
    | bool b' =>
      cases b <;> cases b'
      · rfl
      · cases h; simp [word?] at h'
      · cases h; simp [word?] at h'
      · rfl
    | _ => cases h'
  | _ => cases h

end Value

/-! ## 5. Lists of scalars -/

/-- `WritesScalars quote write` — words are written as they are, and texts in a form that starts
with the quote and marks its own end. -/
structure WritesScalars (quote : Char) (write : Value → String) : Prop where
  quote_not_word : Value.isWordChar quote = false
  word : ∀ v w, v.word? = some w → write v = w
  text : ∀ s, ∃ rest, (write (.str s)).toList = quote :: rest
  delimits : SelfDelimiting fun s : String => (write (.str s)).toList

/-- Values that are written as literals have such a form. -/
theorem writesScalars_literal : WritesScalars '\'' Value.literal where
  quote_not_word := by decide
  word := by
    intro v w h
    unfold Value.word? at h
    split at h <;> cases h <;> rfl
  text := fun s => ⟨_, Value.toList_literalText s⟩
  delimits := Value.selfDelimiting_literalText

/-- So have values that are written as JSON. -/
theorem writesScalars_json : WritesScalars '"' Json.write where
  quote_not_word := by decide
  word := by
    intro v w h
    unfold Value.word? at h
    split at h <;> cases h <;> rfl
  text := fun s => ⟨_, Json.toList_string s⟩
  delimits := Json.selfDelimiting_string

namespace WritesScalars

variable {quote : Char} {write : Value → String} (h : WritesScalars quote write)

include h

theorem head_text (s : String) (rest : List Char) :
    ((write (.str s)).toList ++ rest).head? = some quote := by
  obtain ⟨body, hbody⟩ := h.text s
  rw [hbody]
  rfl

/-- A word starts with no quote. -/
theorem head_word {v : Value} {w : String} (hv : v.word? = some w) (rest : List Char) :
    ∃ c, ((write v).toList ++ rest).head? = some c ∧ c ≠ quote := by
  have hne : w.toList ≠ [] := by simpa using Value.word?_ne_empty hv
  obtain ⟨c, body, hbody⟩ := List.exists_cons_of_ne_nil hne
  refine ⟨c, by rw [h.word v w hv, hbody]; rfl, ?_⟩
  intro hc
  have hword := allChars_eq_true_iff.mp (Value.allChars_word hv) c (by simp [hbody])
  rw [hc, h.quote_not_word] at hword
  cases hword

theorem write_ne_nil {v : Value} (hv : v.isScalar = true) : (write v).toList ≠ [] := by
  intro hnil
  rcases Value.word?_or_str hv with ⟨w, hw⟩ | ⟨s, rfl⟩
  · obtain ⟨c, hc, _⟩ := h.head_word hw []
    simp [hnil] at hc
  · have hc := h.head_text s []
    simp [hnil] at hc

/-- A scalar is told from what follows if that starts with a blank. -/
theorem append_inj {v v' : Value} (hv : v.isScalar = true) (hv' : v'.isScalar = true)
    {rest rest' : List Char} (hrest : ∀ c ∈ rest.head?, c = ' ')
    (hrest' : ∀ c ∈ rest'.head?, c = ' ')
    (heq : (write v).toList ++ rest = (write v').toList ++ rest') : v = v' ∧ rest = rest' := by
  rcases Value.word?_or_str hv with ⟨w, hw⟩ | ⟨s, rfl⟩
  · rcases Value.word?_or_str hv' with ⟨w', hw'⟩ | ⟨s', rfl⟩
    · rw [h.word v w hw, h.word v' w' hw'] at heq
      obtain ⟨hww, hrests⟩ := append_inj_of_blank (Value.blank_not_mem_word hw)
        (Value.blank_not_mem_word hw') hrest hrest' heq
      rw [← String.toList_inj.mp hww] at hw'
      exact ⟨Value.word?_injective hw hw', hrests⟩
    · obtain ⟨c, hc, hne⟩ := h.head_word hw rest
      rw [heq, h.head_text] at hc
      exact absurd (Option.some.inj hc).symm hne
  · rcases Value.word?_or_str hv' with ⟨w', hw'⟩ | ⟨s', rfl⟩
    · obtain ⟨c, hc, hne⟩ := h.head_word hw' rest'
      rw [← heq, h.head_text] at hc
      exact absurd (Option.some.inj hc).symm hne
    · obtain ⟨rfl, hrests⟩ := h.delimits s s' rest rest' heq
      exact ⟨rfl, hrests⟩

omit h

def separated (write : Value → String) (vs : List Value) : List Char :=
  vs.flatMap fun v => ' ' :: '|' :: ' ' :: (write v).toList

theorem toList_union_cons (v : Value) (vs : List Value) :
    (Validator.union ((v :: vs).map write)).toList = (write v).toList ++ separated write vs := by
  induction vs generalizing v with
  | nil => simp [Validator.union, separated]
  | cons w vs ih =>
    have hrest := ih w
    simp only [Validator.union, separated, List.map_cons, List.flatMap_cons] at hrest ⊢
    rw [String.intercalate_cons_cons, String.toList_append, String.toList_append, hrest]
    simp

/-- Behind the first value there is nothing, or a blank. -/
theorem head?_separated (vs : List Value) : ∀ c ∈ (separated write vs).head?, c = ' ' := by
  cases vs <;> simp [separated]

include h

/-- The separators that were put between scalars are found again. -/
theorem separated_injective {xs ys : List Value} (hx : ∀ v ∈ xs, v.isScalar = true)
    (hy : ∀ v ∈ ys, v.isScalar = true) (heq : separated write xs = separated write ys) :
    xs = ys := by
  induction xs generalizing ys with
  | nil =>
    cases ys with
    | nil => rfl
    | cons y ys => simp [separated] at heq
  | cons x xs ih =>
    cases ys with
    | nil => simp [separated] at heq
    | cons y ys =>
      obtain ⟨hx, hxs⟩ := List.forall_mem_cons.mp hx
      obtain ⟨hy, hys⟩ := List.forall_mem_cons.mp hy
      have hfirst :
          (write x).toList ++ separated write xs = (write y).toList ++ separated write ys := by
        simpa [separated] using heq
      obtain ⟨rfl, hrest⟩ :=
        h.append_inj hx hy (head?_separated xs) (head?_separated ys) hfirst
      rw [ih hxs hys hrest]

/-- The union of scalars tells which they are, and in which order. -/
theorem union_injective {xs ys : List Value} (hx : ∀ v ∈ xs, v.isScalar = true)
    (hy : ∀ v ∈ ys, v.isScalar = true)
    (heq : Validator.union (xs.map write) = Validator.union (ys.map write)) : xs = ys := by
  have hchars := congrArg String.toList heq
  have hnil : (Validator.union (([] : List Value).map write)).toList = [] := by
    simp [Validator.union]
  cases xs with
  | nil =>
    cases ys with
    | nil => rfl
    | cons y ys =>
      rw [hnil, toList_union_cons, eq_comm, List.append_eq_nil_iff] at hchars
      exact absurd hchars.1 (h.write_ne_nil (hy y List.mem_cons_self))
  | cons x xs =>
    obtain ⟨hx, hxs⟩ := List.forall_mem_cons.mp hx
    cases ys with
    | nil =>
      rw [hnil, toList_union_cons, List.append_eq_nil_iff] at hchars
      exact absurd hchars.1 (h.write_ne_nil hx)
    | cons y ys =>
      obtain ⟨hy, hys⟩ := List.forall_mem_cons.mp hy
      rw [toList_union_cons, toList_union_cons] at hchars
      obtain ⟨rfl, hrest⟩ :=
        h.append_inj hx hy (head?_separated xs) (head?_separated ys) hchars
      rw [h.separated_injective hxs hys hrest]

/-- No text ends before its closing quote, whatever stands in it and behind it. -/
theorem append_text_inj {s t rest rest' : String} :
    write (.str s) ++ rest = write (.str t) ++ rest' ↔ s = t ∧ rest = rest' := by
  constructor
  · intro heq
    have hchars : (write (.str s)).toList ++ rest.toList =
        (write (.str t)).toList ++ rest'.toList := by
      rw [← String.toList_append, heq, String.toList_append]
    obtain ⟨hst, hrest⟩ := h.delimits s t _ _ hchars
    exact ⟨hst, String.toList_inj.mp hrest⟩
  · intro heq
    rw [heq.1, heq.2]

end WritesScalars

/-! ## 6. Types -/

/-- **Types of enumerations are faithful.** Two choices of null, truth values, integers and texts
have the same type only if they are the same list, and so have two choices of texts in JSON. In both
ways of writing, a text ends at its closing quote and nowhere before, whatever it holds and whatever
stands behind it. -/
theorem enum_types_faithful {xs ys : List Value} (hx : ∀ v ∈ xs, v.isScalar = true)
    (hy : ∀ v ∈ ys, v.isScalar = true) (sequence : String) :
    ((Validator.oneOfValues xs).typeText sequence = (Validator.oneOfValues ys).typeText sequence ↔
      xs = ys) ∧
    ((Validator.chain [.named "string", .oneOfValues xs]).typeText sequence =
        (Validator.chain [.named "string", .oneOfValues ys]).typeText sequence ↔ xs = ys) ∧
    (∀ s t rest rest' : String,
      (Value.str s).literal ++ rest = (Value.str t).literal ++ rest' ↔ s = t ∧ rest = rest') ∧
    ∀ s t rest rest' : String,
      Json.write (.str s) ++ rest = Json.write (.str t) ++ rest' ↔ s = t ∧ rest = rest' := by
  refine ⟨⟨fun h => ?_, fun h => by rw [h]⟩, ⟨fun h => ?_, fun h => by rw [h]⟩, ?_, ?_⟩
  · simp only [Validator.typeText, Except.ok.injEq] at h
    exact writesScalars_literal.union_injective hx hy h
  · simp only [Validator.typeText, if_true, Except.ok.injEq] at h
    exact writesScalars_json.union_injective hx hy h
  · intro s t rest rest'
    exact writesScalars_literal.append_text_inj
  · intro s t rest rest'
    exact writesScalars_json.append_text_inj

/-- A text that reads like the end of its literal and a further one is not taken for two texts. -/
theorem quoted_separator_separates_nothing :
    (∀ v ∈ [Value.str "a' | 'b", .null], v.isScalar = true) ∧
    (∀ v ∈ [Value.str "a", .str "b", .null], v.isScalar = true) ∧
    (Validator.oneOfValues [.str "a' | 'b", .null]).typeText "" ≠
      (Validator.oneOfValues [.str "a", .str "b", .null]).typeText "" := by
  have hx : ∀ v ∈ [Value.str "a' | 'b", .null], v.isScalar = true := by decide
  have hy : ∀ v ∈ [Value.str "a", .str "b", .null], v.isScalar = true := by decide
  refine ⟨hx, hy, fun h => ?_⟩
  have hsame := (enum_types_faithful hx hy "").1.mp h
  simp at hsame

end NodeSchema
