import NodeSchema.Json.Reader
import NodeSchema.Proofs.Stages
/-!
# Where the JSON reader stops

The reader goes over a text lexeme by lexeme, and fails at the first lexeme that its state does not
take. This module says so without the reader's own recursion, and works out one cause: an integer
with more digits than are converted.

* `Reaches` — the state in which the reader arrives at a later part of the text.
* `StopsAt` — such a state that refuses what comes next, by the first character of the text.
* `readFrom_eq_error_iff` — it fails exactly where a state is reached that refuses what comes next.
* `IntegerAhead` — an integer, and nothing that makes it a floating point number.
* `read_eq_tooManyDigits_iff` — reading fails over the length of an integer exactly when the reader
  arrives at a longer one where a value may stand.
-/

namespace NodeSchema.Json

variable {most : Nat} {limit : Option Nat}

/-! ## 1. States that are reached -/

/-- `Reaches limit s text s' rest` — from the state `s` in front of `text` the reader gets to the
state `s'` in front of `rest`, which is a later part of the text. -/
inductive Reaches (limit : Option Nat) : State → List Char → State → List Char → Prop where
  | here (s : State) (text : List Char) : Reaches limit s text s text
  | space {s s' : State} {c : Char} {text rest : List Char} (hc : isSpace c = true)
      (h : Reaches limit s text s' rest) : Reaches limit s (c :: text) s' rest
  | lexeme {s next s' : State} {c : Char} {text rest : List Char} (hc : isSpace c = false)
      (hstep : s.step (lexeme limit c text).1 = .ok next)
      (h : Reaches limit next (text.drop (Json.lexeme limit c text).2) s' rest) :
      Reaches limit s (c :: text) s' rest

/-- `Refuses limit s rest cause shift` — in the state `s` the reader does not go on in front of
`rest`, and blames the character that is `shift` characters away. -/
inductive Refuses (limit : Option Nat) (s : State) : List Char → Cause → Nat → Prop where
  | atEnd {cause : Cause} (h : s.finish = .error cause) : Refuses limit s [] cause 0
  | atLexeme {c : Char} {rest : List Char} {cause : Cause} (hc : isSpace c = false)
      (h : s.step (lexeme limit c rest).1 = .error cause) :
      Refuses limit s (c :: rest) cause (cause.shift (lexeme limit c rest).1)

/-- What is left to read gets no longer. -/
theorem Reaches.length_le {s s' : State} {text rest : List Char}
    (h : Reaches limit s text s' rest) : rest.length ≤ text.length := by
  induction h with
  | here => exact Nat.le_refl _
  | space _ _ ih => exact Nat.le_succ_of_le ih
  | lexeme _ _ _ ih =>
    rw [List.length_drop] at ih
    rw [List.length_cons]
    omega

/-- What belongs to the lexeme read last is passed over. -/
theorem readFrom_drop (s : State) :
    ∀ (n skip : Nat) (text : List Char),
      readFrom limit s n skip text =
        readFrom limit s (n + min skip text.length) 0 (text.drop skip)
  | n, 0, text => by simp
  | n, skip + 1, [] => by simp [readFrom]
  | n, skip + 1, c :: text => by
    have hn : n + min (skip + 1) (text.length + 1) = n + 1 + min skip text.length := by omega
    rw [readFrom, readFrom_drop s (n + 1) skip text, List.length_cons, List.drop_succ_cons, hn]

/-- A space between lexemes is read over. -/
theorem readFrom_space {s : State} {n : Nat} {c : Char} {text : List Char}
    (hc : isSpace c = true) :
    readFrom limit s n 0 (c :: text) = readFrom limit s (n + 1) 0 text := by
  simp [readFrom, hc]

/-- A lexeme that does not fit ends the reading. -/
theorem readFrom_refused {s : State} {n : Nat} {c : Char} {text : List Char} {cause : Cause}
    (hc : isSpace c = false) (h : s.step (lexeme limit c text).1 = .error cause) :
    readFrom limit s n 0 (c :: text) = .error ⟨cause, n + cause.shift (lexeme limit c text).1⟩ := by
  simp [readFrom, hc, h]

/-- A lexeme that fits changes the state, and reading goes on behind it. -/
theorem readFrom_lexeme {s next : State} {n : Nat} {c : Char} {text : List Char}
    (hc : isSpace c = false) (h : s.step (lexeme limit c text).1 = .ok next) :
    readFrom limit s n 0 (c :: text) =
      readFrom limit next (n + 1 + min (lexeme limit c text).2 text.length) 0
        (text.drop (lexeme limit c text).2) := by
  rw [← readFrom_drop]
  simp [readFrom, hc, h]

/-- `StopsAt limit s text cause offset` — from the state `s` in front of `text` the reader gets to a
state that refuses what comes next, and blames the character at this offset. -/
def StopsAt (limit : Option Nat) (s : State) (text : List Char) (cause : Cause) (offset : Nat) :
    Prop :=
  ∃ s' rest shift, Reaches limit s text s' rest ∧ Refuses limit s' rest cause shift ∧
    offset = text.length - rest.length + shift

variable {s next : State} {c : Char} {text : List Char} {cause : Cause} {offset : Nat}

/-- The end of a text stops the reader exactly if something is missing. -/
theorem stopsAt_nil_iff :
    StopsAt limit s [] cause offset ↔ s.finish = .error cause ∧ offset = 0 := by
  constructor
  · rintro ⟨s', rest, shift, hreach, hrefuse, rfl⟩
    cases hreach with
    | here =>
      cases hrefuse with
      | atEnd h => exact ⟨h, rfl⟩
  · rintro ⟨h, rfl⟩
    exact ⟨s, [], 0, .here s [], .atEnd h, rfl⟩

/-- Behind a space the reader is stopped by what would stop it without the space. -/
theorem stopsAt_space_iff (hc : isSpace c = true) :
    StopsAt limit s (c :: text) cause offset ↔
      ∃ o, StopsAt limit s text cause o ∧ offset = o + 1 := by
  constructor
  · rintro ⟨s', rest, shift, hreach, hrefuse, rfl⟩
    cases hreach with
    | here =>
      cases hrefuse with
      | atLexeme hc' => rw [hc] at hc'; cases hc'
    | space _ hreach =>
      have hle := hreach.length_le
      refine ⟨_, ⟨s', rest, shift, hreach, hrefuse, rfl⟩, ?_⟩
      rw [List.length_cons]
      omega
    | lexeme hc' => rw [hc] at hc'; cases hc'
  · rintro ⟨_, ⟨s', rest, shift, hreach, hrefuse, rfl⟩, rfl⟩
    have hle := hreach.length_le
    refine ⟨s', rest, shift, .space hc hreach, hrefuse, ?_⟩
    rw [List.length_cons]
    omega

/-- A lexeme that does not fit stops the reader, and there is one cause for it. -/
theorem stopsAt_refused_iff {cause' : Cause} (hc : isSpace c = false)
    (hstep : s.step (lexeme limit c text).1 = .error cause') :
    StopsAt limit s (c :: text) cause offset ↔
      cause' = cause ∧ offset = cause'.shift (lexeme limit c text).1 := by
  constructor
  · rintro ⟨s', rest, shift, hreach, hrefuse, rfl⟩
    cases hreach with
    | here =>
      cases hrefuse with
      | atLexeme _ h => rw [hstep] at h; cases h; exact ⟨rfl, by simp⟩
    | space hc' => rw [hc] at hc'; cases hc'
    | lexeme _ h => rw [hstep] at h; cases h
  · rintro ⟨rfl, rfl⟩
    exact ⟨s, c :: text, _, .here s _, .atLexeme hc hstep, by simp⟩

/-- Behind a lexeme that fits, the reader is stopped by what would stop it in its new state. -/
theorem stopsAt_lexeme_iff (hc : isSpace c = false)
    (hstep : s.step (lexeme limit c text).1 = .ok next) :
    StopsAt limit s (c :: text) cause offset ↔
      ∃ o, StopsAt limit next (text.drop (lexeme limit c text).2) cause o ∧
        offset = o + 1 + min (lexeme limit c text).2 text.length := by
  have hlength : (text.drop (lexeme limit c text).2).length =
      text.length - (lexeme limit c text).2 := List.length_drop
  constructor
  · rintro ⟨s', rest, shift, hreach, hrefuse, rfl⟩
    cases hreach with
    | here =>
      cases hrefuse with
      | atLexeme _ h => rw [hstep] at h; cases h
    | space hc' => rw [hc] at hc'; cases hc'
    | lexeme _ h hreach =>
      rw [hstep] at h
      cases h
      have hle := hreach.length_le
      refine ⟨_, ⟨s', rest, shift, hreach, hrefuse, rfl⟩, ?_⟩
      rw [List.length_cons]
      omega
  · rintro ⟨_, ⟨s', rest, shift, hreach, hrefuse, rfl⟩, rfl⟩
    have hle := hreach.length_le
    refine ⟨s', rest, shift, .lexeme hc hstep hreach, hrefuse, ?_⟩
    rw [List.length_cons]
    omega

/-- The reader fails exactly where it gets to a state that refuses what comes next. -/
theorem readFrom_eq_error_iff :
    ∀ {s : State} {n : Nat} {text : List Char} {offset : Nat},
      readFrom limit s n 0 text = .error ⟨cause, offset⟩ ↔
        ∃ o, StopsAt limit s text cause o ∧ offset = n + o
  | s, n, [], offset => by
    rw [readFrom, mapError_eq_error_iff]
    simp only [stopsAt_nil_iff, Error.mk.injEq]
    constructor
    · rintro ⟨_, h, rfl, rfl⟩; exact ⟨0, ⟨h, rfl⟩, rfl⟩
    · rintro ⟨_, ⟨h, rfl⟩, rfl⟩; exact ⟨cause, h, rfl, rfl⟩
  | s, n, c :: text, offset => by
    cases hc : isSpace c with
    | true =>
      rw [readFrom_space hc, readFrom_eq_error_iff]
      simp only [stopsAt_space_iff hc]
      constructor
      · rintro ⟨o, h, rfl⟩; exact ⟨o + 1, ⟨o, h, rfl⟩, by omega⟩
      · rintro ⟨_, ⟨o, h, rfl⟩, rfl⟩; exact ⟨o, h, by omega⟩
    | false =>
      cases hstep : s.step (lexeme limit c text).1 with
      | error cause' =>
        rw [readFrom_refused hc hstep]
        simp only [stopsAt_refused_iff hc hstep, Except.error.injEq, Error.mk.injEq]
        constructor
        · rintro ⟨rfl, rfl⟩; exact ⟨_, ⟨rfl, rfl⟩, rfl⟩
        · rintro ⟨_, ⟨rfl, rfl⟩, rfl⟩; exact ⟨rfl, rfl⟩
      | ok next =>
        -- A lexeme may take many characters, so the recursion is on the length of what is left.
        have : (text.drop (lexeme limit c text).2).length < (c :: text).length := by
          rw [List.length_drop, List.length_cons]
          omega
        rw [readFrom_lexeme hc hstep, readFrom_eq_error_iff]
        simp only [stopsAt_lexeme_iff hc hstep]
        constructor
        · rintro ⟨o, h, rfl⟩; exact ⟨_, ⟨o, h, rfl⟩, by omega⟩
        · rintro ⟨_, ⟨o, h, rfl⟩, rfl⟩; exact ⟨o, h, by omega⟩
termination_by _ _ text _ => text.length

/-! ## 2. Integers -/

/-- The text starts with an unsigned integer of `count` digits; neither a fraction nor an exponent
follows, which would make it a floating point number. -/
structure UnsignedAhead (count : Nat) (text : List Char) : Prop where
  digits : (integerPart text).length = count
  noFraction : fractionPart (text.drop count) = []
  noExponent : exponentPart (text.drop count) = none

/-- The text starts with an integer of `count` digits, with or without a minus sign. -/
def IntegerAhead (count : Nat) (text : List Char) : Prop :=
  UnsignedAhead count text ∨ ∃ rest, text = '-' :: rest ∧ UnsignedAhead count rest

/-- An integer with too many digits is read to its end and then refused. -/
theorem scanNumber_of_unsignedAhead {negative : Bool} {text : List Char} {count : Nat}
    (h : UnsignedAhead count text) (hlong : most < count) :
    scanNumber (some most) negative text = some (.defective (.tooManyDigits count) 0, count) := by
  obtain ⟨rfl, hfraction, hexponent⟩ := h
  have hdigits : (integerPart text).isEmpty = false := by
    rw [List.isEmpty_eq_false_iff, ← List.length_pos_iff]
    omega
  simp [scanNumber, hdigits, hfraction, hexponent, hlong]

/-- A number is found defective for its length only. -/
theorem unsignedAhead_of_scanNumber {negative : Bool} {text : List Char} {d : Defect}
    {shift length : Nat}
    (h : scanNumber (some most) negative text = some (.defective d shift, length)) :
    ∃ count, most < count ∧ UnsignedAhead count text ∧ d = .tooManyDigits count ∧ shift = 0 := by
  unfold scanNumber at h
  extract_lets whole afterWhole fraction fractionLength exponent exponentLength total at h
  split at h
  · cases h
  split at h
  · next hplain =>
    have hfraction : fraction = [] := List.isEmpty_iff.mp hplain.1
    have hexponent : exponent = none := Option.isNone_iff_eq_none.mp hplain.2
    have hlength : fractionLength = 0 := by simp [fractionLength, hfraction]
    rw [show exponent = exponentPart (afterWhole.drop fractionLength) from rfl, hlength,
      List.drop_zero] at hexponent
    dsimp only at h
    split at h
    · next hlong =>
      simp only [Option.some.injEq, Prod.mk.injEq, Lexeme.defective.injEq] at h
      exact ⟨whole.length, hlong, ⟨rfl, hfraction, hexponent⟩, h.1.1.symm, h.1.2.symm⟩
    · cases h
  · cases h

/-- No string is refused for its digits. -/
theorem scanString_ne_tooManyDigits {count shift : Nat} :
    ∀ (n : Nat) (done : List Nat) (text : List Char),
      (scanString n done text).1 ≠ .defective (.tooManyDigits count) shift := by
  intro n done text
  fun_induction scanString n done text <;> simp_all

theorem isDigit_of_integerPart {c : Char} {rest : List Char} (h : integerPart (c :: rest) ≠ []) :
    c.isDigit = true := by
  unfold integerPart at h
  split at h
  · next heq => cases heq; rfl
  · cases hc : c.isDigit with
    | true => rfl
    | false => simp [List.takeWhile, hc] at h

theorem UnsignedAhead.isDigit {count : Nat} {c : Char} {rest : List Char}
    (h : UnsignedAhead count (c :: rest)) (hlong : most < count) : c.isDigit = true := by
  have hne : integerPart (c :: rest) ≠ [] := by
    intro hnil
    have hlen := h.digits
    rw [hnil, List.length_nil] at hlen
    omega
  exact isDigit_of_integerPart hne

theorem not_integerAhead_nil {count : Nat} (hlong : most < count) : ¬ IntegerAhead count [] := by
  rintro (h | ⟨rest, heq, _⟩)
  · have hlen : 0 = count := h.digits
    omega
  · cases heq

theorem IntegerAhead.not_isSpace {count : Nat} {c : Char} {rest : List Char}
    (h : IntegerAhead count (c :: rest)) (hlong : most < count) : isSpace c = false := by
  rcases h with h | ⟨rest', heq, _⟩
  · have hdigit := h.isDigit hlong
    cases hc : isSpace c with
    | false => rfl
    | true =>
      simp only [isSpace, Bool.or_eq_true, beq_iff_eq] at hc
      obtain ((rfl | rfl) | rfl) | rfl := hc <;> cases hdigit
  · cases heq
    rfl

/-- No integer stands where the word for an infinite number does. -/
theorem UnsignedAhead.startsWith_infinity {count : Nat} {text : List Char}
    (h : UnsignedAhead count text) (hlong : most < count) : startsWith "Infinity" text = false := by
  cases text with
  | nil => rfl
  | cons c rest =>
    have hdigit := h.isDigit hlong
    cases hword : startsWith "Infinity" (c :: rest) with
    | false => rfl
    | true =>
      have hc : c = 'I' := by
        simp [startsWith] at hword
        exact hword.1.symm
      rw [hc] at hdigit
      cases hdigit

theorem lexeme_of_isDigit {c : Char} {rest : List Char} (hc : c.isDigit = true) :
    lexeme limit c rest =
      match scanNumber limit false (c :: rest) with
      | some (number, length) => (number, length - 1)
      | none => (.junk, 0) := by
  unfold lexeme
  split <;> first | rfl | cases hc

/-- A lexeme is found defective for its length exactly when it is an integer that is too long. -/
theorem lexeme_eq_tooManyDigits_iff {c : Char} {rest : List Char} {count shift : Nat} :
    (lexeme (some most) c rest).1 = .defective (.tooManyDigits count) shift ↔
      most < count ∧ IntegerAhead count (c :: rest) ∧ shift = 0 := by
  constructor
  · intro h
    unfold lexeme at h
    split at h
    -- Only three kinds of lexemes are ever defective: strings, and numbers with and without a sign.
    case h_7 => exact absurd h (scanString_ne_tooManyDigits 0 [] rest)
    case h_13 =>
      split at h
      · cases h
      · cases hscan : scanNumber (some most) true rest with
        | none => rw [hscan] at h; cases h
        | some p =>
          obtain ⟨l, length⟩ := p
          rw [hscan, Option.getD_some] at h
          obtain rfl : l = _ := h
          obtain ⟨_, hlong, hahead, hcount, hshift⟩ := unsignedAhead_of_scanNumber hscan
          cases hcount
          exact ⟨hlong, Or.inr ⟨rest, rfl, hahead⟩, hshift⟩
    case h_14 =>
      cases hscan : scanNumber (some most) false (c :: rest) with
      | none => rw [hscan] at h; cases h
      | some p =>
        obtain ⟨l, length⟩ := p
        rw [hscan] at h
        obtain rfl : l = _ := h
        obtain ⟨_, hlong, hahead, hcount, hshift⟩ := unsignedAhead_of_scanNumber hscan
        cases hcount
        exact ⟨hlong, Or.inl hahead, hshift⟩
    all_goals first | cases h | (split at h <;> cases h)
  · rintro ⟨hlong, h | ⟨rest', heq, h⟩, rfl⟩
    · rw [lexeme_of_isDigit (h.isDigit hlong), scanNumber_of_unsignedAhead h hlong]
    · cases heq
      have hlexeme : lexeme (some most) '-' rest =
          (scanNumber (some most) true rest).getD (.junk, 0) :=
        if_neg (by simp [h.startsWith_infinity hlong])
      rw [hlexeme, scanNumber_of_unsignedAhead h hlong, Option.getD_some]

/-! ## 3. Integers that are too long -/

/-- Where a value can start, only an integer is refused for its digits. -/
theorem startValue_eq_tooManyDigits_iff {stack : List Frame} {l : Lexeme} {count : Nat} :
    State.startValue stack l = .error (.defect (.tooManyDigits count)) ↔
      ∃ shift, l = .defective (.tooManyDigits count) shift := by
  cases l <;> simp [State.startValue, Lexeme.value?]

theorem startMember_ne_tooManyDigits {stack : List Frame} {l : Lexeme} {count : Nat} :
    State.startMember stack l ≠ .error (.defect (.tooManyDigits count)) := by
  unfold State.startMember
  split <;> simp_all

theorem follow_ne_tooManyDigits {stack : List Frame} {l : Lexeme} {count : Nat} :
    State.follow stack l ≠ .error (.defect (.tooManyDigits count)) := by
  unfold State.follow
  split <;> simp

/-- Only where a value may stand is an integer blamed for its length. -/
theorem step_eq_tooManyDigits_iff {s : State} {l : Lexeme} {count : Nat} :
    s.step l = .error (.defect (.tooManyDigits count)) ↔
      (s.expect = .value ∨ s.expect = .itemOrEnd) ∧
        ∃ shift, l = .defective (.tooManyDigits count) shift := by
  unfold State.step
  cases s.expect with
  | value => simp [startValue_eq_tooManyDigits_iff]
  | itemOrEnd =>
    by_cases hl : l = .closeList
    · simp [hl, follow_ne_tooManyDigits]
    · simp [hl, startValue_eq_tooManyDigits_iff]
  | keyOrEnd =>
    by_cases hl : l = .closeObject
    · simp [hl, follow_ne_tooManyDigits]
    · simp [hl, startMember_ne_tooManyDigits]
  | key => simp [startMember_ne_tooManyDigits]
  | colon => by_cases hl : l = .colon <;> simp [hl]
  | commaOrEnd => simp [follow_ne_tooManyDigits]
  | nothing v => simp

/-- At the end of a text nothing is refused for a defect. -/
theorem finish_ne_defect {s : State} {d : Defect} : s.finish ≠ .error (.defect d) := by
  unfold State.finish
  split <;> simp

/-- What the reader refuses for the length of an integer. -/
theorem refuses_tooManyDigits_iff {s : State} {rest : List Char} {count shift : Nat} :
    Refuses (some most) s rest (.defect (.tooManyDigits count)) shift ↔
      (s.expect = .value ∨ s.expect = .itemOrEnd) ∧ most < count ∧ IntegerAhead count rest ∧
        shift = 0 := by
  constructor
  · intro h
    cases h with
    | atEnd h => exact absurd h finish_ne_defect
    | atLexeme hc h =>
      obtain ⟨hexpect, _, hl⟩ := step_eq_tooManyDigits_iff.mp h
      obtain ⟨hlong, hahead, rfl⟩ := lexeme_eq_tooManyDigits_iff.mp hl
      exact ⟨hexpect, hlong, hahead, by rw [hl]; rfl⟩
  · rintro ⟨hexpect, hlong, hahead, rfl⟩
    cases rest with
    | nil => exact absurd hahead (not_integerAhead_nil hlong)
    | cons c rest =>
      have hl := lexeme_eq_tooManyDigits_iff.mpr ⟨hlong, hahead, rfl⟩
      have hstep := step_eq_tooManyDigits_iff.mpr ⟨hexpect, _, hl⟩
      have hrefuse := Refuses.atLexeme (hahead.not_isSpace hlong) hstep
      rwa [hl] at hrefuse

/-- A text with a byte order mark fails at the mark, with or without the check for it. -/
theorem read_eq_tooManyDigits_iff_readFrom {text : List Char} {count offset : Nat} :
    read limit text = .error ⟨.defect (.tooManyDigits count), offset⟩ ↔
      readFrom limit .start 0 0 text = .error ⟨.defect (.tooManyDigits count), offset⟩ := by
  cases text with
  | nil => rfl
  | cons c rest =>
    by_cases hc : c.toNat = 0xFEFF
    · have hmark : c = Char.ofNat 0xFEFF := by rw [← hc, Char.ofNat_toNat]
      have hstep : State.start.step (lexeme limit (Char.ofNat 0xFEFF) rest).1 =
          .error .expectedValue := rfl
      rw [read, if_pos hc, hmark, readFrom_refused rfl hstep]
      simp
    · rw [read, if_neg hc]

/-- **An integer that is too long.** Reading a text fails over the length of an integer exactly
when the reader gets, in a state that takes a value, to an integer with more digits than are
converted; the first character of that integer is blamed. -/
theorem read_eq_tooManyDigits_iff {text : List Char} {count offset : Nat} :
    read (some most) text = .error ⟨.defect (.tooManyDigits count), offset⟩ ↔
      most < count ∧ ∃ s rest, Reaches (some most) .start text s rest ∧
        (s.expect = .value ∨ s.expect = .itemOrEnd) ∧ IntegerAhead count rest ∧
        offset = text.length - rest.length := by
  rw [read_eq_tooManyDigits_iff_readFrom, readFrom_eq_error_iff]
  simp only [StopsAt, refuses_tooManyDigits_iff]
  constructor
  · rintro ⟨_, ⟨s, rest, _, hreach, ⟨hexpect, hlong, hahead, rfl⟩, rfl⟩, rfl⟩
    exact ⟨hlong, s, rest, hreach, hexpect, hahead, by omega⟩
  · rintro ⟨hlong, s, rest, hreach, hexpect, hahead, rfl⟩
    exact ⟨_, ⟨s, rest, 0, hreach, ⟨hexpect, hlong, hahead, rfl⟩, rfl⟩, by omega⟩

end NodeSchema.Json
