import NodeSchema.Json.Lexeme
import NodeSchema.Json.Writer
/-!
# Strings are read as they were written

The text of a JSON string is read back as the string, whatever characters stand in it and whatever
follows its closing quote. A character is written as itself, as an escape of one letter, as a unit
of four hexadecimal digits, or as two units; the units of a text are put together again at its end.

* `unitValue?_hexDigits` — four digits are read as the number that they were made from.
* `scanString_stringChar` — one character. `joinUnits_units` — the units of a text.
* `scanString_stringChars` — the whole string.
-/

namespace NodeSchema.Json

/-! ## 1. Hexadecimal digits -/

theorem hexValue?_digitChar : ∀ d < 16, hexValue? (Nat.digitChar d) = some d := by decide

/-- Four digits are read as the number that they were made from. -/
theorem unitEscape_eq {n : Nat} (hn : n < 0x10000) :
    ∃ a b c d, unitEscape n = ['\\', 'u', a, b, c, d] ∧ unitValue? a b c d = some n := by
  refine ⟨_, _, _, _, rfl, ?_⟩
  have hdigit : ∀ m, hexValue? (Nat.digitChar (m % 16)) = some (m % 16) := fun m =>
    hexValue?_digitChar _ (Nat.mod_lt m (by omega))
  simp only [unitValue?, hdigit, Option.bind_eq_bind, Option.bind_some, Option.pure_def,
    Option.some.injEq]
  omega

/-! ## 2. One step of the scan -/

section

variable (n : Nat) (done : List Nat)

theorem scanString_quote (rest : List Char) :
    scanString n done ('"' :: rest) = (.text (String.ofList (joinUnits done.reverse)), n + 1) := by
  rw [scanString]

/-- An escape by number is read as the unit with this number. -/
theorem scanString_unitEscape {u : Nat} (hu : u < 0x10000) {rest : List Char} (hrest : rest ≠ []) :
    scanString n done (unitEscape u ++ rest) = scanString (n + 6) (u :: done) rest := by
  obtain ⟨a, b, c, d, heq, hvalue⟩ := unitEscape_eq hu
  obtain ⟨e, rest, rfl⟩ := List.exists_cons_of_ne_nil hrest
  simp only [heq, List.cons_append, List.nil_append]
  rw [scanString]
  simp [hvalue]

/-- A short escape is read as its character. -/
theorem scanString_escape {c e : Char} (he : escapeValue? c = some e) (rest : List Char) :
    scanString n done ('\\' :: c :: rest) = scanString (n + 2) (e.toNat :: done) rest := by
  have hc : c ≠ 'u' := by
    intro h
    subst h
    cases he
  rw [scanString]
  · simp [he]
  · simp [hc]
  · simp [hc]

/-- Any other character is read as itself. -/
theorem scanString_plain {c : Char} (hquote : c ≠ '"') (hescape : c ≠ '\\') (hc : 0x20 ≤ c.toNat)
    (rest : List Char) :
    scanString n done (c :: rest) = scanString (n + 1) (c.toNat :: done) rest := by
  rw [scanString]
  · simp
    omega
  all_goals simp [hquote, hescape]

/-! ## 3. One character -/

/-- The units of a character: one of them, or two beyond U+FFFF. -/
def unitsOf (c : Char) : List Nat :=
  if c.toNat < 0x10000 then [c.toNat]
  else [0xD800 + (c.toNat - 0x10000) / 0x400, 0xDC00 + (c.toNat - 0x10000) % 0x400]

/-- No character is half of a pair of units. -/
theorem toNat_valid (c : Char) :
    c.toNat < 0xD800 ∨ 0xDFFF < c.toNat ∧ c.toNat < 0x110000 := c.valid

theorem unitsOf_escaped {c e : Char} (he : escapeValue? c = some e) : unitsOf e = [e.toNat] := by
  unfold escapeValue? at he
  split at he <;> cases he <;> rfl

/-- A character is read as its units, whatever stands behind it. -/
theorem scanString_stringChar (c : Char) {rest : List Char} (hrest : rest ≠ []) :
    scanString n done (stringChar c ++ rest) =
      scanString (n + (stringChar c).length) ((unitsOf c).reverse ++ done) rest := by
  have hescape : ∀ {letter}, escapeValue? letter = some c →
      scanString n done (['\\', letter] ++ rest) =
        scanString (n + 2) ((unitsOf c).reverse ++ done) rest := by
    intro letter hletter
    rw [unitsOf_escaped hletter]
    exact scanString_escape n done hletter rest
  unfold stringChar
  split
  · next h => rcases h with rfl | rfl <;> exact hescape rfl
  split
  · next h => subst h; exact hescape rfl
  split
  · next h => subst h; exact hescape rfl
  split
  · next h => subst h; exact hescape rfl
  split
  · next h => exact hescape (by rw [← Char.ofNat_toNat c, h]; rfl)
  split
  · next h => exact hescape (by rw [← Char.ofNat_toNat c, h]; rfl)
  split
  · next hplain _ _ _ _ _ h =>
    rw [not_or] at hplain
    have hunits : unitsOf c = [c.toNat] := if_pos (by omega)
    rw [hunits]
    exact scanString_plain n done hplain.1 hplain.2 h.1 rest
  split
  · next h =>
    have hunits : unitsOf c = [c.toNat] := if_pos h
    rw [hunits]
    exact scanString_unitEscape n done h hrest
  · next h =>
    have hvalid := toNat_valid c
    rw [unitsOf, if_neg h, List.append_assoc,
      scanString_unitEscape _ _ (by omega) (by simp [unitEscape]),
      scanString_unitEscape _ _ (by omega) hrest]
    rfl

/-- The text of a string is scanned to its closing quote. -/
theorem scanString_flatMap (s rest : List Char) :
    scanString n done (s.flatMap stringChar ++ '"' :: rest) =
      (.text (String.ofList (joinUnits (done.reverse ++ s.flatMap unitsOf))),
        n + (s.flatMap stringChar).length + 1) := by
  induction s generalizing n done with
  | nil => simp [scanString_quote]
  | cons c s ih =>
    have hrest : s.flatMap stringChar ++ '"' :: rest ≠ [] := by simp
    rw [List.flatMap_cons, List.append_assoc, scanString_stringChar n done c hrest, ih]
    simp [List.append_assoc, Nat.add_assoc]

end

/-! ## 4. Units put together -/

/-- A unit that is a character by itself is read as this character. -/
theorem charOfUnit_toNat (c : Char) : charOfUnit c.toNat = c := by
  have hvalid := toNat_valid c
  rw [charOfUnit, if_neg (by omega), Char.ofNat_toNat]

/-- The units of a text are joined to the text: no unit of one character is half of a pair. -/
theorem joinUnits_units (s : List Char) : joinUnits (s.flatMap unitsOf) = s := by
  induction s with
  | nil => rfl
  | cons c s ih =>
    rw [List.flatMap_cons, unitsOf]
    split
    · have hvalid := toNat_valid c
      show joinUnits (c.toNat :: s.flatMap unitsOf) = c :: s
      cases hunits : s.flatMap unitsOf with
      | nil =>
        rw [hunits] at ih
        rw [joinUnits, charOfUnit_toNat, ← ih]
        rfl
      | cons m units =>
        rw [joinUnits, if_neg (by omega), charOfUnit_toNat, ← hunits, ih]
    · next hlarge =>
      have hvalid := toNat_valid c
      have hjoined : 0x10000 + (0xD800 + (c.toNat - 0x10000) / 0x400 - 0xD800) * 0x400 +
          (0xDC00 + (c.toNat - 0x10000) % 0x400 - 0xDC00) = c.toNat := by omega
      show joinUnits (_ :: _ :: s.flatMap unitsOf) = c :: s
      rw [joinUnits, if_pos (by omega), hjoined, Char.ofNat_toNat, ih]

/-- **Strings are read as they were written.** -/
theorem scanString_stringChars (s rest : List Char) :
    scanString 0 [] (s.flatMap stringChar ++ '"' :: rest) =
      (.text (String.ofList s), (s.flatMap stringChar).length + 1) := by
  rw [scanString_flatMap]
  simp [joinUnits_units]

end NodeSchema.Json
