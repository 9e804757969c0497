import NodeSchema.Decimal.Text
import NodeSchema.Proofs.Text.Characters
/-!
# The characters of numbers

The text of a number holds digits, signs, a point and the mark of an exponent, apart from the words
for the special patterns of a floating point number. The text of an integer has a sign only in front
and determines the integer.

* `toList_toString_int`, `toString_int_injective` — integers.
* `allChars_toString_int`, `Decimal.allChars_text`, `Binary64.allChars_text` — the characters.
* `toString_int_ne_empty`, `Binary64.text_ne_empty` — there are some.
-/

namespace NodeSchema

open Text

/-! ## 1. Digits -/

/-- A digit, a sign, a decimal point or the mark of an exponent. -/
def isNumeral (c : Char) : Bool := c.isDigit || ['-', '+', '.', 'e'].contains c

theorem toDigits_injective {m n : Nat} (h : Nat.toDigits 10 m = Nat.toDigits 10 n) : m = n := by
  have hm := Nat.ofDigitChars_ten_toDigits (n := m)
  rwa [h, Nat.ofDigitChars_ten_toDigits, eq_comm] at hm

theorem isDigit_of_mem_toDigits {c : Char} {n : Nat} (h : c ∈ Nat.toDigits 10 n) :
    c.isDigit = true :=
  Nat.isDigit_of_mem_toDigits (by omega) (by omega) h

theorem all_toDigits (n : Nat) : (Nat.toDigits 10 n).all isNumeral = true := by
  rw [List.all_eq_true]
  intro c hc
  simp [isNumeral, isDigit_of_mem_toDigits hc]

/-! ## 2. Integers -/

/-- The digits of an integer, behind a sign if it is negative. -/
theorem toList_toString_int (n : Int) :
    (toString n).toList =
      if n < 0 then '-' :: Nat.toDigits 10 n.natAbs else Nat.toDigits 10 n.natAbs := by
  cases n with
  | ofNat n =>
    show n.repr.toList = _
    rw [if_neg (by simp), Nat.toList_repr]
    rfl
  | negSucc n =>
    show ("-" ++ (n + 1).repr).toList = _
    rw [if_pos (Int.negSucc_lt_zero n), String.toList_append, Nat.toList_repr]
    rfl

theorem minus_not_mem_toDigits (n : Nat) : '-' ∉ Nat.toDigits 10 n := by
  intro h
  have hdigit := isDigit_of_mem_toDigits h
  revert hdigit
  decide

/-- Different integers have different texts. -/
theorem toString_int_injective {m n : Int} (h : toString m = toString n) : m = n := by
  have hchars : (toString m).toList = (toString n).toList := by rw [h]
  rw [toList_toString_int, toList_toString_int] at hchars
  split at hchars <;> split at hchars
  · have habs := toDigits_injective (List.cons.inj hchars).2
    omega
  · exact absurd (hchars ▸ List.mem_cons_self) (minus_not_mem_toDigits _)
  · exact absurd (hchars ▸ List.mem_cons_self) (minus_not_mem_toDigits _)
  · have habs := toDigits_injective hchars
    omega

/-- The text of an integer holds no characters but those of numbers. -/
theorem allChars_toString_int (n : Int) : allChars isNumeral (toString n) = true := by
  rw [allChars, toList_toString_int]
  split
  · rw [List.all_cons, all_toDigits]
    rfl
  · exact all_toDigits _

/-! ## 3. Floating point numbers -/

theorem Decimal.allChars_exponentText (e : Int) : allChars isNumeral (exponentText e) = true := by
  have hdigits : allChars isNumeral (toString e.natAbs) = true := by
    show (e.natAbs.repr.toList).all isNumeral = true
    rw [Nat.toList_repr]
    exact all_toDigits _
  have hsign : allChars isNumeral (if e < 0 then "e-" else "e+") = true := by
    split <;> rfl
  rw [exponentText, allChars_append, hsign, Bool.true_and]
  split
  · rw [allChars_append, hdigits]
    rfl
  · exact hdigits

/-- The text of a decimal holds no characters but those of numbers. -/
theorem Decimal.allChars_text (d : Decimal) : allChars isNumeral d.text = true := by
  have hdigits := all_toDigits d.digits
  have htake : ∀ n, ((Nat.toDigits 10 d.digits).take n).all isNumeral = true := fun n =>
    all_of_sublist (List.take_sublist n _) hdigits
  have hdrop : ∀ n, ((Nat.toDigits 10 d.digits).drop n).all isNumeral = true := fun n =>
    all_of_sublist (List.drop_sublist n _) hdigits
  have hzeros : ∀ n, (List.replicate n '0').all isNumeral = true := fun n =>
    List.all_eq_true.mpr fun c hc => by rw [List.eq_of_mem_replicate hc]; rfl
  have hpoint : allChars isNumeral "." = true := rfl
  have hhead : allChars isNumeral "0." = true := rfl
  have htail : allChars isNumeral ".0" = true := rfl
  unfold text
  extract_lets digits point fraction
  split
  · have hfraction : allChars isNumeral
        (if fraction.isEmpty then "" else "." ++ String.ofList fraction) = true := by
      split
      · rfl
      · simp only [allChars_append, allChars_ofList, hpoint, hdrop, fraction, digits, Bool.and_self]
    simp only [allChars_append, allChars_ofList, htake, hfraction, allChars_exponentText, digits,
      Bool.and_self]
  · split
    · simp only [allChars_append, allChars_ofList, List.all_append, hhead, hzeros, hdigits, digits,
        Bool.and_self]
    · split
      · simp only [allChars_append, allChars_ofList, List.all_append, htail, hzeros, hdigits,
          digits, Bool.and_self]
      · simp only [allChars_append, allChars_ofList, hpoint, htake, hdrop, digits, Bool.and_self]

/-- The text of a floating point number, if the special words are of the same characters. -/
theorem Binary64.allChars_text {p : Char → Bool} (hp : ∀ c, isNumeral c = true → p c = true)
    {special : SpecialNames} (hnan : allChars p special.nan = true)
    (hinfinity : allChars p special.infinity = true) (x : Binary64) :
    allChars p (x.text special) = true := by
  unfold text
  split
  · exact hnan
  · have hsign : allChars p (if x.isNegative then "-" else "") = true := by
      split
      · exact allChars_mono (p := isNumeral) rfl hp
      · rfl
    rw [allChars_append, hsign, Bool.true_and]
    split
    · exact hinfinity
    · split
      · exact allChars_mono (p := isNumeral) rfl hp
      · exact allChars_mono (Decimal.allChars_text _) hp

/-! ## 4. No text of a number is empty -/

theorem Decimal.text_ne_empty (d : Decimal) : d.text ≠ "" := by
  unfold Decimal.text
  extract_lets digits point
  split
  · refine append_ne_empty_right ?_
    unfold exponentText
    refine append_ne_empty_left ?_
    split <;> decide
  · split
    · exact append_ne_empty_left (by decide)
    · split
      · exact append_ne_empty_right (by decide)
      · exact append_ne_empty_left (append_ne_empty_right (by decide))

theorem Binary64.text_ne_empty {special : SpecialNames} (hn : special.nan ≠ "")
    (hi : special.infinity ≠ "") (x : Binary64) : x.text special ≠ "" := by
  unfold Binary64.text
  split
  · exact hn
  · refine append_ne_empty_right ?_
    split
    · exact hi
    · split
      · decide
      · exact Decimal.text_ne_empty _

theorem toString_int_ne_empty (n : Int) : toString n ≠ "" := by
  cases n with
  | ofNat n => exact Nat.repr_ne_empty
  | negSucc n => exact append_ne_empty_left (by decide)

end NodeSchema
