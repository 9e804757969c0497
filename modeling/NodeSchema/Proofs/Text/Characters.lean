import Mathlib.Data.List.Basic
/-!
# Texts of certain characters

Whether all characters of a text are of one kind is settled piece by piece: of texts that are put
together from others, by the pieces; of texts that are written out, by looking at them.

* `allChars` — the property. `allChars_append`, `allChars_ofList`, `allChars_intercalate`
* `allChars_mono` — from one kind of characters to a larger one.
* `append_ne_empty_left`, `append_ne_empty_right` — texts with a piece that is not empty.
-/

namespace NodeSchema.Text

variable {p q : Char → Bool} {s t : String}

def allChars (p : Char → Bool) (s : String) : Bool := s.toList.all p

/-- What the Boolean test says about the characters. -/
theorem allChars_eq_true_iff : allChars p s = true ↔ ∀ c ∈ s.toList, p c = true :=
  List.all_eq_true

@[simp] theorem allChars_append : allChars p (s ++ t) = (allChars p s && allChars p t) := by
  simp [allChars]

@[simp] theorem allChars_ofList (l : List Char) : allChars p (String.ofList l) = l.all p := by
  simp [allChars]

@[simp] theorem allChars_empty : allChars p "" = true := rfl

theorem append_ne_empty_left (h : s ≠ "") : s ++ t ≠ "" := by
  intro hst; exact h (String.append_eq_empty_iff.mp hst).1

theorem append_ne_empty_right (h : t ≠ "") : s ++ t ≠ "" := by
  intro hst; exact h (String.append_eq_empty_iff.mp hst).2

theorem allChars_mono (h : allChars p s = true) (hpq : ∀ c, p c = true → q c = true) :
    allChars q s = true :=
  allChars_eq_true_iff.mpr fun c hc => hpq c (allChars_eq_true_iff.mp h c hc)

/-- A joined text has no characters but those of its pieces and of the separator. -/
theorem allChars_intercalate {sep : String} {l : List String} (hsep : allChars p sep = true)
    (hl : ∀ s ∈ l, allChars p s = true) : allChars p (sep.intercalate l) = true := by
  induction l with
  | nil => simp
  | cons s rest ih =>
    obtain ⟨hs, hrest⟩ := List.forall_mem_cons.mp hl
    cases rest with
    | nil => simpa using hs
    | cons t rest => simp [hs, hsep, ih hrest]

/-- A piece of a list of characters of one kind. -/
theorem all_of_sublist {l m : List Char} (h : l.Sublist m) (hm : m.all p = true) :
    l.all p = true := by
  rw [List.all_eq_true] at hm ⊢
  exact fun c hc => hm c (h.subset hc)

end NodeSchema.Text
