import Mathlib.Data.List.Forall2
/-!
# Stages that may fail

A reader is put together from stages that give a value or an error. This module says, for each way
of putting stages together, when the whole gives a value and when it gives an error, so that the
proofs about readers never open a stage themselves.

* `bind_eq_ok_iff`, `bind_eq_error_iff` — one stage after another.
* `map_eq_ok_iff`, `mapError_eq_ok_iff`, `mapError_eq_error_iff` — a stage whose value or error is
  changed.
* `exists_left_of_forall₂`, `exists_forall₂_iff`, `map_fst_of_forall₂`, `findSome?_eq_of_forall₂` —
  items and results.
* `mapM_eq_ok_iff`, `mapM_eq_error_iff` — one stage for every item of a list: the items are read in
  order, and the first one that fails decides the error.
* `errorOf?`, `errorOf?_mapM` — the error alone.
-/

namespace NodeSchema

variable {ε ε' α β : Type}

/-! ## 1. Two stages -/

@[simp] theorem pure_eq_ok (a : α) : (pure a : Except ε α) = .ok a := rfl

/-- Two stages succeed if the first one does, and the second one on its result. -/
theorem bind_eq_ok_iff {x : Except ε α} {f : α → Except ε β} {b : β} :
    x >>= f = .ok b ↔ ∃ a, x = .ok a ∧ f a = .ok b := by
  cases x with
  | ok a =>
    constructor
    · intro h; exact ⟨a, rfl, h⟩
    · rintro ⟨_, ha, h⟩; cases ha; exact h
  | error e =>
    constructor
    · intro h; cases h
    · rintro ⟨_, ha, _⟩; cases ha

theorem bind_eq_error_iff {x : Except ε α} {f : α → Except ε β} {e : ε} :
    x >>= f = .error e ↔ x = .error e ∨ ∃ a, x = .ok a ∧ f a = .error e := by
  cases x with
  | ok a =>
    constructor
    · intro h; exact Or.inr ⟨a, rfl, h⟩
    · rintro (h | ⟨_, ha, h⟩)
      · cases h
      · cases ha; exact h
  | error e' =>
    constructor
    · intro h; cases h; exact Or.inl rfl
    · rintro (h | ⟨_, ha, _⟩)
      · cases h; rfl
      · cases ha

theorem map_eq_ok_iff {x : Except ε α} {f : α → β} {b : β} :
    x.map f = .ok b ↔ ∃ a, x = .ok a ∧ f a = b := by
  cases x <;> simp [Except.map]

theorem mapError_eq_ok_iff {x : Except ε α} {f : ε → ε'} {a : α} :
    x.mapError f = .ok a ↔ x = .ok a := by
  cases x <;> simp [Except.mapError]

theorem mapError_eq_error_iff {x : Except ε α} {f : ε → ε'} {e : ε'} :
    x.mapError f = .error e ↔ ∃ e', x = .error e' ∧ f e' = e := by
  cases x <;> simp [Except.mapError]

theorem exists_ok_of_isSome {x : Except ε α} (h : x.toOption.isSome = true) :
    ∃ a, x = .ok a := by
  cases x with
  | ok a => exact ⟨a, rfl⟩
  | error e => cases h

/-! ## 2. Items and what becomes of them -/

theorem exists_left_of_forall₂ {R : α → β → Prop} {l : List α} {l' : List β} {b : β}
    (h : List.Forall₂ R l l') (hb : b ∈ l') : ∃ a ∈ l, R a b := by
  induction h with
  | nil => cases hb
  | @cons a b' rest rest' hab _ ih =>
    rcases List.mem_cons.mp hb with rfl | hb
    · exact ⟨a, List.mem_cons_self, hab⟩
    · obtain ⟨a', ha', hr⟩ := ih hb
      exact ⟨a', List.mem_cons_of_mem _ ha', hr⟩

/-- There are results for a whole list when there is one for every item. -/
theorem exists_forall₂_iff {R : α → β → Prop} {l : List α} :
    (∃ l', List.Forall₂ R l l') ↔ ∀ a ∈ l, ∃ b, R a b := by
  induction l with
  | nil => simp
  | cons a rest ih =>
    rw [List.forall_mem_cons, ← ih]
    simp only [List.forall₂_cons_left_iff]
    constructor
    · rintro ⟨_, b, bs, hb, hbs, rfl⟩
      exact ⟨⟨b, hb⟩, bs, hbs⟩
    · rintro ⟨⟨b, hb⟩, bs, hbs⟩
      exact ⟨b :: bs, b, bs, hb, hbs, rfl⟩

/-- Entries that belong together under the same keys. -/
theorem map_fst_of_forall₂ {κ : Type} {P : κ → α → β → Prop} {l : List (κ × α)}
    {l' : List (κ × β)} (h : List.Forall₂ (fun e e' => e'.1 = e.1 ∧ P e.1 e.2 e'.2) l l') :
    l'.map Prod.fst = l.map Prod.fst := by
  induction h with
  | nil => rfl
  | cons he _ ih => rw [List.map_cons, List.map_cons, he.1, ih]

/-- The first result over two lists with the same results one by one. -/
theorem findSome?_eq_of_forall₂ {α' : Type} {f : α → Option β} {f' : α' → Option β}
    {l : List α} {l' : List α'} (h : List.Forall₂ (fun a a' => f' a' = f a) l l') :
    l'.findSome? f' = l.findSome? f := by
  induction h with
  | nil => rfl
  | cons ha _ ih => rw [List.findSome?_cons, List.findSome?_cons, ha, ih]

/-! ## 3. One stage for every item of a list -/

/-- A stage for each item of a list succeeds if it does on every one. -/
theorem mapM_eq_ok_iff {f : α → Except ε β} :
    ∀ {l : List α} {l' : List β}, l.mapM f = .ok l' ↔ List.Forall₂ (fun a b => f a = .ok b) l l'
  | [], l' => by
    rw [List.mapM_nil, List.forall₂_nil_left_iff]
    simp only [pure_eq_ok, Except.ok.injEq]
    exact eq_comm
  | a :: rest, l' => by
    rw [List.mapM_cons, bind_eq_ok_iff, List.forall₂_cons_left_iff]
    constructor
    · rintro ⟨b, hb, h⟩
      obtain ⟨bs, hbs, h⟩ := bind_eq_ok_iff.mp h
      simp only [pure_eq_ok, Except.ok.injEq] at h
      exact ⟨b, bs, hb, mapM_eq_ok_iff.mp hbs, h.symm⟩
    · rintro ⟨b, bs, hb, hbs, rfl⟩
      exact ⟨b, hb, bind_eq_ok_iff.mpr ⟨bs, mapM_eq_ok_iff.mpr hbs, rfl⟩⟩

/-- A list fails with the error of its first item that cannot be read. -/
theorem mapM_eq_error_iff {f : α → Except ε β} {e : ε} {l : List α} :
    l.mapM f = .error e ↔
      ∃ before a after, l = before ++ a :: after ∧ (∀ a' ∈ before, ∃ b, f a' = .ok b) ∧
        f a = .error e := by
  induction l with
  | nil => simp
  | cons a rest ih =>
    rw [List.mapM_cons, bind_eq_error_iff]
    constructor
    · rintro (h | ⟨b, hb, h⟩)
      · exact ⟨[], a, rest, rfl, by simp, h⟩
      · rcases bind_eq_error_iff.mp h with h | ⟨_, _, h⟩
        · obtain ⟨before, a', after, rfl, hbefore, ha'⟩ := ih.mp h
          exact ⟨a :: before, a', after, rfl, List.forall_mem_cons.mpr ⟨⟨b, hb⟩, hbefore⟩, ha'⟩
        · cases h
    · rintro ⟨before, a', after, hl, hbefore, ha'⟩
      cases before with
      | nil =>
        obtain ⟨rfl, rfl⟩ := List.cons.inj hl
        exact Or.inl ha'
      | cons a'' before =>
        obtain ⟨rfl, rfl⟩ := List.cons.inj hl
        obtain ⟨⟨b, hb⟩, hbefore⟩ := List.forall_mem_cons.mp hbefore
        refine Or.inr ⟨b, hb, bind_eq_error_iff.mpr (Or.inl ?_)⟩
        exact ih.mpr ⟨before, a', after, rfl, hbefore, ha'⟩

/-- Items that are read alike one by one are read alike together. -/
theorem mapM_eq_of_forall₂ {f : α → Except ε β} {l l' : List α}
    (h : List.Forall₂ (fun a a' => f a' = f a) l l') : l'.mapM f = l.mapM f := by
  induction h with
  | nil => rfl
  | cons ha _ ih => rw [List.mapM_cons, List.mapM_cons, ha, ih]

/-! ## 4. The error alone -/

def errorOf? : Except ε α → Option ε
  | .ok _ => none
  | .error e => some e

theorem errorOf?_eq_some_iff {x : Except ε α} {e : ε} : errorOf? x = some e ↔ x = .error e := by
  cases x <;> simp [errorOf?]

@[simp] theorem errorOf?_ok (a : α) : errorOf? (.ok a : Except ε α) = none := rfl

@[simp] theorem errorOf?_map (f : α → β) (x : Except ε α) : errorOf? (x.map f) = errorOf? x := by
  cases x <;> rfl

/-- The error of a list is the first one of its items. -/
theorem errorOf?_mapM (f : α → Except ε β) (l : List α) :
    errorOf? (l.mapM f) = l.findSome? fun a => errorOf? (f a) := by
  induction l with
  | nil => rfl
  | cons a rest ih =>
    rw [List.mapM_cons, List.findSome?_cons, ← ih]
    cases f a with
    | error e => rfl
    | ok b => cases rest.mapM f <;> simp [bind, Except.bind, pure, Except.pure]

end NodeSchema
