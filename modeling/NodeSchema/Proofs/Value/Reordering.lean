import NodeSchema.Proofs.Value.DistinctKeys
/-!
# Objects whose members stand in another order

Two objects say the same when they have the same keys, in whatever order, and what stands under a
key in one is what stands under it in the other, or is related to it in a way that depends on the
key. Everything that is found by looking up keys is then found in both.

* `SameEntries` — the relation for lists of entries. `SameEntries.lookup`
* `SameEntries.read` — entries that are read one by one, with results that depend on no order.
* `Value.Reordered` — the relation for values. `Value.Reordered.member?`, `Value.Reordered.truthy`
-/

/-! ## 1. Options -/

section

variable {α β γ δ : Type} {R : α → β → Prop}

/-- What is there on one side has its like on the other. -/
theorem Option.Rel.exists_of_eq_some {a : Option α} {b : Option β} {x : α} (h : Option.Rel R a b)
    (ha : a = Option.some x) : ∃ y, b = Option.some y ∧ R x y := by
  cases h with
  | some h => cases ha; exact ⟨_, rfl, h⟩
  | none => cases ha

theorem Option.Rel.eq_none {a : Option α} {b : Option β} (h : Option.Rel R a b)
    (ha : a = Option.none) : b = Option.none := by
  cases h with
  | some h => cases ha
  | none => rfl

theorem Option.Rel.mono {S : α → β → Prop} {a : Option α} {b : Option β} (h : Option.Rel R a b)
    (hRS : ∀ a b, R a b → S a b) : Option.Rel S a b := by
  cases h with
  | some h => exact .some (hRS _ _ h)
  | none => exact .none

theorem Option.Rel.refl {S : α → α → Prop} (hS : ∀ a, S a a) (a : Option α) :
    Option.Rel S a a := by
  cases a with
  | some a => exact .some (hS a)
  | none => exact .none

/-- Functions that keep a relation keep it on what may be there. -/
theorem Option.Rel.map {S : γ → δ → Prop} {f : α → γ} {g : β → δ} {a : Option α} {b : Option β}
    (h : Option.Rel R a b) (hfg : ∀ a b, R a b → S (f a) (g b)) :
    Option.Rel S (a.map f) (b.map g) := by
  cases h with
  | some h => exact .some (hfg _ _ h)
  | none => exact .none

theorem Option.Rel.eq {a b : Option α} (h : Option.Rel (fun x y => y = x) a b) : b = a := by
  cases h with
  | some h => rw [h]
  | none => rfl

theorem Option.Rel.or {a c : Option α} {b d : Option β} (hab : Option.Rel R a b)
    (hcd : Option.Rel R c d) : Option.Rel R (a.or c) (b.or d) := by
  cases hab with
  | some hab => exact .some hab
  | none => exact hcd

theorem Option.Rel.getD {a : Option α} {b : Option β} {x : α} {y : β} (hab : Option.Rel R a b)
    (hxy : R x y) : R (a.getD x) (b.getD y) := by
  cases hab with
  | some hab => exact hab
  | none => exact hxy

/-- A test that makes no difference between related values. -/
theorem Option.Rel.filter {p : α → Bool} {q : β → Bool} {a : Option α} {b : Option β}
    (h : Option.Rel R a b) (hpq : ∀ a b, R a b → q b = p a) :
    Option.Rel R (a.filter p) (b.filter q) := by
  cases h with
  | none => exact .none
  | @some a b h =>
    rw [Option.filter_some, Option.filter_some, hpq a b h]
    split
    · exact .some h
    · exact .none

/-- The first result over a list, for two functions with related results. -/
theorem Option.Rel.findSome? {ι : Type} {f : ι → Option α} {g : ι → Option β} {l : List ι}
    (h : ∀ i ∈ l, Option.Rel R (f i) (g i)) : Option.Rel R (l.findSome? f) (l.findSome? g) := by
  induction l with
  | nil => exact .none
  | cons i rest ih =>
    obtain ⟨hi, hrest⟩ := List.forall_mem_cons.mp h
    rw [List.findSome?_cons, List.findSome?_cons]
    cases hf : f i with
    | some a =>
      obtain ⟨b, hb, hab⟩ := hi.exists_of_eq_some hf
      rw [hb]
      exact .some hab
    | none =>
      rw [hi.eq_none hf]
      exact ih hrest

end

namespace NodeSchema

/-! ## 2. Lists of entries -/

section

variable {κ α β : Type} [DecidableEq κ] {R : κ → α → β → Prop}
variable {l : List (κ × α)} {l' : List (κ × β)}

/-- `SameEntries R l l'` — the two lists have the same keys, in whatever order, and the entries
under a key are related. -/
structure SameEntries (R : κ → α → β → Prop) (l : List (κ × α)) (l' : List (κ × β)) : Prop where
  keys : (l.map Prod.fst).Perm (l'.map Prod.fst)
  values : ∀ key a b, (key, a) ∈ l → (key, b) ∈ l' → R key a b

omit [DecidableEq κ] in
theorem SameEntries.flip (h : SameEntries R l l') : SameEntries (fun key b a => R key a b) l' l :=
  ⟨h.keys.symm, fun key b a hb ha => h.values key a b ha hb⟩

omit [DecidableEq κ] in
theorem SameEntries.mono {S : κ → α → β → Prop} (h : SameEntries R l l')
    (hRS : ∀ key a b, R key a b → S key a b) : SameEntries S l l' :=
  ⟨h.keys, fun key a b ha hb => hRS key a b (h.values key a b ha hb)⟩

/-- What is found in one list is found in the other. -/
theorem SameEntries.lookup (h : SameEntries R l l') (key : κ) :
    Option.Rel (R key) (lookupEntry key l) (lookupEntry key l') := by
  have hkeys : (lookupEntry key l).isSome ↔ (lookupEntry key l').isSome := by
    rw [lookupEntry_isSome, lookupEntry_isSome, h.keys.mem_iff]
  cases ha : lookupEntry key l with
  | some a =>
    obtain ⟨b, hb⟩ := Option.isSome_iff_exists.mp (hkeys.mp (by rw [ha]; rfl))
    rw [hb]
    exact .some (h.values key a b (mem_of_lookupEntry ha) (mem_of_lookupEntry hb))
  | none =>
    cases hb : lookupEntry key l' with
    | some b =>
      have hsome := hkeys.mpr (by rw [hb]; rfl)
      rw [ha] at hsome
      cases hsome
    | none => exact .none

/-- Tables with the same entries answer alike. -/
theorem SameEntries.get? {t : Table κ α} {t' : Table κ β} (h : SameEntries R t.entries t'.entries)
    (key : κ) : Option.Rel (R key) (t.get? key) (t'.get? key) := h.lookup key

/-- Where no key is repeated, there is one value under every key. -/
theorem eq_of_mem_of_mem {key : κ} {a b : α} (hl : (l.map Prod.fst).Nodup) (ha : (key, a) ∈ l)
    (hb : (key, b) ∈ l) : a = b := by
  have hab : some a = some b := by rw [← lookupEntry_of_mem hl ha, lookupEntry_of_mem hl hb]
  exact Option.some.inj hab

/-- Where no key is repeated, a list has the same entries as itself. -/
theorem SameEntries.refl {R : κ → α → α → Prop} (hR : ∀ key a, R key a a)
    (hl : (l.map Prod.fst).Nodup) : SameEntries R l l := by
  refine ⟨.refl _, fun key a b ha hb => ?_⟩
  rw [eq_of_mem_of_mem hl ha hb]
  exact hR key b

omit [DecidableEq κ] in
/-- Two lists with the same entries are read entry by entry. If an entry is read whenever the one
that it belongs to is, and with a related result, then so is the whole list. -/
theorem SameEntries.read {ε γ δ : Type} {f : κ → α → Except ε γ} {f' : κ → β → Except ε δ}
    {S : κ → γ → δ → Prop} {m : List (κ × γ)} (h : SameEntries R l l')
    (hread : ∀ key a b c, R key a b → f key a = .ok c → ∃ d, f' key b = .ok d ∧ S key c d)
    (hm : List.Forall₂ (fun e e' => e'.1 = e.1 ∧ f e.1 e.2 = .ok e'.2) l m) :
    ∃ m', List.Forall₂ (fun e e' => e'.1 = e.1 ∧ f' e.1 e.2 = .ok e'.2) l' m' ∧
      SameEntries S m m' := by
  have hexists : ∀ e ∈ l', ∃ e' : κ × δ, e'.1 = e.1 ∧ f' e.1 e.2 = .ok e'.2 := by
    rintro ⟨key, b⟩ hb
    obtain ⟨⟨_, a⟩, ha, rfl⟩ :=
      List.mem_map.mp (h.keys.mem_iff.mpr (List.mem_map_of_mem (f := Prod.fst) hb))
    obtain ⟨⟨_, c⟩, _, _, hc⟩ := exists_left_of_forall₂ hm.flip ha
    obtain ⟨d, hd, _⟩ := hread _ a b c (h.values _ a b ha hb) hc
    exact ⟨(_, d), rfl, hd⟩
  obtain ⟨m', hm'⟩ := exists_forall₂_iff.mpr hexists
  refine ⟨m', hm', ?_, fun key c d hc hd => ?_⟩
  · rw [map_fst_of_forall₂ (P := fun key a c => f key a = .ok c) hm,
      map_fst_of_forall₂ (P := fun key b d => f' key b = .ok d) hm']
    exact h.keys
  · obtain ⟨⟨_, a⟩, ha, rfl, hac⟩ := exists_left_of_forall₂ hm hc
    obtain ⟨⟨_, b⟩, hb, rfl, hbd⟩ := exists_left_of_forall₂ hm' hd
    obtain ⟨d', hd', hS⟩ := hread _ a b c (h.values _ a b ha hb) hac
    have hdd : d = d' := Except.ok.inj (hbd.symm.trans hd')
    rwa [hdd]

end

/-! ## 3. Values -/

namespace Value

/-- `v.Reordered R v'` — the two values are the same, or objects with the same keys in another order
and with related values under each of them. -/
inductive Reordered (R : String → Value → Value → Prop) : Value → Value → Prop where
  | same (v : Value) : Reordered R v v
  | object {members members' : List (String × Value)} (h : SameEntries R members members') :
    Reordered R (.object members) (.object members')

namespace Reordered

variable {R : String → Value → Value → Prop} {v v' : Value}

theorem flip (h : v.Reordered R v') : v'.Reordered (fun key b a => R key a b) v := by
  cases h with
  | same => exact .same v
  | object h => exact .object h.flip

theorem mono {S : String → Value → Value → Prop} (h : v.Reordered R v')
    (hRS : ∀ key a b, R key a b → S key a b) : v.Reordered S v' := by
  cases h with
  | same => exact .same v
  | object h => exact .object (h.mono hRS)

/-- Reordering leaves it as it was whether a value counts. -/
theorem truthy (h : v.Reordered R v') : v'.truthy = v.truthy := by
  cases h with
  | same => rfl
  | @object members members' h =>
    have hlength := h.keys.length_eq
    rw [List.length_map, List.length_map] at hlength
    cases members <;> cases members' <;> simp_all [Value.truthy]

/-- What stands under a key of one value stands under it in the other. -/
theorem member? (hR : ∀ key v, R key v v) (h : v.Reordered R v') (key : String) :
    Option.Rel (R key) (v.member? key) (v'.member? key) := by
  cases h with
  | same => exact Option.Rel.refl (hR key) _
  | object h => exact h.lookup key

end Reordered

/-- The value with the members of an object listed backwards, after each has been changed. -/
def backwards (f : String → Value → Value) : Value → Value
  | .object members => .object (members.map fun e => (e.1, f e.1 e.2)).reverse
  | v => v

/-- An object is the same when it is listed backwards, if its members are. -/
theorem reordered_backwards {R : String → Value → Value → Prop} {f : String → Value → Value}
    {v : Value} (hv : v.distinctKeys = true)
    (hf : ∀ key v, v.distinctKeys = true → R key v (f key v)) : v.Reordered R (v.backwards f) := by
  cases v with
  | object members =>
    obtain ⟨hnodup, hmembers⟩ := distinctKeys_object_iff.mp hv
    refine .object ⟨?_, fun key a b ha hb => ?_⟩
    · rw [List.map_reverse, List.map_map]
      exact (List.reverse_perm _).symm
    · obtain ⟨⟨_, a'⟩, ha', he⟩ := List.mem_map.mp (List.mem_reverse.mp hb)
      obtain ⟨rfl, rfl⟩ := Prod.mk.inj he
      rw [← eq_of_mem_of_mem hnodup ha ha']
      exact hf _ a (hmembers _ ha)
  | _ => exact .same _

end Value

end NodeSchema
