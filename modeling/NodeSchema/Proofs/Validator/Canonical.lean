import NodeSchema.Proofs.Decimal.Text
import NodeSchema.Proofs.Validator.Reading
import NodeSchema.Proofs.Value.DistinctKeys
/-!
# Canonical validators

Not every validator comes out of the reading of a native description: none has a type without a
name, a choice of nothing, or a chain without links, and none keeps as unknown what a description
of a known shape says. The validators that do are the canonical ones, and they are exactly those
that can be written as a native description and read back.

* `isCanonical` — the property, by the shape of the validator.
* `isCanonical_of_ofNative?` — what is read is canonical.
* `ofNative?_toNative` — what is canonical is read back from its native description.
* `image_ofNative?` — so the canonical validators are the image of reading, and reading after
  writing changes none of them; both hold as well for descriptions without repeated keys alone.
-/

namespace NodeSchema

/-! ## 1. Names of truthy values -/

def Value.isList : Value → Bool
  | .list _ => true
  | _ => false

theorem Value.inline_ne_empty (v : Value) : v.inline ≠ "" := by
  cases v with
  | null => rw [Value.inline]; decide
  | bool b => cases b <;> (rw [Value.inline]; decide)
  | int n => rw [Value.inline]; exact toString_int_ne_empty n
  | float x => rw [Value.inline]; exact Binary64.text_ne_empty (by decide) (by decide) x
  | str s =>
    rw [Value.inline, Text.quoted, ne_eq, String.ofList_eq_empty_iff]
    exact List.cons_ne_nil _ _
  | list items => rw [Value.inline]; exact Text.append_ne_empty_right (by decide)
  | object members => rw [Value.inline]; exact Text.append_ne_empty_right (by decide)

theorem Value.name_ne_empty {v : Value} (h : v.truthy = true) : v.name ≠ "" := by
  cases v with
  | str s => simpa [Value.name, Value.truthy] using h
  | _ => exact Value.inline_ne_empty _

namespace Validator

/-! ## 2. The property -/

/-- Whether an object with these members is kept as it is: of the six options none is given, save
that the one for chains may hold something that is no list. -/
def isUndecided (members : List (String × Value)) : Bool :=
  Rule.beforeChain.all (fun r => (r.given? members).isNone) &&
    (Rule.chainOf.given? members).all (!·.isList)

def isUnknown : Value → Bool
  | .null => false
  | .object members => isUndecided members
  | _ => true

/-- Whether a validator is the one of null, which stands only inside other validators. -/
def isUnknownNull : Validator → Bool
  | .unknown .null => true
  | _ => false

mutual

/-- Whether a validator can be the result of reading a native description. -/
def isCanonical : Validator → Bool
  | .named name => name != ""
  | .oneOfTypes names => !names.isEmpty
  | .oneOfValues values => !values.isEmpty
  | .each item => item.isCanonical && item.toNative.truthy
  | .chain links => !links.isEmpty && areCanonicalLinks links
  | .unknown raw => isUnknown raw

def areCanonicalLinks : List Validator → Bool
  | [] => true
  | v :: rest => (v.isCanonical || v.isUnknownNull) && areCanonicalLinks rest

end

/-- A link of a chain may be one that is canonical, or the one that null stands for. -/
theorem areCanonicalLinks_iff {links : List Validator} :
    areCanonicalLinks links = true ↔
      ∀ v ∈ links, v.isCanonical = true ∨ v.isUnknownNull = true := by
  induction links with
  | nil => simp [areCanonicalLinks]
  | cons v rest ih => simp [areCanonicalLinks, ih]

/-- An object is kept as it is when no option decides, or the one for chains does without a list. -/
theorem isUndecided_iff {members : List (String × Value)} :
    isUndecided members = true ↔
      Rule.deciding? members = none ∨
        ∃ v, Rule.deciding? members = some (.chainOf, v) ∧ ∀ items, v ≠ .list items := by
  simp only [isUndecided, Bool.and_eq_true, List.all_eq_true, Option.isNone_iff_eq_none,
    Rule.deciding?_eq_none_iff, Rule.deciding?_eq_chainOf_iff]
  cases hc : Rule.chainOf.given? members with
  | none => simp
  | some v => cases v <;> simp [Value.isList]

/-! ## 3. What is read is canonical -/

/-- What has been read of a truthy value is described by a truthy value again. -/
theorem truthy_toNative_of_ofNative? {p : Value} {v : Validator} (hp : p.truthy = true)
    (h : ofNative? p = .ok (some v)) : v.toNative.truthy = true := by
  cases v with
  | unknown raw =>
    suffices raw = p by rw [toNative, this]; exact hp
    cases p with
    | object members =>
      obtain ⟨_, hv, hd⟩ := ofNative?_object_iff.mp h
      cases hv
      cases hd <;> rfl
    | null => cases h
    | _ => cases h; rfl
  | _ => rfl

/-- **What is read is canonical.** -/
theorem isCanonical_of_ofNative? :
    ∀ (p : Value) {v : Validator}, ofNative? p = .ok (some v) → v.isCanonical = true := by
  intro p
  induction p using nativeInduction with
  | null => intro v h; cases h
  | plain p hn ho =>
    intro v h
    rw [ofNative?_plain hn ho] at h
    cases h
    cases p with
    | null => cases hn
    | object members => cases ho
    | _ => rfl
  | object members ihEach ihChain =>
    intro v h
    obtain ⟨_, hv, hd⟩ := ofNative?_object_iff.mp h
    cases hv
    cases hd with
    | undecided hd => exact isUndecided_iff.mpr (Or.inl hd)
    | type hd =>
      have htruthy := Rule.truthy_of_deciding? hd
      simpa [isCanonical] using Value.name_ne_empty htruthy
    | types _ hd =>
      have htruthy := Rule.truthy_of_deciding? hd
      simpa [isCanonical, Value.truthy] using htruthy
    | values hd =>
      have htruthy := Rule.truthy_of_deciding? hd
      simpa [isCanonical, Value.truthy] using htruthy
    | @each w read hd hread =>
      have hgiven := Rule.deciding?_eq_some hd
      have htruthy := Rule.truthy_of_deciding? hd
      cases read with
      | none => rw [ofNative?_eq_none_iff.mp hread] at htruthy; cases htruthy
      | some item =>
        -- The option decided because its value is truthy, and so is what is written for the item.
        rw [nested, Option.getD_some, isCanonical, Bool.and_eq_true]
        exact ⟨ihEach w hgiven hread, truthy_toNative_of_ofNative? htruthy hread⟩
    | @chain items links hd hlinks =>
      have hgiven := Rule.deciding?_eq_some hd
      have htruthy := Rule.truthy_of_deciding? hd
      rw [isCanonical, Bool.and_eq_true, areCanonicalLinks_iff]
      constructor
      · cases hlinks with
        | nil => cases htruthy
        | cons _ _ => rfl
      · intro link hlink
        obtain ⟨w, hw, read, hread, rfl⟩ := exists_left_of_forall₂ hlinks hlink
        cases read with
        | none => exact Or.inr rfl
        | some link => exact Or.inl (ihChain items hgiven w hw hread)
    | noChain hd hv => exact isUndecided_iff.mpr (Or.inr ⟨_, hd, hv⟩)

/-! ## 4. What is canonical is read back -/

theorem map_name_map_str (names : List String) : (names.map Value.str).map Value.name = names := by
  rw [List.map_map]
  exact List.map_id names

/-- Null stands for this link. -/
theorem ofNative?_of_isUnknownNull {v : Validator} (h : v.isUnknownNull = true) :
    (ofNative? v.toNative).map nested = .ok v := by
  unfold isUnknownNull at h
  split at h
  · rfl
  · cases h

mutual

/-- **What is canonical is read back from its native description.** -/
theorem ofNative?_toNative :
    ∀ (v : Validator), v.isCanonical = true → ofNative? v.toNative = .ok (some v)
  | .named name, h => by
    have hd := Rule.deciding?_singleton .type (v := .str name)
      (by simpa [isCanonical, Value.truthy] using h)
    exact ofNative?_of_describes (.type hd)
  | .oneOfTypes names, h => by
    have hd := Rule.deciding?_singleton .oneOfNodeTypes (v := .list (names.map .str))
      (by simpa [isCanonical, Value.truthy] using h)
    have := ofNative?_of_describes (.types (Or.inl rfl) hd)
    rwa [map_name_map_str] at this
  | .oneOfValues values, h => by
    have hd := Rule.deciding?_singleton .oneOf (v := .list values)
      (by simpa [isCanonical, Value.truthy] using h)
    exact ofNative?_of_describes (.values hd)
  | .each item, h => by
    rw [isCanonical, Bool.and_eq_true] at h
    have hd := Rule.deciding?_singleton .each h.2
    exact ofNative?_of_describes (.each hd (ofNative?_toNative item h.1))
  | .chain links, h => by
    rw [isCanonical, Bool.and_eq_true] at h
    have hd := Rule.deciding?_singleton .chainOf (v := .list (linksToNative links)) (by
      cases links with
      | nil => cases h.1
      | cons _ _ => rfl)
    have hlinks := ofLinks_eq_ok_iff.mp (ofLinks_linksToNative links h.2)
    exact ofNative?_of_describes (.chain hd hlinks)
  | .unknown raw, h => by
    rw [toNative]
    cases raw with
    | null => cases h
    | object members =>
      refine ofNative?_of_describes ?_
      rcases isUndecided_iff.mp h with hd | ⟨v, hd, hv⟩
      · exact .undecided hd
      · exact .noChain hd hv
    | _ => rfl

/-- Canonical links are read back. -/
theorem ofLinks_linksToNative :
    ∀ (links : List Validator), areCanonicalLinks links = true →
      ofLinks (linksToNative links) = .ok links
  | [], _ => rfl
  | v :: rest, h => by
    rw [areCanonicalLinks, Bool.and_eq_true, Bool.or_eq_true] at h
    have hv : (ofNative? v.toNative).map nested = .ok v := by
      rcases h.1 with hv | hv
      · rw [ofNative?_toNative v hv]; rfl
      · exact ofNative?_of_isUnknownNull hv
    obtain ⟨read, hread, hn⟩ := map_eq_ok_iff.mp hv
    rw [linksToNative, ofLinks, hread, ofLinks_linksToNative rest h.2, ← hn]
    rfl

end

/-! ## 5. Descriptions without repeated keys -/

theorem linksToNative_eq_map (links : List Validator) :
    linksToNative links = links.map toNative := by
  induction links with
  | nil => rfl
  | cons v rest ih => rw [linksToNative, ih, List.map_cons]

theorem distinctKeys_singleton (key : String) (v : Value) :
    (Value.object [(key, v)]).distinctKeys = v.distinctKeys := by
  simp [Value.distinctKeys, Value.distinctKeysMembers]

/-- What stands inside other descriptions is as free of repeated keys as what was read. -/
theorem distinctKeys_nested {read : Option Validator}
    (h : ∀ v, read = some v → v.toNative.distinctKeys = true) :
    (nested read).toNative.distinctKeys = true := by
  cases read with
  | none => rfl
  | some v => exact h v rfl

/-- Reading keeps descriptions free of repeated keys: what is written after it has none either. -/
theorem distinctKeys_toNative :
    ∀ (p : Value) {v : Validator}, p.distinctKeys = true → ofNative? p = .ok (some v) →
      v.toNative.distinctKeys = true := by
  intro p
  induction p using nativeInduction with
  | null => intro v _ h; cases h
  | plain p hn ho =>
    intro v hp h
    rw [ofNative?_plain hn ho] at h
    cases h
    exact hp
  | object members ihEach ihChain =>
    intro v hp h
    obtain ⟨_, hv, hd⟩ := ofNative?_object_iff.mp h
    cases hv
    cases hd with
    | undecided _ => exact hp
    | noChain _ _ => exact hp
    | type _ => rw [toNative, distinctKeys_singleton]; rfl
    | types _ _ =>
      rw [toNative, distinctKeys_singleton, Value.distinctKeys_list_iff]
      intro w hw
      obtain ⟨name, _, rfl⟩ := List.mem_map.mp hw
      rfl
    | values hd =>
      have hl := Rule.lookupEntry_of_deciding? hd
      rw [toNative, distinctKeys_singleton]
      exact Value.distinctKeys_of_lookupEntry hp hl
    | @each w read hd hread =>
      have hgiven := Rule.deciding?_eq_some hd
      have hw := Value.distinctKeys_of_lookupEntry hp (Rule.lookupEntry_of_deciding? hd)
      rw [toNative, distinctKeys_singleton]
      refine distinctKeys_nested fun v hv => ihEach w hgiven hw ?_
      rw [hread, hv]
    | @chain items links hd hlinks =>
      have hgiven := Rule.deciding?_eq_some hd
      have hitems := Value.distinctKeys_of_lookupEntry hp (Rule.lookupEntry_of_deciding? hd)
      rw [toNative, distinctKeys_singleton, linksToNative_eq_map, Value.distinctKeys_list_iff]
      intro n hn
      obtain ⟨link, hlink, rfl⟩ := List.mem_map.mp hn
      obtain ⟨w, hw, read, hread, rfl⟩ := exists_left_of_forall₂ hlinks hlink
      refine distinctKeys_nested fun v hv => ?_
      refine ihChain items hgiven w hw (Value.distinctKeys_list_iff.mp hitems w hw) ?_
      rw [hread, hv]

/-! ## 6. The image of reading -/

/-- **The image of reading.** A validator that has been read is read back from its own description.
The validators that can be read are the canonical ones; those that can be read from a description
without repeated keys are the canonical ones that hold no repeated keys. Every canonical validator
is read back from its own description. -/
theorem image_ofNative? (v : Validator) :
    (∀ p, ofNative? p = .ok (some v) → ofNative? v.toNative = .ok (some v)) ∧
    ((∃ p, ofNative? p = .ok (some v)) ↔ v.isCanonical = true) ∧
    ((∃ p : Value, p.distinctKeys = true ∧ ofNative? p = .ok (some v)) ↔
      v.isCanonical = true ∧ v.toNative.distinctKeys = true) ∧
    (v.isCanonical = true → ofNative? v.toNative = .ok (some v)) := by
  refine ⟨fun p hp => ?_, ⟨?_, fun h => ?_⟩, ⟨?_, fun h => ?_⟩, ofNative?_toNative v⟩
  · exact ofNative?_toNative v (isCanonical_of_ofNative? p hp)
  · rintro ⟨p, hp⟩
    exact isCanonical_of_ofNative? p hp
  · exact ⟨v.toNative, ofNative?_toNative v h⟩
  · rintro ⟨p, hd, hp⟩
    exact ⟨isCanonical_of_ofNative? p hp, distinctKeys_toNative p hd hp⟩
  · exact ⟨v.toNative, h.2, ofNative?_toNative v h.1⟩

end Validator

end NodeSchema
