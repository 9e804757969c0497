import NodeSchema.Proofs.Stages
import NodeSchema.Validator.Native
/-!
# What a native description says

`Validator.ofNative?` walks through the members of an object to find the parts that it reads, so
that its recursion can be seen to end. Here it is turned into statements about look-ups: what the
deciding option of an object is, and which validator an object with that deciding option describes.
Everything else about reading follows from these.

* `deciding?_eq_some`, `deciding?_eq_none_iff`, `deciding?_eq_chainOf_iff` — the deciding option.
* `Describes`, `ofNative?_object_iff` — the seven ways in which an object describes a validator.
* `nativeInduction` — induction along the parts that a reading goes into.
-/

namespace NodeSchema.Validator

/-! ## 1. The deciding option -/

namespace Rule

def beforeChain : List Rule := [.type, .oneOfNodeTypes, .oneOfNodeOrValueTypes, .oneOf, .each]

theorem byPrecedence_eq : byPrecedence = beforeChain ++ [.chainOf] := rfl

theorem given?_eq_some_iff {members : List (String × Value)} {r : Rule} {v : Value} :
    r.given? members = some v ↔ lookupEntry r.key members = some v ∧ v.truthy = true := by
  rw [given?, Option.filter_eq_some_iff]

theorem deciding?_eq_some {members : List (String × Value)} {r : Rule} {v : Value}
    (h : deciding? members = some (r, v)) : r.given? members = some v := by
  obtain ⟨r', _, hr'⟩ := List.exists_of_findSome?_eq_some h
  obtain ⟨v', hv', hrv⟩ := Option.map_eq_some_iff.mp hr'
  cases hrv
  exact hv'

theorem lookupEntry_of_deciding? {members : List (String × Value)} {r : Rule} {v : Value}
    (h : deciding? members = some (r, v)) : lookupEntry r.key members = some v :=
  (given?_eq_some_iff.mp (deciding?_eq_some h)).1

/-- An option decides only with a truthy value. -/
theorem truthy_of_deciding? {members : List (String × Value)} {r : Rule} {v : Value}
    (h : deciding? members = some (r, v)) : v.truthy = true :=
  (given?_eq_some_iff.mp (deciding?_eq_some h)).2

/-- No option decides when none is given. -/
theorem deciding?_eq_none_iff {members : List (String × Value)} :
    deciding? members = none ↔
      (∀ r ∈ beforeChain, r.given? members = none) ∧ Rule.chainOf.given? members = none := by
  rw [deciding?, byPrecedence_eq, List.findSome?_append, List.findSome?_singleton,
    Option.or_eq_none_iff, List.findSome?_eq_none_iff]
  simp only [Option.map_eq_none_iff]

/-- The option for chains decides when it is given and no other option is. -/
theorem deciding?_eq_chainOf_iff {members : List (String × Value)} {v : Value} :
    deciding? members = some (.chainOf, v) ↔
      (∀ r ∈ beforeChain, r.given? members = none) ∧ Rule.chainOf.given? members = some v := by
  rw [deciding?, byPrecedence_eq, List.findSome?_append, List.findSome?_singleton,
    Option.or_eq_some_iff]
  constructor
  · rintro (h | ⟨h, hv⟩)
    · obtain ⟨r, hr, hrv⟩ := List.exists_of_findSome?_eq_some h
      obtain ⟨w, _, hw⟩ := Option.map_eq_some_iff.mp hrv
      cases hw
      simp [beforeChain] at hr
    · rw [List.findSome?_eq_none_iff] at h
      obtain ⟨w, hw, hrw⟩ := Option.map_eq_some_iff.mp hv
      cases hrw
      exact ⟨fun r hr => Option.map_eq_none_iff.mp (h r hr), hw⟩
  · rintro ⟨h, hv⟩
    right
    refine ⟨List.findSome?_eq_none_iff.mpr fun r hr => ?_, ?_⟩
    · exact Option.map_eq_none_iff.mpr (h r hr)
    · rw [hv]; rfl

/-- In an object with a single member, its option decides if its value is truthy. -/
theorem deciding?_singleton (r : Rule) {v : Value} (hv : v.truthy = true) :
    deciding? [(r.key, v)] = some (r, v) := by
  cases r <;> simp [deciding?, byPrecedence, given?, key, lookupEntry, hv]

end Rule

/-! ## 2. Objects by their deciding option -/

theorem ofEach_of_lookupEntry {members : List (String × Value)} {v : Value}
    (h : lookupEntry Rule.each.key members = some v) :
    ofEach members = (ofNative? v).map nested := by
  induction members with
  | nil => cases h
  | cons e rest ih =>
    obtain ⟨k, w⟩ := e
    unfold lookupEntry at h
    rw [ofEach]
    split at h
    · next hk => cases h; rw [if_pos hk]
    · next hk => rw [if_neg hk, ih h]

theorem ofChain_of_lookupEntry {members : List (String × Value)} {items : List Value}
    (h : lookupEntry Rule.chainOf.key members = some (.list items)) :
    ofChain members = ofLinks items := by
  induction members with
  | nil => cases h
  | cons e rest ih =>
    obtain ⟨k, w⟩ := e
    unfold lookupEntry at h
    unfold ofChain
    split at h
    · next hk => cases h; rw [if_pos hk]
    · next hk => rw [if_neg hk, ih h]

/-- The links of a chain are read one after the other. -/
theorem ofLinks_eq_mapM (items : List Value) :
    ofLinks items = items.mapM fun v => (ofNative? v).map nested := by
  induction items with
  | nil => rfl
  | cons v rest ih =>
    rw [ofLinks, ih, List.mapM_cons]
    cases ofNative? v <;> rfl

/-- `Describes members v` — an object with these members describes the validator `v`. There is one
way for each kind of deciding option, and two more for objects that are kept as they are. -/
inductive Describes (members : List (String × Value)) : Validator → Prop where
  | undecided (h : Rule.deciding? members = none) : Describes members (.unknown (.object members))
  | type {v : Value} (h : Rule.deciding? members = some (.type, v)) : Describes members (.named v.name)
  | types {r : Rule} {items : List Value} (hr : r = .oneOfNodeTypes ∨ r = .oneOfNodeOrValueTypes)
      (h : Rule.deciding? members = some (r, .list items)) :
      Describes members (.oneOfTypes (items.map Value.name))
  | values {items : List Value} (h : Rule.deciding? members = some (.oneOf, .list items)) :
      Describes members (.oneOfValues items)
  | each {v : Value} {read : Option Validator} (h : Rule.deciding? members = some (.each, v))
      (hv : ofNative? v = .ok read) : Describes members (.each (nested read))
  | chain {items : List Value} {links : List Validator}
      (h : Rule.deciding? members = some (.chainOf, .list items))
      (hl : List.Forall₂ (fun v link => ∃ read, ofNative? v = .ok read ∧ nested read = link)
        items links) : Describes members (.chain links)
  | noChain {v : Value} (h : Rule.deciding? members = some (.chainOf, v))
      (hv : ∀ items, v ≠ .list items) : Describes members (.unknown (.object members))

theorem listOf_eq_ok_iff {r : Rule} {v : Value} {items : List Value} :
    listOf r v = .ok items ↔ v = .list items := by
  cases v <;> simp [listOf]

/-- The links of a chain are read one by one, each as it would be alone. -/
theorem ofLinks_eq_ok_iff {items : List Value} {links : List Validator} :
    ofLinks items = .ok links ↔
      List.Forall₂ (fun v link => ∃ read, ofNative? v = .ok read ∧ nested read = link)
        items links := by
  simp only [ofLinks_eq_mapM, mapM_eq_ok_iff, map_eq_ok_iff]

/-- What is read from an object is a validator that it describes. -/
theorem describes_of_ofNative? {members : List (String × Value)} {read : Option Validator}
    (h : ofNative? (.object members) = .ok read) : ∃ v, read = some v ∧ Describes members v := by
  rw [ofNative?] at h
  split at h
  · next hd => cases h; exact ⟨_, rfl, .undecided hd⟩
  · next v hd => cases h; exact ⟨_, rfl, .type hd⟩
  · next v hd =>
    obtain ⟨items, hitems, hread⟩ := bind_eq_ok_iff.mp h
    cases hread
    rw [listOf_eq_ok_iff.mp hitems] at hd
    exact ⟨_, rfl, .types (Or.inl rfl) hd⟩
  · next v hd =>
    obtain ⟨items, hitems, hread⟩ := bind_eq_ok_iff.mp h
    cases hread
    rw [listOf_eq_ok_iff.mp hitems] at hd
    exact ⟨_, rfl, .types (Or.inr rfl) hd⟩
  · next v hd =>
    obtain ⟨items, hitems, hread⟩ := bind_eq_ok_iff.mp h
    cases hread
    rw [listOf_eq_ok_iff.mp hitems] at hd
    exact ⟨_, rfl, .values hd⟩
  · next v hd =>
    have hv := Rule.lookupEntry_of_deciding? hd
    obtain ⟨item, hitem, hread⟩ := bind_eq_ok_iff.mp h
    cases hread
    rw [ofEach_of_lookupEntry hv] at hitem
    obtain ⟨read, hread, rfl⟩ := map_eq_ok_iff.mp hitem
    exact ⟨_, rfl, .each hd hread⟩
  · next items hd =>
    have hv := Rule.lookupEntry_of_deciding? hd
    obtain ⟨links, hlinks, hread⟩ := bind_eq_ok_iff.mp h
    cases hread
    rw [ofChain_of_lookupEntry hv] at hlinks
    exact ⟨_, rfl, .chain hd (ofLinks_eq_ok_iff.mp hlinks)⟩
  · next v hv hd => cases h; exact ⟨_, rfl, .noChain hd hv⟩

/-- An object that describes a validator is read as this one. -/
theorem ofNative?_of_describes {members : List (String × Value)} {v : Validator}
    (h : Describes members v) : ofNative? (.object members) = .ok (some v) := by
  cases h with
  | undecided h => rw [ofNative?, h]
  | type h => rw [ofNative?, h]
  | types hr h => rcases hr with rfl | rfl <;> (rw [ofNative?, h]; rfl)
  | values h => rw [ofNative?, h]; rfl
  | each h hv =>
    have hl := Rule.lookupEntry_of_deciding? h
    rw [ofNative?, h]
    exact bind_eq_ok_iff.mpr ⟨_, by rw [ofEach_of_lookupEntry hl, hv]; rfl, rfl⟩
  | chain h hlinks =>
    have hl := Rule.lookupEntry_of_deciding? h
    rw [ofNative?, h]
    refine bind_eq_ok_iff.mpr ⟨_, ?_, rfl⟩
    rw [ofChain_of_lookupEntry hl]
    exact ofLinks_eq_ok_iff.mpr hlinks
  | @noChain v h hv =>
    rw [ofNative?, h]
    cases v with
    | list items => exact absurd rfl (hv items)
    | _ => rfl

/-- An object is read as a validator that it describes, and never as none. -/
theorem ofNative?_object_iff {members : List (String × Value)} {read : Option Validator} :
    ofNative? (.object members) = .ok read ↔ ∃ v, read = some v ∧ Describes members v := by
  constructor
  · exact describes_of_ofNative?
  · rintro ⟨v, rfl, h⟩
    exact ofNative?_of_describes h

/-- What is neither null nor an object is kept as it is. -/
theorem ofNative?_plain {v : Value} (hn : v.isNull = false) (ho : v.isObject = false) :
    ofNative? v = .ok (some (.unknown v)) := by
  cases v with
  | null => cases hn
  | object members => cases ho
  | _ => rfl

/-- Null is the one value that is read as no validator. -/
theorem ofNative?_eq_none_iff {v : Value} : ofNative? v = .ok none ↔ v = .null := by
  constructor
  · intro h
    cases v with
    | null => rfl
    | object members =>
      obtain ⟨_, hv, _⟩ := ofNative?_object_iff.mp h
      cases hv
    | _ => cases h
  · rintro rfl; rfl

/-! ## 3. Induction along a reading -/

theorem sizeOf_lt_of_lookupEntry {members : List (String × Value)} {key : String} {v : Value}
    (h : lookupEntry key members = some v) : sizeOf v < sizeOf members := by
  have hm := List.sizeOf_lt_of_mem (mem_of_lookupEntry h)
  rw [Prod.mk.sizeOf_spec] at hm
  omega

theorem sizeOf_lt_of_lookupEntry_list {members : List (String × Value)} {key : String}
    {items : List Value} {v : Value} (h : lookupEntry key members = some (.list items))
    (hv : v ∈ items) : sizeOf v < sizeOf members := by
  have hl := sizeOf_lt_of_lookupEntry h
  have hm := List.sizeOf_lt_of_mem hv
  rw [Value.list.sizeOf_spec] at hl
  omega

/-- What holds of null and of every plain value, and of an object as soon as it holds of what the
reading of the object goes into, holds of every value. -/
theorem nativeInduction {motive : Value → Prop} (null : motive .null)
    (plain : ∀ v : Value, v.isNull = false → v.isObject = false → motive v)
    (object : ∀ members, (∀ v, Rule.each.given? members = some v → motive v) →
      (∀ items, Rule.chainOf.given? members = some (.list items) → ∀ v ∈ items, motive v) →
      motive (.object members)) : ∀ v, motive v
  | .null => null
  | .object members =>
    object members
      (fun v hv =>
        have := sizeOf_lt_of_lookupEntry (Rule.given?_eq_some_iff.mp hv).1
        nativeInduction null plain object v)
      (fun items hitems v hv =>
        have := sizeOf_lt_of_lookupEntry_list (Rule.given?_eq_some_iff.mp hitems).1 hv
        nativeInduction null plain object v)
  | .bool _ => plain _ rfl rfl
  | .int _ => plain _ rfl rfl
  | .float _ => plain _ rfl rfl
  | .str _ => plain _ rfl rfl
  | .list _ => plain _ rfl rfl
termination_by v => sizeOf v
decreasing_by all_goals simp_wf; omega

end NodeSchema.Validator
