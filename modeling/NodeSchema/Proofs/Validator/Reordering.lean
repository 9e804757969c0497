import NodeSchema.Proofs.Validator.Reading
import NodeSchema.Proofs.Value.Reordering
import NodeSchema.Validator.TypeText
/-!
# Descriptions whose options stand in another order

The order in which an option object lists its options has no influence on what it describes: the
deciding option is found by precedence, and its value by its key. This holds at every depth, for the
objects inside an object too. Only an object that is kept as it is shows the order, and nothing but
a diagnostic does anything with it.

* `SameDescription` — two descriptions that differ in the order of options, to some depth.
* `Validator.Alike` — two validators that differ in nothing but what they keep as it is.
* `ofNative?_sameDescription` — the one is read exactly when the other is, and as a like validator.
* `Alike.sameType` — like validators have the same type, or none.
-/

namespace NodeSchema

/-! ## 1. Descriptions -/

/-- Two values that are the same, or lists with items that belong together one by one. -/
inductive Value.SameItems (D : Value → Value → Prop) : Value → Value → Prop where
  | same (v : Value) : SameItems D v v
  | items {items items' : List Value} (h : List.Forall₂ D items items') :
    SameItems D (.list items) (.list items')

namespace Validator

/-- What may differ in the values of an option: there is another description under the option for
items, and there are some in the list under the option for chains. -/
def SameOption (D : Value → Value → Prop) (key : String) (v v' : Value) : Prop :=
  if key = Rule.each.key then D v v'
  else if key = Rule.chainOf.key then v.SameItems D v'
  else v' = v

/-- `SameDescription depth v v'` — the two descriptions differ in nothing but the order in which
option objects list their options; what lies `depth` objects deep is the same in both. -/
def SameDescription : Nat → Value → Value → Prop
  | 0, v, v' => v' = v
  | depth + 1, v, v' => v.Reordered (SameOption (SameDescription depth)) v'

section

variable {D D' : Value → Value → Prop} {key : String} {v v' : Value}

theorem SameOption.refl (hD : ∀ v, D v v) (key : String) (v : Value) : SameOption D key v v := by
  unfold SameOption
  split
  · exact hD v
  · split
    · exact .same v
    · rfl

theorem SameOption.mono (h : SameOption D key v v') (hD : ∀ v v', D v v' → D' v v') :
    SameOption D' key v v' := by
  unfold SameOption at h ⊢
  split
  · next hkey => rw [if_pos hkey] at h; exact hD v v' h
  · next hkey =>
    rw [if_neg hkey] at h
    split
    · next hchain =>
      rw [if_pos hchain] at h
      cases h with
      | same => exact .same v
      | items h => exact .items (h.imp fun _ _ => hD _ _)
    · next hchain => rwa [if_neg hchain] at h

theorem SameOption.symm (h : SameOption D key v v') (hD : ∀ v v', D v v' → D v' v) :
    SameOption D key v' v := by
  unfold SameOption at h ⊢
  split
  · next hkey => rw [if_pos hkey] at h; exact hD v v' h
  · next hkey =>
    rw [if_neg hkey] at h
    split
    · next hchain =>
      rw [if_pos hchain] at h
      cases h with
      | same => exact .same v
      | items h => exact .items (List.Forall₂.flip (h.imp fun _ _ => hD _ _))
    · next hchain => rw [if_neg hchain] at h; exact h.symm

theorem SameOption.truthy (h : SameOption D key v v')
    (hD : ∀ v v', D v v' → v'.truthy = v.truthy) : v'.truthy = v.truthy := by
  unfold SameOption at h
  split at h
  · exact hD v v' h
  · split at h
    · cases h with
      | same => rfl
      | items h => cases h <;> rfl
    · rw [h]

theorem SameDescription.refl : ∀ (depth : Nat) (v : Value), SameDescription depth v v
  | 0, _ => rfl
  | _ + 1, v => .same v

theorem SameDescription.symm : ∀ {depth : Nat} {v v' : Value}, SameDescription depth v v' →
    SameDescription depth v' v
  | 0, _, _, h => Eq.symm h
  | _ + 1, _, _, h =>
    (Value.Reordered.flip h).mono fun _ _ _ h => SameOption.symm h fun _ _ => SameDescription.symm

/-- Descriptions that are the same to some depth are the same to any greater one. -/
theorem SameDescription.succ : ∀ {depth : Nat} {v v' : Value}, SameDescription depth v v' →
    SameDescription (depth + 1) v v'
  | 0, v, _, h => by
    rw [show _ = v from h]
    exact .same v
  | _ + 1, _, _, h =>
    Value.Reordered.mono h fun _ _ _ h => SameOption.mono h fun _ _ => SameDescription.succ

/-- Values with the same description count alike. -/
theorem SameDescription.truthy : ∀ {depth : Nat} {v v' : Value}, SameDescription depth v v' →
    v'.truthy = v.truthy
  | 0, v, _, h => by rw [show _ = v from h]
  | _ + 1, _, _, h => Value.Reordered.truthy h

end

/-! ## 2. Like validators -/

/-- `Alike D v v'` — the two validators differ in nothing but the values that they keep as they are,
and these are related by `D`. -/
inductive Alike (D : Value → Value → Prop) : Validator → Validator → Prop where
  | same (v : Validator) : Alike D v v
  | each {item item' : Validator} (h : Alike D item item') : Alike D (.each item) (.each item')
  | chain {links links' : List Validator} (hlength : links.length = links'.length)
      (h : ∀ i (hi : i < links.length) (hi' : i < links'.length),
        Alike D (links.get ⟨i, hi⟩) (links'.get ⟨i, hi'⟩)) :
      Alike D (.chain links) (.chain links')
  | unknown {raw raw' : Value} (h : D raw raw') : Alike D (.unknown raw) (.unknown raw')

namespace Alike

variable {D D' : Value → Value → Prop} {v v' : Validator}

theorem flip (h : Alike D v v') : Alike (fun w w' => D w' w) v' v := by
  induction h with
  | same v => exact .same v
  | each _ ih => exact .each ih
  | chain hlength _ ih => exact .chain hlength.symm fun i hi hi' => ih i hi' hi
  | unknown h => exact .unknown h

theorem mono (h : Alike D v v') (hD : ∀ w w', D w w' → D' w w') : Alike D' v v' := by
  induction h with
  | same v => exact .same v
  | each _ ih => exact .each ih
  | chain hlength _ ih => exact .chain hlength ih
  | unknown h => exact .unknown (hD _ _ h)

/-- Validators that keep the same values are the same. -/
theorem eq_of_eq (h : Alike (fun w w' => w' = w) v v') : v' = v := by
  induction h with
  | same v => rfl
  | each _ ih => rw [ih]
  | chain hlength _ ih =>
    rw [List.ext_get hlength fun i hi hi' => (ih i hi hi').symm]
  | unknown h => rw [h]

/-- A validator is like a chain if it is a chain of links that are alike. -/
theorem chain_iff {links : List Validator} :
    Alike D (.chain links) v' ↔
      ∃ links', v' = .chain links' ∧ List.Forall₂ (Alike D) links links' := by
  constructor
  · intro h
    cases h with
    | same => exact ⟨links, rfl, List.forall₂_same.mpr fun v _ => .same v⟩
    | chain hlength h => exact ⟨_, rfl, List.forall₂_iff_get.mpr ⟨hlength, h⟩⟩
  · rintro ⟨links', rfl, h⟩
    obtain ⟨hlength, h⟩ := List.forall₂_iff_get.mp h
    exact .chain hlength h

theorem named_iff {name : String} : Alike D (.named name) v' ↔ v' = .named name := by
  constructor
  · intro h; cases h; rfl
  · rintro rfl; exact .same _

theorem oneOfTypes_iff {names : List String} :
    Alike D (.oneOfTypes names) v' ↔ v' = .oneOfTypes names := by
  constructor
  · intro h; cases h; rfl
  · rintro rfl; exact .same _

theorem oneOfValues_iff {values : List Value} :
    Alike D (.oneOfValues values) v' ↔ v' = .oneOfValues values := by
  constructor
  · intro h; cases h; rfl
  · rintro rfl; exact .same _

theorem each_iff {item : Validator} :
    Alike D (.each item) v' ↔ ∃ item', v' = .each item' ∧ Alike D item item' := by
  constructor
  · intro h
    cases h with
    | same => exact ⟨item, rfl, .same item⟩
    | each h => exact ⟨_, rfl, h⟩
  · rintro ⟨item', rfl, h⟩; exact .each h

/-- The like of a sequence is a sequence of like items. -/
theorem sequence_iff {marker : String} {item : Validator} :
    Alike D (.chain [.named marker, .each item]) v' ↔
      ∃ item', v' = .chain [.named marker, .each item'] ∧ Alike D item item' := by
  simp only [chain_iff, List.forall₂_cons_left_iff, List.forall₂_nil_left_iff, named_iff, each_iff]
  constructor
  · rintro ⟨_, rfl, _, _, rfl, ⟨_, _, ⟨item', rfl, h⟩, rfl, rfl⟩, rfl⟩
    exact ⟨item', rfl, h⟩
  · rintro ⟨item', rfl, h⟩
    exact ⟨_, rfl, _, _, rfl, ⟨_, _, ⟨item', rfl, h⟩, rfl, rfl⟩, rfl⟩

/-- A chain of a marker and values is like itself only. -/
theorem texts_iff {marker : String} {values : List Value} :
    Alike D (.chain [.named marker, .oneOfValues values]) v' ↔
      v' = .chain [.named marker, .oneOfValues values] := by
  simp only [chain_iff, List.forall₂_cons_left_iff, List.forall₂_nil_left_iff, named_iff,
    oneOfValues_iff]
  constructor
  · rintro ⟨_, rfl, _, _, rfl, ⟨_, _, rfl, rfl, rfl⟩, rfl⟩
    rfl
  · rintro rfl
    exact ⟨_, rfl, _, _, rfl, ⟨_, _, rfl, rfl, rfl⟩, rfl⟩

end Alike

/-! ## 3. Reading -/

section

variable {members members' : List (String × Value)} {depth : Nat}

/-- An option is given in both objects or in neither. -/
theorem Rule.given?_sameDescription
    (h : SameEntries (SameOption (SameDescription depth)) members members') (r : Rule) :
    Option.Rel (SameOption (SameDescription depth) r.key) (r.given? members) (r.given? members') :=
  (h.lookup r.key).filter fun _ _ hv => hv.truthy fun _ _ => SameDescription.truthy

/-- The same option decides in both objects, or none does. -/
theorem Rule.deciding?_sameDescription
    (h : SameEntries (SameOption (SameDescription depth)) members members') :
    Option.Rel (fun p p' => p'.1 = p.1 ∧ SameOption (SameDescription depth) p.1.key p.2 p'.2)
      (Rule.deciding? members) (Rule.deciding? members') :=
  Option.Rel.findSome? fun r _ =>
    (Rule.given?_sameDescription h r).map fun _ _ hv => ⟨rfl, hv⟩

/-- The rule that decides for one object decides for the other. -/
theorem Rule.exists_deciding? {r : Rule} {v : Value}
    (h : SameEntries (SameOption (SameDescription depth)) members members')
    (hv : Rule.deciding? members = some (r, v)) :
    ∃ v', Rule.deciding? members' = some (r, v') ∧
      SameOption (SameDescription depth) r.key v v' := by
  obtain ⟨⟨_, v'⟩, hv', rfl, hsame⟩ := (Rule.deciding?_sameDescription h).exists_of_eq_some hv
  exact ⟨v', hv', hsame⟩

end

/-- What has been read inside two descriptions is alike if it was read from like ones. -/
theorem alike_nested {D : Value → Value → Prop} {read read' : Option Validator}
    (h : Option.Rel (Alike D) read read') : Alike D (nested read) (nested read') := by
  cases h with
  | some h => exact h
  | none => exact .same _

/-- Items that are read one by one, and items in the same places that are read as like links. -/
theorem exists_links {D : Value → Value → Prop} {items items' : List Value}
    {links : List Validator}
    (hitems : List.Forall₂ D items items')
    (hlinks : List.Forall₂ (fun v link => ∃ read, ofNative? v = .ok read ∧ nested read = link)
      items links)
    (hread : ∀ v v' read, D v v' → ofNative? v = .ok read →
      ∃ read', ofNative? v' = .ok read' ∧ Option.Rel (Alike D) read read') :
    ∃ links', List.Forall₂ (fun v link => ∃ read, ofNative? v = .ok read ∧ nested read = link)
      items' links' ∧ List.Forall₂ (Alike D) links links' := by
  induction hitems generalizing links with
  | nil => cases hlinks; exact ⟨[], .nil, .nil⟩
  | cons hv _ ih =>
    cases hlinks with
    | cons hlink hlinks =>
      obtain ⟨read, hread₁, rfl⟩ := hlink
      obtain ⟨read', hread', hrel⟩ := hread _ _ read hv hread₁
      obtain ⟨links', hlinks', halike⟩ := ih hlinks
      exact ⟨_, .cons ⟨read', hread', rfl⟩ hlinks', .cons (alike_nested hrel) halike⟩

/-- Objects with the same options describe like validators, if the descriptions inside them do. -/
theorem describes_sameDescription {depth : Nat} {members members' : List (String × Value)}
    {w : Validator} (h : SameEntries (SameOption (SameDescription depth)) members members')
    (hinside : ∀ v v' read, SameDescription depth v v' → ofNative? v = .ok read →
      ∃ read', ofNative? v' = .ok read' ∧
        Option.Rel (Alike (SameDescription depth)) read read')
    (hw : Describes members w) :
    ∃ w', Describes members' w' ∧ Alike (SameDescription (depth + 1)) w w' := by
  have hkept : Alike (SameDescription (depth + 1)) (.unknown (.object members))
      (.unknown (.object members')) := .unknown (.object h)
  cases hw with
  | undecided hd => exact ⟨_, .undecided ((Rule.deciding?_sameDescription h).eq_none hd), hkept⟩
  | type hd =>
    obtain ⟨v', hd', rfl⟩ := Rule.exists_deciding? h hd
    exact ⟨_, .type hd', .same _⟩
  | @types r items hr hd =>
    obtain ⟨v', hd', hv⟩ := Rule.exists_deciding? h hd
    have hlist : v' = .list items := by rcases hr with rfl | rfl <;> exact hv
    rw [hlist] at hd'
    exact ⟨_, .types hr hd', .same _⟩
  | values hd =>
    obtain ⟨v', hd', rfl⟩ := Rule.exists_deciding? h hd
    exact ⟨_, .values hd', .same _⟩
  | each hd hv =>
    obtain ⟨v', hd', hsame⟩ := Rule.exists_deciding? h hd
    obtain ⟨read', hv', hrel⟩ := hinside _ v' _ hsame hv
    exact ⟨_, .each hd' hv', .each ((alike_nested hrel).mono fun _ _ => SameDescription.succ)⟩
  | chain hd hlinks =>
    obtain ⟨v', hd', hsame⟩ := Rule.exists_deciding? h hd
    have hsame : Value.SameItems (SameDescription depth) (.list _) v' := hsame
    cases hsame with
    | same => exact ⟨_, .chain hd' hlinks, .same _⟩
    | items hitems =>
      obtain ⟨links', hlinks', halike⟩ := exists_links hitems hlinks hinside
      have halike := halike.imp fun _ _ hv => hv.mono fun _ _ => SameDescription.succ
      exact ⟨_, .chain hd' hlinks', Alike.chain_iff.mpr ⟨links', rfl, halike⟩⟩
  | noChain hd hv =>
    obtain ⟨v', hd', hsame⟩ := Rule.exists_deciding? h hd
    have hsame : Value.SameItems (SameDescription depth) _ v' := hsame
    cases hsame with
    | same => exact ⟨_, .noChain hd' hv, hkept⟩
    | items hitems => exact absurd rfl (hv _)

/-- **The order of options has no influence on what is read.** -/
theorem ofNative?_sameDescription : ∀ {depth : Nat} {v v' : Value} {read : Option Validator},
    SameDescription depth v v' → ofNative? v = .ok read →
    ∃ read', ofNative? v' = .ok read' ∧ Option.Rel (Alike (SameDescription depth)) read read'
  | 0, v, _, read, h, hread => by
    rw [show _ = v from h]
    exact ⟨read, hread, Option.Rel.refl .same read⟩
  | depth + 1, v, v', read, h, hread => by
    -- What lies inside the two objects is the same to a smaller depth.
    have h : v.Reordered (SameOption (SameDescription depth)) v' := h
    cases h with
    | same => exact ⟨read, hread, Option.Rel.refl .same read⟩
    | object hmembers =>
      obtain ⟨w, rfl, hw⟩ := ofNative?_object_iff.mp hread
      obtain ⟨w', hw', halike⟩ :=
        describes_sameDescription hmembers (fun _ _ _ => ofNative?_sameDescription) hw
      exact ⟨some w', ofNative?_object_iff.mpr ⟨w', rfl, hw'⟩, .some halike⟩

/-! ## 4. Types -/

/-- `SameType D x x'` — two results are the same text, or errors on like validators. -/
inductive SameType (D : Value → Value → Prop) :
    Except Untranslatable String → Except Untranslatable String → Prop where
  | text (s : String) : SameType D (.ok s) (.ok s)
  | error {e e' : Untranslatable} (h : Alike D e.blamed e'.blamed) :
    SameType D (.error e) (.error e')

theorem SameType.map {D : Value → Value → Prop} {x x' : Except Untranslatable String}
    (h : SameType D x x') (f : String → String) :
    SameType D (x >>= fun s => pure (f s)) (x' >>= fun s => pure (f s)) := by
  cases h with
  | text s => exact .text (f s)
  | error h => exact .error h

/-- **Like validators have the same type, or none.** -/
theorem Alike.sameType {D : Value → Value → Prop} {v v' : Validator} (sequence : String)
    (h : Alike D v v') : SameType D (v.typeText sequence) (v'.typeText sequence) := by
  fun_induction Validator.typeText sequence v generalizing v' with
  | case1 name => rw [named_iff.mp h]; exact .text _
  | case2 names => rw [oneOfTypes_iff.mp h]; exact .text _
  | case3 values => rw [oneOfValues_iff.mp h]; exact .text _
  | case4 item ih =>
    obtain ⟨item', rfl, hitem⟩ := sequence_iff.mp h
    rw [Validator.typeText, if_pos rfl]
    exact (ih hitem).map fun itemType => sequence ++ "<" ++ itemType ++ ">"
  | case5 marker item hmarker =>
    obtain ⟨item', rfl, _⟩ := sequence_iff.mp h
    rw [Validator.typeText, if_neg hmarker]
    exact .error h
  | case6 values =>
    rw [texts_iff.mp h, Validator.typeText, if_pos rfl]
    exact .text _
  | case7 marker values hmarker =>
    obtain rfl := texts_iff.mp h
    rw [Validator.typeText, if_neg hmarker]
    exact .error h
  | case8 v hnamed htypes hvalues hsequence htexts =>
    -- No shape that has a type or hides another validator has a like of another shape.
    have hblamed : v'.typeText sequence = .error ⟨v'⟩ := by
      unfold Validator.typeText
      split
      · exact (hnamed _ (named_iff.mp h.flip)).elim
      · exact (htypes _ (oneOfTypes_iff.mp h.flip)).elim
      · exact (hvalues _ (oneOfValues_iff.mp h.flip)).elim
      · obtain ⟨item, hv, _⟩ := sequence_iff.mp h.flip
        exact (hsequence _ item hv).elim
      · exact (htexts _ _ (texts_iff.mp h.flip)).elim
      · rfl
    rw [hblamed]
    exact .error h

end Validator

end NodeSchema
