import NodeSchema.Proofs.Validator.Canonical
import NodeSchema.Proofs.Validator.Reordering
/-!
# When a description is refused

The reading of a description goes from an object into the value of its winning option, if that is
the one for items, and into all items of a list under the winning option for chains. It is refused
exactly when this walk comes to an object in which an option wins that needs a list and has none,
and the first such object on the walk decides the error. What stands under options that lose is not
walked through, so it makes no difference; the order of the options makes none but in what is kept.

* `Rule.Wins`, `Rule.deciding?_eq_some_iff` — the winning option.
* `walk`, `Faulty` — the way through a description, and where it ends.
* `errorOf?_ofNative?`, `ofNative?_eq_error_iff` — the error is the first fault on the walk.
* `ofNative?_sameWinners`, `firstFault?_sameDescription` — what makes no difference.
* `refused_at_first_fault` — all of it.
-/

namespace NodeSchema.Validator

/-! ## 1. The winning option -/

namespace Rule

def before (r : Rule) : List Rule := byPrecedence.takeWhile (· ≠ r)

/-- `Wins members r v` — of the options that are given a truthy value, `r` is the first, and `v` is
its value. -/
structure Wins (members : List (String × Value)) (r : Rule) (v : Value) : Prop where
  given : r.given? members = some v
  first : ∀ r' ∈ r.before, r'.given? members = none

theorem exists_byPrecedence_eq (r : Rule) : ∃ after, byPrecedence = r.before ++ r :: after := by
  cases r <;> exact ⟨_, rfl⟩

theorem before_eq {r : Rule} {l after : List Rule} (h : byPrecedence = l ++ r :: after) :
    r.before = l := by
  have hnodup : (l ++ r :: after).Nodup := h ▸ (by decide : byPrecedence.Nodup)
  have hl : ∀ r' ∈ l, decide (r' ≠ r) = true := by
    intro r' hr'
    rw [decide_eq_true_iff]
    intro hrr
    subst hrr
    exact (List.nodup_append.mp hnodup).2.2 r' hr' r' List.mem_cons_self rfl
  rw [before, h, List.takeWhile_append_of_pos hl]
  simp

/-- The deciding option is the one that wins. -/
theorem deciding?_eq_some_iff {members : List (String × Value)} {r : Rule} {v : Value} :
    deciding? members = some (r, v) ↔ Wins members r v := by
  rw [deciding?, List.findSome?_eq_some_iff]
  constructor
  · intro h
    obtain ⟨l, r', after, hl, hr', hfirst⟩ := h
    obtain ⟨w, hw, heq⟩ := Option.map_eq_some_iff.mp hr'
    cases heq
    refine ⟨hw, ?_⟩
    rw [before_eq hl]
    exact fun r' hr' => Option.map_eq_none_iff.mp (hfirst r' hr')
  · intro h
    obtain ⟨after, hafter⟩ := r.exists_byPrecedence_eq
    refine ⟨r.before, r, after, hafter, by rw [h.given]; rfl, fun r' hr' => ?_⟩
    rw [h.first r' hr']
    rfl

def needsList : Rule → Bool
  | .oneOfNodeTypes => true
  | .oneOfNodeOrValueTypes => true
  | .oneOf => true
  | _ => false

end Rule

/-! ## 2. Reading by the winning option -/

section

variable {members : List (String × Value)} {v : Value}

/-- What a list under an option describes. -/
def ofListed (r : Rule) (items : List Value) : Validator :=
  if r = .oneOf then .oneOfValues items else .oneOfTypes (items.map Value.name)

/-- Where the name of a type decides, nothing is refused. -/
theorem ofNative?_type (h : Rule.deciding? members = some (.type, v)) :
    ofNative? (.object members) = .ok (some (.named v.name)) := by
  rw [ofNative?, h]

/-- Where a list is needed, nothing is refused in the list itself. -/
theorem ofNative?_needsList {r : Rule} (hr : r.needsList = true)
    (h : Rule.deciding? members = some (r, v)) :
    ofNative? (.object members) = (listOf r v).map fun items => some (ofListed r items) := by
  rw [ofNative?, h]
  cases r <;> cases hr <;> (dsimp only; cases listOf _ v <;> rfl)

/-- Where a validator for items decides, it is read in its turn. -/
theorem ofNative?_each (h : Rule.deciding? members = some (.each, v)) :
    ofNative? (.object members) = (ofNative? v).map fun read => some (.each (nested read)) := by
  rw [ofNative?, h]
  dsimp only
  rw [ofEach_of_lookupEntry (Rule.lookupEntry_of_deciding? h)]
  cases ofNative? v <;> rfl

/-- Where a chain decides, its links are read in their order. -/
theorem ofNative?_chain {items : List Value}
    (h : Rule.deciding? members = some (.chainOf, .list items)) :
    ofNative? (.object members) =
      (items.mapM fun v => (ofNative? v).map nested).map fun links => some (.chain links) := by
  rw [ofNative?, h]
  dsimp only
  rw [ofChain_of_lookupEntry (Rule.lookupEntry_of_deciding? h), ofLinks_eq_mapM]
  cases items.mapM fun v => (ofNative? v).map nested <;> rfl

/-- What is no list under the option for chains is kept with its object. -/
theorem ofNative?_noChain (h : Rule.deciding? members = some (.chainOf, v))
    (hv : v.isList = false) :
    ofNative? (.object members) = .ok (some (.unknown (.object members))) :=
  ofNative?_of_describes (.noChain h fun items hitems => by rw [hitems] at hv; cases hv)

end

/-! ## 3. The walk -/

/-- The descriptions in the value of a winning option. -/
def Rule.entered : Rule → Value → List Value
  | .each, v => [v]
  | .chainOf, .list items => items
  | _, _ => []

/-- The descriptions that the reading of a description goes into. -/
def inside : Value → List Value
  | .object members => (Rule.deciding? members).elim [] fun p => p.1.entered p.2
  | _ => []

theorem inside_undecided {members : List (String × Value)} (h : Rule.deciding? members = none) :
    inside (.object members) = [] := by
  simp [inside, h]

/-- Of an object, nothing is entered but what decides. -/
theorem inside_decided {members : List (String × Value)} {r : Rule} {v : Value}
    (h : Rule.deciding? members = some (r, v)) : inside (.object members) = r.entered v := by
  simp [inside, h]

theorem Rule.entered_of_needsList {r : Rule} (h : r.needsList = true) (v : Value) :
    r.entered v = [] := by
  cases r <;> first | rfl | cases h

theorem Rule.entered_noChain {v : Value} (h : v.isList = false) : Rule.chainOf.entered v = [] := by
  cases v <;> first | rfl | cases h

theorem sizeOf_lt_of_mem_inside {v w : Value} (h : w ∈ inside v) : sizeOf w < sizeOf v := by
  cases v with
  | object members =>
    rw [Value.object.sizeOf_spec]
    cases hd : Rule.deciding? members with
    | none => rw [inside_undecided hd] at h; cases h
    | some p =>
      obtain ⟨r, v⟩ := p
      rw [inside_decided hd] at h
      have hlookup := Rule.lookupEntry_of_deciding? hd
      unfold Rule.entered at h
      split at h
      · have hlt := sizeOf_lt_of_lookupEntry hlookup
        rw [List.mem_singleton.mp h]
        omega
      · have hlt := sizeOf_lt_of_lookupEntry_list hlookup h
        omega
      · cases h
  | _ => cases h

/-- The descriptions that the reading of a description comes to: the description itself, and then
those that it goes into, one after the other and each with all that is inside it. -/
def walk (v : Value) : List Value := v :: (inside v).attach.flatMap fun w => walk w.1
termination_by sizeOf v
decreasing_by exact sizeOf_lt_of_mem_inside w.2

/-- A value comes before what is inside it. -/
theorem walk_eq (v : Value) : walk v = v :: (inside v).flatMap walk := by
  rw [walk]
  simp

/-- `Faulty v r` — an option wins that needs a list, with a value that is none. -/
def Faulty (v : Value) (r : Rule) : Prop :=
  ∃ members w, v = .object members ∧ Rule.Wins members r w ∧ r.needsList = true ∧ w.isList = false

def fault? : Value → Option Rule
  | .object members =>
    (Rule.deciding? members).bind fun p =>
      if p.1.needsList && !p.2.isList then some p.1 else none
  | _ => none

theorem fault?_undecided {members : List (String × Value)} (h : Rule.deciding? members = none) :
    fault? (.object members) = none := by
  simp [fault?, h]

theorem fault?_decided {members : List (String × Value)} {r : Rule} {v : Value}
    (h : Rule.deciding? members = some (r, v)) :
    fault? (.object members) = if r.needsList && !v.isList then some r else none := by
  simp [fault?, h]

theorem fault?_eq_some_iff {v : Value} {r : Rule} : fault? v = some r ↔ Faulty v r := by
  unfold fault? Faulty
  split
  · next members =>
    simp only [Value.object.injEq, Option.bind_eq_some_iff, Prod.exists,
      Rule.deciding?_eq_some_iff, Option.ite_none_right_eq_some, Option.some.injEq,
      Bool.and_eq_true, Bool.not_eq_true']
    constructor
    · intro h
      obtain ⟨r', w, hw, hfault, rfl⟩ := h
      exact ⟨members, w, rfl, hw, hfault⟩
    · intro h
      obtain ⟨_, w, rfl, hw, hfault⟩ := h
      exact ⟨r, w, hw, hfault, rfl⟩
  · next hv =>
    simp only [reduceCtorEq, false_iff]
    intro h
    obtain ⟨members, _, rfl, _⟩ := h
    exact hv members rfl

theorem fault?_eq_none_iff {v : Value} : fault? v = none ↔ ∀ r, ¬ Faulty v r := by
  rw [Option.eq_none_iff_forall_ne_some]
  exact forall_congr' fun r => not_congr fault?_eq_some_iff

def firstFault? (v : Value) : Option Rule := (walk v).findSome? fault?

/-- The first fault in several values is that of the first one that has any. -/
theorem findSome?_flatMap_walk (items : List Value) :
    (items.flatMap walk).findSome? fault? = items.findSome? firstFault? := by
  induction items with
  | nil => rfl
  | cons v rest ih =>
    rw [List.flatMap_cons, List.findSome?_append, ih, List.findSome?_cons, firstFault?]
    cases (walk v).findSome? fault? <;> rfl

/-- An object comes before what is inside it. -/
theorem firstFault?_eq (v : Value) :
    firstFault? v = (fault? v).or ((inside v).findSome? firstFault?) := by
  rw [firstFault?, walk_eq, List.findSome?_cons, findSome?_flatMap_walk]
  cases fault? v <;> rfl

/-! ## 4. The error -/

theorem errorOf?_listOf (r : Rule) (v : Value) :
    errorOf? (listOf r v) = if v.isList then none else some (.notList r) := by
  cases v <;> rfl

/-- An object with a deciding option is at fault itself, or has the error of what is inside it. -/
theorem errorOf?_decided {members : List (String × Value)} {r : Rule} {v : Value}
    (h : Rule.deciding? members = some (r, v)) :
    errorOf? (ofNative? (.object members)) =
      if r.needsList && !v.isList then some (.notList r)
      else (r.entered v).findSome? fun w => errorOf? (ofNative? w) := by
  by_cases hr : r.needsList = true
  · rw [ofNative?_needsList hr h, errorOf?_map, errorOf?_listOf, Rule.entered_of_needsList hr]
    cases v.isList <;> simp [hr]
  · rw [if_neg (by simp [hr])]
    cases r with
    | type => rw [ofNative?_type h]; rfl
    | each =>
      rw [ofNative?_each h, errorOf?_map]
      simp [Rule.entered]
    | chainOf =>
      cases hv : v.isList with
      | true =>
        obtain ⟨items, rfl⟩ : ∃ items, v = .list items := by
          cases v <;> first | exact ⟨_, rfl⟩ | cases hv
        rw [ofNative?_chain h, errorOf?_map, errorOf?_mapM, Rule.entered]
        simp only [errorOf?_map]
      | false =>
        rw [ofNative?_noChain h hv, Rule.entered_noChain hv]
        rfl
    | _ => exact absurd rfl hr

/-- A description is at fault itself, or has the error of what is inside it. -/
theorem errorOf?_step (v : Value) :
    errorOf? (ofNative? v) =
      ((fault? v).map .notList).or ((inside v).findSome? fun w => errorOf? (ofNative? w)) := by
  cases v with
  | object members =>
    cases hd : Rule.deciding? members with
    | none =>
      rw [ofNative?_of_describes (.undecided hd), fault?_undecided hd, inside_undecided hd]
      rfl
    | some p =>
      obtain ⟨r, w⟩ := p
      rw [errorOf?_decided hd, fault?_decided hd, inside_decided hd]
      split <;> rfl
  | null => simp [ofNative?, fault?, inside]
  | _ => rw [ofNative?_plain rfl rfl]; rfl

/-- **The error of a description is the first fault on the walk through it.** -/
theorem errorOf?_ofNative? (p : Value) :
    errorOf? (ofNative? p) = (firstFault? p).map .notList := by
  have hinside : ((inside p).findSome? fun w => errorOf? (ofNative? w)) =
      ((inside p).findSome? firstFault?).map .notList := by
    rw [List.map_findSome?]
    exact findSome?_eq_of_forall₂ (List.forall₂_same.mpr fun w hw => errorOf?_ofNative? w)
  rw [errorOf?_step, hinside, firstFault?_eq]
  cases fault? p <;> rfl
termination_by sizeOf p
decreasing_by exact sizeOf_lt_of_mem_inside hw

/-- **A description is refused exactly when there is a fault on the walk through it**, and the
first fault on the walk decides the error. -/
theorem ofNative?_eq_error_iff {p : Value} {e : NativeError} :
    ofNative? p = .error e ↔
      ∃ before v after r, walk p = before ++ v :: after ∧ (∀ w ∈ before, ∀ r, ¬ Faulty w r) ∧
        Faulty v r ∧ e = .notList r := by
  rw [← errorOf?_eq_some_iff, errorOf?_ofNative?, Option.map_eq_some_iff]
  simp only [firstFault?, List.findSome?_eq_some_iff, fault?_eq_some_iff, fault?_eq_none_iff]
  constructor
  · intro h
    obtain ⟨r, ⟨before, v, after, hwalk, hfault, hbefore⟩, rfl⟩ := h
    exact ⟨before, v, after, r, hwalk, hbefore, hfault, rfl⟩
  · intro h
    obtain ⟨before, v, after, r, hwalk, hbefore, hfault, rfl⟩ := h
    exact ⟨r, ⟨before, v, after, hwalk, hfault, hbefore⟩, rfl⟩

/-! ## 5. What makes no difference -/

/-- `SameWinners depth v v'` — the two descriptions are the same, or objects in which the same
option wins, with the same value, or with related descriptions in it if the reading goes into it.
The options that lose are free, except in an object that is kept as it is; what lies `depth` objects
deep is the same in both. -/
def SameWinners : Nat → Value → Value → Prop
  | 0, v, v' => v' = v
  | depth + 1, v, v' => v' = v ∨
    ∃ members members' r w w', v = .object members ∧ v' = .object members' ∧
      Rule.Wins members r w ∧ Rule.Wins members' r w' ∧ (r = .chainOf → w.isList = true) ∧
      SameOption (SameWinners depth) r.key w w'

/-- **Options that lose make no difference**, whatever they are given. -/
theorem ofNative?_sameWinners : ∀ {depth : Nat} {v v' : Value}, SameWinners depth v v' →
    ofNative? v' = ofNative? v
  | 0, _, _, h => by rw [show _ = _ from h]
  | depth + 1, v, v', h => by
    have h : v' = v ∨ _ := h
    rcases h with rfl | ⟨members, members', r, w, w', rfl, rfl, hw, hw', hlist, hsame⟩
    · rfl
    have hd := Rule.deciding?_eq_some_iff.mpr hw
    have hd' := Rule.deciding?_eq_some_iff.mpr hw'
    by_cases hr : r.needsList = true
    · have hsame : w' = w := by cases r <;> first | exact hsame | cases hr
      rw [ofNative?_needsList hr hd, ofNative?_needsList hr hd', hsame]
    · cases r with
      | type =>
        have hsame : w' = w := hsame
        rw [ofNative?_type hd, ofNative?_type hd', hsame]
      | each =>
        have hsame : SameWinners depth w w' := hsame
        rw [ofNative?_each hd, ofNative?_each hd', ofNative?_sameWinners hsame]
      | chainOf =>
        have hsame : Value.SameItems (SameWinners depth) w w' := hsame
        have hlist := hlist rfl
        cases hsame with
        | same =>
          cases w with
          | list items => rw [ofNative?_chain hd, ofNative?_chain hd']
          | _ => cases hlist
        | items hitems =>
          rw [ofNative?_chain hd, ofNative?_chain hd', mapM_eq_of_forall₂]
          exact hitems.imp fun _ _ hv => by rw [ofNative?_sameWinners hv]
      | _ => exact absurd rfl hr

section

variable {depth : Nat} {members members' : List (String × Value)}

/-- Two objects with the same description have the same fault of their own. -/
theorem fault?_sameDescription
    (h : SameEntries (SameOption (SameDescription depth)) members members') :
    fault? (.object members') = fault? (.object members) := by
  cases hd : Rule.deciding? members with
  | none =>
    have hd' := (Rule.deciding?_sameDescription h).eq_none hd
    rw [fault?_undecided hd, fault?_undecided hd']
  | some p =>
    obtain ⟨r, v⟩ := p
    obtain ⟨v', hd', hsame⟩ := Rule.exists_deciding? h hd
    rw [fault?_decided hd, fault?_decided hd']
    -- An option that needs a list has the same value in both.
    cases r <;> first | rfl | rw [show v' = v from hsame]

/-- What is inside of two such objects has the same description, one by one. -/
theorem inside_sameDescription
    (h : SameEntries (SameOption (SameDescription depth)) members members') :
    List.Forall₂ (SameDescription depth) (inside (.object members))
      (inside (.object members')) := by
  cases hd : Rule.deciding? members with
  | none =>
    have hd' := (Rule.deciding?_sameDescription h).eq_none hd
    rw [inside_undecided hd, inside_undecided hd']
    exact .nil
  | some p =>
    obtain ⟨r, v⟩ := p
    obtain ⟨v', hd', hv⟩ := Rule.exists_deciding? h hd
    rw [inside_decided hd, inside_decided hd']
    cases r with
    | each => exact .cons hv .nil
    | chainOf =>
      have hv : Value.SameItems (SameDescription depth) v v' := hv
      cases hv with
      | same => exact List.forall₂_same.mpr fun v _ => .refl depth v
      | items hitems => exact hitems
    | _ => exact .nil

end

/-- The order of options has no influence on the first fault. -/
theorem firstFault?_sameDescription : ∀ {depth : Nat} {v v' : Value}, SameDescription depth v v' →
    firstFault? v' = firstFault? v
  | 0, _, _, h => by rw [show _ = _ from h]
  | depth + 1, v, v', h => by
    have h : v.Reordered (SameOption (SameDescription depth)) v' := h
    cases h with
    | same => rfl
    | object hmembers =>
      have hinside := (inside_sameDescription hmembers).imp fun _ _ => firstFault?_sameDescription
      rw [firstFault?_eq, firstFault?_eq, fault?_sameDescription hmembers,
        findSome?_eq_of_forall₂ hinside]

/-! ## 6. Refusal -/

/-- **A description is refused at its first fault.** The reading fails exactly when the walk through
a description comes to an object in which an option wins that needs a list and has none, and the
first such object on the walk decides the error, which names that option. An option for chains that
wins with anything but a list is no fault. The values of options that lose, however malformed, make
no difference at all, and the order of the options makes none to the error; without an error it
makes none but in the order of the options in objects that are kept as they are. -/
theorem refused_at_first_fault (p : Value) :
    (∀ e, ofNative? p = .error e ↔
      ∃ before v after r, walk p = before ++ v :: after ∧ (∀ w ∈ before, ∀ r, ¬ Faulty w r) ∧
        Faulty v r ∧ e = .notList r) ∧
    (∀ r, ∃ needed, (NativeError.notList r).message =
      "validator field '" ++ r.key ++ "' must be a list of " ++ needed) ∧
    (∀ members w, p = .object members → Rule.Wins members .chainOf w → w.isList = false →
      ofNative? p = .ok (some (.unknown p))) ∧
    (∀ depth p', SameWinners depth p p' → ofNative? p' = ofNative? p) ∧
    (∀ depth p', SameDescription depth p p' →
      errorOf? (ofNative? p') = errorOf? (ofNative? p) ∧
      ∀ read, ofNative? p = .ok read → ∃ read', ofNative? p' = .ok read' ∧
        Option.Rel (Alike (SameDescription depth)) read read') := by
  refine ⟨fun e => ofNative?_eq_error_iff, fun r => ⟨_, rfl⟩, ?_, fun depth p' =>
    ofNative?_sameWinners, fun depth p' h => ⟨?_, fun read => ofNative?_sameDescription h⟩⟩
  · intro members w hp hw hlist
    subst hp
    exact ofNative?_noChain (Rule.deciding?_eq_some_iff.mpr hw) hlist
  · rw [errorOf?_ofNative?, errorOf?_ofNative?, firstFault?_sameDescription h]

end NodeSchema.Validator
