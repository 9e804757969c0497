import NodeSchema.Json.Reader
import NodeSchema.Proofs.Stages
/-!
# Values without repeated keys

An object is held as a list of members, so that nothing in the type keeps two members from having
one key. No decoded value is like that. `distinctKeys` says so of a value and of everything inside
it, and is what a statement about documents asks for when it speaks of *the* member under a key.

* `distinctKeys_list_iff`, `distinctKeys_object_iff` — the property by the parts of a value.
* `step_isTidy` — one step of the JSON reader keeps it, for everything on its stack.
* `read_distinctKeys` — so whatever the reader gives has it.
-/

namespace NodeSchema.Value

/-! ## 1. The property -/

mutual

/-- Whether no object in a value has two members under one key. -/
def distinctKeys : Value → Bool
  | .list items => distinctKeysItems items
  | .object members => decide (members.map Prod.fst).Nodup && distinctKeysMembers members
  | _ => true

def distinctKeysItems : List Value → Bool
  | [] => true
  | v :: rest => distinctKeys v && distinctKeysItems rest

def distinctKeysMembers : List (String × Value) → Bool
  | [] => true
  | (_, v) :: rest => distinctKeys v && distinctKeysMembers rest

end

theorem distinctKeysItems_iff {items : List Value} :
    distinctKeysItems items = true ↔ ∀ v ∈ items, v.distinctKeys = true := by
  induction items with
  | nil => simp [distinctKeysItems]
  | cons v rest ih => simp [distinctKeysItems, ih]

theorem distinctKeysMembers_iff {members : List (String × Value)} :
    distinctKeysMembers members = true ↔ ∀ e ∈ members, e.2.distinctKeys = true := by
  induction members with
  | nil => simp [distinctKeysMembers]
  | cons e rest ih => simp [distinctKeysMembers, ih]

theorem distinctKeys_list_iff {items : List Value} :
    (Value.list items).distinctKeys = true ↔ ∀ v ∈ items, v.distinctKeys = true := by
  rw [distinctKeys, distinctKeysItems_iff]

/-- An object has distinct keys on all levels if it has on its own and its members have on
theirs. -/
theorem distinctKeys_object_iff {members : List (String × Value)} :
    (Value.object members).distinctKeys = true ↔
      (members.map Prod.fst).Nodup ∧ ∀ e ∈ members, e.2.distinctKeys = true := by
  rw [distinctKeys, Bool.and_eq_true, decide_eq_true_iff, distinctKeysMembers_iff]

/-- What stands under a key of a value without repeated keys has none either. -/
theorem distinctKeys_of_lookupEntry {members : List (String × Value)} {key : String} {v : Value}
    (h : (Value.object members).distinctKeys = true) (hv : lookupEntry key members = some v) :
    v.distinctKeys = true :=
  (distinctKeys_object_iff.mp h).2 _ (mem_of_lookupEntry hv)

end NodeSchema.Value

namespace NodeSchema.Json

/-! ## 2. The reader gives no other values -/

/-- Whether what an open container holds so far has no repeated keys. -/
def Frame.IsTidy : Frame → Prop
  | .list items => ∀ v ∈ items, v.distinctKeys = true
  | .object members _ => (Value.object members).distinctKeys = true

/-- Whether nothing that the reader holds has repeated keys. -/
structure State.IsTidy (s : State) : Prop where
  stack : ∀ f ∈ s.stack, f.IsTidy
  document : ∀ v, s.expect = .nothing v → v.distinctKeys = true

/-- A member with a new value keeps an object tidy, whether its key is new or not. -/
theorem distinctKeys_insertEntry {members : List (String × Value)} {key : String} {v : Value}
    (hm : (Value.object members).distinctKeys = true) (hv : v.distinctKeys = true) :
    (Value.object (insertEntry key v members)).distinctKeys = true := by
  obtain ⟨hkeys, hvalues⟩ := Value.distinctKeys_object_iff.mp hm
  refine Value.distinctKeys_object_iff.mpr ⟨nodup_keys_insertEntry key v hkeys, fun e he => ?_⟩
  rcases mem_insertEntry he with rfl | he
  · exact hv
  · exact hvalues e he

/-- A complete value finds its place in tidy frames. -/
theorem complete_isTidy {stack : List Frame} {v : Value} (hs : ∀ f ∈ stack, f.IsTidy)
    (hv : v.distinctKeys = true) : (State.complete stack v).IsTidy := by
  cases stack with
  | nil => exact ⟨hs, by rintro w ⟨⟩; exact hv⟩
  | cons f outer =>
    obtain ⟨hf, houter⟩ := List.forall_mem_cons.mp hs
    cases f with
    | list items =>
      exact ⟨List.forall_mem_cons.mpr ⟨List.forall_mem_cons.mpr ⟨hv, hf⟩, houter⟩,
        by rintro w ⟨⟩⟩
    | object members key =>
      exact ⟨List.forall_mem_cons.mpr ⟨distinctKeys_insertEntry hf hv, houter⟩, by rintro w ⟨⟩⟩

/-- A lexeme that is a value by itself is no object. -/
theorem distinctKeys_of_value? {l : Lexeme} {v : Value} (h : l.value? = some v) :
    v.distinctKeys = true := by
  cases l <;> simp only [Lexeme.value?] at h <;> cases h <;> rfl

theorem startValue_isTidy {stack : List Frame} {l : Lexeme} {s : State}
    (h : State.startValue stack l = .ok s) (hs : ∀ f ∈ stack, f.IsTidy) : s.IsTidy := by
  unfold State.startValue at h
  split at h
  · cases h
    exact ⟨List.forall_mem_cons.mpr ⟨by simp [Frame.IsTidy], hs⟩, by rintro w ⟨⟩⟩
  · cases h
    exact ⟨List.forall_mem_cons.mpr ⟨by rfl, hs⟩, by rintro w ⟨⟩⟩
  · cases h
  · split at h
    · next v hv => cases h; exact complete_isTidy hs (distinctKeys_of_value? hv)
    · cases h

theorem startMember_isTidy {stack : List Frame} {l : Lexeme} {s : State}
    (h : State.startMember stack l = .ok s) (hs : ∀ f ∈ stack, f.IsTidy) : s.IsTidy := by
  unfold State.startMember at h
  split at h
  · cases h
    obtain ⟨hf, houter⟩ := List.forall_mem_cons.mp hs
    exact ⟨List.forall_mem_cons.mpr ⟨hf, houter⟩, by rintro w ⟨⟩⟩
  all_goals cases h

theorem follow_isTidy {stack : List Frame} {l : Lexeme} {s : State}
    (h : State.follow stack l = .ok s) (hs : ∀ f ∈ stack, f.IsTidy) : s.IsTidy := by
  unfold State.follow at h
  split at h
  · cases h
    exact ⟨hs, by rintro w ⟨⟩⟩
  · cases h
    obtain ⟨hf, houter⟩ := List.forall_mem_cons.mp hs
    exact ⟨List.forall_mem_cons.mpr ⟨hf, houter⟩, by rintro w ⟨⟩⟩
  · cases h
    obtain ⟨hf, houter⟩ := List.forall_mem_cons.mp hs
    refine complete_isTidy houter (Value.distinctKeys_list_iff.mpr fun v hv => ?_)
    exact hf v (List.mem_reverse.mp hv)
  · cases h
    obtain ⟨hf, houter⟩ := List.forall_mem_cons.mp hs
    exact complete_isTidy houter hf
  · cases h

/-- One step of the reader keeps everything that it holds free of repeated keys. -/
theorem step_isTidy {s s' : State} {l : Lexeme} (h : s.step l = .ok s') (hs : s.IsTidy) :
    s'.IsTidy := by
  unfold State.step at h
  split at h
  · exact startValue_isTidy h hs.stack
  · split at h
    · exact follow_isTidy h hs.stack
    · exact startValue_isTidy h hs.stack
  · split at h
    · exact follow_isTidy h hs.stack
    · exact startMember_isTidy h hs.stack
  · exact startMember_isTidy h hs.stack
  · split at h
    · cases h
      exact ⟨hs.stack, by rintro w ⟨⟩⟩
    · cases h
  · exact follow_isTidy h hs.stack
  · cases h

/-- The value that tidy frames leave in the end has distinct keys. -/
theorem finish_distinctKeys {s : State} {v : Value} (h : s.finish = .ok v) (hs : s.IsTidy) :
    v.distinctKeys = true := by
  unfold State.finish at h
  split at h
  all_goals cases h
  exact hs.document _ ‹_›

/-- A whole run from a tidy state ends in a value without repeated keys. -/
theorem readFrom_distinctKeys {limit : Option Nat} {v : Value} :
    ∀ (text : List Char) {s : State} {offset skip : Nat}, s.IsTidy →
      readFrom limit s offset skip text = .ok v → v.distinctKeys = true
  | [], s, offset, skip, hs, h => by
    rw [readFrom, mapError_eq_ok_iff] at h
    exact finish_distinctKeys h hs
  | c :: rest, s, offset, skip + 1, hs, h => by
    rw [readFrom] at h
    exact readFrom_distinctKeys rest hs h
  | c :: rest, s, offset, 0, hs, h => by
    rw [readFrom] at h
    simp only at h
    split at h
    · exact readFrom_distinctKeys rest hs h
    · split at h
      · cases h
      · next hstep => exact readFrom_distinctKeys rest (step_isTidy hstep hs) h

/-- **No document that the reader gives has a repeated key.** -/
theorem read_distinctKeys {limit : Option Nat} {text : List Char} {v : Value}
    (h : read limit text = .ok v) : v.distinctKeys = true := by
  have start : State.start.IsTidy := ⟨by simp [State.start], by rintro w ⟨⟩⟩
  unfold read at h
  split at h
  · split at h
    · cases h
    · exact readFrom_distinctKeys _ start h
  · exact readFrom_distinctKeys _ start h

end NodeSchema.Json
