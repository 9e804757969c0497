import NodeSchema.AliasMap
import NodeSchema.Proofs.Occurrences
/-!
# What an alias map holds after any run

An alias map is filled by calls, each of which records a kind under a list of aliases. What it holds
afterwards is read off the calls: the aliases are their first occurrences, and the members of an
alias are the kinds of the calls that mention it.

* `members_recordOne`, `members_record` — what one call does to the members of an alias.
* `keys_ofCalls`, `members_ofCalls` — what is there after a run.
* `record_of_mem` — a call that has nothing to add leaves the map as it is.
* `run_holds_mentions` — what is there after a run, and that no call has to be repeated.
-/

namespace NodeSchema.AliasMap

/-! ## 1. One call -/

/-- A member that is listed is not listed again. -/
theorem addMember_of_mem {kind : String} {members : List String} (h : kind ∈ members) :
    addMember kind members = members := by
  rw [addMember, if_pos h]

theorem mem_addMember (kind : String) (members : List String) : kind ∈ addMember kind members := by
  unfold addMember
  split
  · assumption
  · simp

/-- Members that are the first occurrences of a list stay so. -/
theorem addMember_eraseDups (kind : String) (l : List String) :
    addMember kind l.eraseDups = (l ++ [kind]).eraseDups := by
  rw [eraseDups_concat, addMember]
  simp only [List.mem_eraseDups]

/-- A mention changes the members of its group alone. -/
theorem members_recordOne (m : AliasMap) (kind group other : String) :
    (m.recordOne kind group).members other =
      if group = other then addMember kind (m.members other) else m.members other := by
  show ((m.insert group (addMember kind (m.members group))).get? other).getD [] = _
  rw [Table.get?_insert]
  split
  · next h => rw [h]; rfl
  · rfl

/-- A call adds its kind to the aliases that it mentions, however often it mentions them. -/
theorem members_record (m : AliasMap) (kind : String) (aliases : List String) (group : String) :
    (m.record kind aliases).members group =
      if group ∈ aliases then addMember kind (m.members group) else m.members group := by
  induction aliases generalizing m with
  | nil => simp [record]
  | cons first rest ih =>
    have hstep : m.record kind (first :: rest) = (m.recordOne kind first).record kind rest := rfl
    rw [hstep, ih, members_recordOne]
    by_cases hfirst : first = group
    · subst hfirst
      by_cases hrest : first ∈ rest
      · simp [hrest, addMember_of_mem (mem_addMember kind (m.members first))]
      · simp [hrest]
    · have hne : ¬ group = first := fun h => hfirst h.symm
      simp [hfirst, hne]

/-- Aliases that are the first occurrences of what has been mentioned stay so. -/
theorem keys_record {m : AliasMap} {mentioned : List String}
    (h : m.keys = mentioned.eraseDups) (kind : String) (aliases : List String) :
    (m.record kind aliases).keys = (mentioned ++ aliases).eraseDups := by
  induction aliases generalizing m mentioned with
  | nil => rw [List.append_nil]; exact h
  | cons first rest ih =>
    have hstep : m.record kind (first :: rest) = (m.recordOne kind first).record kind rest := rfl
    have hfirst : (m.recordOne kind first).keys = (mentioned ++ [first]).eraseDups := by
      show (m.insert first _).keys = _
      rw [Table.keys_insert, h, eraseDups_concat]
      simp only [List.mem_eraseDups]
    rw [hstep, ih hfirst, List.append_assoc, List.singleton_append]

/-! ## 2. A run -/

/-- The map after calls, each with a kind and a list of aliases. -/
def ofCalls (calls : List (String × List String)) : AliasMap :=
  calls.foldl (fun m call => m.record call.1 call.2) ∅

theorem ofCalls_concat (calls : List (String × List String)) (call : String × List String) :
    ofCalls (calls ++ [call]) = (ofCalls calls).record call.1 call.2 := by
  unfold ofCalls
  rw [List.foldl_append]
  rfl

/-- After a run the aliases stand in the order of their first mention. -/
theorem keys_ofCalls (calls : List (String × List String)) :
    (ofCalls calls).keys = (calls.flatMap Prod.snd).eraseDups := by
  induction calls using List.reverseRecOn with
  | nil => rfl
  | append_singleton rest call ih =>
    rw [ofCalls_concat, keys_record ih, List.flatMap_append, List.flatMap_singleton]

/-- After a run the members of an alias are the kinds of the calls that mention it, in the order of
their first such call. -/
theorem members_ofCalls (calls : List (String × List String)) (group : String) :
    (ofCalls calls).members group =
      ((calls.filter fun call => group ∈ call.2).map Prod.fst).eraseDups := by
  induction calls using List.reverseRecOn with
  | nil => rfl
  | append_singleton rest call ih =>
    rw [ofCalls_concat, members_record, ih, List.filter_append, List.map_append]
    by_cases h : group ∈ call.2
    · simp [h, addMember_eraseDups]
    · simp [h]

/-! ## 3. Calls that have been made -/

/-- A kind that is a member of an alias has been recorded there. -/
theorem recordOne_of_mem {m : AliasMap} {kind group : String} (h : kind ∈ m.members group) :
    m.recordOne kind group = m := by
  have hget : m.get? group = some (m.members group) := by
    unfold members at h ⊢
    cases hgroup : m.get? group with
    | none => simp [hgroup] at h
    | some _ => rfl
  rw [recordOne, addMember_of_mem h, Table.insert_of_get? hget]

/-- A call that mentions nothing new changes nothing. -/
theorem record_of_mem {m : AliasMap} {kind : String} {aliases : List String}
    (h : ∀ group ∈ aliases, kind ∈ m.members group) : m.record kind aliases = m := by
  induction aliases with
  | nil => rfl
  | cons first rest ih =>
    obtain ⟨hfirst, hrest⟩ := List.forall_mem_cons.mp h
    have hstep : m.record kind (first :: rest) = (m.recordOne kind first).record kind rest := rfl
    rw [hstep, recordOne_of_mem hfirst, ih hrest]

/-- Every kind is a member of the aliases that it has been recorded under. -/
theorem mem_members_ofCalls {calls : List (String × List String)} {kind group : String} :
    kind ∈ (ofCalls calls).members group ↔ ∃ aliases, (kind, aliases) ∈ calls ∧ group ∈ aliases := by
  simp [members_ofCalls, List.mem_eraseDups]

/-- A group is there once a call has mentioned it. -/
theorem contains_ofCalls {calls : List (String × List String)} {group : String} :
    (ofCalls calls).contains group = true ↔ ∃ call ∈ calls, group ∈ call.2 := by
  rw [Table.contains, Table.isSome_get?, keys_ofCalls, List.mem_eraseDups, List.mem_flatMap]

/-! ## 4. The main statement -/

/-- **An alias map holds what has been mentioned, in the order of the first mention.** After any
run of calls on an empty map, the aliases are those of the calls, each of them once, and the members
of an alias are the kinds of the calls that mention it, each of them once. To make a call again
changes nothing, whatever has come in between. -/
theorem run_holds_mentions (calls : List (String × List String)) :
    (ofCalls calls).keys = (calls.flatMap Prod.snd).eraseDups ∧
    (ofCalls calls).size = (calls.flatMap Prod.snd).eraseDups.length ∧
    (∀ group, (ofCalls calls).contains group = true ↔ ∃ call ∈ calls, group ∈ call.2) ∧
    (∀ group, (ofCalls calls).members group =
      ((calls.filter fun call => group ∈ call.2).map Prod.fst).eraseDups) ∧
    (∀ group, (∀ call ∈ calls, group ∉ call.2) → (ofCalls calls).members group = []) ∧
    ∀ call ∈ calls, (ofCalls calls).record call.1 call.2 = ofCalls calls := by
  have hkeys := keys_ofCalls calls
  refine ⟨hkeys, ?_, fun group => contains_ofCalls, members_ofCalls calls, ?_, ?_⟩
  · rw [← hkeys, Table.keys, List.length_map]
    rfl
  · intro group hgroup
    have hnone : calls.filter (fun call => group ∈ call.2) = [] := by
      simpa [List.filter_eq_nil_iff] using hgroup
    rw [members_ofCalls, hnone]
    rfl
  · rintro ⟨kind, aliases⟩ hcall
    refine record_of_mem fun group hgroup => ?_
    exact mem_members_ofCalls.mpr ⟨aliases, hcall, hgroup⟩

end NodeSchema.AliasMap
