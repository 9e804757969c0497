import NodeSchema.Proofs.Stages
import NodeSchema.Validator.TypeText
/-!
# Which validators have a type

A validator is a number of sequences around a core that is no sequence itself. Both are determined
by the validator, and everything about its type follows from them: it has a type exactly when the
core has one of four shapes, the type is that of the core between brackets, and the validator that
stands in the way of a type is the core and none of the sequences around it.

* `sequencesOf`, `depth`, `core` — a validator taken apart. `sequencesOf_depth_core`
* `Leaf` — the four shapes with their types.
* `typeText_sequencesOf`, `typeText_of_leaf`, `typeText_of_not_leaf` — the type, layer by layer.
* `typeText_by_core` — the whole grammar.
-/

namespace NodeSchema.Validator

/-! ## 1. Sequences around a core -/

def sequenceOf (item : Validator) : Validator := .chain [.named "array", .each item]

/-- Sequences of sequences, so many of them, around a core. -/
def sequencesOf : Nat → Validator → Validator
  | 0, v => v
  | n + 1, v => sequenceOf (sequencesOf n v)

def IsSequence (v : Validator) : Prop := ∃ item, v = sequenceOf item

/-- The number of sequences on the outside of a validator. -/
def depth : Validator → Nat
  | .chain [.named marker, .each item] => if marker = "array" then item.depth + 1 else 0
  | _ => 0

/-- What is left of a validator without the sequences on its outside. -/
def core : Validator → Validator
  | .chain [.named marker, .each item] =>
    if marker = "array" then item.core else .chain [.named marker, .each item]
  | v => v

theorem depth_sequenceOf (item : Validator) : (sequenceOf item).depth = item.depth + 1 := by
  simp [sequenceOf, depth]

/-- A sequence has the same core as its items. -/
theorem core_sequenceOf (item : Validator) : (sequenceOf item).core = item.core := by
  simp [sequenceOf, core]

/-- There is no sequence around anything that is none. -/
theorem depth_of_not_isSequence {v : Validator} (h : ¬ v.IsSequence) : v.depth = 0 := by
  unfold depth
  split
  · next marker item =>
    rw [if_neg]
    intro hmarker
    subst hmarker
    exact h ⟨item, rfl⟩
  · rfl

theorem core_of_not_isSequence {v : Validator} (h : ¬ v.IsSequence) : v.core = v := by
  unfold core
  split
  · next marker item =>
    rw [if_neg]
    intro hmarker
    subst hmarker
    exact h ⟨item, rfl⟩
  · rfl

/-- A validator is its core with its sequences around it. -/
theorem sequencesOf_depth_core (v : Validator) : sequencesOf v.depth v.core = v := by
  fun_induction depth v with
  | case1 item ih =>
    show sequenceOf (sequencesOf item.depth (sequenceOf item).core) = sequenceOf item
    rw [core_sequenceOf, ih]
  | case2 marker item hmarker => simp [core, hmarker, sequencesOf]
  | case3 v hv =>
    have hcore : v.core = v := core_of_not_isSequence fun h => by
      obtain ⟨item, rfl⟩ := h
      exact hv _ _ rfl
    rw [hcore]
    rfl

/-- A core is never a sequence. -/
theorem not_isSequence_core (v : Validator) : ¬ v.core.IsSequence := by
  fun_induction core v with
  | case1 item ih => exact ih
  | case2 marker item hmarker =>
    intro h
    obtain ⟨item', h⟩ := h
    simp [sequenceOf, hmarker] at h
  | case3 v hv =>
    intro h
    obtain ⟨item, rfl⟩ := h
    exact hv _ _ rfl

/-- There is one way to take a validator apart. -/
theorem depth_core_sequencesOf (n : Nat) {v : Validator} (h : ¬ v.IsSequence) :
    (sequencesOf n v).depth = n ∧ (sequencesOf n v).core = v := by
  induction n with
  | zero => exact ⟨depth_of_not_isSequence h, core_of_not_isSequence h⟩
  | succ n ih => simp [sequencesOf, depth_sequenceOf, core_sequenceOf, ih]

/-! ## 2. The types of cores -/

/-- `Leaf v text` — the validator is no sequence and has this type. -/
inductive Leaf : Validator → String → Prop where
  | named (name : String) : Leaf (.named name) name
  | types (names : List String) : Leaf (.oneOfTypes names) (" | ".intercalate names)
  | values (values : List Value) :
    Leaf (.oneOfValues values) (" | ".intercalate (values.map Value.literal))
  | texts (values : List Value) :
    Leaf (.chain [.named "string", .oneOfValues values]) (" | ".intercalate (values.map Json.write))

variable (sequence : String)

/-- A leaf has its own type, however sequences are called. -/
theorem typeText_of_leaf {v : Validator} {text : String} (h : Leaf v text) :
    v.typeText sequence = .ok text := by
  cases h with
  | named name => simp [typeText]
  | types names => simp [typeText, union]
  | values values => simp [typeText, union]
  | texts values => simp [typeText, union]

/-- A validator of no other shape stands in its own way. -/
theorem typeText_of_not_leaf {v : Validator} (hv : ¬ v.IsSequence) (h : ∀ text, ¬ Leaf v text) :
    v.typeText sequence = .error ⟨v⟩ := by
  unfold typeText
  split
  · exact absurd (.named _) (h _)
  · exact absurd (.types _) (h _)
  · exact absurd (.values _) (h _)
  · next marker item =>
    rw [if_neg]
    intro hmarker
    subst hmarker
    exact hv ⟨item, rfl⟩
  · next marker values =>
    rw [if_neg]
    intro hmarker
    subst hmarker
    exact h _ (.texts values)
  · rfl

/-! ## 3. The types of sequences -/

def bracketed (n : Nat) (leaf : String) : String :=
  String.join (List.replicate n (sequence ++ "<")) ++ leaf ++ String.join (List.replicate n ">")

theorem bracketed_succ (n : Nat) (leaf : String) :
    bracketed sequence (n + 1) leaf = sequence ++ "<" ++ bracketed sequence n leaf ++ ">" := by
  have hopen : String.join (List.replicate (n + 1) (sequence ++ "<")) =
      sequence ++ "<" ++ String.join (List.replicate n (sequence ++ "<")) := by
    rw [List.replicate_succ, String.join_cons]
  have hclose : String.join (List.replicate (n + 1) ">") =
      String.join (List.replicate n ">") ++ ">" := by
    rw [List.replicate_succ', String.join_append]
    simp
  simp only [bracketed, hopen, hclose, String.append_assoc]

/-- Sequences have a type exactly when what is inside them has one. -/
theorem typeText_sequencesOf (n : Nat) (v : Validator) :
    (sequencesOf n v).typeText sequence = (v.typeText sequence).map (bracketed sequence n) := by
  induction n with
  | zero => cases h : v.typeText sequence <;> simp [sequencesOf, h, Except.map, bracketed]
  | succ n ih =>
    have hstep : (sequenceOf (sequencesOf n v)).typeText sequence =
        (sequencesOf n v).typeText sequence >>=
          fun item => .ok (sequence ++ "<" ++ item ++ ">") := by
      simp [sequenceOf, typeText]
    rw [sequencesOf, hstep, ih]
    cases v.typeText sequence with
    | ok text => simp [Except.map, bind, Except.bind, bracketed_succ]
    | error e => rfl

/-- The type of a validator is the type of its core in brackets. -/
theorem typeText_eq_map_core (v : Validator) :
    v.typeText sequence = (v.core.typeText sequence).map (bracketed sequence v.depth) := by
  rw [← typeText_sequencesOf, sequencesOf_depth_core]

variable {sequence}

/-- A validator has a type exactly if its core is a leaf, and then it is the type of the core in
brackets. -/
theorem typeText_eq_ok_iff {v : Validator} {text : String} :
    v.typeText sequence = .ok text ↔
      ∃ leaf, Leaf v.core leaf ∧ bracketed sequence v.depth leaf = text := by
  rw [typeText_eq_map_core, map_eq_ok_iff]
  by_cases h : ∃ leaf, Leaf v.core leaf
  · obtain ⟨leaf, hleaf⟩ := h
    rw [typeText_of_leaf sequence hleaf]
    constructor
    · intro htext
      obtain ⟨_, hok, htext⟩ := htext
      cases hok
      exact ⟨leaf, hleaf, htext⟩
    · intro htext
      obtain ⟨leaf', hleaf', htext⟩ := htext
      have hsame := typeText_of_leaf sequence hleaf'
      rw [typeText_of_leaf sequence hleaf] at hsame
      exact ⟨leaf', hsame, htext⟩
  · have hnone : ∀ leaf, ¬ Leaf v.core leaf := fun leaf hleaf => h ⟨leaf, hleaf⟩
    rw [typeText_of_not_leaf sequence v.not_isSequence_core hnone]
    simp [hnone]

/-- If the core is no leaf, it is to blame, however deep it is. -/
theorem typeText_eq_error_iff {v : Validator} {e : Untranslatable} :
    v.typeText sequence = .error e ↔ (∀ leaf, ¬ Leaf v.core leaf) ∧ e = ⟨v.core⟩ := by
  rw [typeText_eq_map_core]
  by_cases h : ∃ leaf, Leaf v.core leaf
  · obtain ⟨leaf, hleaf⟩ := h
    rw [typeText_of_leaf sequence hleaf]
    exact iff_of_false (by simp [Except.map]) fun h => h.1 leaf hleaf
  · have hnone : ∀ leaf, ¬ Leaf v.core leaf := fun leaf hleaf => h ⟨leaf, hleaf⟩
    rw [typeText_of_not_leaf sequence v.not_isSequence_core hnone]
    simp [hnone, Except.map, eq_comm]

/-! ## 4. The grammar -/

/-- **Which validators have a type.** A validator is in one way a number of sequences around a core
that is no sequence. It has a type exactly when the core is a name, a choice of types, a choice of
values, or a choice of values behind the type of texts; the type is then that of the core between as
many brackets as there are sequences. Every other validator is refused with the core as the one that
stands in the way. Which of the two it is does not depend on the name of the sequence type. -/
theorem typeText_by_core (v : Validator) :
    (∀ n w, sequencesOf n w = v ∧ ¬ w.IsSequence ↔ n = v.depth ∧ w = v.core) ∧
    (∀ sequence, (∃ text, v.typeText sequence = .ok text) ↔ ∃ leaf, Leaf v.core leaf) ∧
    (∀ sequence text, v.typeText sequence = .ok text ↔
      ∃ leaf, Leaf v.core leaf ∧
        String.join (List.replicate v.depth (sequence ++ "<")) ++ leaf ++
          String.join (List.replicate v.depth ">") = text) ∧
    (∀ sequence e, v.typeText sequence = .error e ↔
      (∀ leaf, ¬ Leaf v.core leaf) ∧ e.blamed = v.core) ∧
    Untranslatable.code = "unrecognized_validator_shape" := by
  refine ⟨?_, ?_, ?_, ?_, rfl⟩
  · intro n w
    constructor
    · intro h
      obtain ⟨rfl, hw⟩ := h
      obtain ⟨hdepth, hcore⟩ := depth_core_sequencesOf n hw
      exact ⟨hdepth.symm, hcore.symm⟩
    · intro h
      obtain ⟨rfl, rfl⟩ := h
      exact ⟨v.sequencesOf_depth_core, v.not_isSequence_core⟩
  · intro sequence
    simp only [typeText_eq_ok_iff]
    constructor
    · intro h
      obtain ⟨_, leaf, hleaf, _⟩ := h
      exact ⟨leaf, hleaf⟩
    · intro h
      obtain ⟨leaf, hleaf⟩ := h
      exact ⟨_, leaf, hleaf, rfl⟩
  · intro sequence text
    exact typeText_eq_ok_iff
  · intro sequence e
    rw [typeText_eq_error_iff]
    cases e
    simp

end NodeSchema.Validator
