import NodeSchema.Proofs.Generation
/-!
# One resolver, many uses

A resolver is asked for types and is handed to whatever puts an artifact together, in any order and
any number of times, and it keeps the findings of all these uses. What a use gives depends on the
use alone: the findings are written and never read.

* `TypeResolver.perform_gives` — one use, from any findings on.
* `TypeResolver.performAll_eq` — a run of uses, of which some may fail.
-/

namespace NodeSchema

open Resolving

namespace TypeResolver

/-! ## 1. Uses -/

/-- A use of a resolver: a type that is asked for, or an artifact that is put together. -/
inductive Use where
  | type (kind name : String)
  | declarations (c : Config)
  | wrapper (c : Config)

inductive Product where
  | type (text : String)
  | declarations (d : Declarations)
  | wrapper (w : Wrapper)

variable (t : TypeResolver)

def perform : Use → Resolving Product
  | .type kind name => do return .type (← t.resolve kind name)
  | .declarations c => do return .declarations (← Declarations.ofRegistry t c)
  | .wrapper c => do return .wrapper (← Wrapper.ofRegistry t c)

/-- The outcomes of uses, one after the other, and what has been found at the end. A use that fails
is followed by the next one all the same. -/
def performAll (before : Findings) (uses : List Use) :
    List (Except Registry.LookupError Product) × Findings :=
  runAll t.perform before uses

/-! ## 2. What the uses give -/

def outcomeOf : Use → Except Registry.LookupError Product
  | .type kind name => (t.answer kind name).map .type
  | .declarations c => .ok (.declarations (Declarations.expected t c))
  | .wrapper c => .ok (.wrapper (Wrapper.expected t c))

def foundBy : Use → Findings
  | .type kind name => t.foundAt kind name
  | .declarations c => Declarations.found t c
  | .wrapper _ => Wrapper.found t

/-- Whatever has been found before, a use has its outcome and adds its findings. -/
theorem perform_gives (use : Use) : (t.perform use).Gives (t.outcomeOf use) (t.foundBy use) := by
  cases use with
  | type kind name => exact (t.resolve_gives kind name).map Product.type
  | declarations c => exact (Declarations.ofRegistry_gives c).map Product.declarations
  | wrapper c => exact (Wrapper.ofRegistry_gives c).map Product.wrapper

/-- **A run of uses.** Every use has the outcome that it has by itself, and the findings of all uses
are kept in their order. -/
theorem performAll_eq (before : Findings) (uses : List Use) :
    t.performAll before uses =
      (uses.map t.outcomeOf, before.append (Findings.concat (uses.map t.foundBy))) :=
  Gives.runAll t.perform_gives before uses

/-- Each of several uses has the outcome that it has alone. -/
theorem outcome_performAll (before : Findings) {uses : List Use} {use : Use} {i : Nat}
    (h : uses[i]? = some use) : (t.performAll before uses).1[i]? = some (t.outcomeOf use) := by
  rw [performAll_eq]
  simp [h]

end TypeResolver

end NodeSchema
