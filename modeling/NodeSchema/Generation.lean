import NodeSchema.Declarations
import NodeSchema.Wrapper
/-!
# Generating both artifacts

Both artifacts of a registry are generated in one run, with one resolver. A field that is resolved
for both is diagnosed twice and reported once. The result says which lines go where.
-/

namespace NodeSchema

/-- A text and its destination below the output root. -/
structure Artifact where
  destination : String
  lines : List String
  deriving DecidableEq, Repr

/-- The text of an artifact; its last line has no end mark. -/
def Artifact.text (a : Artifact) : String := "\n".intercalate a.lines

structure Generation where
  declarations : Declarations
  wrapper : Wrapper
  diagnostics : List Diagnostic

def Diagnostic.firsts (diagnostics : List Diagnostic) : List Diagnostic :=
  (diagnostics.foldl
    (fun seen d =>
      if seen.any fun e => e.kind = d.kind ∧ e.field = d.field then seen else seen ++ [d]) [])

namespace Generation

def resolver (r : Registry) (c : Config) : TypeResolver where
  registry := r
  overrides := TypeResolver.defaultOverrides
  unknownType := c.unknownType
  sequenceType := c.sequenceType

def ofRegistry (r : Registry) (c : Config) : Resolving Generation := do
  let t := resolver r c
  Resolving.log .debug .runner
    ("emitting declarations for " ++ toString r.size ++ " node kinds")
  let declarations ← Declarations.ofRegistry t c
  Resolving.log .debug .runner "emitting wrapper module"
  let wrapper ← Wrapper.ofRegistry t c
  let findings ← get
  return { declarations, wrapper, diagnostics := Diagnostic.firsts findings.diagnostics }

/-- The artifacts with their destinations, in the order in which they are written. -/
def artifacts (g : Generation) (c : Config) : List Artifact :=
  [⟨c.declarationsPath, g.declarations.lines⟩, ⟨c.wrapperPath, g.wrapper.lines⟩]

end Generation

end NodeSchema
