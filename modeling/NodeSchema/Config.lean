/-!
# Settings of the generator

The names and destinations that go into the generated artifacts.
-/

namespace NodeSchema

structure Config where
  -- What the header of both artifacts names as their generator.
  sourceLabel : String := "ast_typegen/runner.py"
  declarationsPath : String := "flow-typed/babel-nodes.js"
  wrapperPath : String := "src/lib/babel-types.js"
  universalAlias : String := "BabelNode"
  -- Aliases without a union.
  excludedAliases : List String := ["Function"]
  unknownType : String := "mixed"
  skippedFields : List String := ["static"]
  reservedWords : List String := ["extends", "arguments", "static", "default"]
  sequenceType : String := "$ReadOnlyArray"
  aggregateName : String := "BabelTypes"
  delegateSetter : String := "setBabelTypes"
  deriving DecidableEq, Repr, Inhabited

/-- The first line of both artifacts, without the comment sign. -/
def Config.disclaimer (c : Config) : String := "AUTOMATICALLY GENERATED BY " ++ c.sourceLabel

end NodeSchema
