import NodeSchema.Table
/-!
# Alias maps

Which node kinds belong to which alias. Aliases keep the order in which they were first recorded,
and so do the members of each of them; a member is listed once.
-/

namespace NodeSchema

abbrev AliasMap := Table String (List String)

namespace AliasMap

/-- The members of an alias; one that was never recorded has none. -/
def members (m : AliasMap) (group : String) : List String := (m.get? group).getD []

/-- A list of members with one that is listed once. -/
def addMember (kind : String) (members : List String) : List String :=
  if kind ∈ members then members else members ++ [kind]

def recordOne (m : AliasMap) (kind group : String) : AliasMap :=
  m.insert group (addMember kind (m.members group))

def record (m : AliasMap) (kind : String) (aliases : List String) : AliasMap :=
  aliases.foldl (recordOne · kind ·) m

end AliasMap

end NodeSchema
