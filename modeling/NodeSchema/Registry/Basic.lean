import NodeSchema.NodeKind
/-!
# Registries

A registry holds the node kinds that a generator works on. Kinds are found by name and always listed
in ascending order of their names, whatever the order in which they came in.
-/

namespace NodeSchema

structure Registry where
  kinds : Table String NodeKind
  named : ∀ e ∈ kinds.entries, e.2.name = e.1

namespace Registry

inductive LookupError where
  | unknownKind (kind : String)
  | unknownField (kind field : String)
  deriving DecidableEq, Repr

def LookupError.message : LookupError → String
  | .unknownKind kind => "Unknown node kind: " ++ Text.quoted kind
  | .unknownField kind field =>
    "Unknown field " ++ Text.quoted field ++ " on node kind " ++ Text.quoted kind

def empty : Registry := ⟨∅, by intro e h; cases h⟩

instance : EmptyCollection Registry := ⟨empty⟩

instance : Inhabited Registry := ⟨empty⟩

/-- The registry with one kind more; a kind of the same name is replaced. -/
def insert (r : Registry) (k : NodeKind) : Registry where
  kinds := r.kinds.insert k.name k
  named := by
    intro e h
    rcases mem_insertEntry h with h | h
    · rw [h]
    · exact r.named e h

def ofKinds (kinds : List NodeKind) : Registry := kinds.foldl insert ∅

@[ext] theorem ext {r r' : Registry} (h : r.kinds = r'.kinds) : r = r' := by
  cases r
  cases r'
  cases h
  rfl

/-- Kinds that are inserted one after the other go into the table under their names. -/
theorem kinds_foldl_insert (kinds : List NodeKind) (r : Registry) :
    (kinds.foldl insert r).kinds =
      (kinds.map fun k => (k.name, k)).foldl (fun t e => t.insert e.1 e.2) r.kinds := by
  induction kinds generalizing r with
  | nil => rfl
  | cons k rest ih => rw [List.foldl_cons, ih]; rfl

/-- The kinds of a list stand under their names. -/
theorem kinds_ofKinds (kinds : List NodeKind) :
    (ofKinds kinds).kinds = .ofList (kinds.map fun k => (k.name, k)) :=
  kinds_foldl_insert kinds ∅

/-- A registry is the registry of its kinds. -/
theorem ofKinds_kinds (r : Registry) : ofKinds (r.kinds.entries.map Prod.snd) = r := by
  have hnamed : (r.kinds.entries.map Prod.snd).map (fun k => (k.name, k)) = r.kinds.entries := by
    rw [List.map_map]
    calc
      _ = r.kinds.entries.map id :=
        List.map_congr_left fun e he => by simp [r.named e he]
      _ = r.kinds.entries := List.map_id _
  ext1
  rw [kinds_ofKinds, hnamed, Table.ofList_entries]

def kindNames (r : Registry) : List String := sortNames r.kinds.keys

def contains (r : Registry) (kind : String) : Bool := r.kinds.contains kind

theorem contains_iff {r : Registry} {kind : String} :
    r.contains kind = true ↔ kind ∈ r.kinds.keys :=
  r.kinds.isSome_get? kind

def size (r : Registry) : Nat := r.kinds.size

def get (r : Registry) (kind : String) : Except LookupError NodeKind :=
  match r.kinds.get? kind with
  | some k => .ok k
  | none => .error (.unknownKind kind)

end Registry

def NodeKind.field (k : NodeKind) (name : String) : Except Registry.LookupError Field :=
  match k.fields.get? name with
  | some f => .ok f
  | none => .error (.unknownField k.name name)

def Registry.field (r : Registry) (kind name : String) : Except LookupError Field := do
  let k ← r.get kind
  k.field name

end NodeSchema
