/-!
# Paths

A path is a root, which is empty for a relative path, and the names behind it. Slashes in sequence
count as one and the name of a single dot is dropped, while two dots stay, since they may lead
anywhere; two slashes in front, and no more, are a root of their own.
-/

namespace NodeSchema

/-- A path in normal form. -/
structure Path where
  -- Nothing, one slash or two slashes.
  root : String
  parts : List String
  deriving DecidableEq, Repr, Inhabited

namespace Path

def splitSlashes : List Char → List (List Char)
  | [] => [[]]
  | c :: rest =>
    if c = '/' then [] :: splitSlashes rest
    else
      match splitSlashes rest with
      | [] => [[c]]
      | piece :: pieces => (c :: piece) :: pieces

def rootOf : List Char → String
  | '/' :: '/' :: '/' :: _ => "/"
  | '/' :: '/' :: _ => "//"
  | '/' :: _ => "/"
  | _ => ""

def partsOf (s : List Char) : List String :=
  ((splitSlashes s).map String.ofList).filter fun name => name ≠ "" ∧ name ≠ "."

def ofText (s : String) : Path := ⟨rootOf s.toList, partsOf s.toList⟩

def isAbsolute (p : Path) : Bool := p.root ≠ ""

/-- The text of a path; the path without root and names is a dot. -/
def text (p : Path) : String :=
  if p.root = "" ∧ p.parts = [] then "." else p.root ++ "/".intercalate p.parts

/-- A path below another one; an absolute path stands for itself. -/
def join (p q : Path) : Path := if q.isAbsolute then q else ⟨p.root, p.parts ++ q.parts⟩

def parent (p : Path) : Path := ⟨p.root, p.parts.dropLast⟩

/-- A parent has fewer parts, so that going up from one to the next comes to an end. -/
theorem length_parent_lt (p : Path) (h : p.parts ≠ []) :
    p.parent.parts.length < p.parts.length := by
  have : 0 < p.parts.length := List.length_pos_iff.2 h
  simp only [parent, List.length_dropLast]
  omega

/-- The path as seen from another one, if its names start with those of the other. -/
def relativeTo? (p base : Path) : Option Path :=
  if p.root = base.root ∧ base.parts.isPrefixOf p.parts then
    some ⟨"", p.parts.drop base.parts.length⟩
  else none

/-- Where a name leads to from a place; two dots undo the name before them. -/
def enter (here : List String) (name : String) : List String :=
  if name = ".." then here.dropLast else here ++ [name]

/-- The names that lead from the root of the file system to the place of a path, where `here` are
the names that lead to the current directory. -/
def resolve (here : List String) (p : Path) : List String :=
  p.parts.foldl enter (if p.isAbsolute then [] else here)

def absolute (here : List String) (p : Path) : Path := ⟨"/", p.resolve here⟩

end Path

end NodeSchema
