import NodeSchema.Files.Path
import NodeSchema.Table
import NodeSchema.Text.Quoted
/-!
# File trees

A file tree is a finite set of places, each of which is a directory or a file with its bytes, and a
current directory. A path is followed name by name: every name but the last has to lead to a
directory. Operations that fail leave the tree as it is.
-/

namespace NodeSchema

inductive Entry where
  | directory
  | file (bytes : ByteArray)
  deriving Inhabited

/-- Files are compared byte by byte. -/
instance : DecidableEq Entry
  | .directory, .directory => isTrue rfl
  | .directory, .file _ => isFalse nofun
  | .file _, .directory => isFalse nofun
  | .file a, .file b =>
    match ByteArray.instDecidableEq a b with
    | isTrue h => isTrue (congrArg Entry.file h)
    | isFalse h => isFalse fun hab => h (Entry.file.inj hab)

/-- The names that lead from the root of the file system to a place. -/
abbrev Place := List String

structure FileTree where
  -- What stands where; the root is always a directory.
  entries : Table Place Entry
  here : Place

inductive FileCause where
  | notFound
  | occupied
  | notDirectory
  | isDirectory
  | nameTooLong
  | zeroInPath
  deriving DecidableEq, Repr

structure FileError where
  cause : FileCause
  path : Path
  deriving DecidableEq, Repr

/-- The number and the wording of a cause, unless the operation fails before it starts. -/
def FileCause.system? : FileCause → Option (Nat × String)
  | .notFound => some (2, "No such file or directory")
  | .occupied => some (17, "File exists")
  | .notDirectory => some (20, "Not a directory")
  | .isDirectory => some (21, "Is a directory")
  | .nameTooLong => some (36, "File name too long")
  | .zeroInPath => none

def FileError.message (e : FileError) : String :=
  match e.cause.system? with
  | some (number, wording) =>
    "[Errno " ++ toString number ++ "] " ++ wording ++ ": " ++ Text.quoted e.path.text
  | none => "embedded null byte"

namespace FileTree

/-! ## 1. Following a path -/

def entry? (t : FileTree) (place : Place) : Option Entry :=
  if place = [] then some .directory else t.entries.get? place

def nameLimit : Nat := 255

/-- The number of bytes that a path has to stay below. -/
def pathLimit : Nat := 4096

/-- The place that a name leads to, whether there is something or not. -/
def stepTo (here : Place) (name : String) : Except FileCause Place :=
  if name = ".." then .ok here.dropLast
  else if name.utf8ByteSize > nameLimit then .error .nameTooLong
  else .ok (here ++ [name])

/-- Follows names from a directory to the place of the last one. -/
def follow (t : FileTree) (here : Place) : List String → Except FileCause Place
  | [] => .ok here
  | [name] => stepTo here name
  | name :: next :: rest => do
    let place ← stepTo here name
    match t.entry? place with
    | none => .error .notFound
    | some (.file _) => .error .notDirectory
    | some .directory => t.follow place (next :: rest)

/-- The place that a path leads to, whether there is something or not. -/
def locate (t : FileTree) (p : Path) : Except FileCause Place :=
  let text := p.text
  if text.toList.contains (Char.ofNat 0) then .error .zeroInPath
  else if text.utf8ByteSize ≥ pathLimit then .error .nameTooLong
  else t.follow (if p.isAbsolute then [] else t.here) p.parts

/-! ## 2. Operations -/

def put (t : FileTree) (place : Place) (e : Entry) : FileTree :=
  { t with entries := t.entries.insert place e }

def isDirectory (t : FileTree) (p : Path) : Bool :=
  match t.locate p with
  | .ok place => t.entry? place == some .directory
  | .error _ => false

def readFile (t : FileTree) (p : Path) : Except FileError ByteArray :=
  match t.locate p with
  | .error cause => .error ⟨cause, p⟩
  | .ok place =>
    match t.entry? place with
    | some (.file bytes) => .ok bytes
    | some .directory => .error ⟨.isDirectory, p⟩
    | none => .error ⟨.notFound, p⟩

/-- Writes a file, over an old one if there is one. -/
def writeFile (t : FileTree) (p : Path) (bytes : ByteArray) : Except FileError FileTree :=
  match t.locate p with
  | .error cause => .error ⟨cause, p⟩
  | .ok place =>
    match t.entry? place with
    | some .directory => .error ⟨.isDirectory, p⟩
    | _ => .ok (t.put place (.file bytes))

def makeDirectory (t : FileTree) (p : Path) : Except FileError FileTree :=
  match t.locate p with
  | .error cause => .error ⟨cause, p⟩
  | .ok place =>
    match t.entry? place with
    | some _ => .error ⟨.occupied, p⟩
    | none => .ok (t.put place .directory)

/-- Makes a directory where there may be one already. -/
def admitDirectory (t : FileTree) (p : Path) : Except FileError FileTree :=
  match t.makeDirectory p with
  | .ok t' => .ok t'
  | .error e => if e.cause ≠ .notFound ∧ t.isDirectory p then .ok t else .error e

/-- Makes a directory and, where they are missing, the directories above it. The directories that
were made before a failure stay. -/
def ensureDirectory (t : FileTree) (p : Path) : FileTree × Except FileError Unit :=
  match t.admitDirectory p with
  | .ok t' => (t', .ok ())
  | .error e =>
    if h : e.cause = .notFound ∧ p.parts ≠ [] then
      have : p.parent.parts.length < p.parts.length := p.length_parent_lt h.2
      match t.ensureDirectory p.parent with
      | (t', .error e') => (t', .error e')
      | (t', .ok ()) =>
        match t'.admitDirectory p with
        | .ok t'' => (t'', .ok ())
        | .error e'' => (t', .error e'')
    else (t, .error e)
termination_by p.parts.length

/-! ## 3. Setting up -/

/-- The tree with a directory at a place and at every place above it. -/
def withDirectory (t : FileTree) (place : Place) : FileTree :=
  (List.range place.length).foldl
    (fun t n =>
      let above := place.take (n + 1)
      if (t.entry? above).isSome then t else t.put above .directory) t

def withFile (t : FileTree) (place : Place) (bytes : ByteArray) : FileTree :=
  (t.withDirectory place.dropLast).put place (.file bytes)

def fresh (here : Place) : FileTree := withDirectory ⟨∅, here⟩ here

/-- What stands below the current directory, by its path from there. -/
def below (t : FileTree) : List (Path × Entry) :=
  t.entries.entries.filterMap fun e =>
    if t.here.isPrefixOf e.1 ∧ t.here ≠ e.1 then some (⟨"", e.1.drop t.here.length⟩, e.2)
    else none

end FileTree

end NodeSchema
