import NodeSchema.CommandLine.Run
/-!
# The program

The outer layer: it takes a picture of the places that the arguments can reach, runs the program on
it, and carries the changes over to the file system.
-/

namespace NodeSchema.Program

open CommandLine

def placeOf (path : String) : Place := (Path.ofText path).resolve []

def pathOf (place : Place) : String := (Path.mk "/" place).text

/-- The places that a list of names passes on its way from a directory. -/
def passed (here : Place) : List String → List Place
  | [] => [here]
  | name :: rest =>
    here :: passed (if name = ".." then here.dropLast else here ++ [name]) rest

/-- The places that the options can reach. -/
def reached (here : Place) (o : Options) : List Place :=
  let root := Path.ofText o.root
  let paths := [Path.ofText o.registry, root.join (.ofText o.declarations),
    root.join (.ofText o.wrapper)]
  paths.flatMap fun p => passed (if p.isAbsolute then [] else here) p.parts

def look (t : FileTree) (place : Place) : IO FileTree := do
  let directory ← IO.currentDir
  let path := directory / pathOf place
  if ← path.isDir then return t.put place .directory
  else if ← path.pathExists then return t.put place (.file (← IO.FS.readBinFile path))
  else return t

def carryOver (before : FileTree) (e : Place × Entry) : IO Unit :=
  if before.entry? e.1 = some e.2 then pure ()
  else
    match e.2 with
    | .directory => IO.FS.createDirAll (pathOf e.1)
    | .file bytes => IO.FS.writeBinFile (pathOf e.1) bytes

def run (args : List String) : IO UInt32 := do
  let here := placeOf (← IO.currentDir).toString
  let places := match parse args with
    | .ok (.generate o) => reached here o
    | _ => []
  let before ← places.foldlM look (FileTree.fresh here)
  let outcome := CommandLine.run args before
  outcome.tree.entries.entries.forM (carryOver before)
  outcome.messages.forM fun line => IO.eprintln line
  outcome.output.forM fun line => IO.println line
  match outcome.ending with
  | .ok code => return code.toUInt32
  | .error failure =>
    IO.eprintln failure.message
    return 1

end NodeSchema.Program

def main (args : List String) : IO UInt32 := NodeSchema.Program.run args
