import NodeSchema.Files.Tree
import NodeSchema.Generation
/-!
# Writing artifacts

Artifacts are written one after the other below an output root; directories that are missing are
made on the way. Writing stops at the first artifact that cannot be written, and what was written
before stays.
-/

namespace NodeSchema

structure Writing where
  tree : FileTree
  written : List (Path × Artifact)
  failure : Option FileError

namespace Artifact

def target (a : Artifact) (root : Path) : Path := root.join (.ofText a.destination)

def write (a : Artifact) (root : Path) (t : FileTree) : FileTree × Except FileError Unit :=
  let target := a.target root
  match t.ensureDirectory target.parent with
  | (t', .error e) => (t', .error e)
  | (t', .ok ()) =>
    match t'.writeFile target a.text.toUTF8 with
    | .error e => (t', .error e)
    | .ok t'' => (t'', .ok ())

def writeAll (root : Path) (t : FileTree) : List Artifact → Writing
  | [] => ⟨t, [], none⟩
  | a :: rest =>
    match a.write root t with
    | (t', .error e) => ⟨t', [], some e⟩
    | (t', .ok ()) =>
      let w := writeAll root t' rest
      { w with written := (a.target root, a) :: w.written }

end Artifact

def Writing.record (target : Path) (a : Artifact) : Log.Record :=
  ⟨.debug, .writer, "wrote " ++ target.text ++ " (" ++ toString a.lines.length ++ " lines)"⟩

def Writing.log (w : Writing) : List Log.Record := w.written.map fun e => record e.1 e.2

end NodeSchema
