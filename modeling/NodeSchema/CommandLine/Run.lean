import NodeSchema.CommandLine.Help
import NodeSchema.CommandLine.Options
import NodeSchema.Files.Writing
import NodeSchema.Registry.File
/-!
# A run of the program

What the program does with its arguments on a given file tree: which tree it leaves, what it prints,
and how it ends. A registry that cannot be loaded leaves the tree as it was.
-/

namespace NodeSchema.CommandLine

inductive Failure where
  | load (error : Registry.LoadError)
  | lookup (error : Registry.LookupError)
  | files (error : FileError)
  deriving DecidableEq

def Failure.message : Failure → String
  | .load e => e.message
  | .lookup e => e.message
  | .files e => e.message

structure Outcome where
  tree : FileTree
  output : List String
  messages : List String
  ending : Except Failure Nat

def shownLog (verbose : Bool) (log : List Log.Record) : List String :=
  (log.filter fun r => verbose || r.level = .warning).map Log.Record.line

/-- The path of a written file for the user: as seen from the output root or, outside of it, the
absolute one. -/
def displayPath (here : Place) (root target : Path) : String :=
  match target.relativeTo? root with
  | some p => p.text
  | none => (target.absolute here).text

def Options.config (o : Options) : Config :=
  { declarationsPath := o.declarations, wrapperPath := o.wrapper }

def generate (t : FileTree) (o : Options) (r : Registry) : Outcome :=
  let c := o.config
  let root := Path.ofText o.root
  let (generation, findings) := (Generation.ofRegistry r c).run.run .none
  match generation with
  | .error e =>
    { tree := t, output := [], messages := shownLog o.verbose findings.log
      ending := .error (.lookup e) }
  | .ok g =>
    let w := Artifact.writeAll root t (g.artifacts c)
    let messages := shownLog o.verbose (findings.log ++ w.log)
    match w.failure with
    | some e => { tree := w.tree, output := [], messages, ending := .error (.files e) }
    | none =>
      { tree := w.tree
        output := w.written.map fun e =>
          c.sourceLabel ++ " -> " ++ displayPath t.here root e.1
        messages
        ending := .ok 0 }

def loadAndGenerate (t : FileTree) (o : Options) : Outcome :=
  match Registry.load t (.ofText o.registry) with
  | .ok r => generate t o r
  | .error e =>
    if e.isReported then
      { tree := t, output := [], messages := ["error: " ++ e.message], ending := .ok 2 }
    else { tree := t, output := [], messages := [], ending := .error (.load e) }

def run (args : List String) (t : FileTree) : Outcome :=
  match parse args with
  | .error e =>
    { tree := t, output := []
      messages := usage ++ [programName ++ ": error: " ++ e.message]
      ending := .ok 2 }
  | .ok .help => { tree := t, output := help, messages := [], ending := .ok 0 }
  | .ok (.generate o) => loadAndGenerate t o

end NodeSchema.CommandLine
