import NodeSchema.Config
import NodeSchema.Text.Quoted
/-!
# Options of the command line

How the arguments of the program are understood. Every argument is first classified by itself: as an
option, which may be abbreviated and may carry a value behind an equals sign, as the separator
behind which nothing is an option, or as a plain argument. The arguments are then taken in order:
the first plain one is the registry, an option that needs a value takes the plain argument behind
it, and what remains is refused at the end.
-/

namespace NodeSchema.CommandLine

/-! ## 1. Options -/

/-- The options without a value. -/
inductive Flag where
  | help
  | verbose
  deriving DecidableEq, Repr

/-- The options with a value. -/
inductive Slot where
  | root
  | declarations
  | wrapper
  deriving DecidableEq, Repr

inductive Switch where
  | flag (f : Flag)
  | slot (s : Slot)
  deriving DecidableEq, Repr

def longNames : List (String × Switch) :=
  [("--help", .flag .help), ("--root", .slot .root), ("--declarations", .slot .declarations),
   ("--wrapper", .slot .wrapper), ("--verbose", .flag .verbose)]

def Flag.ofLetter? : Char → Option Flag
  | 'h' => some .help
  | 'v' => some .verbose
  | _ => none

def Flag.label : Flag → String
  | .help => "-h/--help"
  | .verbose => "-v/--verbose"

def Slot.label : Slot → String
  | .root => "--root"
  | .declarations => "--declarations"
  | .wrapper => "--wrapper"

inductive UsageError where
  | ambiguous (word : String) (fitting : List String)
  | needsValue (slot : Slot)
  | unwantedValue (flag : Flag) (value : String)
  | missingRegistry
  | unrecognized (words : List String)
  deriving DecidableEq, Repr

def UsageError.message : UsageError → String
  | .ambiguous word fitting =>
    "ambiguous option: " ++ word ++ " could match " ++ ", ".intercalate fitting
  | .needsValue slot => "argument " ++ slot.label ++ ": expected one argument"
  | .unwantedValue flag value =>
    "argument " ++ flag.label ++ ": ignored explicit argument " ++ Text.quoted value
  | .missingRegistry => "the following arguments are required: registry"
  | .unrecognized words => "unrecognized arguments: " ++ " ".intercalate words

/-! ## 2. Classifying one argument -/

inductive Word where
  | plain (text : String)
  | separator
  -- An option with a value, and the value if it is part of the argument.
  | slot (slot : Slot) (value : Option String)
  -- Options without a value, and what remains behind their letters.
  | flags (flags : List Flag) (rest : Option String)
  | unwanted (flag : Flag) (value : String)
  | unknown (text : String)
  deriving DecidableEq, Repr

/-- An option by its long name, and the value behind the equals sign. -/
def Word.ofSwitch : Switch → Option String → Word
  | .slot s, value => .slot s value
  | .flag f, none => .flags [f] none
  | .flag f, some value => .unwanted f value

/-- Letters behind the one of a flag; `done` holds the flags before it, last first. -/
def Word.ofLetters (done : List Flag) (f : Flag) : List Char → Word
  | [] => .flags (f :: done).reverse none
  | c :: rest =>
    if c = '=' then .unwanted f (String.ofList rest)
    else if c = '-' then .unwanted f (String.ofList (c :: rest))
    else
      match Flag.ofLetter? c with
      | some g => ofLetters (f :: done) g rest
      | none => .flags (f :: done).reverse (some (String.ofList ('-' :: c :: rest)))

/-- Whether a text is a negative number in decimal digits. -/
def isNegativeNumber : List Char → Bool
  | '-' :: cs =>
    let whole := cs.takeWhile Char.isDigit
    match cs.drop whole.length with
    | [] => !whole.isEmpty
    | '.' :: fraction => !fraction.isEmpty && fraction.all Char.isDigit
    | _ => false
  | _ => false

def splitEquals (s : List Char) : String × Option String :=
  let name := s.takeWhile (· != '=')
  match s.drop name.length with
  | [] => (String.ofList name, none)
  | _ :: value => (String.ofList name, some (String.ofList value))

/-- An argument that starts with a dash and fits no option. -/
def Word.ofUnfitting (text : String) : Word :=
  if isNegativeNumber text.toList || text.toList.contains ' ' then .plain text else .unknown text

def Word.ofLong (text : String) : Except UsageError Word :=
  let (name, value) := splitEquals text.toList
  match longNames.find? (·.1 = name) with
  | some (_, switch) => .ok (.ofSwitch switch value)
  | none =>
    match longNames.filter fun e => name.toList.isPrefixOf e.1.toList with
    | [] => .ok (.ofUnfitting text)
    | [(_, switch)] => .ok (.ofSwitch switch value)
    | fitting => .error (.ambiguous text (fitting.map Prod.fst))

/-- Classifies an argument other than the separator. -/
def Word.ofText (text : String) : Except UsageError Word :=
  match text.toList with
  | '-' :: '-' :: _ => ofLong text
  | '-' :: c :: rest =>
    match Flag.ofLetter? c with
    | some f => .ok (ofLetters [] f rest)
    | none => .ok (ofUnfitting text)
  | _ => .ok (.plain text)

/-- Classifies all arguments; behind the separator they are plain. -/
def classify : List String → Except UsageError (List Word)
  | [] => .ok []
  | text :: rest =>
    if text = "--" then .ok (.separator :: rest.map .plain)
    else do
      let word ← Word.ofText text
      let words ← classify rest
      return word :: words

/-! ## 3. Taking the arguments in order -/

structure Options where
  registry : String
  root : String
  declarations : String
  wrapper : String
  verbose : Bool
  deriving DecidableEq, Repr

inductive Request where
  | help
  | generate (options : Options)
  deriving DecidableEq, Repr

structure Taken where
  registry : Option String := none
  root : String := "."
  declarations : String := ({} : Config).declarationsPath
  wrapper : String := ({} : Config).wrapperPath
  verbose : Bool := false
  -- What has no meaning.
  extras : List String := []

namespace Taken

def set (t : Taken) (value : String) : Slot → Taken
  | .root => { t with root := value }
  | .declarations => { t with declarations := value }
  | .wrapper => { t with wrapper := value }

/-- Keeps a plain argument: as the registry, if there is none yet. -/
def keep (t : Taken) (text : String) : Taken :=
  if t.registry.isNone then { t with registry := some text }
  else { t with extras := t.extras ++ [text] }

def extra (t : Taken) (text : String) : Taken := { t with extras := t.extras ++ [text] }

def finish (t : Taken) : Except UsageError Request :=
  match t.registry with
  | none => .error .missingRegistry
  | some registry =>
    if t.extras.isEmpty then
      .ok (.generate {
        registry, root := t.root, declarations := t.declarations, wrapper := t.wrapper
        verbose := t.verbose })
    else .error (.unrecognized t.extras)

/-- Takes arguments in order. A separator next to the registry goes with it; any other one has no
meaning. -/
def take (t : Taken) : List Word → Except UsageError Request
  | [] => t.finish
  | .plain text :: .separator :: rest =>
    if t.registry.isNone then (t.keep text).take rest
    else (t.extra text).take (.separator :: rest)
  | .plain text :: rest => (t.keep text).take rest
  | .separator :: .plain text :: rest =>
    if t.registry.isNone then (t.keep text).take rest
    else (t.extra "--").take (.plain text :: rest)
  | .separator :: rest => (t.extra "--").take rest
  | .slot s (some value) :: rest => (t.set value s).take rest
  | .slot s none :: .plain text :: rest => (t.set text s).take rest
  | .slot s none :: _ => .error (.needsValue s)
  | .flags flags rest? :: rest =>
    if .help ∈ flags then .ok .help
    else
      match rest? with
      | some text => ({ t with verbose := true }.extra text).take rest
      | none => { t with verbose := true }.take rest
  | .unwanted flag value :: _ => .error (.unwantedValue flag value)
  | .unknown text :: rest => (t.extra text).take rest

end Taken

def parse (args : List String) : Except UsageError Request := do
  let words ← classify args
  Taken.take {} words

end NodeSchema.CommandLine
