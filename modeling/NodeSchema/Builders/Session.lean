import NodeSchema.Builders.Basic
import NodeSchema.Builders.Script
/-!
# Sessions

A session works on any number of builders, which it numbers in the order in which they are made.
Each step acts on one of them or makes new ones; a step that fails changes nothing. Builders that
share a delegate share nothing else. A command names an attribute and becomes the step that this
attribute stands for.
-/

namespace NodeSchema.Builders

/-! ## 1. Answers -/

inductive Answer where
  | reply (r : Reply)
  | delegate (identity : Identity)
  | function (a : Attribute)
  | registry (size : Nat)
  | number (n : Nat)

def Answer.ofValue (v : Value) : Answer := .reply (.value v)

/-- The delegate of some builders as an answer; null if there is none. -/
def Answer.ofDelegate : Option Delegate → Answer
  | some d => .delegate d.identity
  | none => .ofValue .null

/-- The delegate that a value stands for; null stands for none. -/
def delegateOfValue : Value → Option Delegate
  | .null => none
  | v => some (.ofValue v)

def shown (b : Builders) : Attribute → Answer
  | .registry => .registry b.registry.size
  | .delegate => .ofDelegate b.delegate
  | .location => .ofValue b.location
  | a => .function a

/-! ## 2. Operations -/

/-- Whether an operation of a family takes so many arguments beside the kind. -/
def accepts : Family → Nat → Bool
  | .build, _ => true
  | _, n => 1 ≤ n && n ≤ 2

/-- An operation called with arguments; there may be the wrong number of them. -/
def callOperation (b : Builders) (family : Family) (kind : Value) (args : List Value) :
    Outcome Answer :=
  if accepts family args.length then
    let o := b.operate family kind args
    ⟨o.calls, o.result.map .reply⟩
  else ⟨[], .error .badCall⟩

inductive Operation where
  | operate (family : Family) (kind : Value) (args : List Value)
  | getDelegate
  | setDelegate (delegate : Option Delegate)
  | setLocation (location : Value)

def perform (b : Builders) : Operation → Builders × Outcome Answer
  | .operate family kind args => (b, b.callOperation family kind args)
  | .getDelegate => (b, ⟨[], .ok (.ofDelegate b.delegate)⟩)
  | .setDelegate delegate => ({ b with delegate }, ⟨[], .ok (.ofDelegate delegate)⟩)
  | .setLocation location => ({ b with location }, ⟨[], .ok (.ofValue location)⟩)

/-- The operation that a call of an attribute with these arguments is. -/
def Attribute.operation? : Attribute → List Value → Option Operation
  | .bound family kind, args => some (.operate family (.str kind) args)
  | .operation family, kind :: args => some (.operate family kind args)
  | .getDelegate, [] => some .getDelegate
  | .setDelegate, [v] => some (.setDelegate (delegateOfValue v))
  | .setLocation, [v] => some (.setLocation v)
  | _, _ => none

/-! ## 3. Steps -/

/-- A step on any number of builders: an operation on the builders with a number, or new builders,
which get the next number. -/
inductive Step where
  | on (number : Nat) (operation : Operation)
  | make (b : Builders)

def stepAll (all : List Builders) : Step → List Builders × Outcome Answer
  | .on number operation =>
    match all[number]? with
    | none => (all, ⟨[], .error .noBuilders⟩)
    | some b =>
      let (b, o) := b.perform operation
      (all.set number b, o)
  | .make b => (all ++ [b], ⟨[], .ok (.number all.length)⟩)

/-! ## 4. Commands -/

inductive Command where
  | call (name : String) (args : List Value)
  | look (name : String)
  | setDelegate (script : Option Script)
  | fork

structure Session where
  all : List Builders
  delegates : Nat

namespace Session

def newDelegate (s : Session) : Option Script → Option Delegate × Session
  | some script => (some (script.delegate s.delegates), { s with delegates := s.delegates + 1 })
  | none => (none, s)

def start (r : Registry) (script : Option Script) (location : Value) : Session :=
  let (delegate, s) := newDelegate ⟨[], 0⟩ script
  { s with all := [⟨r, delegate, location⟩] }

def advance (s : Session) (what : Step) : Session × Outcome Answer :=
  let (all, o) := stepAll s.all what
  ({ s with all }, o)

/-- One command for the builders with this number: the session afterwards, and the outcome. -/
def step (s : Session) (number : Nat) (what : Command) : Session × Outcome Answer :=
  match s.all[number]? with
  | none => (s, ⟨[], .error .noBuilders⟩)
  | some b =>
    match what with
    | .call name args =>
      match b.lookup name with
      | .error e => (s, ⟨[], .error e⟩)
      | .ok a =>
        match a.operation? args with
        | some operation => s.advance (.on number operation)
        | none => (s, ⟨[], .error .badCall⟩)
    | .look name => (s, ⟨[], (b.lookup name).map b.shown⟩)
    | .setDelegate script =>
      let (delegate, s) := s.newDelegate script
      s.advance (.on number (.setDelegate delegate))
    | .fork => s.advance (.make { b with location := .null })

def run (s : Session) : List (Nat × Command) → List (Outcome Answer)
  | [] => []
  | (number, what) :: rest =>
    let (s, o) := s.step number what
    o :: s.run rest

end Session

end NodeSchema.Builders
