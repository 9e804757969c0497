import NodeSchema.Json.Lexeme
import NodeSchema.Value.Basic
/-!
# Reading JSON

The reader walks over the text once. Between two lexemes its whole state is the stack of containers
that are still open and what it expects next, so each step is a small table and the first lexeme
that is not expected decides the error and its place. Numbers without fraction and exponent are
exact integers; of two members with one key the later value stands at the earlier place.
-/

namespace NodeSchema.Json

/-! ## 1. Errors -/

/-- Why a text is no JSON document. -/
inductive Cause where
  | expectedValue
  | expectedKey
  | expectedColon
  | expectedComma
  | extraData
  | byteOrderMark
  | defect (d : Defect)
  deriving DecidableEq, Repr

/-- A cause, and the number of characters in front of its place. -/
structure Error where
  cause : Cause
  offset : Nat
  deriving DecidableEq, Repr

def Cause.message : Cause → String
  | .expectedValue => "Expecting value"
  | .expectedKey => "Expecting property name enclosed in double quotes"
  | .expectedColon => "Expecting ':' delimiter"
  | .expectedComma => "Expecting ',' delimiter"
  | .extraData => "Extra data"
  | .byteOrderMark => "Unexpected UTF-8 BOM (decode using utf-8-sig)"
  | .defect .unterminated => "Unterminated string starting at"
  | .defect .controlCharacter => "Invalid control character at"
  | .defect .badEscape => "Invalid \\escape"
  | .defect .badUnicodeEscape => "Invalid \\uXXXX escape"
  | .defect (.tooManyDigits count) =>
    "Exceeds the limit (4300 digits) for integer string conversion: value has " ++ toString count ++
      " digits; use sys.set_int_max_str_digits() to increase the limit"

/-- The line and the column of an offset, both counted from one. -/
def lineAndColumn (offset : Nat) (text : List Char) : Nat × Nat :=
  (text.take offset).foldl
    (fun place c => if c = '\n' then (place.1 + 1, 1) else (place.1, place.2 + 1)) (1, 1)

def Error.message (text : List Char) (e : Error) : String :=
  let (line, column) := lineAndColumn e.offset text
  e.cause.message ++ ": line " ++ toString line ++ " column " ++ toString column ++
    " (char " ++ toString e.offset ++ ")"

/-! ## 2. The state between two lexemes -/

/-- A container that is still open. -/
inductive Frame where
  -- A list and its items so far, last first.
  | list (items : List Value)
  -- An object, its members so far, and the key of the member that is being read.
  | object (members : List (String × Value)) (key : String)

/-- What may come next. -/
inductive Expect where
  | value
  | itemOrEnd
  | keyOrEnd
  | key
  | colon
  | commaOrEnd
  | nothing (document : Value)

structure State where
  -- The open containers, innermost first.
  stack : List Frame
  expect : Expect

def State.start : State := ⟨[], .value⟩

/-- Hands a complete value to the innermost open container. -/
def State.complete (stack : List Frame) (v : Value) : State :=
  match stack with
  | [] => ⟨[], .nothing v⟩
  | .list items :: outer => ⟨.list (v :: items) :: outer, .commaOrEnd⟩
  | .object members key :: outer => ⟨.object (insertEntry key v members) key :: outer, .commaOrEnd⟩

/-- The value that a lexeme is by itself. -/
def Lexeme.value? : Lexeme → Option Value
  | .text s => some (.str s)
  | .null => some .null
  | .bool b => some (.bool b)
  | .int n => some (.int n)
  | .float x => some (.float x)
  | _ => none

def State.startValue (stack : List Frame) (lexeme : Lexeme) : Except Cause State :=
  match lexeme with
  | .openList => .ok ⟨.list [] :: stack, .itemOrEnd⟩
  | .openObject => .ok ⟨.object [] "" :: stack, .keyOrEnd⟩
  | .defective d _ => .error (.defect d)
  | _ =>
    match lexeme.value? with
    | some v => .ok (State.complete stack v)
    | none => .error .expectedValue

def State.startMember (stack : List Frame) (lexeme : Lexeme) : Except Cause State :=
  match lexeme, stack with
  | .text key, .object members _ :: outer => .ok ⟨.object members key :: outer, .colon⟩
  | .defective (.tooManyDigits _) _, _ => .error .expectedKey
  | .defective d _, _ => .error (.defect d)
  | _, _ => .error .expectedKey

def State.follow (stack : List Frame) (lexeme : Lexeme) : Except Cause State :=
  match lexeme, stack with
  | .comma, .list items :: outer => .ok ⟨.list items :: outer, .value⟩
  | .comma, .object members key :: outer => .ok ⟨.object members key :: outer, .key⟩
  | .closeList, .list items :: outer => .ok (State.complete outer (.list items.reverse))
  | .closeObject, .object members _ :: outer => .ok (State.complete outer (.object members))
  | _, _ => .error .expectedComma

/-- One step: the state after a lexeme, or what was expected in its place. -/
def State.step (s : State) (lexeme : Lexeme) : Except Cause State :=
  match s.expect with
  | .value => State.startValue s.stack lexeme
  | .itemOrEnd =>
    if lexeme = .closeList then State.follow s.stack lexeme else State.startValue s.stack lexeme
  | .keyOrEnd =>
    if lexeme = .closeObject then State.follow s.stack lexeme
    else State.startMember s.stack lexeme
  | .key => State.startMember s.stack lexeme
  | .colon => if lexeme = .colon then .ok ⟨s.stack, .value⟩ else .error .expectedColon
  | .commaOrEnd => State.follow s.stack lexeme
  | .nothing _ => .error .extraData

/-- What was expected where the text ends. -/
def State.finish (s : State) : Except Cause Value :=
  match s.expect with
  | .value => .error .expectedValue
  | .itemOrEnd => .error .expectedValue
  | .keyOrEnd => .error .expectedKey
  | .key => .error .expectedKey
  | .colon => .error .expectedColon
  | .commaOrEnd => .error .expectedComma
  | .nothing document => .ok document

/-! ## 3. The whole text -/

def isSpace (c : Char) : Bool := c == ' ' || c == '\t' || c == '\n' || c == '\r'

/-- Where an error at a lexeme lies: at the defect that is blamed, otherwise at its first
character. -/
def Cause.shift : Cause → Lexeme → Nat
  | .defect _, .defective _ shift => shift
  | _, _ => 0

/-- Reads on from `offset`, where `skip` more characters belong to the lexeme read last. -/
def readFrom (limit : Option Nat) (s : State) (offset skip : Nat) : List Char → Except Error Value
  | [] => s.finish.mapError (⟨·, offset⟩)
  | c :: rest =>
    match skip with
    | skip + 1 => readFrom limit s (offset + 1) skip rest
    | 0 =>
      if isSpace c then readFrom limit s (offset + 1) 0 rest
      else
        let (l, length) := lexeme limit c rest
        match s.step l with
        | .error cause => .error ⟨cause, offset + cause.shift l⟩
        | .ok next => readFrom limit next (offset + 1) length rest

/-- The greatest number of digits of an integer in a document. -/
def digitLimit : Nat := 4300

/-- Reads a text as one JSON document. `limit` bounds the digits of an integer. -/
def read (limit : Option Nat) (text : List Char) : Except Error Value :=
  match text with
  | c :: _ =>
    if c.toNat = 0xFEFF then .error ⟨.byteOrderMark, 0⟩
    else readFrom limit .start 0 0 text
  | [] => readFrom limit .start 0 0 text

end NodeSchema.Json
