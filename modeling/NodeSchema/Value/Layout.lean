import NodeSchema.NameOrder
import NodeSchema.Text.Lines
import NodeSchema.Value.Inline
/-!
# Values over several lines

The layout of a value in a report of limited width. A value stands on one line if its text fits
between its indentation and what has to follow it there. Otherwise a list puts one item on a line
and an object one member, aligned one column past the opening bracket; a text is cut after its
blanks into quoted pieces, one below the other, in parentheses when the text is the whole report.
Members are listed in the order of their keys. Containers nested deeper than the limit show dots in
place of what they hold; empty ones are shown as they are.
-/

namespace NodeSchema.Value

structure Bounds where
  width : Nat
  -- The number of nested containers whose contents are shown.
  depth : Nat

/-! ## 1. One line -/

/-- Inserts a member at the place of its key. -/
def insertMember (e : String × Value) : List (String × Value) → List (String × Value)
  | [] => [e]
  | f :: rest => if e.1 ≤ f.1 then e :: f :: rest else f :: insertMember e rest

mutual

/-- The same value with the members of all its objects in the order of their keys. -/
def sortMembers : Value → Value
  | .null => .null
  | .bool b => .bool b
  | .int n => .int n
  | .float x => .float x
  | .str s => .str s
  | .list items => .list (sortMembersOfItems items)
  | .object members => .object (sortMembersOfMembers members)

def sortMembersOfItems : List Value → List Value
  | [] => []
  | v :: rest => sortMembers v :: sortMembersOfItems rest

/-- The members in the order of their keys, with `sortMembers` for every one. -/
def sortMembersOfMembers : List (String × Value) → List (String × Value)
  | [] => []
  | (k, v) :: rest => insertMember (k, sortMembers v) (sortMembersOfMembers rest)

end

mutual

/-- The text of a value on one line, with the contents of at most `depth` nested containers. -/
def inlineTo : Nat → Value → String
  | depth, .list items =>
    if items.isEmpty then "[]"
    else
      match depth with
      | 0 => "[...]"
      | depth + 1 => "[" ++ ", ".intercalate (inlineItemsTo depth items) ++ "]"
  | depth, .object members =>
    if members.isEmpty then "\x7b\x7d"
    else
      match depth with
      | 0 => "\x7b...\x7d"
      | depth + 1 => "\x7b" ++ ", ".intercalate (inlineMembersTo depth members) ++ "\x7d"
  | _, .null => inline .null
  | _, .bool b => inline (.bool b)
  | _, .int n => inline (.int n)
  | _, .float x => inline (.float x)
  | _, .str s => inline (.str s)

def inlineItemsTo : Nat → List Value → List String
  | _, [] => []
  | depth, v :: rest => inlineTo depth v :: inlineItemsTo depth rest

/-- `inlineTo` for every member, after its key. -/
def inlineMembersTo : Nat → List (String × Value) → List String
  | _, [] => []
  | depth, (k, v) :: rest =>
    (Text.quoted k ++ ": " ++ inlineTo depth v) :: inlineMembersTo depth rest

end

/-! ## 2. Texts over several lines -/

/-- Joins the words of a line as long as the quoted piece stays within `room` columns, of which
`reserve` are given up for the last word of the text. -/
def fillWords (room reserve : Nat) (current : List Char) : List (List Char) → List (List Char)
  | [] => if current.isEmpty then [] else [current]
  | word :: rest =>
    let needed := (Text.quotedChars (current ++ word)).length +
      (if rest.isEmpty then reserve else 0)
    if needed > room then
      if current.isEmpty then fillWords room reserve word rest
      else current :: fillWords room reserve word rest
    else fillWords room reserve (current ++ word) rest

/-- The pieces that a text is cut into: its lines, and the lines that are too long cut at their
words. The last line leaves `reserve` of the `room` columns free. -/
def textPieces (room reserve : Nat) : List (List Char) → List (List Char)
  | [] => []
  | line :: rest =>
    let kept := if rest.isEmpty then reserve else 0
    (if (Text.quotedChars line).length + kept ≤ room then [line]
      else fillWords room kept [] (Text.splitWords line)) ++ textPieces room reserve rest

/-- A text over several lines, from column `indent` on; `outermost` if it is the whole report. -/
def layoutText (width indent reserve : Nat) (outermost : Bool) (s : String) : String :=
  let indent := if outermost then indent + 1 else indent
  let reserve := if outermost then reserve + 1 else reserve
  match textPieces (width - indent) reserve (Text.splitLines s.toList) with
  | [] => Text.quoted s
  | [_] => Text.quoted s
  | pieces =>
    let gap := "\n" ++ "".pushn ' ' indent
    let body := gap.intercalate (pieces.map fun p => String.ofList (Text.quotedChars p))
    if outermost then "(" ++ body ++ ")" else body

/-! ## 3. The whole value -/

mutual

/-- The layout of a value from column `indent` on, with `reserve` columns kept for what follows on
its last line. `depth` counts the containers that may still be opened on one line. -/
def layoutAt (b : Bounds) (indent reserve depth : Nat) (outermost : Bool) : Value → String
  | .list items =>
    let text := inlineTo depth (.list items)
    if text.length + indent + reserve ≤ b.width then text
    else "[" ++ layoutItems b (indent + 1) (reserve + 1) (depth - 1) items ++ "]"
  | .object members =>
    let text := inlineTo depth (.object members)
    if text.length + indent + reserve ≤ b.width then text
    else "\x7b" ++ layoutMembers b (indent + 1) (reserve + 1) (depth - 1) members ++ "\x7d"
  | .str s =>
    let text := Text.quoted s
    if text.length + indent + reserve ≤ b.width then text
    else layoutText b.width indent reserve outermost s
  | .null => inline .null
  | .bool c => inline (.bool c)
  | .int n => inline (.int n)
  | .float x => inline (.float x)

def layoutItems (b : Bounds) (indent reserve depth : Nat) : List Value → String
  | [] => ""
  | [v] => layoutAt b indent reserve depth false v
  | v :: w :: rest =>
    layoutAt b indent 1 depth false v ++ ",\n" ++ "".pushn ' ' indent ++
      layoutItems b indent reserve depth (w :: rest)

def layoutMembers (b : Bounds) (indent reserve depth : Nat) : List (String × Value) → String
  | [] => ""
  | [(k, v)] =>
    let key := Text.quoted k
    key ++ ": " ++ layoutAt b (indent + key.length + 2) reserve depth false v
  | (k, v) :: e :: rest =>
    let key := Text.quoted k
    key ++ ": " ++ layoutAt b (indent + key.length + 2) 1 depth false v ++ ",\n" ++
      "".pushn ' ' indent ++ layoutMembers b indent reserve depth (e :: rest)

end

def layout (b : Bounds) (v : Value) : String :=
  layoutAt b 0 0 b.depth true v.sortMembers

end NodeSchema.Value
