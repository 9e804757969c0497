import NodeSchema.Text.Ranges
/-!
# Lines and words

How a text is cut into lines and words. A line keeps the mark that ends it; a carriage return and a
line feed in sequence are one mark. A word keeps the blanks that follow it, and blanks at the start
of a text stand for themselves. Joining the pieces gives the text back.
-/

namespace NodeSchema.Text

/-- Blank characters: the white space of Unicode 14.0 and the four separators U+001C to U+001F. -/
def isBlank (c : Char) : Bool :=
  inRanges [(0x09, 0x0D), (0x1C, 0x20), (0x85, 0x85), (0xA0, 0xA0), (0x1680, 0x1680),
    (0x2000, 0x200A), (0x2028, 0x2029), (0x202F, 0x202F), (0x205F, 0x205F), (0x3000, 0x3000)]
    c.toNat

def endsLine (c : Char) : Bool :=
  inRanges [(0x0A, 0x0D), (0x1C, 0x1E), (0x85, 0x85), (0x2028, 0x2029)] c.toNat

def consPiece (c : Char) : List (List Char) → List (List Char)
  | [] => [[c]]
  | piece :: rest => (c :: piece) :: rest

/-- The lines of a text, each with the mark that ends it. -/
def splitLines : List Char → List (List Char)
  | [] => []
  | '\r' :: '\n' :: rest => ['\r', '\n'] :: splitLines rest
  | c :: rest => if endsLine c then [c] :: splitLines rest else consPiece c (splitLines rest)

/-- The words of a text, each with the blanks that follow it. -/
def splitWords : List Char → List (List Char)
  | [] => []
  | c :: rest =>
    match rest with
    | [] => [[c]]
    | d :: _ =>
      if isBlank c && !isBlank d then [c] :: splitWords rest else consPiece c (splitWords rest)

/-- The text with every carriage return, alone or before a line feed, read as a line feed. -/
def unifyNewlines : List Char → List Char
  | [] => []
  | '\r' :: '\n' :: rest => '\n' :: unifyNewlines rest
  | '\r' :: rest => '\n' :: unifyNewlines rest
  | c :: rest => c :: unifyNewlines rest

end NodeSchema.Text
