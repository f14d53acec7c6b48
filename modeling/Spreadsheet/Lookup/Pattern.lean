import Spreadsheet.Text.CaseFolding

/-!
# Wildcard patterns

In the text of an exact lookup an asterisk stands for any characters and a question mark for any
one character; a tilde makes the character after it an ordinary one. Ordinary characters stand for
themselves in either case. Such a text is written as a regular expression, and the expression is
read as a pattern. `fits` reads a text along a pattern and keeps track of all the places where the
text can stand after each piece.
-/

namespace Spreadsheet.Lookup

/-- One piece of a pattern. -/
inductive Piece where
  /-- Any characters, or none. -/
  | anyRun
  /-- Any one character. -/
  | anyOne
  /-- This character in either case. -/
  | letter (char : Char)
  deriving DecidableEq, Repr

/-- Whether a text contains a character that makes it a pattern. -/
def hasWildcard (chars : List Char) : Bool :=
  chars.any fun char => char == '*' || char == '?' || char == '~'

/-! ## Regular expressions -/

/-- The characters that mean something else than themselves in an expression, or do so somewhere. -/
def metaChars : List Char := "\\.+*?()|[]\x7b\x7d^$#&-~".toList

/-- Whether a character stands for itself only behind a backslash. -/
def isMeta (char : Char) : Bool := metaChars.contains char

/-- A character as it stands for itself in an expression. -/
def escaped (char : Char) : List Char := if isMeta char then ['\\', char] else [char]

/-- The characters of a wildcard text in an expression. A tilde at the end stands for itself. -/
def translated : List Char → List Char
  | [] => []
  | ['~'] => escaped '~'
  | '~' :: char :: rest => escaped char ++ translated rest
  | '*' :: rest => '.' :: '*' :: translated rest
  | '?' :: rest => '.' :: translated rest
  | char :: rest => escaped char ++ translated rest

/-- What an expression begins with: it ignores case, its dots stand for line breaks too, and a text
is read from its beginning. -/
def opening : List Char := "(?is)^".toList

/-- The expression for a wildcard text. The dollar sign stands for the end of the text. -/
def expression (chars : List Char) : List Char := opening ++ translated chars ++ ['$']

/-- The pieces that an expression stands for after its opening. -/
def readPieces : List Char → Option (List Piece)
  | [] => none
  | ['$'] => some []
  | '\\' :: char :: rest => if isMeta char then (readPieces rest).map (.letter char :: ·) else none
  | '.' :: '*' :: rest => (readPieces rest).map (.anyRun :: ·)
  | '.' :: rest => (readPieces rest).map (.anyOne :: ·)
  | char :: rest => if isMeta char then none else (readPieces rest).map (.letter char :: ·)

/-- The pattern that an expression stands for. -/
def readExpression (expression : List Char) : Option (List Piece) :=
  if opening.isPrefixOf expression then readPieces (expression.drop opening.length) else none

/-! ## Fitting texts -/

/-- The ends of a text, the whole text first. -/
def ends : List Char → List (List Char)
  | [] => [[]]
  | char :: rest => (char :: rest) :: ends rest

/-- What can be left of a text after a piece, given what can be left before it. The longest rest
comes first, and every other one is an end of it. -/
def restsAfter : Piece → List (List Char) → List (List Char)
  | .anyRun, rests =>
    match rests with
    | [] => []
    | longest :: _ => ends longest
  | .anyOne, rests => rests.filterMap List.tail?
  | .letter char, rests => rests.filterMap fun
    | first :: rest => if Text.sameUpToCase char first then some rest else none
    | [] => none

/-- Whether a whole text fits a pattern. -/
def fits (pattern : List Piece) (text : List Char) : Bool :=
  (pattern.foldl (fun rests piece => restsAfter piece rests) [text]).any List.isEmpty

end Spreadsheet.Lookup
