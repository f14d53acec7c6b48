import Spreadsheet.Text.Blank

/-!
# Sheet names before an address

In `Data!A1:B2` and `'My Sheet'!A1` the part before the last exclamation mark names a sheet. A
quoted name loses its apostrophes, and an apostrophe written twice inside it stands for one.
-/

namespace Spreadsheet.SheetQualifier

/-- Joins each pair of adjacent quote characters into one. -/
def undouble (quote : Char) : List Char → List Char
  | [] => []
  | [char] => [char]
  | first :: second :: rest =>
    if first = quote ∧ second = quote then quote :: undouble quote rest
    else first :: undouble quote (second :: rest)

/-- Writes each quote character twice. -/
def double (quote : Char) (chars : List Char) : List Char :=
  chars.flatMap fun char => if char = quote then [quote, quote] else [char]

/-- The name inside a pair of apostrophes, or the characters as they are. -/
def unquote (chars : List Char) : List Char :=
  match chars with
  | '\'' :: body =>
    if body.getLast? = some '\'' then undouble '\'' body.dropLast else chars
  | _ => chars

/-- Splits characters at their last exclamation mark. -/
def splitLastMark (chars : List Char) : Option (List Char × List Char) :=
  let reversed := chars.reverse
  match reversed.dropWhile (· != '!') with
  | [] => none
  | _ :: before => some (before.reverse, (reversed.takeWhile (· != '!')).reverse)

/-- The sheet name before a reference, if there is one, and the reference without it. -/
def split (reference : String) : Option String × String :=
  let chars := Text.trimChars reference.toList
  match splitLastMark chars with
  | none => (none, String.ofList chars)
  | some (sheet, rest) => (some (String.ofList (unquote sheet)), String.ofList rest)

end Spreadsheet.SheetQualifier
