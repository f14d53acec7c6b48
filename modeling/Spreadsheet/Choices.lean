import Spreadsheet.Address.SheetQualifier
import Spreadsheet.DocumentError
import Spreadsheet.Text.Ascii
import Spreadsheet.Text.Pieces

/-!
# Choice lists

The choices a cell offers for its content are stored as one quoted formula, `"Yes,No,Maybe"`, whose
text between the quotes may hold at most 255 characters. Every change is checked against that limit
before it is made, so a list can always be written.
-/

namespace Spreadsheet

open SheetQualifier (undouble double)

/-- The choices of a cell, in order. -/
structure Choices where
  items : List String
  deriving DecidableEq, Repr, Inhabited

namespace Choices

/-- The character between two items. -/
def separator : Char := ','

/-- The list without items. -/
def empty : Choices := ⟨[]⟩

/-- An item must not contain the separator. -/
def checkItem (item : String) : Except DocumentError Unit :=
  if item.toList.contains separator then .error (.invalidChoices (.separator item)) else .ok ()

/-- The characters of a written list: all items and a separator between any two. -/
def length (items : List String) : Nat :=
  items.foldr (fun item count => item.length + count) (items.length - 1)

/-- A written list must fit the limit. -/
def checkLength (items : List String) : Except DocumentError Unit :=
  if choicesLimit < length items then .error (.choicesTooLong (length items)) else .ok ()

/-- The list of the given items: each is checked on its own, then their length. -/
def ofItems (items : List String) : Except DocumentError Choices := do
  items.forM checkItem
  checkLength items
  return ⟨items⟩

/-- The text without its adjacent pairs of a quote character. -/
def withoutPairs (quote : Char) : List Char → List Char
  | [] => []
  | [char] => [char]
  | first :: second :: rest =>
    if first = quote ∧ second = quote then withoutPairs quote rest
    else first :: withoutPairs quote (second :: rest)

/-- The formula without blanks around it and without a leading equals sign. -/
def body (formula : String) : List Char :=
  match Text.trimChars formula.toList with
  | '=' :: rest => Text.trimChars rest
  | chars => chars

/-- The characters between the outer quotes, if the text begins and ends with one. -/
def inner (chars : List Char) : Option (List Char) :=
  match chars with
  | '"' :: rest => if rest.getLast? = some '"' then some rest.dropLast else none
  | _ => none

/-- Reads the formula of a list. A quote inside it must be written twice; a list whose text is empty
has no items. -/
def parse (formula : String) : Except DocumentError Choices :=
  let malformed := .error (.invalidChoices (.notQuoted formula))
  match inner (body formula) with
  | none => malformed
  | some text =>
    if (withoutPairs '"' text).contains '"' then malformed
    else
      let decoded := undouble '"' text
      if decoded.isEmpty then .ok empty
      else ofItems ((Text.pieces separator decoded).map String.ofList)

/-- The items joined by separators, as counted against the limit. -/
def serialized (choices : Choices) : String :=
  String.ofList ([separator].intercalate (choices.items.map String.toList))

/-- The formula of a list. -/
def render (choices : Choices) : String :=
  String.ofList ('"' :: double '"' choices.serialized.toList ++ ['"'])

/-- The list with other items, if they fit the limit. -/
def replaceItems (items : List String) : Except DocumentError Choices := do
  checkLength items
  return ⟨items⟩

/-- Puts an item before the one at an index, or at the end. -/
def insert (choices : Choices) (index : Nat) (item : String) : Except DocumentError Choices := do
  if choices.items.length < index then
    throw (.choiceOutOfBounds index choices.items.length)
  checkItem item
  replaceItems (choices.items.take index ++ item :: choices.items.drop index)

/-- Puts an item at the end. -/
def push (choices : Choices) (item : String) : Except DocumentError Choices :=
  choices.insert choices.items.length item

/-- Exchanges the item at an index and gives the old one. -/
def set (choices : Choices) (index : Nat) (item : String) :
    Except DocumentError (String × Choices) :=
  match choices.items[index]? with
  | none => .error (.choiceOutOfBounds index choices.items.length)
  | some old => do
    checkItem item
    return (old, ← replaceItems (choices.items.set index item))

/-- Takes out the item at an index. -/
def remove (choices : Choices) (index : Nat) : Except DocumentError (String × Choices) :=
  match choices.items[index]? with
  | none => .error (.choiceOutOfBounds index choices.items.length)
  | some old => .ok (old, ⟨choices.items.eraseIdx index⟩)

/-- Whether an item equals a text up to ASCII case. -/
def contains (choices : Choices) (text : String) : Bool :=
  choices.items.any fun item => Text.eqIgnoringAsciiCase item text

end Choices

end Spreadsheet
