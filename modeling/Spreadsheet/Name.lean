import Std.Data.ExtTreeMap
import Spreadsheet.Address.Basic
import Spreadsheet.Text.Ascii
import Spreadsheet.Text.Letter
import Spreadsheet.Text.LowerCase
import Spreadsheet.Text.Numeral

/-!
# Defined names

A defined name stands for a cell, a range, a constant or a whole expression. A name belongs to the
workbook or to one sheet, and names that differ only in case are one name. Seen from a sheet, the
sheet's own definition hides the workbook's.
-/

namespace Spreadsheet

/-- Where a defined name is known. -/
inductive Scope where
  | workbook
  | sheet (index : Nat)
  deriving DecidableEq, Repr, Inhabited

/-- Scopes are ordered with the workbook first and sheets by number. -/
def Scope.rank : Scope → Nat
  | workbook => 0
  | sheet index => index + 1

/-- A defined name and what it refers to. -/
structure DefinedName where
  /-- The name as it was first written. -/
  name : String
  scope : Scope
  /-- The text it stands for, with or without a leading equals sign. -/
  refersTo : String
  comment : Option String
  deriving DecidableEq, Repr, Inhabited

/-- The expression a name stands for, without a leading equals sign and blanks around it. -/
def DefinedName.expression (definition : DefinedName) : String :=
  match definition.refersTo.toList with
  | '=' :: rest => String.ofList (Text.trimChars rest)
  | chars => String.ofList (Text.trimChars chars)

/-- Names begin with a letter, an underscore or a backslash. -/
def isNameStart (char : Char) : Bool := Text.isLetter char || char == '_' || char == '\\'

/-- Names go on with letters, numerals, underscores and points. -/
def isNameChar (char : Char) : Bool :=
  Text.isLetter char || Text.isNumeral char || char == '_' || char == '.'

/-- Whether a text reads as an address of the grid. -/
def isAddress (text : String) : Bool := (Address.parse text).toBool

/-- Whether a text reads as a logical value. -/
def isLogicalWord (text : String) : Bool :=
  Text.eqIgnoringAsciiCase text "TRUE" || Text.eqIgnoringAsciiCase text "FALSE"

/-- A name is usable in formulas if it is spelled as one and reads neither as an address nor as a
logical value. -/
def isUsableName (name : String) : Bool :=
  (match name.toList with
    | first :: rest => isNameStart first && rest.all isNameChar
    | [] => false) &&
  !isAddress name && !isLogicalWord name

/-- Refuses names that formulas could not use. -/
def checkName (name : String) : Except DocumentError Unit :=
  if isUsableName name then .ok () else .error (.invalidName (.malformed name))

/-- What tells definitions apart: their scope, and their name in lower case. -/
structure NameKey where
  scope : Scope
  spelling : String
  deriving DecidableEq, Repr, Inhabited

namespace NameKey

/-- The key of a name in a scope. -/
def of (name : String) (scope : Scope) : NameKey := ⟨scope, Text.lower name⟩

/-- Keys are ordered by scope, then by spelling. -/
def order (left right : NameKey) : Ordering :=
  (compare left.scope.rank right.scope.rank).then (compare left.spelling right.spelling)

/-- Scopes with the same rank are the same, so that names can be sorted by it. -/
theorem rank_injective {left right : Scope} (h : left.rank = right.rank) : left = right := by
  cases left <;> cases right <;> simp_all [Scope.rank]

instance : Std.TransCmp order :=
  inferInstanceAs (Std.TransCmp
    (compareLex (compareOn fun key : NameKey => key.scope.rank) (compareOn NameKey.spelling)))

instance : Std.LawfulEqCmp order where
  compare_self := by simp [order]
  eq_of_compare := by
    intro left right h
    obtain ⟨hrank, hspelling⟩ := Ordering.then_eq_eq.mp h
    obtain ⟨scope, spelling⟩ := left
    obtain ⟨scope', spelling'⟩ := right
    simp only [Std.compare_eq_iff_eq] at hrank hspelling
    rw [rank_injective hrank, hspelling]

end NameKey

/-- What tells a definition from others. -/
def DefinedName.key (definition : DefinedName) : NameKey := .of definition.name definition.scope

/-- The defined names of a document, each under its own key. -/
structure NameTable where
  entries : Std.ExtTreeMap NameKey DefinedName NameKey.order
  keyed : ∀ (key : NameKey) (definition : DefinedName),
    entries[key]? = some definition → definition.key = key

namespace NameTable

/-- A table without names. -/
def empty : NameTable := ⟨∅, by simp⟩

instance : Inhabited NameTable := ⟨empty⟩

/-- The table with a definition in place of one with its key. -/
def insert (table : NameTable) (definition : DefinedName) : NameTable where
  entries := table.entries.insert definition.key definition
  keyed key other h := by
    rw [Std.ExtTreeMap.getElem?_insert] at h
    split at h
    · cases h
      exact Std.LawfulEqCmp.eq_of_compare ‹_›
    · exact table.keyed key other h

/-- The table without the definition of a key. -/
def erase (table : NameTable) (key : NameKey) : NameTable where
  entries := table.entries.erase key
  keyed other definition h := by
    rw [Std.ExtTreeMap.getElem?_erase] at h
    split at h
    · cases h
    · exact table.keyed other definition h

/-- The definition of a name in one scope. -/
def getExact (table : NameTable) (name : String) (scope : Scope) : Option DefinedName :=
  table.entries[NameKey.of name scope]?

/-- The definition that a name has on a sheet: the sheet's own one before the workbook's. -/
def get (table : NameTable) (name : String) (sheet : Nat) : Option DefinedName :=
  (table.getExact name (.sheet sheet)).or (table.getExact name .workbook)

/-- Stores a definition, in place of one with its key. -/
def update (table : NameTable) (definition : DefinedName) : Except DocumentError NameTable := do
  checkName definition.name
  return table.insert definition

/-- Stores a definition whose key is free. -/
def define (table : NameTable) (definition : DefinedName) : Except DocumentError NameTable := do
  checkName definition.name
  if (table.getExact definition.name definition.scope).isSome then
    throw (.invalidName (.taken definition.name))
  return table.insert definition

/-- Takes out the definition of a name in one scope. -/
def remove (table : NameTable) (name : String) (scope : Scope) : Option DefinedName × NameTable :=
  (table.getExact name scope, table.erase (NameKey.of name scope))

/-- Number of definitions. -/
def size (table : NameTable) : Nat := table.entries.size

/-- All definitions, by scope and then by name. -/
def toList (table : NameTable) : List DefinedName := table.entries.toList.map Prod.snd

/-- The definitions of one scope, by their names in lower case. -/
def inScope (table : NameTable) (scope : Scope) : List DefinedName :=
  (table.entries.toList.filter fun entry => entry.1.scope == scope).map Prod.snd

end NameTable

end Spreadsheet
