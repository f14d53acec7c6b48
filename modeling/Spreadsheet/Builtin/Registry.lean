import Spreadsheet.Builtin.Aggregate
import Spreadsheet.Builtin.Arithmetic
import Spreadsheet.Builtin.Inspection
import Spreadsheet.Builtin.Logic
import Spreadsheet.Builtin.Tables
import Spreadsheet.Builtin.Texts
import Spreadsheet.Builtin.Workdays

/-!
# The functions of formulas

The registry lists every function by its name in upper case, with the number of operands it takes,
whether it may change from one calculation to the next, and whether it gets to see error values
among its operands. All other functions give the first error value among their operands as their
result.
-/

namespace Spreadsheet

open Formula (FormulaError)
open Lookup (LookupError)

/-- How a function works on its operands. -/
inductive Builtin.Body where
  /-- On the values of its operands alone. -/
  | values (apply : List Value → Except ErrorValue Value)
  /-- On values, and on where and when the formula is evaluated. -/
  | located (apply : Context → List Value → Except ErrorValue Value)
  /-- On values, and by chance. -/
  | chance (apply : Seed → List Value → Except FormulaError Value)
  /-- On operands that may be ranges still to be read. -/
  | references (apply : Context → List Operand → Except LookupError Value)

/-- A function that formulas can call. -/
structure Builtin where
  /-- The name in upper case. -/
  name : String
  /-- The least number of operands. -/
  least : Nat
  /-- The greatest number of operands, if there is one. -/
  most : Option Nat
  /-- Whether the result may change although no operand does. -/
  isVolatile : Bool
  /-- Whether error values among the operands reach the function. -/
  intercepts : Bool
  body : Builtin.Body

namespace Builtin

/-- A function over values. -/
def ofValues (name : String) (least : Nat) (most : Option Nat)
    (apply : List Value → Except ErrorValue Value) : Builtin :=
  ⟨name, least, most, false, false, .values apply⟩

/-- A function over values that sees error values. -/
def intercepting (name : String) (least : Nat) (most : Option Nat)
    (apply : List Value → Except ErrorValue Value) : Builtin :=
  ⟨name, least, most, false, true, .values apply⟩

/-- A function over values and the place of the formula. -/
def ofPlace (name : String) (least : Nat) (most : Option Nat)
    (apply : Context → List Value → Except ErrorValue Value) : Builtin :=
  ⟨name, least, most, false, false, .located apply⟩

/-- A function of the moment of the calculation. -/
def ofMoment (name : String) (apply : Context → List Value → Except ErrorValue Value) : Builtin :=
  ⟨name, 0, some 0, true, false, .located apply⟩

/-- A function of chance. -/
def ofChance (name : String) (count : Nat)
    (apply : Seed → List Value → Except FormulaError Value) : Builtin :=
  ⟨name, count, some count, true, false, .chance apply⟩

/-- A function over references. -/
def ofReferences (name : String) (least : Nat) (most : Option Nat)
    (apply : Context → List Operand → Except LookupError Value) : Builtin :=
  ⟨name, least, most, false, false, .references apply⟩

/-- Functions over numbers. -/
def numeric : List Builtin :=
  [ofValues "SUM" 1 none sum,
   ofValues "PRODUCT" 1 none product,
   ofValues "AVERAGE" 1 none average,
   ofValues "MIN" 1 none minimum,
   ofValues "MAX" 1 none maximum,
   ofValues "COUNT" 1 none count,
   ofValues "COUNTA" 1 none countFilled,
   ofValues "ABS" 1 (some 1) absolute,
   ofValues "SIGN" 1 (some 1) sign,
   ofValues "INT" 1 (some 1) wholeBelow,
   ofValues "MOD" 2 (some 2) modulo,
   ofValues "POWER" 2 (some 2) power,
   ofValues "SQRT" 1 (some 1) squareRoot,
   ofValues "PI" 0 (some 0) pi,
   ofValues "ROUND" 1 (some 2) (rounded .halfAwayFromZero),
   ofValues "ROUNDUP" 1 (some 2) (rounded .awayFromZero),
   ofValues "ROUNDDOWN" 1 (some 2) (rounded .towardZero),
   ofChance "RAND" 0 random,
   ofChance "RANDBETWEEN" 2 randomBetween]

/-- Choices and connectives. -/
def logical : List Builtin :=
  [intercepting "IF" 2 (some 3) choose,
   intercepting "IFERROR" 2 (some 2) insteadOfError,
   intercepting "IFNA" 2 (some 2) insteadOfNotAvailable,
   ofValues "AND" 1 none conjunction,
   ofValues "OR" 1 none disjunction,
   ofValues "XOR" 1 none parity,
   ofValues "NOT" 1 (some 1) negation,
   ofValues "TRUE" 0 (some 0) (constant true),
   ofValues "FALSE" 0 (some 0) (constant false)]

/-- Questions about kinds of values. -/
def inspecting : List Builtin :=
  [intercepting "ISERROR" 1 (some 1) (inspect Value.isError),
   intercepting "ISERR" 1 (some 1) (inspect isOtherError),
   intercepting "ISNA" 1 (some 1) (inspect isNotAvailable),
   intercepting "ERROR.TYPE" 1 (some 1) errorType,
   intercepting "ISBLANK" 1 (some 1) (inspect Value.isEmpty),
   intercepting "ISNUMBER" 1 (some 1) (inspect Value.isNumber),
   intercepting "ISTEXT" 1 (some 1) (inspect isText),
   intercepting "ISLOGICAL" 1 (some 1) (inspect isLogical),
   ofValues "NA" 0 (some 0) notAvailable]

/-- Functions over texts. -/
def textual : List Builtin :=
  [ofValues "CONCATENATE" 1 none concatenate,
   ofValues "CONCAT" 1 none concatenate,
   ofValues "LEN" 1 (some 1) length,
   ofValues "LEFT" 1 (some 2) left,
   ofValues "RIGHT" 1 (some 2) right,
   ofValues "MID" 3 (some 3) middle,
   ofValues "UPPER" 1 (some 1) upper,
   ofValues "LOWER" 1 (some 1) lower,
   ofValues "TRIM" 1 (some 1) trim,
   ofValues "EXACT" 2 (some 2) exact,
   ofValues "REPT" 2 (some 2) repetition]

/-- Functions over tables and references. -/
def tabular : List Builtin :=
  [ofReferences "VLOOKUP" 3 (some 4) (tableLookup .vertical),
   ofReferences "HLOOKUP" 3 (some 4) (tableLookup .horizontal),
   ofReferences "MATCH" 2 (some 3) position,
   ofReferences "LOOKUP" 2 (some 3) vectorLookup,
   ofReferences "ROW" 0 (some 1) (place Position.row),
   ofReferences "COLUMN" 0 (some 1) (place Position.column),
   ofReferences "ROWS" 1 (some 1) (dimension Prod.fst),
   ofReferences "COLUMNS" 1 (some 1) (dimension Prod.snd),
   ofValues "INDEX" 2 (some 3) index,
   intercepting "CHOOSE" 2 none chooseAmong]

/-- Functions over dates and workdays. -/
def calendrical : List Builtin :=
  [ofPlace "DATE" 3 (some 3) date,
   ofPlace "YEAR" 1 (some 1) year,
   ofPlace "MONTH" 1 (some 1) month,
   ofPlace "DAY" 1 (some 1) day,
   ofPlace "WEEKDAY" 1 (some 2) weekday,
   ofMoment "TODAY" today,
   ofMoment "NOW" now,
   ofPlace "WORKDAY" 2 (some 3) workday,
   ofPlace "WORKDAY.INTL" 2 (some 4) workdayIn,
   ofPlace "NETWORKDAYS" 2 (some 3) networkdays,
   ofPlace "NETWORKDAYS.INTL" 2 (some 4) networkdaysIn]

/-- Every function. -/
def all : List Builtin := numeric ++ logical ++ inspecting ++ textual ++ tabular ++ calendrical

/-- The function with a name, in any case. -/
def find? (name : String) : Option Builtin :=
  let upper := Text.upper name
  all.find? fun function => function.name == upper

/-- Whether a name is that of a function whose result may change although no operand does. -/
def isVolatileName (name : String) : Bool := (find? name).any isVolatile

/-- The names of all functions in order. -/
def names : List String := (all.map Builtin.name).mergeSort fun left right => left ≤ right

/-- Whether a function takes a number of operands. -/
def accepts (function : Builtin) (count : Nat) : Bool :=
  function.least ≤ count && function.most.all fun most => count ≤ most

/-- Whether a function takes references as they are. -/
def takesReferences (function : Builtin) : Bool :=
  match function.body with
  | .references _ => true
  | _ => false

end Builtin

end Spreadsheet
