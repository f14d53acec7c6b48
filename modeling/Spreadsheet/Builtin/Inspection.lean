import Spreadsheet.Builtin.Operands

/-!
# Inspection

Functions that tell what kind a value is of. An array is inspected by its top left element, and
error values are values like any other here.
-/

namespace Spreadsheet.Builtin

/-- Whether the operand has a property. -/
def inspect (property : Value → Bool) (operands : List Value) : Result :=
  .ok (.logical (property (operand operands 0).scalar))

/-- Whether a value is a text. -/
def isText : Value → Bool
  | .text _ => true
  | _ => false

/-- Whether a value is a logical value. -/
def isLogical : Value → Bool
  | .logical _ => true
  | _ => false

/-- Whether a value says that nothing was found. -/
def isNotAvailable : Value → Bool
  | .error .notAvailable => true
  | _ => false

/-- Whether a value is an error value that says more than that nothing was found. -/
def isOtherError (value : Value) : Bool := value.isError && !isNotAvailable value

/-- `ERROR.TYPE(value)`: the number of an error value. -/
def errorType (operands : List Value) : Result :=
  match (operand operands 0).scalar with
  | .error fault => .ok (ofCount fault.typeNumber)
  | _ => .error .notAvailable

/-- `NA()` -/
def notAvailable (_ : List Value) : Result := .error .notAvailable

end Spreadsheet.Builtin
