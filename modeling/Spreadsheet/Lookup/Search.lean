import Spreadsheet.Lookup.Navigator
import Spreadsheet.Lookup.PatternSize

/-!
# Searching among keys

Keys of another kind than the value are passed over. An exact search takes the first key that
equals the value, or fits it if the value is a pattern. An approximate search takes the first
equal key as well, and else the last key before the first one that lies beyond the value. `find`
also gives the walk as it stands after the search.
-/

namespace Spreadsheet.Lookup

/-- How keys match a value. -/
inductive MatchMode where
  | exact
  /-- The largest key that is not greater, among ascending keys. -/
  | ascending
  /-- The smallest key that is not less, among descending keys. -/
  | descending
  deriving DecidableEq, Repr

/-- Zero asks for an exact match, a negative number for descending keys, a positive one for
ascending keys. -/
def MatchMode.ofNumber (number : Int) : MatchMode :=
  if number = 0 then exact else if number < 0 then descending else ascending

/-- A key that was found, by its position, with its result. -/
structure Hit where
  position : Nat
  value : Value
  deriving Inhabited

/-- The hit on the key where a walk stands. -/
def Navigator.hit (navigator : Navigator) : Hit := ⟨navigator.position, navigator.result⟩

/-- How many keys come after the one where a walk stands. -/
def Navigator.ahead (navigator : Navigator) : Nat := navigator.length - (navigator.position + 1)

/-- The walk one key further. -/
def Navigator.advanced (navigator : Navigator) : Navigator :=
  { navigator with position := navigator.position + 1 }

/-- Two numbers, two texts or two logical values are of one kind. -/
def sameKind : Value → Value → Bool
  | .number _, .number _ => true
  | .text _, .text _ => true
  | .logical _, .logical _ => true
  | _, _ => false

/-- Whether a key equals a value of its kind. -/
def equals (value key : Value) : Bool := sameKind value key && value.compare key == .eq

/-- The pattern that a value stands for. -/
def patternOf : Value → Option (List Piece)
  | .text text => pattern? text
  | _ => none

/-- Whether a key is an exact match. A text key matches a pattern when it fits. -/
def isExact (pattern : Option (List Piece)) (value key : Value) : Bool :=
  match pattern, key with
  | some pattern, .text text => fits pattern text.toList
  | _, _ => equals value key

/-- The first exact match from where a walk stands, with `ahead` keys after it. -/
def findExact (pattern : Option (List Piece)) (value : Value) :
    (ahead : Nat) → Navigator → Option Hit × Navigator
  | 0, navigator =>
    (if isExact pattern value navigator.key then some navigator.hit else none, navigator)
  | ahead + 1, navigator =>
    if isExact pattern value navigator.key then (some navigator.hit, navigator)
    else findExact pattern value ahead navigator.advanced

/-- The nearest match from where a walk stands, with `ahead` keys after it. Keys that are ordered
`toward` the value become the best match so far, and a key beyond the value ends the search. -/
def findNearest (value : Value) (toward : Ordering) :
    (ahead : Nat) → (best : Option Hit) → Navigator → Option Hit × Navigator
  | ahead, best, navigator =>
    let goOn (best : Option Hit) : Option Hit × Navigator :=
      match ahead with
      | 0 => (best, navigator)
      | ahead + 1 => findNearest value toward ahead best navigator.advanced
    if !sameKind value navigator.key then goOn best
    else
      let order := navigator.key.compare value
      if order = .eq then (some navigator.hit, navigator)
      else if order = toward then goOn (some navigator.hit)
      -- the first key beyond the value: no later one is looked at, whatever its order
      else (best, navigator)

/-- The match for a value from where a walk stands, and the walk after the search. -/
def find (value : Value) (mode : MatchMode) (navigator : Navigator) : Option Hit × Navigator :=
  match mode with
  | .exact => findExact (patternOf value) value navigator.ahead navigator
  | .ascending => findNearest value .lt navigator.ahead none navigator
  | .descending => findNearest value .gt navigator.ahead none navigator

/-- Looks up a request along a direction. -/
def search (direction : Direction) (request : Request) (mode : MatchMode) (context : Context) :
    Except LookupError (Option Hit) := do
  return (find request.value mode (← navigate direction request context)).1

end Spreadsheet.Lookup
