import Spreadsheet.Formula.Expr
import Spreadsheet.Formula.Lexer
import Spreadsheet.Text.UpperCase

/-!
# From tokens to expressions

Operators bind in levels, from comparisons, which bind least, to signs. Comparison, concatenation
and the two arithmetic levels group to the left and powers to the right; percent marks follow
their operand, and a colon joins two addresses into a range. `parseTokens` reads all tokens as one
expression, and `parse` reads a text.
-/

namespace Spreadsheet.Formula

/-- How tightly operators bind, the loosest level first. -/
inductive Level where
  | comparison
  | concatenation
  | additive
  | multiplicative
  | power
  | sign
  deriving DecidableEq, Repr, Inhabited

namespace Level

/-- The level of the operands. -/
def next : Level → Level
  | comparison => concatenation
  | concatenation => additive
  | additive => multiplicative
  | multiplicative => power
  | power => sign
  | sign => sign

/-- The operator that a symbol is between two operands of a level that groups to the left. -/
def operator : Level → Symbol → Option BinaryOperator
  | comparison, .equal => some .equal
  | comparison, .notEqual => some .notEqual
  | comparison, .lessThan => some .lessThan
  | comparison, .lessEqual => some .lessEqual
  | comparison, .greaterThan => some .greaterThan
  | comparison, .greaterEqual => some .greaterEqual
  | concatenation, .ampersand => some .concat
  | additive, .plus => some .add
  | additive, .minus => some .subtract
  | multiplicative, .star => some .multiply
  | multiplicative, .slash => some .divide
  | _, _ => none

/-- Splits off an operator of a level. -/
def takeOperator (level : Level) : List Token → Option (BinaryOperator × List Token)
  | .symbol symbol :: rest => (level.operator symbol).map fun operator => (operator, rest)
  | _ => none

end Level

/-- Splits off a symbol that must come next. -/
def expect (sign : Symbol) : List Token → Except SyntaxError (List Token)
  | .symbol found :: rest =>
    if found = sign then .ok rest else .error (.expected sign (some (.symbol found)))
  | tokens => .error (.expected sign tokens.head?)

/-- Applies the percent marks that follow an operand. -/
def percents (operand : Expr) : List Token → Expr × List Token
  | .symbol .percent :: rest => percents (.unary .percent operand) rest
  | tokens => (operand, tokens)

/-- Two sheet names before the ends of a range must agree up to ASCII case; one is enough. -/
def commonSheet : Option String → Option String → Except SyntaxError (Option String)
  | some left, some right =>
    if Text.eqIgnoringAsciiCase left right then .ok (some left) else .error .differentSheets
  | left, right => .ok (left.or right)

/-- The range between two addresses. -/
def joinRange : Expr → Expr → Except SyntaxError Expr
  | .cell leftSheet left, .cell rightSheet right => do
    return .range (← commonSheet leftSheet rightSheet) (.ofCorners left right)
  | _, _ => .error .noAddressInRange

/-- An array constant, all of whose rows must be as long as the first. -/
def arrayOfRows (rows : List (List Expr)) : Except SyntaxError Expr :=
  if rows.all fun row => row.length == (rows.headD []).length then .ok (.array rows)
  else .error .unevenRows

/-- Puts an item before the first of the rows. -/
def consItem (item : Expr) : List (List Expr) → List (List Expr)
  | [] => [[item]]
  | row :: rows => (item :: row) :: rows

/-- The reference after a sheet name. A name before a parenthesis would be a function, which no
sheet has. -/
def reference (sheet : String) : List Token → Except SyntaxError (Expr × List Token)
  | .cell address :: rest => .ok (.cell (some sheet) address, rest)
  | .identifier name :: .symbol .leftParen :: _ =>
    .error (.noReferenceAfterSheet sheet (some (.identifier name)))
  | .identifier name :: rest => .ok (.name (some sheet) name, rest)
  | tokens => .error (.noReferenceAfterSheet sheet tokens.head?)

mutual

/-- An expression of a level. Each call takes one unit of `room`. -/
def expression : (room : Nat) → Level → List Token → Except SyntaxError (Expr × List Token)
  | 0, _, _ => .error .noRoom
  | room + 1, .sign, tokens =>
    match tokens with
    | .symbol .minus :: rest => do
      let (operand, after) ← expression room .sign rest
      return (.unary .negate operand, after)
    | .symbol .plus :: rest => expression room .sign rest
    | _ => do
      let (operand, after) ← range room tokens
      return percents operand after
  | room + 1, .power, tokens => do
    let (left, after) ← expression room .sign tokens
    match after with
    | .symbol .caret :: rest => do
      let (right, after) ← expression room .power rest
      return (.binary .power left right, after)
    | _ => return (left, after)
  | room + 1, level, tokens => do
    let (left, after) ← expression room level.next tokens
    operations room level left after

/-- The operators of a level after its first operand, each with its right operand. -/
def operations : (room : Nat) → Level → Expr → List Token → Except SyntaxError (Expr × List Token)
  | 0, _, _, _ => .error .noRoom
  | room + 1, level, left, tokens =>
    match level.takeOperator tokens with
    | none => .ok (left, tokens)
    | some (operator, rest) => do
      let (right, after) ← expression room level.next rest
      operations room level (.binary operator left right) after

/-- A primary, or a range between two addresses. -/
def range : (room : Nat) → List Token → Except SyntaxError (Expr × List Token)
  | 0, _ => .error .noRoom
  | room + 1, tokens => do
    let (left, after) ← primary room tokens
    match after with
    | .symbol .colon :: rest => do
      let (right, after) ← primary room rest
      return (← joinRange left right, after)
    | _ => return (left, after)

/-- A literal, a reference, a call, an array constant or an expression in parentheses. -/
def primary : (room : Nat) → List Token → Except SyntaxError (Expr × List Token)
  | 0, _ => .error .noRoom
  | _ + 1, [] => .error .unexpectedEnd
  | room + 1, token :: rest =>
    match token with
    | .number amount => .ok (.number amount, rest)
    | .text content => .ok (.text content, rest)
    | .logical truth => .ok (.logical truth, rest)
    | .error fault => .ok (.error fault, rest)
    | .cell address => .ok (.cell none address, rest)
    | .sheet sheet => reference sheet rest
    | .identifier name =>
      match rest with
      | .symbol .leftParen :: inside => do
        let (operands, after) ← arguments room inside
        return (.call (Text.upper name) operands, after)
      | _ => .ok (.name none name, rest)
    | .symbol .leftParen => do
      let (inside, after) ← expression room .comparison rest
      return (inside, ← expect .rightParen after)
    | .symbol .leftBrace =>
      match rest with
      | .symbol .rightBrace :: _ => .error .emptyArray
      | _ => do
        let (rows, after) ← arrayRows room rest
        return (← arrayOfRows rows, after)
    | .symbol sign => .error (.unexpectedToken (.symbol sign))

/-- The operands of a call up to its closing parenthesis; there may be none. -/
def arguments : (room : Nat) → List Token → Except SyntaxError (List Expr × List Token)
  | 0, _ => .error .noRoom
  | room + 1, tokens =>
    match tokens with
    | .symbol .rightParen :: rest => .ok ([], rest)
    | _ => moreArguments room tokens

/-- One operand of a call and those after it up to its closing parenthesis. -/
def moreArguments : (room : Nat) → List Token → Except SyntaxError (List Expr × List Token)
  | 0, _ => .error .noRoom
  | room + 1, tokens => do
    let (operand, after) ← expression room .comparison tokens
    match after with
    | .symbol .comma :: rest => do
      let (operands, after) ← moreArguments room rest
      return (operand :: operands, after)
    | _ => return ([operand], ← expect .rightParen after)

/-- The rows of an array constant up to its closing brace: commas separate items, semicolons
rows. -/
def arrayRows : (room : Nat) → List Token → Except SyntaxError (List (List Expr) × List Token)
  | 0, _ => .error .noRoom
  | room + 1, tokens => do
    let (item, after) ← expression room .comparison tokens
    match after with
    | .symbol .comma :: rest => do
      let (rows, after) ← arrayRows room rest
      return (consItem item rows, after)
    | .symbol .semicolon :: rest => do
      let (rows, after) ← arrayRows room rest
      return ([item] :: rows, after)
    | .symbol .rightBrace :: rest => return ([[item]], rest)
    | _ => .error (.arraySeparator after.head?)

end

/-- No more than ten calls go by between two tokens. -/
def roomFor (tokens : List Token) : Nat := 10 * (tokens.length + 1)

/-- The expression that all tokens together are. -/
def parseTokens (tokens : List Token) : Except SyntaxError Expr :=
  if tokens.isEmpty then .error .emptyFormula
  else do
    let (tree, rest) ← expression (roomFor tokens) .comparison tokens
    match rest with
    | [] => return tree
    | token :: _ => throw (.trailing token)

/-- The expression that a text is. -/
def parse (formula : String) : Except SyntaxError Expr := do parseTokens (← tokens formula)

end Spreadsheet.Formula
