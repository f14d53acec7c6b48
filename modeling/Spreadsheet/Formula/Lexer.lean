import Spreadsheet.Formula.Error
import Spreadsheet.Name
import Spreadsheet.Number.Reading
import Spreadsheet.Text.Letter
import Spreadsheet.Text.Numeral

/-!
# From text to tokens

`tokens` splits the text of a formula into its words. Blanks separate words and count only inside
quoted ones; an equals sign before the formula may be left out. Each of the functions `take…`
splits one kind of word off the characters and gives the rest.
-/

namespace Spreadsheet.Formula

/-- Splits off a symbol; of two symbols the longer one is taken. -/
def takeSymbol : List Char → Option (Symbol × List Char)
  | '<' :: '=' :: rest => some (.lessEqual, rest)
  | '<' :: '>' :: rest => some (.notEqual, rest)
  | '<' :: rest => some (.lessThan, rest)
  | '>' :: '=' :: rest => some (.greaterEqual, rest)
  | '>' :: rest => some (.greaterThan, rest)
  | '+' :: rest => some (.plus, rest)
  | '-' :: rest => some (.minus, rest)
  | '*' :: rest => some (.star, rest)
  | '/' :: rest => some (.slash, rest)
  | '^' :: rest => some (.caret, rest)
  | '%' :: rest => some (.percent, rest)
  | '&' :: rest => some (.ampersand, rest)
  | '=' :: rest => some (.equal, rest)
  | ':' :: rest => some (.colon, rest)
  | ',' :: rest => some (.comma, rest)
  | ';' :: rest => some (.semicolon, rest)
  | '(' :: rest => some (.leftParen, rest)
  | ')' :: rest => some (.rightParen, rest)
  | '{' :: rest => some (.leftBrace, rest)
  | '}' :: rest => some (.rightBrace, rest)
  | _ => none

/-- Splits off what stands before the closing quote; a quote written twice stands for one. -/
def takeQuoted (quote : Char) : List Char → Option (List Char × List Char)
  | [] => none
  | [char] => if char = quote then some ([], []) else none
  | char :: next :: rest =>
    if char = quote then
      if next = quote then
        (takeQuoted quote rest).map fun (content, after) => (quote :: content, after)
      else some ([], next :: rest)
    else (takeQuoted quote (next :: rest)).map fun (content, after) => (char :: content, after)

/-- Splits off a text after its opening quote. -/
def takeText (chars : List Char) : Except SyntaxError (Token × List Char) :=
  match takeQuoted '"' chars with
  | some (content, rest) => .ok (.text (String.ofList content), rest)
  | none => .error .openText

/-- Splits off a quoted sheet name after its opening apostrophe, and the exclamation mark after
it. -/
def takeQuotedSheet (chars : List Char) : Except SyntaxError (Token × List Char) :=
  match takeQuoted '\'' chars with
  | none => .error .openSheetName
  | some (name, '!' :: rest) => .ok (.sheet (String.ofList name), rest)
  | some (name, _) => .error (.noMarkAfterSheet (String.ofList name))

/-- Characters inside error literals. -/
def isErrorChar (char : Char) : Bool := char.isAlphanum || char == '/' || char == '_'

/-- Splits off the characters of an error literal after its number sign. An exclamation or question
mark ends a literal and belongs to it. -/
def takeErrorChars : List Char → List Char × List Char
  | [] => ([], [])
  | char :: rest =>
    if char = '!' ∨ char = '?' then ([char], rest)
    else if isErrorChar char then
      let (literal, after) := takeErrorChars rest
      (char :: literal, after)
    else ([], char :: rest)

/-- Splits off an error literal after its number sign. -/
def takeError (chars : List Char) : Except SyntaxError (Token × List Char) :=
  let (literal, rest) := takeErrorChars chars
  let text := String.ofList ('#' :: literal)
  match ErrorValue.parse text with
  | some fault => .ok (.error fault, rest)
  | none => .error (.unknownError text)

/-- Splits off a point and the digits after it. -/
def takeFraction : List Char → List Char × List Char
  | '.' :: rest => ('.' :: rest.takeWhile Char.isDigit, rest.dropWhile Char.isDigit)
  | chars => ([], chars)

/-- Splits off the mark of an exponent with its sign and digits. A mark that neither a digit nor a
sign follows begins another word. -/
def takeExponent : List Char → List Char × List Char
  | mark :: next :: rest =>
    if (mark = 'e' ∨ mark = 'E') ∧ (next.isDigit ∨ next = '+' ∨ next = '-') then
      (mark :: next :: rest.takeWhile Char.isDigit, rest.dropWhile Char.isDigit)
    else ([], mark :: next :: rest)
  | chars => ([], chars)

/-- Splits off an unsigned number, which must be finite. -/
def takeNumber (chars : List Char) : Except SyntaxError (Token × List Char) :=
  let whole := chars.takeWhile Char.isDigit
  let (fraction, afterFraction) := takeFraction (chars.dropWhile Char.isDigit)
  let (exponent, rest) := takeExponent afterFraction
  let digits := whole ++ fraction ++ exponent
  match (Number.read digits).filter Number.isFinite with
  | some amount => .ok (.number amount, rest)
  | none => .error (.invalidNumber (String.ofList digits))

/-- Words begin with a letter, an underscore, a dollar mark or a backslash. -/
def isWordStart (char : Char) : Bool :=
  Text.isLetter char || char == '_' || char == '$' || char == '\\'

/-- Characters inside words. -/
def isWordChar (char : Char) : Bool :=
  Text.isLetter char || Text.isNumeral char ||
    char == '_' || char == '$' || char == '.' || char == '\\'

/-- What a word is that neither an exclamation mark nor a parenthesis follows: a logical value, an
address, or else a name. -/
def readWord (word : List Char) : Token :=
  let text := String.ofList word
  if Text.eqIgnoringAsciiCase text "TRUE" then .logical true
  else if Text.eqIgnoringAsciiCase text "FALSE" then .logical false
  else match Address.parse text with
    | .ok address => .cell address
    | .error _ => .identifier text

/-- Splits off a word. An exclamation mark after it makes it a sheet name, and a parenthesis makes
it a function, even one that is spelled like an address. -/
def takeWord (chars : List Char) : Token × List Char :=
  let word := chars.takeWhile isWordChar
  match chars.dropWhile isWordChar with
  | '!' :: rest => (.sheet (String.ofList word), rest)
  | '(' :: rest => (.identifier (String.ofList word), '(' :: rest)
  | rest => (readWord word, rest)

/-- Whether a number begins here: with a digit, or with a point and a digit. -/
def startsNumber : List Char → Bool
  | '.' :: next :: _ => next.isDigit
  | char :: _ => char.isDigit
  | [] => false

/-- The bytes that characters take. -/
def byteCount (chars : List Char) : Nat := (String.ofList chars).utf8ByteSize

/-- Splits off the token that begins with a character. `total` counts the bytes of the whole
formula. -/
def takeToken (total : Nat) (char : Char) (rest : List Char) :
    Except SyntaxError (Token × List Char) :=
  match takeSymbol (char :: rest) with
  | some (sign, after) => .ok (.symbol sign, after)
  | none =>
    if char = '"' then takeText rest
    else if char = '\'' then takeQuotedSheet rest
    else if char = '#' then takeError rest
    else if startsNumber (char :: rest) then takeNumber (char :: rest)
    else if isWordStart char then .ok (takeWord (char :: rest))
    else .error (.unexpectedCharacter char (total - byteCount (char :: rest)))

/-- The tokens of the characters. Each token takes one unit of `room`, and `total` counts the
bytes of the whole formula. -/
def tokensFrom (total : Nat) : (room : Nat) → List Char → Except SyntaxError (List Token)
  | 0, _ => .ok []
  | room + 1, chars =>
    match Text.trimStart chars with
    | [] => .ok []
    | char :: rest => do
      let (token, after) ← takeToken total char rest
      return token :: (← tokensFrom total room after)

/-- The characters of a formula without blanks around it and without an equals sign before it. -/
def body (formula : String) : List Char :=
  match Text.trimChars formula.toList with
  | '=' :: rest => rest
  | chars => chars

/-- The tokens of a formula. No token is empty, so there is room for all of them. -/
def tokens (formula : String) : Except SyntaxError (List Token) :=
  let chars := body formula
  tokensFrom (byteCount chars) chars.length chars

end Spreadsheet.Formula
