import Spreadsheet.Lookup.Pattern

/-!
# The room a pattern takes

A pattern is read by an automaton over the UTF-8 bytes of a text, and a pattern whose automaton
takes more than ten mebibytes is not read as a pattern. The automaton takes room for each state and
for each link out of a fork. A fork offers the encodings of several characters; its states are the
steps along these byte sequences, and sequences that begin alike share the states of what they have
in common.
-/

namespace Spreadsheet.Lookup

/-- The bytes that one step of the automaton reads, from the first to the last. -/
abbrev ByteRange := UInt8 × UInt8

/-- The sequences of bytes that encode a character of any kind. -/
def anySequences : List (List ByteRange) :=
  [[(0x00, 0x7F)],
   [(0xC2, 0xDF), (0x80, 0xBF)],
   [(0xE0, 0xE0), (0xA0, 0xBF), (0x80, 0xBF)],
   [(0xE1, 0xEC), (0x80, 0xBF), (0x80, 0xBF)],
   [(0xED, 0xED), (0x80, 0x9F), (0x80, 0xBF)],
   [(0xEE, 0xEF), (0x80, 0xBF), (0x80, 0xBF)],
   [(0xF0, 0xF0), (0x90, 0xBF), (0x80, 0xBF), (0x80, 0xBF)],
   [(0xF1, 0xF3), (0x80, 0xBF), (0x80, 0xBF), (0x80, 0xBF)],
   [(0xF4, 0xF4), (0x80, 0x8F), (0x80, 0xBF), (0x80, 0xBF)]]

/-- The bytes of a code point. -/
def utf8Bytes (code : Nat) : List UInt8 := String.utf8EncodeChar (Char.ofNat code)

/-- The sequences of bytes that encode one of some code points in ascending order. Neighbours whose
encodings differ in the last byte only, which takes 64 values, are one sequence. -/
def sequences (codes : List Nat) : List (List ByteRange) :=
  (codes.splitBy fun code next => next == code + 1 && next / 64 == code / 64).map fun run =>
    (utf8Bytes (run.headD 0)).zip (utf8Bytes (run.getLastD 0))

/-- The room of a state. -/
def stateSize : Nat := 32

/-- The room of a link from a fork to one of its sequences. -/
def linkSize : Nat := 4

/-- The beginnings of a sequence, without the empty one. -/
def beginnings (sequence : List ByteRange) : List (List ByteRange) :=
  (List.range sequence.length).map fun count => sequence.take (count + 1)

/-- The room of a fork: a state where it opens, one where it closes, one for each beginning of its
sequences, and a link to each sequence. -/
def forkSize (branches : List (List ByteRange)) : Nat :=
  stateSize * (2 + (branches.flatMap beginnings).eraseDups.length) + linkSize * branches.length

/-- The room of a fork among all characters. -/
def anySize : Nat := forkSize anySequences

/-- The room of a character in either case. A character without case is the sequence of its bytes.
ASCII letters need no fork: one state reads both of them, with a link of double room for each, and
one closes them. -/
def letterSize (char : Char) : Nat :=
  match Text.caseVariants char with
  | [] | [_] => stateSize * (utf8Bytes char.toNat).length
  | variants =>
    if variants.all (· < 0x80) then stateSize * 2 + 2 * linkSize * variants.length
    else forkSize (sequences variants)

namespace Piece

/-- The room of a piece. A run of characters returns from the end of a fork to its beginning, by a
state with one link into the fork and one past it. -/
def size : Piece → Nat
  | anyRun => stateSize + 2 * linkSize + anySize
  | anyOne => anySize
  | letter char => letterSize char

/-- Whether a piece is a fork. -/
def isFork : Piece → Bool
  | anyRun | anyOne => true
  | letter char =>
    let variants := Text.caseVariants char
    1 < variants.length && variants.any (0x80 ≤ ·)

end Piece

/-- The states that a pattern needs besides its pieces: the start, the two ends of the text and the
success. They are those of the automaton that reads a text backwards, in which a fork takes the most
room. A pattern without a fork takes as much room forwards, with two more states that mark where a
match begins and ends. -/
def frameStates (pattern : List Piece) : Nat := if pattern.any Piece.isFork then 4 else 6

/-- The room of a pattern. -/
def patternSize (pattern : List Piece) : Nat :=
  pattern.foldl (fun size piece => size + piece.size) (stateSize * frameStates pattern)

/-- Ten mebibytes. -/
def sizeLimit : Nat := 10 * 1024 * 1024

/-- The pattern that a text stands for: it has a wildcard, and the pattern is not too large. -/
def pattern? (text : String) : Option (List Piece) :=
  let chars := text.toList
  if hasWildcard chars then
    (readExpression (expression chars)).filter fun pattern => patternSize pattern ≤ sizeLimit
  else none

end Spreadsheet.Lookup
