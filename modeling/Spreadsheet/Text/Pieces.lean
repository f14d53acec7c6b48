/-!
# Pieces of a text

A separator cuts a text into pieces: one more than there are separators, and none of them holds one.
-/

namespace Spreadsheet.Text

/-- The pieces of a text between separators. -/
def pieces (separator : Char) : List Char → List (List Char)
  | [] => [[]]
  | char :: rest =>
    if char = separator then [] :: pieces separator rest
    else match pieces separator rest with
      | first :: others => (char :: first) :: others
      | [] => [[char]]

end Spreadsheet.Text
