/-!
# Equality up to ASCII case

Key words, error literals and list items are compared without regard to the case of the letters
`A` to `Z`; all other characters must be equal.
-/

namespace Spreadsheet.Text

/-- Two texts are equal up to ASCII case when lower-casing their ASCII letters makes them equal. -/
def eqIgnoringAsciiCase (left right : String) : Bool :=
  left.toList.map Char.toLower == right.toList.map Char.toLower

end Spreadsheet.Text
