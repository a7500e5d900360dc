set_option autoImplicit false

/-!
# Text: columns

A text narrower than its column is filled up with blanks, or a number with zeros; a
wider one stands as it is.
-/

namespace UpdatePipeline.Text

/-- The filling that a text needs to be `width` characters wide. -/
def filling (fill : Char) (width : Nat) (s : String) : String :=
  String.ofList (List.replicate (width - s.length) fill)

/-- The text at the left of a column. -/
def atLeft (width : Nat) (s : String) : String := s ++ filling ' ' width s

/-- The text at the right of a column. -/
def atRight (width : Nat) (s : String) : String := filling ' ' width s ++ s

/-- A number with at least this many digits. -/
def withDigits (width n : Nat) : String := filling '0' width (toString n) ++ toString n

end UpdatePipeline.Text
