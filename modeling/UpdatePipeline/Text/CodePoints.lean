set_option autoImplicit false

/-!
# Text: sets of code points

A property of characters is given by the code points that have it, as ranges.
-/

namespace UpdatePipeline.Text

/-- A set of code points, as ranges with both ends. -/
abbrev CodePoints := List (Nat × Nat)

/-- Whether a character is in the set. -/
def CodePoints.has (s : CodePoints) (c : Char) : Bool :=
  s.any fun (first, last) => first ≤ c.toNat && c.toNat ≤ last

end UpdatePipeline.Text
