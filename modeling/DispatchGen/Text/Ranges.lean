/-! # Sets of characters as ranges -/
namespace DispatchGen.Text

/-- Inclusive ranges of code points, in ascending order. -/
abbrev Ranges := List (Nat × Nat)

/-- Membership; the search ends at the first range above the code point. -/
def Ranges.has (n : Nat) : Ranges → Bool
  | [] => false
  | (first, last) :: rest => if n < first then false else n ≤ last || has n rest

end DispatchGen.Text
