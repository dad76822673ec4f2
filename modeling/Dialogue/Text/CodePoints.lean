/-! # Sets of code points

A character property of the standard is a set of code points, and almost every such set is a few
hundred ranges.  `within` reads a set given as the ascending list of the ends of its ranges: each
range starts at one entry and stops before the next.
-/

namespace Dialogue.Text

/-- Whether `n` lies in one of the half-open ranges `[lo₀, hi₀)`, `[lo₁, hi₁)`, … of the ascending
list `[lo₀, hi₀, lo₁, hi₁, …]`.  The walk stops at the first range that starts above `n`. -/
def within : List Nat → Nat → Bool
  | lo :: hi :: rest, n => lo ≤ n && (n < hi || within rest n)
  | _, _ => false

end Dialogue.Text
