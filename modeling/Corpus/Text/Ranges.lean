/-!
# Sets of code points, by range

A property of characters is given by a table: an ascending list of disjoint ranges, ends
included. `Ranges.covers` reads it from the front and stops at the first range that begins
beyond the code point, so the answer is right for any ascending table and a miss is cheap.
-/

set_option autoImplicit false

namespace Corpus.Text

/-- An ascending list of disjoint ranges of code points, both ends included. -/
abbrev Ranges := List (Nat × Nat)

/-- Whether some range of the table holds the code point. -/
def Ranges.covers : Ranges → Nat → Bool
  | [], _ => false
  | (first, last) :: rest, n =>
    if n < first then false else if n ≤ last then true else Ranges.covers rest n

end Corpus.Text
