/-!
# Character sets as ranges

Properties of characters are kept as lists of inclusive ranges of code points.
-/

namespace OpenApiTools.Text

/-- A set of characters, as inclusive ranges of code points. -/
structure Ranges where
  bounds : List (Nat × Nat)

namespace Ranges

instance : Coe (List (Nat × Nat)) Ranges := ⟨Ranges.mk⟩

/-- Whether a character lies in one of the ranges. -/
def has (ranges : Ranges) (c : Char) : Bool :=
  ranges.bounds.any fun (first, last) => first ≤ c.toNat && c.toNat ≤ last

end Ranges

end OpenApiTools.Text
