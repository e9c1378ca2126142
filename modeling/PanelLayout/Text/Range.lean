/-! Classes of characters that are given by ranges of code points, both ends included. -/
namespace PanelLayout.Text

def inRanges (ranges : List (Nat × Nat)) (c : Char) : Bool :=
  ranges.any fun (first, last) => first ≤ c.toNat && c.toNat ≤ last

end PanelLayout.Text
