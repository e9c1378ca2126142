import PanelLayout.Number.Single

/-!
Shortest decimal text of single-precision numbers: the fewest digits that read back to the same
number, and of those the nearest; of two equally near the greater.
-/
namespace PanelLayout.Single

/-- The decimals `d * 10 ^ k` next to `m * 2 ^ e` that round to it. A gap below a power of two is
half as wide as the one above, except at the least exponent. The ends of the interval belong to it
when the significand is even. -/
def candidateAt (m : Nat) (e : Int) (k : Int) : Option (Nat × Int) :=
  let unit := e - 2
  let num := Nat.pow 2 unit.toNat * Nat.pow 10 (-k).toNat
  let den := Nat.pow 2 (-unit).toNat * Nat.pow 10 k.toNat
  let below := if m = Nat.pow 2 23 ∧ -149 < e then 1 else 2
  let value := 4 * m * num
  let low := (4 * m - below) * num
  let high := (4 * m + 2) * num
  let inside (d : Nat) : Bool :=
    if m % 2 = 0 then low ≤ d * den ∧ d * den ≤ high else low < d * den ∧ d * den < high
  let d := value / den
  if inside d ∧ (!inside (d + 1) ∨ value - d * den < (d + 1) * den - value) then some (d, k)
  else if inside (d + 1) then some (d + 1, k)
  else none

/-- The shortest decimal of `m * 2 ^ e`. The search goes from coarse powers of ten to fine ones; the
first power is above the value, and nine digits always suffice. -/
def shortestDecimal (m : Nat) (e : Int) : Nat × Int :=
  let top : Int := ((m.log2 + e + 1) * 30103) / 100000 + 1
  ((List.range 16).findSome? fun i => candidateAt m e (top - (i : Nat))).getD (0, 0)

def positional (negative : Bool) (digits : List Nat) (k : Int) : Numeral :=
  let zeros (n : Nat) : List Nat := List.replicate n 0
  if 0 ≤ k then ⟨negative, digits ++ zeros k.toNat, [], none⟩
  else
    let places := (-k).toNat
    if places < digits.length then
      ⟨negative, digits.take (digits.length - places), digits.drop (digits.length - places), none⟩
    else ⟨negative, [0], zeros (places - digits.length) ++ digits, none⟩

def numeral (x : Float32) : Numeral :=
  let (m, e) := magnitude x
  let (digits, k) := if m = 0 then (0, 0) else shortestDecimal m e
  positional (isNegative x) (digitsOf digits) k

def text (x : Float32) : String :=
  if x.isNaN then "NaN"
  else if x.isInf then if isNegative x then "-inf" else "inf"
  else String.ofList (numeral x).text

end PanelLayout.Single
