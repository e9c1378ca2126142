import PanelLayout.Number.Rounding
import PanelLayout.Number.Numeral

/-!
Single-precision numbers: reading them from exact values and from text, and the conversions and
comparisons with zero and one that the layout rules use.
-/
namespace PanelLayout.Single

def ofQuotient (negative : Bool) (num den : Nat) : Float32 :=
  let magnitude := Float32.ofBits (BinaryFormat.single.roundBits num den).toUInt32
  if negative then -magnitude else magnitude

def infinity : Float32 :=
  Float32.ofBits 0x7F800000

def nan : Float32 :=
  Float32.ofBits 0x7FC00000

def ofInt (i : Int) : Float32 :=
  ofQuotient (i < 0) i.natAbs 1

/-- The value nearest to a numeral. The two early answers only keep powers of ten small: they lie
far outside the finite range. -/
def ofNumeral (n : Numeral) : Float32 :=
  let places : Int := (n.whole.length + n.fraction.length : Nat)
  if n.coefficient = 0 ∨ places + n.scale < -60 then ofQuotient n.negative 0 1
  else if 60 < n.scale then if n.negative then -infinity else infinity
  else
    ofQuotient n.negative (n.coefficient * Nat.pow 10 n.scale.toNat)
      (Nat.pow 10 (-n.scale).toNat)

def ofWord? (s : List Char) : Option Float32 :=
  let (negative, word) := Numeral.scanSign s
  match String.ofList (word.map Char.toLower) with
  | "inf" | "infinity" => some (if negative then -infinity else infinity)
  | "nan" => some nan
  | _ => none

def ofText? (s : List Char) : Option Float32 :=
  (Numeral.ofText? s).map ofNumeral <|> ofWord? s

def magnitude (x : Float32) : Nat × Int :=
  let bits := x.toBits.toNat % Nat.pow 2 31
  if bits < Nat.pow 2 23 then (bits, -149)
  else (bits % Nat.pow 2 23 + Nat.pow 2 23, (bits / Nat.pow 2 23 : Nat) - 150)

def isNegative (x : Float32) : Bool :=
  Nat.pow 2 31 ≤ x.toBits.toNat

/-- The integer part of a number, held between two bounds; zero when there is no number. -/
def truncate (low high : Int) (x : Float32) : Int :=
  if x.isNaN then 0
  else if x.isInf then if isNegative x then low else high
  else
    let (m, e) := magnitude x
    let whole : Int := (m * Nat.pow 2 e.toNat / Nat.pow 2 (-e).toNat : Nat)
    max low (min high (if isNegative x then -whole else whole))

def orZero (x : Float32) : Float32 :=
  if 0 < x then x else 0

/-- Holds a number between zero and one; what is no number stays so. -/
def clampUnit (x : Float32) : Float32 :=
  let x := if x < 0 then 0 else x
  if 1 < x then 1 else x

/-- The sum from left to right. It starts at negative zero, the neutral element of addition. -/
def sum (xs : List Float32) : Float32 :=
  xs.foldl (· + ·) (Float32.ofBits 0x80000000)

end PanelLayout.Single
