import PanelLayout.Number.Single

/-!
Double-precision values of numerals. A significand holds as many leading digits as fit 64 bits; the
power of ten is applied by one multiplication or by at most two divisions, each of which rounds.
-/
namespace PanelLayout

namespace Double

def ofNat (n : Nat) : Float :=
  Float.ofBits (BinaryFormat.double.roundBits n 1).toUInt64

def ofInt (i : Int) : Float :=
  if i < 0 then -ofNat i.natAbs else ofNat i.natAbs

def narrow (x : Float) : Float32 :=
  let bits := x.toBits.toNat
  let negative : Bool := Nat.pow 2 63 ≤ bits
  let significand := bits % Nat.pow 2 52
  let exponent := bits / Nat.pow 2 52 % Nat.pow 2 11
  if exponent = 2047 then
    if significand ≠ 0 then Single.nan
    else if negative then -Single.infinity else Single.infinity
  else if exponent = 0 then Single.ofQuotient negative significand (Nat.pow 2 1074)
  else
    Single.ofQuotient negative ((significand + Nat.pow 2 52) * Nat.pow 2 (exponent - 1075))
      (Nat.pow 2 (1075 - exponent))

def timesPowerOfTen? (x : Float) (e : Int) : Option Float :=
  let power := e.natAbs
  if 0 ≤ e then
    if power ≤ 308 then
      let y := x * ofNat (Nat.pow 10 power)
      if y.isInf then none else some y
    else if x == 0 then some x else none
  else if power ≤ 308 then some (x / ofNat (Nat.pow 10 power))
  else if power ≤ 616 then
    some (x / ofNat (Nat.pow 10 308) / ofNat (Nat.pow 10 (power - 308)))
  else some 0

/-- Adds digits to a significand while it stays below `2 ^ 64`, and counts the ones left out. -/
def absorb (significand : Nat) : List Nat → Nat × Nat
  | [] => (significand, 0)
  | d :: ds =>
    if 10 * significand + d < UInt64.size then absorb (10 * significand + d) ds
    else (significand, ds.length + 1)

def ofNumeral? (n : Numeral) : Option Float :=
  let (significand, skipped) := absorb 0 n.whole
  let (significand, dropped) := absorb significand n.fraction
  let e : Int := n.exponent.getD 0 + skipped - (n.fraction.length - dropped : Nat)
  (timesPowerOfTen? (ofNat significand) e).map fun x => if n.negative then -x else x

end Double

end PanelLayout
