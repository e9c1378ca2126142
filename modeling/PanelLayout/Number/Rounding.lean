/-! Rounding of exact quotients to a binary floating-point format, a half going to the even side. -/
namespace PanelLayout

/-- A binary interchange format. The least positive value is `2 ^ (-depth)`, and `infinity` is the
bit pattern of positive infinity. -/
structure BinaryFormat where
  precision : Nat
  depth : Nat
  infinity : Nat

def roundHalfEven (num den : Nat) : Nat :=
  let q := num / den
  let r := num % den
  if 2 * r < den ∨ (2 * r = den ∧ q % 2 = 0) then q else q + 1

def log2Quotient (num den : Nat) : Int :=
  let l : Int := (num.log2 : Int) - den.log2
  if den * Nat.pow 2 l.toNat ≤ num * Nat.pow 2 (-l).toNat then l else l - 1

namespace BinaryFormat

def single : BinaryFormat := ⟨24, 149, 0x7F800000⟩

def double : BinaryFormat := ⟨53, 1074, 0x7FF0000000000000⟩

/-- The bit pattern of the value nearest to `num / den`. Bit patterns of one sign are in the order
of their values, so a significand that rounds up to the next power of two carries by itself. -/
def roundBits (f : BinaryFormat) (num den : Nat) : Nat :=
  if num = 0 then 0 else
    let unit : Int := max (-(f.depth : Int)) (log2Quotient num den - (f.precision - 1 : Nat))
    let significand := roundHalfEven (num * Nat.pow 2 (-unit).toNat) (den * Nat.pow 2 unit.toNat)
    min f.infinity ((unit + f.depth).toNat * Nat.pow 2 (f.precision - 1) + significand)

end BinaryFormat

end PanelLayout
