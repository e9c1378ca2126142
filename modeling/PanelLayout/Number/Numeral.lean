/-!
Decimal numerals: digits with an optional point and an optional exponent.
The scanners take a numeral off the front of a text and return what is left.
-/
namespace PanelLayout

/-- A written decimal number. Both digit lists hold values below ten, most significant first. -/
structure Numeral where
  negative : Bool
  whole : List Nat
  fraction : List Nat
  exponent : Option Int
  deriving DecidableEq, Repr

def ofDigits (ds : List Nat) : Nat :=
  ds.foldl (fun n d => 10 * n + d) 0

def digitValue (c : Char) : Nat :=
  c.toNat - '0'.toNat

def digitChar (d : Nat) : Char :=
  Char.ofNat ('0'.toNat + d)

def digitsOf (n : Nat) : List Nat :=
  (Nat.toDigits 10 n).map digitValue

namespace Numeral

def isInteger (n : Numeral) : Bool :=
  n.fraction.isEmpty && n.exponent.isNone

def coefficient (n : Numeral) : Nat :=
  ofDigits (n.whole ++ n.fraction)

def scale (n : Numeral) : Int :=
  n.exponent.getD 0 - n.fraction.length

def scanDigits (s : List Char) : List Nat × List Char :=
  ((s.takeWhile Char.isDigit).map digitValue, s.dropWhile Char.isDigit)

def scanSign : List Char → Bool × List Char
  | '+' :: s => (false, s)
  | '-' :: s => (true, s)
  | s => (false, s)

def scanFraction : List Char → List Nat × List Char
  | '.' :: s => match scanDigits s with
    | ([], _) => ([], '.' :: s)
    | (ds, r) => (ds, r)
  | s => ([], s)

/-- Takes a plain decimal: a sign, then digits that may carry a point with digits, or a point with
digits. There is no exponent, and a point without digits behind it is left over. -/
def scanPlain (s : List Char) : Option (Numeral × List Char) :=
  let (negative, s) := scanSign s
  let (whole, s) := scanDigits s
  let (fraction, s) := scanFraction s
  if whole.isEmpty && fraction.isEmpty then none
  else some (⟨negative, whole, fraction, none⟩, s)

def exponent? (s : List Char) : Option Int :=
  let (negative, s) := scanSign s
  match scanDigits s with
  | ([], _) => none
  | (ds, []) => some (if negative then -(ofDigits ds : Int) else ofDigits ds)
  | _ => none

def tail? : List Char → Option (Option Int)
  | [] => some none
  | c :: s => if c.toLower = 'e' then (exponent? s).map some else none

def ofText? (s : List Char) : Option Numeral :=
  let (negative, s) := scanSign s
  let (whole, s) := scanDigits s
  let (fraction, s) := match s with
    | '.' :: r => scanDigits r
    | s => ([], s)
  if whole.isEmpty && fraction.isEmpty then none
  else (tail? s).map fun exponent => ⟨negative, whole, fraction, exponent⟩

/-- Reads a numeral of the JSON grammar: no plus sign, no superfluous leading zero, digits on both
sides of a point. -/
def ofJson? (s : List Char) : Option Numeral :=
  let (negative, s) := match s with
    | '-' :: r => (true, r)
    | s => (false, s)
  let (whole, s) := scanDigits s
  let (fraction, s) := scanFraction s
  match whole with
  | [] => none
  | 0 :: _ :: _ => none
  | _ => (tail? s).map fun exponent => ⟨negative, whole, fraction, exponent⟩

def digitText (ds : List Nat) : List Char :=
  ds.map digitChar

def exponentText (e : Int) : List Char :=
  (if e < 0 then ['-'] else []) ++ digitText (digitsOf e.natAbs)

def text (n : Numeral) : List Char :=
  (if n.negative then ['-'] else []) ++ digitText n.whole
    ++ (if n.fraction.isEmpty then [] else '.' :: digitText n.fraction)
    ++ (match n.exponent with
        | none => []
        | some e => 'e' :: exponentText e)

def ofInt (i : Int) : Numeral :=
  ⟨i < 0, digitsOf i.natAbs, [], none⟩

end Numeral

end PanelLayout
