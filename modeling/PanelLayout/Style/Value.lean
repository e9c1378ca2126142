import PanelLayout.Geometry.Margin
import PanelLayout.Number.Shortest
import PanelLayout.Length.Scan

/-! The value of a style property: a number, a text or a margin, and the readings of each. -/
namespace PanelLayout

inductive Value where
  | number (x : Float32)
  | text (s : String)
  | spacing (m : Margin)
  deriving DecidableEq, Repr

namespace Value

/-- The value as a text. A margin lists its sides in the order top, right, bottom, left. -/
def display : Value → String
  | number x => Single.text x
  | text s => s
  | spacing m =>
    " ".intercalate [Single.text m.top, Single.text m.right, Single.text m.bottom,
      Single.text m.left]

def keyword : Value → String
  | text s => String.ofList (Text.keyword s.toList)
  | v => v.display

def text? : Value → Option (List Char)
  | text s => some (Text.trim s.toList)
  | _ => none

def number? : Value → Option Float32
  | number x => some x
  | text s => Single.ofText? (Text.trim s.toList)
  | spacing _ => none

def factor? (v : Value) : Option Float32 :=
  match v.number? with
  | some x => some x
  | none =>
    match v.text?.bind Length.ofText? with
    | some (.amount x .percent) => some (x / 100)
    | _ => none

def isAuto : Value → Bool
  | text s => Text.isWord "auto" (Text.trim s.toList)
  | _ => false

/-- A number as an index: its integer part if that is positive, and at most `2 ^ 32 - 1`. -/
def index (v : Value) : Nat :=
  match v.number? with
  | some x => if x.isFinite then (Single.truncate 0 0xFFFFFFFF x).toNat else 0
  | none => 0

def same : Value → Value → Bool
  | number x, number y => x == y
  | text s, text t => s == t
  | spacing a, spacing b => a.same b
  | _, _ => false

end Value

end PanelLayout
