import PanelLayout.Number.Single
import PanelLayout.Text.Blank

/-!
Margins: spacing on the four sides of a box, and the plain shorthand of one to four pixel values in
the order top, right, bottom, left.
-/
namespace PanelLayout

structure Margin where
  left : Float32
  top : Float32
  right : Float32
  bottom : Float32
  deriving DecidableEq, Repr

inductive MarginError where
  | emptyNumber (token : String)
  | invalidNumber (token : String)
  | valueCount (count : Nat)
  deriving DecidableEq, Repr

def MarginError.message : MarginError → String
  | emptyNumber token => "Invalid number '" ++ token ++ "': cannot parse float from empty string"
  | invalidNumber token => "Invalid number '" ++ token ++ "': invalid float literal"
  | valueCount count =>
    "Invalid spacing shorthand: expected 1 to 4 values, got " ++ toString count

namespace Margin

def all (x : Float32) : Margin := ⟨x, x, x, x⟩

def zero : Margin := all 0

def add (a b : Margin) : Margin :=
  ⟨a.left + b.left, a.top + b.top, a.right + b.right, a.bottom + b.bottom⟩

def same (a b : Margin) : Bool :=
  a.left == b.left && a.top == b.top && a.right == b.right && a.bottom == b.bottom

/-- Spreads one to four values over the sides. Two values are vertical and horizontal; of three the
middle one is horizontal. -/
def ofValues? : List Float32 → Option Margin
  | [x] => some (all x)
  | [vertical, horizontal] => some ⟨horizontal, vertical, horizontal, vertical⟩
  | [top, horizontal, bottom] => some ⟨horizontal, top, horizontal, bottom⟩
  | [top, right, bottom, left] => some ⟨left, top, right, bottom⟩
  | _ => none

def dropPixelUnit (token : List Char) : List Char :=
  match token.reverse with
  | 'x' :: 'p' :: r => r.reverse
  | _ => token

def readPixels (token : List Char) : Except MarginError Float32 :=
  let number := dropPixelUnit token
  match Single.ofText? number with
  | some x => .ok x
  | none =>
    let token := String.ofList token
    .error (if number.isEmpty then .emptyNumber token else .invalidNumber token)

def ofText (s : List Char) : Except MarginError Margin := do
  let values ← (Text.words s).mapM readPixels
  match ofValues? values with
  | some m => .ok m
  | none => .error (.valueCount values.length)

end Margin

end PanelLayout
