import PanelLayout.Style.Basic
import PanelLayout.Text.Alphanumeric

/-!
Grid lines: one side of a placement, as a line number, a span, the name of an area, or nothing.
What cannot be read is automatic.
-/
namespace PanelLayout

/-- One side of a placement. Lines count from one; negative numbers count back from the last line. -/
inductive GridLine where
  | auto
  | line (i : Int)
  | span (n : Nat)
  | named (name : String)
  deriving DecidableEq, Repr

namespace GridLine

def ofInt (i : Int) : GridLine :=
  if i = 0 then .auto else .line i

def integer? (s : List Char) : Option Int :=
  let (negative, r) := Numeral.scanSign s
  match Numeral.scanDigits r with
  | ([], _) => none
  | (ds, []) =>
    let i : Int := if negative then -(ofDigits ds : Int) else ofDigits ds
    if Int32.minValue.toInt ≤ i ∧ i ≤ Int32.maxValue.toInt then some i else none
  | _ => none

def span? (s : List Char) : Option Nat :=
  match Text.dropWord? "span".toList s with
  | some (c :: r) =>
    if Text.isSpacing c then
      match Numeral.scanDigits (r.dropWhile Text.isSpacing) with
      | ([], _) => none
      | (ds, rest) =>
        if (rest.dropWhile Text.isSpacing).isEmpty ∧ ofDigits ds < UInt32.size then
          some (ofDigits ds)
        else none
    else none
  | _ => none

def isNameChar (c : Char) : Bool :=
  Text.isAlphanumeric c || c = '-' || c = '_'

/-- Reads one side. A span without a number is one track. -/
def ofText (s : List Char) : GridLine :=
  let token := Text.trim s
  if token.isEmpty || Text.isWord "auto" token then .auto
  else
    match span? token with
    | some n => .span (max n 1)
    | none =>
      if Text.isWord "span" token then .span 1
      else
        match integer? token with
        | some i => ofInt i
        | none => if token.all isNameChar then .named (String.ofList token) else .auto

def ofNumber (x : Float32) : GridLine :=
  ofInt (Single.truncate Int32.minValue.toInt Int32.maxValue.toInt x)

def ofValue : Value → GridLine
  | .number x => ofNumber x
  | .text s => ofText s.toList
  | .spacing _ => .auto

def pairOfValue : Value → GridLine × GridLine
  | .text s =>
    match Text.splitOnce '/' s.toList with
    | some (start, finish) => (ofText start, ofText finish)
    | none => (ofText s.toList, .auto)
  | v => (ofValue v, .auto)

def listOfValue : Value → List GridLine
  | .text s => (Text.split (· = '/') s.toList).map ofText
  | v => [ofValue v]

end GridLine

end PanelLayout
