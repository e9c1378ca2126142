import PanelLayout.Number.Single

/-! Lengths as they are written: an amount with a unit, or the word for an automatic length. -/
namespace PanelLayout

inductive LengthUnit where
  | px
  | pt
  | em
  | rem
  | vw
  | vh
  | percent
  | fr
  deriving DecidableEq, Repr

inductive Length where
  | auto
  | amount (x : Float32) (unit : LengthUnit)
  deriving DecidableEq, Repr

namespace Length

def px (x : Float32) : Length := .amount x .px

def zero : Length := px 0

end Length

end PanelLayout
