/-! The alignment, direction, sizing and stretching modes that a panel offers. -/
namespace PanelLayout

inductive HorizontalAlignment where
  | fill
  | left
  | center
  | right
  deriving DecidableEq, Repr

inductive VerticalAlignment where
  | fill
  | top
  | center
  | bottom
  deriving DecidableEq, Repr

inductive FlowDirection where
  | leftToRight
  | rightToLeft
  deriving DecidableEq, Repr

inductive Orientation where
  | horizontal
  | vertical
  deriving DecidableEq, Repr

inductive SizeRule where
  | auto
  | fill (share : Float32)
  deriving DecidableEq, Repr

inductive Stretch where
  | none
  | fill
  | scaleToFit
  | scaleToFitX
  | scaleToFitY
  | scaleToFill
  | userSpecified
  deriving DecidableEq, Repr

def HorizontalAlignment.table : List (String × HorizontalAlignment) :=
  [("Fill", .fill), ("Left", .left), ("Center", .center), ("Right", .right)]

def VerticalAlignment.table : List (String × VerticalAlignment) :=
  [("Fill", .fill), ("Top", .top), ("Center", .center), ("Bottom", .bottom)]

def FlowDirection.table : List (String × FlowDirection) :=
  [("LeftToRight", .leftToRight), ("RightToLeft", .rightToLeft)]

def Orientation.table : List (String × Orientation) :=
  [("Horizontal", .horizontal), ("Vertical", .vertical)]

def Stretch.table : List (String × Stretch) :=
  [("None", .none), ("Fill", .fill), ("ScaleToFit", .scaleToFit), ("ScaleToFitX", .scaleToFitX),
    ("ScaleToFitY", .scaleToFitY), ("ScaleToFill", .scaleToFill),
    ("UserSpecified", .userSpecified)]

def nameIn {α : Type} [DecidableEq α] (table : List (String × α)) (a : α) : String :=
  ((table.find? fun entry => entry.2 = a).map Prod.fst).getD ""

def named? {α : Type} (table : List (String × α)) (name : String) : Option α :=
  (table.find? fun entry => entry.1 = name).map Prod.snd

end PanelLayout
