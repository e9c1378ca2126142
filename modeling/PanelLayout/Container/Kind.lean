import PanelLayout.Style.Basic

/-! The kinds of layout containers, and the kind that an element asks for. -/
namespace PanelLayout

inductive LayoutKind where
  | flex
  | grid
  | canvas
  | overlay
  | uniformGrid
  deriving DecidableEq, Repr

namespace LayoutKind

def table : List (String × LayoutKind) :=
  [("Flex", .flex), ("Grid", .grid), ("Canvas", .canvas), ("Overlay", .overlay),
    ("UniformGrid", .uniformGrid)]

def name : LayoutKind → String
  | flex => "Flex"
  | grid => "Grid"
  | canvas => "Canvas"
  | overlay => "Overlay"
  | uniformGrid => "UniformGrid"

/-- The kind of a generic element: a grid if it is displayed as one, an overlay if it is positioned
relatively, else flex. -/
def ofStyle (style : Style) : LayoutKind :=
  match style.keyword? .display with
  | some "grid" | some "inline-grid" => grid
  | _ => if style.keyword? .position = some "relative" then overlay else flex

def ofTag? (tag : String) (style : Style) : Option LayoutKind :=
  match String.ofList (Text.keyword tag.toList) with
  | "canvas" => some canvas
  | "overlay" => some overlay
  | "uniformgrid" | "uniform-grid" => some uniformGrid
  | "grid" => some grid
  | "div" | "view" | "span" | "section" | "container" | "box" | "panel" => some (ofStyle style)
  | _ => none

end LayoutKind

structure WidgetId where
  raw : Nat
  deriving DecidableEq, Repr

def WidgetId.text (w : WidgetId) : String :=
  "#" ++ toString w.raw

inductive LayoutError where
  | stateMismatch (expected actual : LayoutKind)
  | unknownTag (tag : String)
  | duplicateChild (child : WidgetId)
  deriving DecidableEq, Repr

def LayoutError.message : LayoutError → String
  | stateMismatch expected actual =>
    "State mismatch: Expected state for " ++ expected.name ++ ", got " ++ actual.name ++ "."
  | unknownTag tag => "Element '" ++ tag ++ "' does not create a layout container."
  | duplicateChild child => "Child " ++ child.text ++ " already has a slot in this container."

end PanelLayout
