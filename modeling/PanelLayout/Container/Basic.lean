import PanelLayout.Canvas.Basic
import PanelLayout.Flex.Basic
import PanelLayout.Grid.Basic
import PanelLayout.Overlay.Basic

/-!
Containers: a panel with its children in the order of the host, and what the layout remembers. A
child occurs once; its number in the order of appending does not depend on its position.
-/
namespace PanelLayout

inductive Layout where
  | flex (f : Flex)
  | grid (g : Grid)
  | canvas (c : Canvas)
  | overlay (o : Overlay)
  | uniformGrid
  deriving DecidableEq, Repr

namespace Layout

def kind : Layout → LayoutKind
  | flex _ => .flex
  | grid _ => .grid
  | canvas _ => .canvas
  | overlay _ => .overlay
  | uniformGrid => .uniformGrid

def flex? : Layout → Except LayoutError Flex
  | flex f => .ok f
  | l => .error (.stateMismatch .flex l.kind)

def grid? : Layout → Except LayoutError Grid
  | grid g => .ok g
  | l => .error (.stateMismatch .grid l.kind)

def canvas? : Layout → Except LayoutError Canvas
  | canvas c => .ok c
  | l => .error (.stateMismatch .canvas l.kind)

def overlay? : Layout → Except LayoutError Overlay
  | overlay o => .ok o
  | l => .error (.stateMismatch .overlay l.kind)

def uniformGrid? : Layout → Except LayoutError Unit
  | uniformGrid => .ok ()
  | l => .error (.stateMismatch .uniformGrid l.kind)

end Layout

structure Child where
  widget : WidgetId
  style : Style
  slot : Slot
  sequence : Nat

structure Container where
  widget : WidgetId
  panel : Panel
  children : List Child
  layout : Layout
  nextSequence : Nat

namespace Container

def new (widget : WidgetId) (panel : Panel) (layout : Layout) : Container :=
  ⟨widget, panel, [], layout, 0⟩

def kind (c : Container) : LayoutKind := c.layout.kind

def expect (c : Container) (k : LayoutKind) : Except LayoutError Unit :=
  if c.kind = k then .ok () else .error (.stateMismatch k c.kind)

def child? (c : Container) (widget : WidgetId) : Option Child :=
  c.children.find? fun child => child.widget = widget

def has (c : Container) (widget : WidgetId) : Bool :=
  (c.child? widget).isSome

def isFirst (c : Container) (widget : WidgetId) : Bool :=
  match c.child? widget with
  | some child => c.children.all fun other => child.sequence ≤ other.sequence
  | none => false

def insert (c : Container) (widget : WidgetId) (style : Style) (atFront : Bool)
    (place : Slot → Slot) : Except LayoutError Container :=
  if c.has widget then .error (.duplicateChild widget)
  else
    let child : Child := ⟨widget, style, place c.panel.newSlot, c.nextSequence⟩
    .ok { c with
      children := if atFront then child :: c.children else c.children ++ [child]
      nextSequence := c.nextSequence + 1 }

def modify (c : Container) (widget : WidgetId) (f : Child → Child) : Container :=
  { c with children := c.children.map fun child => if child.widget = widget then f child else child }

def restyle (c : Container) (widget : WidgetId) (changed : Style) (place : Style → Slot → Slot) :
    Container :=
  c.modify widget fun child =>
    let style := child.style.merge changed
    { child with style := style, slot := place style child.slot }

def replace (c : Container) (place : Style → Slot → Slot) : Container :=
  { c with children := c.children.map fun child =>
      { child with slot := place child.style child.slot } }

def remove (c : Container) (widget : WidgetId) : Container :=
  { c with children := c.children.filter fun child => child.widget ≠ widget }

end Container

structure Context where
  units : CssUnits
  config : Config
  /-- The size of a widget on the screen; zero while it is not known. -/
  sizeOf : WidgetId → Size

/-- A container after an operation, and the tickets that the operation asks for, in their order. -/
structure Outcome where
  container : Container
  scheduled : List Scheduled

def Container.unscheduled (c : Container) : Outcome := ⟨c, []⟩

end PanelLayout
