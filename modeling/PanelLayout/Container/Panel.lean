import PanelLayout.Container.Slot

/-! Panels: what a container is built on. A panel is chosen once and hands out one kind of slot. -/
namespace PanelLayout

structure WrapPanel where
  flow : FlowDirection
  orientation : Orientation
  innerPadding : Point
  deriving DecidableEq, Repr

structure GridPanel where
  columns : List Float32
  rows : List Float32
  deriving DecidableEq, Repr

structure UniformGridPanel where
  slotPadding : Margin
  minWidth : Float32
  minHeight : Float32
  deriving DecidableEq, Repr

inductive Panel where
  | horizontalBox (flow : FlowDirection)
  | verticalBox (flow : FlowDirection)
  | wrapBox (p : WrapPanel)
  | grid (p : GridPanel)
  | canvas
  | overlay
  | uniformGrid (p : UniformGridPanel)
  deriving DecidableEq, Repr

def Panel.newSlot : Panel → Slot
  | .horizontalBox _ | .verticalBox _ => .box ⟨.filling, .auto⟩
  | .wrapBox _ => .wrap ⟨.filling, false, 0⟩
  | .grid _ => .grid ⟨0, 0, 1, 1, .filling⟩
  | .canvas => .canvas .initial
  | .overlay => .overlay .filling
  | .uniformGrid _ => .uniformGrid ⟨0, 0, .filling⟩

end PanelLayout
