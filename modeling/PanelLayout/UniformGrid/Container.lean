import PanelLayout.Container.Basic

/-!
Uniform grid containers: cells of one size, where children give their row and column. A child that
gives none is in the first cell.
-/
namespace PanelLayout.UniformGrid

def leastExtent (u : CssUnits) (style : Style) (p : Property) : Float32 :=
  match style.get p with
  | some v => Single.orZero (u.pixels style none v)
  | none => 0

def panel (u : CssUnits) (style : Style) : UniformGridPanel :=
  let padding := match style.get .cellPadding with
    | some v => u.box style v
    | none => .zero
  ⟨padding, leastExtent u style .minCellWidth, leastExtent u style .minCellHeight⟩

def indexOf (style : Style) (p : Property) : Nat :=
  ((style.get p).map Value.index).getD 0

def slot (u : CssUnits) (style : Style) : UniformGridSlot :=
  let own := SelfAlignment.ofStyle style
  ⟨indexOf style .gridRow, indexOf style .gridColumn,
    ⟨u.margin style, own.horizontal .fill, own.vertical .fill⟩⟩

def place (u : CssUnits) (style : Style) : Slot → Slot
  | .uniformGrid _ => .uniformGrid (slot u style)
  | s => s

def create (ctx : Context) (widget : WidgetId) (style : Style) : Container :=
  .new widget (.uniformGrid (panel ctx.units style)) .uniformGrid

def update (ctx : Context) (c : Container) (old changed : Style) : Except LayoutError Outcome := do
  c.layout.uniformGrid?
  return { c with panel := .uniformGrid (panel ctx.units (old.merge changed)) : Container }.unscheduled

def append (ctx : Context) (c : Container) (child : WidgetId) (style : Style) :
    Except LayoutError Outcome := do
  c.layout.uniformGrid?
  let c ← c.insert child style false (place ctx.units style)
  return c.unscheduled

def updateChild (ctx : Context) (c : Container) (child : WidgetId) (changed : Style) :
    Except LayoutError Outcome := do
  c.layout.uniformGrid?
  return (c.restyle child changed (place ctx.units)).unscheduled

end PanelLayout.UniformGrid
