import PanelLayout.Container.Basic
import PanelLayout.Grid.Placement

/-!
Grid containers. The cell of a child is found when the child is appended or restyled; an update of
the container keeps all cells and renews the seats in them.
-/
namespace PanelLayout.Grid

def create (ctx : Context) (widget : WidgetId) (style : Style) : Container :=
  let g := ofStyle ctx.units ctx.config style
  .new widget (.grid g.panel) (.grid g)

/-- The grid of a new style. The flow goes on where it stood if the tracks are the same. -/
def renew (ctx : Context) (g : Grid) (style : Style) : Grid :=
  let next := ofStyle ctx.units ctx.config style
  if next.sameTracks g then { next with cursor := g.cursor } else next

def update (ctx : Context) (c : Container) (old changed : Style) : Except LayoutError Outcome := do
  let g ← c.layout.grid?
  let g := g.renew ctx (old.merge changed)
  let c := c.replace (g.reseat ctx.units)
  return { c with panel := .grid g.panel, layout := .grid g : Container }.unscheduled

/-- Appends a child. That the child is new is looked at before the kind of the container. -/
def append (ctx : Context) (c : Container) (child : WidgetId) (style : Style) :
    Except LayoutError Outcome := do
  if c.has child then throw (.duplicateChild child)
  let g ← c.layout.grid?
  let (slot, g) := g.slotFor ctx.units style
  let c ← { c with layout := .grid g : Container }.insert child style false fun
    | .grid _ => .grid slot
    | s => s
  return c.unscheduled

def updateChild (ctx : Context) (c : Container) (child : WidgetId) (changed : Style) :
    Except LayoutError Outcome := do
  let g ← c.layout.grid?
  return (c.restyle child changed fun style slot =>
    match slot with
    | .grid s => .grid (g.moveSlot ctx.units style s)
    | s => s).unscheduled

end PanelLayout.Grid
