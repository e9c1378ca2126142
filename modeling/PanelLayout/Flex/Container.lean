import PanelLayout.Container.Basic

/-!
Flex containers. The slot of a child is bound when the child is appended or restyled; an update of
the container changes its panel only.
-/
namespace PanelLayout.Flex

def create (ctx : Context) (widget : WidgetId) (style : Style) : Container :=
  let f := ofStyle ctx.units style
  .new widget f.panel (.flex f)

def update (ctx : Context) (c : Container) (old changed : Style) : Except LayoutError Outcome := do
  let _ ← c.layout.flex?
  let f := ofStyle ctx.units (old.merge changed)
  return { c with panel := f.onPanel c.panel, layout := .flex f : Container }.unscheduled

/-- Appends a child; in a reversed column it goes in front of the others. -/
def append (ctx : Context) (c : Container) (child : WidgetId) (style : Style) :
    Except LayoutError Outcome := do
  let f ← c.layout.flex?
  let c ← c.insert child style (!f.isRow && f.isReverse)
    (f.place ctx.units c.children.isEmpty style)
  return c.unscheduled

def updateChild (ctx : Context) (c : Container) (child : WidgetId) (changed : Style) :
    Except LayoutError Outcome := do
  let f ← c.layout.flex?
  return (c.restyle child changed (f.place ctx.units (c.isFirst child))).unscheduled

end PanelLayout.Flex
