import PanelLayout.Container.Basic

/-! Canvas containers. Every change of the container renews the slots of all children. -/
namespace PanelLayout.Canvas

def create (ctx : Context) (widget : WidgetId) (style : Style) : Container :=
  .new widget .canvas (.canvas (ofStyle ctx.units style))

def update (ctx : Context) (c : Container) (old changed : Style) : Except LayoutError Outcome := do
  let _ ← c.layout.canvas?
  let canvas := ofStyle ctx.units (old.merge changed)
  let c := c.replace (canvas.place ctx.units)
  return { c with layout := .canvas canvas : Container }.unscheduled

def append (ctx : Context) (c : Container) (child : WidgetId) (style : Style) :
    Except LayoutError Outcome := do
  let canvas ← c.layout.canvas?
  let c ← c.insert child style false (canvas.place ctx.units style)
  return c.unscheduled

def updateChild (ctx : Context) (c : Container) (child : WidgetId) (changed : Style) :
    Except LayoutError Outcome := do
  let canvas ← c.layout.canvas?
  return (c.restyle child changed (canvas.place ctx.units)).unscheduled

end PanelLayout.Canvas
