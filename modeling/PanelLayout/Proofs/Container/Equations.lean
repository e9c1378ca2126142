import PanelLayout.Container.Operation
import PanelLayout.Proofs.Container.Children

/-! The operations on containers of a known layout, as equations without refusals of the kind. -/
namespace PanelLayout

namespace Flex
variable {c : Container} {f : Flex}

theorem update_eq (hc : c.layout = .flex f) (ctx : Context) (old changed : Style) :
    update ctx c old changed =
      .ok (Container.unscheduled { c with
        panel := (ofStyle ctx.units (old.merge changed)).onPanel c.panel
        layout := .flex (ofStyle ctx.units (old.merge changed)) }) := by
  rw [update, hc]
  rfl

theorem append_eq (hc : c.layout = .flex f) (ctx : Context) (child : WidgetId) (style : Style) :
    append ctx c child style =
      (c.insert child style (!f.isRow && f.isReverse)
        (f.place ctx.units c.children.isEmpty style)).map Container.unscheduled := by
  rw [append, hc]
  rfl

theorem updateChild_eq (hc : c.layout = .flex f) (ctx : Context) (child : WidgetId)
    (changed : Style) :
    updateChild ctx c child changed =
      .ok (c.restyle child changed (f.place ctx.units (c.isFirst child))).unscheduled := by
  rw [updateChild, hc]
  rfl

end Flex

namespace Grid
variable {c : Container} {g : Grid}

theorem update_eq (hc : c.layout = .grid g) (ctx : Context) (old changed : Style) :
    update ctx c old changed =
      .ok (c.refit (.grid (g.renew ctx (old.merge changed)).panel)
        (.grid (g.renew ctx (old.merge changed)))
        ((g.renew ctx (old.merge changed)).reseat ctx.units)).unscheduled := by
  rw [update, hc]
  rfl

def putSlot (slot : GridSlot) : Slot → Slot
  | .grid _ => .grid slot
  | s => s

theorem append_eq (hc : c.layout = .grid g) (ctx : Context) (child : WidgetId) (style : Style) :
    append ctx c child style =
      if c.has child then .error (.duplicateChild child)
      else .ok (Container.unscheduled { c.push child style
          (putSlot (g.slotFor ctx.units style).1 c.panel.newSlot) with
        layout := .grid (g.slotFor ctx.units style).2 }) := by
  rw [append]
  by_cases hhas : c.has child
  · rw [if_pos hhas, if_pos hhas]
    rfl
  · have hhas' : Container.has { c with layout := .grid (g.slotFor ctx.units style).2 } child =
        false := Bool.eq_false_iff.mpr hhas
    rw [if_neg hhas, if_neg hhas, hc]
    simp only [Layout.grid?, bind, Except.bind, Container.insert_back, hhas']
    rfl

def move (u : CssUnits) (g : Grid) (style : Style) : Slot → Slot
  | .grid s => .grid (g.moveSlot u style s)
  | s => s

theorem updateChild_eq (hc : c.layout = .grid g) (ctx : Context) (child : WidgetId)
    (changed : Style) :
    updateChild ctx c child changed =
      .ok (c.restyle child changed (g.move ctx.units)).unscheduled := by
  rw [updateChild, hc]
  rfl

end Grid

namespace Canvas
variable {c : Container} {canvas : Canvas}

theorem update_eq (hc : c.layout = .canvas canvas) (ctx : Context) (old changed : Style) :
    update ctx c old changed =
      .ok (c.refit c.panel (.canvas (ofStyle ctx.units (old.merge changed)))
        ((ofStyle ctx.units (old.merge changed)).place ctx.units)).unscheduled := by
  rw [update, hc]
  rfl

theorem append_eq (hc : c.layout = .canvas canvas) (ctx : Context) (child : WidgetId)
    (style : Style) :
    append ctx c child style =
      (c.insert child style false (canvas.place ctx.units style)).map Container.unscheduled := by
  rw [append, hc]
  rfl

theorem updateChild_eq (hc : c.layout = .canvas canvas) (ctx : Context) (child : WidgetId)
    (changed : Style) :
    updateChild ctx c child changed =
      .ok (c.restyle child changed (canvas.place ctx.units)).unscheduled := by
  rw [updateChild, hc]
  rfl

end Canvas

namespace UniformGrid
variable {c : Container}

theorem update_eq (hc : c.layout = .uniformGrid) (ctx : Context) (old changed : Style) :
    update ctx c old changed =
      .ok (Container.unscheduled
        { c with panel := .uniformGrid (panel ctx.units (old.merge changed)) }) := by
  rw [update, hc]
  rfl

theorem append_eq (hc : c.layout = .uniformGrid) (ctx : Context) (child : WidgetId)
    (style : Style) :
    append ctx c child style =
      (c.insert child style false (place ctx.units style)).map Container.unscheduled := by
  rw [append, hc]
  rfl

theorem updateChild_eq (hc : c.layout = .uniformGrid) (ctx : Context) (child : WidgetId)
    (changed : Style) :
    updateChild ctx c child changed =
      .ok (c.restyle child changed (place ctx.units)).unscheduled := by
  rw [updateChild, hc]
  rfl

end UniformGrid

end PanelLayout
