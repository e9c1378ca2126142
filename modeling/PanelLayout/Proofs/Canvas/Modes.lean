import Mathlib.Logic.Function.Basic
import PanelLayout.Proofs.Container.Run

/-!
The slots of canvas containers. A child is either stretched between the edges of its anchors or pinned to
them. Writing its slot leaves nothing of what it was before, whether it was the style of the child or the
one of the container that has changed.
-/
namespace PanelLayout

theorem CssUnits.isSome_definitePixels? (u : CssUnits) (style : Style) (reference : Option Float32)
    (p : Property) : (u.definitePixels? style reference p).isSome = style.isSet p :=
  Option.isSome_map

namespace CanvasSlot
variable (s : CanvasSlot) (canvas : Canvas) (u : CssUnits) (style : Style)

structure Stretches : Prop where
  left_eq : s.offsets.left = (u.definitePixels? style (some canvas.reference.width) .left).getD 0
  top_eq : s.offsets.top = (u.definitePixels? style (some canvas.reference.height) .top).getD 0
  right_eq : s.offsets.right = (u.definitePixels? style (some canvas.reference.width) .right).getD 0
  bottom_eq : s.offsets.bottom = (u.definitePixels? style (some canvas.reference.height) .bottom).getD 0
  position_eq : s.position = .zero
  size_eq : s.size = .zero
  autoSize_eq : s.autoSize = false

structure Pins : Prop where
  offsets_eq : s.offsets = .zero
  x_eq : s.position.x = ((u.definitePixels? style (some canvas.reference.width) .left).or
    ((u.definitePixels? style (some canvas.reference.width) .right).map (- ·))).getD 0
  y_eq : s.position.y = ((u.definitePixels? style (some canvas.reference.height) .top).or
    ((u.definitePixels? style (some canvas.reference.height) .bottom).map (- ·))).getD 0
  autoSize_iff : s.autoSize = true ↔ (style.isSet .width = false ∧ style.isSet .height = false) ∨
    (style.isSet .width ≠ style.isSet .height ∧ (style.get .aspectRatio).any Value.isAuto = true)

end CanvasSlot

namespace Canvas
open LayoutKind (Step Operation)

theorem pinnedSize_measured (width height : Option Float32) (ratio : Option Value) :
    (pinnedSize width height ratio).2 = true ↔ (width.isSome = false ∧ height.isSome = false) ∨
      (width.isSome ≠ height.isSome ∧ ratio.any Value.isAuto = true) := by
  cases width with
  | none =>
    cases height with
    | none => simp [pinnedSize]
    | some h =>
      simp only [pinnedSize]
      split_ifs with hauto
      · simp [hauto]
      · cases ratio.bind aspectRatio? <;> simp [hauto]
  | some w =>
    cases height with
    | none =>
      simp only [pinnedSize]
      split_ifs with hauto
      · simp [hauto]
      · cases ratio.bind aspectRatio? <;> simp [hauto]
    | some h => simp [pinnedSize]

section
variable (canvas : Canvas) (u : CssUnits) (style : Style)

theorem anchors_slot :
    (canvas.slot u style).anchors = (style.anchors?.or canvas.anchors).getD .topLeft := by
  simp only [slot]
  split_ifs <;> rfl

theorem stretches_slot (h : (canvas.slot u style).anchors.isStretched = true) :
    (canvas.slot u style).Stretches canvas u style := by
  rw [anchors_slot] at h
  have hslot : canvas.slot u style = stretchedSlot ((style.anchors?.or canvas.anchors).getD .topLeft)
      (canvas.insets u style) style := if_pos h
  rw [hslot]
  exact ⟨rfl, rfl, rfl, rfl, rfl, rfl, rfl⟩

theorem pins_slot (h : (canvas.slot u style).anchors.isStretched = false) :
    (canvas.slot u style).Pins canvas u style := by
  rw [anchors_slot] at h
  have hslot : canvas.slot u style =
      canvas.pinnedSlot u ((style.anchors?.or canvas.anchors).getD .topLeft) (canvas.insets u style)
        style := if_neg (Bool.eq_false_iff.mp h)
  rw [hslot]
  refine ⟨rfl, rfl, rfl, ?_⟩
  rw [← u.isSome_definitePixels? style (some canvas.reference.width) .width,
    ← u.isSome_definitePixels? style (some canvas.reference.height) .height]
  exact pinnedSize_measured _ _ _

end

/-! Runs. -/

def restyled (canvas : Canvas) (s : Step) : Canvas :=
  match s.operation with
  | .update old changed => ofStyle s.context.units (old.merge changed)
  | _ => canvas

def noted (c : Container) (units : WidgetId → CssUnits) (s : Step) : WidgetId → CssUnits :=
  match s.operation with
  | .append child _ => if c.has child then units else Function.update units child s.context.units
  | .updateChild child _ => Function.update units child s.context.units
  | .update _ _ => fun _ => s.context.units
  | _ => units

/-- In which units the slot of each child has been written last, at the end of a run. -/
def writtenIn : Container → (WidgetId → CssUnits) → List Step → WidgetId → CssUnits
  | _, units, [] => units
  | c, units, s :: steps =>
    writtenIn (LayoutKind.canvas.outcome c s).container (noted c units s) steps

structure Shows (canvas : Canvas) (units : WidgetId → CssUnits) (c : Container) : Prop where
  panel_eq : c.panel = .canvas
  layout_eq : c.layout = .canvas canvas
  slot_eq : ∀ child ∈ c.children,
    child.slot = .canvas (canvas.slot (units child.widget) child.style)

namespace Shows
variable {canvas : Canvas} {units : WidgetId → CssUnits} {c : Container}
  (h : Shows canvas units c)
include h

theorem append (ctx : Context) (child : WidgetId) (style : Style) :
    Shows canvas (if c.has child then units else Function.update units child ctx.units)
      (LayoutKind.canvas.outcome c ⟨ctx, .append child style⟩).container := by
  rw [LayoutKind.outcome, LayoutKind.apply, LayoutKind.append, append_eq h.layout_eq,
    Container.insert_back]
  by_cases hhas : c.has child
  · rw [if_pos hhas, if_pos hhas]
    exact h
  · rw [if_neg hhas, if_neg hhas]
    refine ⟨h.panel_eq, h.layout_eq, fun node hnode => ?_⟩
    rcases List.mem_append.mp hnode with hold | hnew
    · have hne : node.widget ≠ child := Container.has_eq_false.mp (Bool.eq_false_iff.mpr hhas) _
        (Container.mem_styles.mpr ⟨node, hold, rfl, rfl⟩)
      rw [Function.update_of_ne hne]
      exact h.slot_eq node hold
    · rw [List.mem_singleton.mp hnew, Function.update_self, h.panel_eq]
      rfl

theorem updateChild (ctx : Context) (child : WidgetId) (changed : Style) :
    Shows canvas (Function.update units child ctx.units)
      (LayoutKind.canvas.outcome c ⟨ctx, .updateChild child changed⟩).container := by
  rw [LayoutKind.outcome, LayoutKind.apply, LayoutKind.updateChild, updateChild_eq h.layout_eq]
  refine ⟨h.panel_eq, h.layout_eq, fun node hnode => ?_⟩
  obtain ⟨old, hold, rfl⟩ := List.mem_map.mp hnode
  split_ifs with hwidget
  -- The slot of before is a canvas slot, so that the child is placed anew.
  · show place ctx.units canvas (old.style.merge changed) old.slot =
      .canvas (canvas.slot (Function.update units child ctx.units old.widget) (old.style.merge changed))
    rw [hwidget, Function.update_self, h.slot_eq old hold]
    rfl
  · rw [Function.update_of_ne hwidget]
    exact h.slot_eq old hold

theorem remove (ctx : Context) (child : WidgetId) :
    Shows canvas units (LayoutKind.canvas.outcome c ⟨ctx, .remove child⟩).container := by
  have hkind : c.kind = .canvas := by rw [Container.kind, h.layout_eq]; rfl
  rw [LayoutKind.outcome, LayoutKind.apply, LayoutKind.remove_eq hkind (by decide)]
  exact ⟨h.panel_eq, h.layout_eq, fun node hnode => h.slot_eq node (List.mem_of_mem_filter hnode)⟩

theorem update (ctx : Context) (old changed : Style) :
    Shows (ofStyle ctx.units (old.merge changed)) (fun _ => ctx.units)
      (LayoutKind.canvas.outcome c ⟨ctx, .update old changed⟩).container := by
  rw [LayoutKind.outcome, LayoutKind.apply, LayoutKind.update, update_eq h.layout_eq]
  refine ⟨h.panel_eq, rfl, fun node hnode => ?_⟩
  obtain ⟨before, hbefore, rfl⟩ := List.mem_map.mp hnode
  rw [h.slot_eq before hbefore]
  rfl

theorem step (s : Step) :
    Shows (restyled canvas s) (noted c units s) (LayoutKind.canvas.outcome c s).container := by
  obtain ⟨ctx, op⟩ := s
  cases op with
  | append child style => exact h.append ctx child style
  | updateChild child changed => exact h.updateChild ctx child changed
  | remove child => exact h.remove ctx child
  | update old changed => exact h.update ctx old changed
  | resume ticket =>
    have hkind : c.kind = .canvas := by rw [Container.kind, h.layout_eq]; rfl
    rw [LayoutKind.outcome, LayoutKind.apply, LayoutKind.resume_eq hkind (by decide)]
    exact h

theorem run (steps : List Step) : Shows (steps.foldl restyled canvas) (writtenIn c units steps)
    (LayoutKind.canvas.run c steps) := by
  -- The canvas and the units are those of the state, so all of them go along with it.
  induction steps generalizing c canvas units with
  | nil => exact h
  | cons s steps ih => exact ih (h.step s)

end Shows

/-- In every state of a run each child of a canvas is in one of its two modes, by its own anchors or else
by those that the container has now, and every field of its slot is as this mode has it. -/
theorem run_modes (ctx : Context) (widget : WidgetId) (style : Style) (steps : List Step) :
    let start := LayoutKind.canvas.create ctx widget style
    let canvas := steps.foldl restyled (ofStyle ctx.units style)
    let units := writtenIn start (fun _ => ctx.units) steps
    (LayoutKind.canvas.run start steps).layout = .canvas canvas ∧
      ∀ child ∈ (LayoutKind.canvas.run start steps).children, ∃ s, child.slot = .canvas s ∧
        s.anchors = (child.style.anchors?.or canvas.anchors).getD .topLeft ∧
        (s.anchors.isStretched = true → s.Stretches canvas (units child.widget) child.style) ∧
        (s.anchors.isStretched = false → s.Pins canvas (units child.widget) child.style) := by
  intro start canvas units
  have hstart : Shows (ofStyle ctx.units style) (fun _ => ctx.units) start :=
    ⟨rfl, rfl, fun _ hchild => absurd hchild List.not_mem_nil⟩
  have hrun := hstart.run steps
  refine ⟨hrun.layout_eq, fun child hchild => ?_⟩
  exact ⟨_, hrun.slot_eq child hchild, anchors_slot canvas _ _, stretches_slot canvas _ _,
    pins_slot canvas _ _⟩

theorem run_modes_inherited :
    let child := (Style.empty.set .left (.number 3)).set .width (.number 10)
    let centred := child.set .positionAnchor (.text "center")
    let steps : List Step := [⟨Overlay.unmeasured, .append ⟨2⟩ child⟩,
      ⟨Overlay.unmeasured, .append ⟨3⟩ centred⟩,
      ⟨Overlay.unmeasured, .update .empty (Style.empty.set .positionAnchor (.text "fill"))⟩]
    let c := LayoutKind.canvas.run (LayoutKind.canvas.create Overlay.unmeasured ⟨1⟩ .empty) steps
    let canvas := steps.foldl restyled (ofStyle .standard .empty)
    (∃ node s, c.child? ⟨2⟩ = some node ∧ node.slot = .canvas s ∧ s.anchors.isStretched = true ∧
        s.Stretches canvas .standard child) ∧
      ∃ node s, c.child? ⟨3⟩ = some node ∧ node.slot = .canvas s ∧ s.anchors.isStretched = false ∧
        s.Pins canvas .standard centred := by
  intro child centred steps c canvas
  obtain ⟨-, hchildren⟩ := run_modes Overlay.unmeasured ⟨1⟩ .empty steps
  have hfirst : c.child? ⟨2⟩ = some _ := rfl
  have hsecond : c.child? ⟨3⟩ = some _ := rfl
  obtain ⟨s, hs, hanchors, hstretched, -⟩ := hchildren _ (List.mem_of_find?_eq_some hfirst)
  obtain ⟨s', hs', hanchors', -, hpinned⟩ := hchildren _ (List.mem_of_find?_eq_some hsecond)
  have hfill : s.anchors.isStretched = true := by
    rw [hanchors]
    decide +kernel
  have hcenter : s'.anchors.isStretched = false := by
    rw [hanchors']
    decide +kernel
  exact ⟨⟨_, s, hfirst, hs, hfill, hstretched hfill⟩,
    _, s', hsecond, hs', hcenter, hpinned hcenter⟩

end Canvas

end PanelLayout
