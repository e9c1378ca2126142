import PanelLayout.Proofs.Container.Refusal
import PanelLayout.Proofs.Container.Renewal
import PanelLayout.Proofs.Grid.Fills
import Mathlib.Data.List.Induction

/-!
The seats of grid containers. Whatever has happened before, the seat of each child follows from its
style, its cell and the grid as it is now, and the panel from the tracks as they are now. An update
of the container leaves every child in its cell.
-/
namespace PanelLayout

def Slot.cells? : Slot → Option (Nat × Nat × Nat × Nat)
  | grid s => some (s.row, s.column, s.rowSpan, s.columnSpan)
  | _ => none

namespace Grid
open LayoutKind (Step Operation)

variable {u : CssUnits} {g : Grid} {c : Container}

/-- The seat of a child in its cell, side by side: half a gap is beside its margin on the sides that
are turned to other cells, and it is aligned by itself, else by the grid, else it fills the cell. -/
structure Seated (u : CssUnits) (g : Grid) (style : Style) (s : GridSlot) : Prop where
  left_eq : s.seat.padding.left =
    if 0 < s.column then (u.margin style).left + g.gaps.column / 2 else (u.margin style).left
  right_eq : s.seat.padding.right =
    if min (s.column + s.columnSpan) 0xFFFFFFFF < g.totalColumns then
      (u.margin style).right + g.gaps.column / 2
    else (u.margin style).right
  top_eq : s.seat.padding.top =
    if 0 < s.row then (u.margin style).top + g.gaps.row / 2 else (u.margin style).top
  bottom_eq : s.seat.padding.bottom =
    if min (s.row + s.rowSpan) 0xFFFFFFFF < g.totalRows then
      (u.margin style).bottom + g.gaps.row / 2
    else (u.margin style).bottom
  horizontal_eq : s.seat.horizontal =
    (((SelfAlignment.ofStyle style).justify.or g.justifyItems).map AlignKeyword.horizontal).getD .fill
  vertical_eq : s.seat.vertical =
    (((SelfAlignment.ofStyle style).align.or g.alignItems).map AlignKeyword.vertical).getD .fill

theorem seated_of_seat_eq {style : Style} {s : GridSlot} (h : s.seat = g.seat u style s) :
    g.Seated u style s := by
  refine ⟨?_, ?_, ?_, ?_, ?_, ?_⟩ <;> rw [h]
  · rfl
  · rfl
  · rfl
  · rfl
  · simp only [seat, SelfAlignment.horizontal]
    cases (SelfAlignment.ofStyle style).justify <;> cases g.justifyItems <;> rfl
  · simp only [seat, SelfAlignment.vertical]
    cases (SelfAlignment.ofStyle style).align <;> cases g.alignItems <;> rfl

def Fits (u : CssUnits) (g : Grid) (style : Style) (slot : Slot) : Prop :=
  ∃ s, slot = .grid s ∧ s.seat = g.seat u style s

theorem exists_cellFor (g : Grid) (row column : AxisPlacement) :
    ∃ cell cursor, g.cellFor row column = (cell, { g with cursor := cursor }) := by
  unfold cellFor
  cases row.start with
  | some r => cases column.start <;> exact ⟨_, g.cursor, rfl⟩
  | none =>
    cases column.start with
    | some c => exact ⟨_, g.cursor, rfl⟩
    | none =>
      unfold nextCell
      cases g.flow <;> exact ⟨_, _, rfl⟩

theorem exists_slotFor (u : CssUnits) (g : Grid) (style : Style) :
    ∃ slot cursor, g.slotFor u style = (slot, { g with cursor := cursor }) ∧
      slot.seat = g.seat u style slot := by
  obtain ⟨cell, cursor, hcell⟩ := exists_cellFor g (g.placement .row style) (g.placement .column style)
  simp only [slotFor, hcell]
  exact ⟨_, cursor, rfl, rfl⟩

theorem fits_move (u : CssUnits) (g : Grid) {old style : Style} {slot : Slot}
    (h : g.Fits u old slot) : g.Fits u style (g.move u style slot) := by
  obtain ⟨s, rfl, _⟩ := h
  exact ⟨g.moveSlot u style s, rfl, rfl⟩

theorem fits_reseat (u : CssUnits) (g g' : Grid) {style : Style} {slot : Slot}
    (h : g.Fits u style slot) : g'.Fits u style (g'.reseat u style slot) := by
  obtain ⟨s, rfl, _⟩ := h
  exact ⟨{ s with seat := g'.seat u style s }, rfl, rfl⟩

theorem cells?_reseat (u : CssUnits) (g : Grid) (style : Style) (slot : Slot) :
    (g.reseat u style slot).cells? = slot.cells? := by
  cases slot <;> rfl

def after (g : Grid) (s : Step) : Grid :=
  match s.operation with
  | .update old changed => ofStyle s.context.units s.context.config (old.merge changed)
  | _ => g

def current (ctx : Context) (style : Style) (steps : List Step) : Grid :=
  steps.foldl after (ofStyle ctx.units ctx.config style)

structure Shows (u : CssUnits) (g : Grid) (c : Container) : Prop where
  layout_eq : ∃ cursor, c.layout = .grid { g with cursor := cursor }
  panel_eq : c.panel = .grid g.panel
  slots : c.AllSlots (g.Fits u)

theorem Shows.kind_eq (h : Shows u g c) : c.kind = .grid := by
  obtain ⟨cursor, hc⟩ := h.layout_eq
  exact congrArg Layout.kind hc

theorem Shows.append (h : Shows u g c) {ctx : Context} (hu : ctx.units = u) (w : WidgetId)
    (style : Style) : Shows u g (LayoutKind.grid.outcome c ⟨ctx, .append w style⟩).container := by
  subst hu
  obtain ⟨cursor, hc⟩ := h.layout_eq
  rw [LayoutKind.outcome, LayoutKind.apply, LayoutKind.append, append_eq hc]
  split_ifs with hhas
  · exact h
  · obtain ⟨slot, next, hslot, hseat⟩ := exists_slotFor ctx.units { g with cursor := cursor } style
    rw [hslot]
    have hfits : g.Fits ctx.units style (putSlot slot c.panel.newSlot) := by
      rw [h.panel_eq]
      exact ⟨slot, rfl, hseat⟩
    exact ⟨⟨next, rfl⟩, h.panel_eq, h.slots.push w hfits⟩

theorem Shows.updateChild (h : Shows u g c) {ctx : Context} (hu : ctx.units = u) (w : WidgetId)
    (changed : Style) :
    Shows u g (LayoutKind.grid.outcome c ⟨ctx, .updateChild w changed⟩).container := by
  subst hu
  obtain ⟨cursor, hc⟩ := h.layout_eq
  rw [LayoutKind.outcome, LayoutKind.apply, LayoutKind.updateChild, updateChild_eq hc]
  refine ⟨⟨cursor, hc⟩, h.panel_eq, h.slots.restyle w changed fun old slot hfits => ?_⟩
  exact fits_move ctx.units { g with cursor := cursor } hfits

theorem Shows.update (h : Shows u g c) {ctx : Context} (hu : ctx.units = u) (old changed : Style) :
    Shows u (ofStyle ctx.units ctx.config (old.merge changed))
      (LayoutKind.grid.outcome c ⟨ctx, .update old changed⟩).container := by
  subst hu
  obtain ⟨cursor, hc⟩ := h.layout_eq
  -- Whether the flow begins again shows in the cursor alone.
  obtain ⟨next, hrenew⟩ := exists_renew ctx { g with cursor := cursor } (old.merge changed)
  rw [LayoutKind.outcome, LayoutKind.apply, LayoutKind.update, update_eq hc, hrenew]
  exact ⟨⟨next, rfl⟩, rfl, h.slots.refit _ _ fun style slot hfits => fits_reseat ctx.units g _ hfits⟩

theorem Shows.step (h : Shows u g c) {s : Step} (hu : s.context.units = u) :
    Shows u (g.after s) (LayoutKind.grid.outcome c s).container := by
  obtain ⟨ctx, op⟩ := s
  cases op with
  | append w style => exact h.append hu w style
  | updateChild w changed => exact h.updateChild hu w changed
  | remove w =>
    rw [LayoutKind.outcome, LayoutKind.apply, LayoutKind.remove_eq h.kind_eq (by decide)]
    exact ⟨h.layout_eq, h.panel_eq, h.slots.remove w⟩
  | update old changed => exact h.update hu old changed
  | resume ticket =>
    rw [LayoutKind.outcome, LayoutKind.apply, LayoutKind.resume_eq h.kind_eq (by decide)]
    exact h

theorem Shows.run (h : Shows u g c) {steps : List Step} (hu : ∀ s ∈ steps, s.context.units = u) :
    Shows u (steps.foldl after g) (LayoutKind.grid.run c steps) := by
  induction steps generalizing g c with
  | nil => exact h
  | cons s steps ih =>
    obtain ⟨hs, hsteps⟩ := List.forall_mem_cons.mp hu
    exact ih (h.step hs) hsteps

theorem cells?_update (hk : c.kind = .grid) (ctx : Context) (old changed : Style) :
    (LayoutKind.grid.outcome c ⟨ctx, .update old changed⟩).container.children.map
        (fun node => (node.widget, node.slot.cells?)) =
      c.children.map fun node => (node.widget, node.slot.cells?) := by
  obtain ⟨g, hc⟩ := Container.exists_grid hk
  have hupdate := update_eq hc ctx old changed
  rw [LayoutKind.outcome, LayoutKind.apply, LayoutKind.update, hupdate]
  simp only [Overlay.outcomeOf, Container.unscheduled, Container.refit, Container.replace,
    List.map_map]
  refine List.map_congr_left fun node _ => ?_
  exact congrArg (Prod.mk node.widget) (cells?_reseat ctx.units _ node.style node.slot)

theorem shows_create (ctx : Context) (widget : WidgetId) (style : Style) :
    Shows ctx.units (ofStyle ctx.units ctx.config style)
      (LayoutKind.grid.create ctx widget style) :=
  ⟨⟨⟨0, 0⟩, rfl⟩, rfl, fun _ hnode => absurd hnode List.not_mem_nil⟩

/-- After any operations a grid container has the grid of the style that it has been given last. Its
panel has one share for each column and each row, each child is seated in its cell as that grid
wants it, and no update of the container moves a child to other cells. -/
theorem run_shows_current (ctx : Context) (widget : WidgetId) (style : Style) (steps : List Step)
    (hunits : ∀ s ∈ steps, s.context.units = ctx.units) :
    let c := LayoutKind.grid.run (LayoutKind.grid.create ctx widget style) steps
    let g := current ctx style steps
    (∃ cursor, c.layout = .grid { g with cursor := cursor }) ∧
      c.panel = .grid ⟨Track.fills g.columns, Track.fills g.rows⟩ ∧
      (Track.fills g.columns).length = g.totalColumns ∧
      (Track.fills g.rows).length = g.totalRows ∧
      (∀ node ∈ c.children, ∃ s, node.slot = .grid s ∧ g.Seated ctx.units node.style s) ∧
      ∀ (ctx' : Context) (old changed : Style),
        (LayoutKind.grid.outcome c ⟨ctx', .update old changed⟩).container.children.map
            (fun node => (node.widget, node.slot.cells?)) =
          c.children.map fun node => (node.widget, node.slot.cells?) := by
  intro c g
  have h : Shows ctx.units g c := (shows_create ctx widget style).run hunits
  refine ⟨h.layout_eq, h.panel_eq, Track.length_fills _, Track.length_fills _, fun node hnode => ?_,
    cells?_update h.kind_eq⟩
  obtain ⟨s, hs, hseat⟩ := h.slots node hnode
  exact ⟨s, hs, seated_of_seat_eq hseat⟩

open Overlay (unmeasured) in
theorem run_shows_current_shrunk :
    let wide := Style.empty.set .gridTemplateColumns (.text "1fr 1fr")
    let narrow := Style.empty.set .gridTemplateColumns (.text "1fr")
    let second := Style.empty.set .gridColumn (.number 2)
    let steps : List Step := [⟨unmeasured, .append ⟨2⟩ second⟩, ⟨unmeasured, .append ⟨3⟩ .empty⟩,
      ⟨unmeasured, .update wide narrow⟩]
    let c := LayoutKind.grid.run (LayoutKind.grid.create unmeasured ⟨1⟩ wide) steps
    let g := current unmeasured wide steps
    (∀ s ∈ steps, s.context.units = unmeasured.units) ∧
      g.totalColumns = 1 ∧
      c.children.map (fun node => (node.widget, node.slot.cells?)) =
        [(⟨2⟩, some (0, 1, 1, 1)), (⟨3⟩, some (0, 0, 1, 1))] ∧
      (∃ cursor, c.layout = .grid { g with cursor := cursor }) ∧
      c.panel = .grid ⟨Track.fills g.columns, Track.fills g.rows⟩ ∧
      (Track.fills g.columns).length = g.totalColumns ∧
      (Track.fills g.rows).length = g.totalRows ∧
      (∀ node ∈ c.children, ∃ s, node.slot = .grid s ∧ g.Seated unmeasured.units node.style s) ∧
      ∀ (ctx' : Context) (old changed : Style),
        (LayoutKind.grid.outcome c ⟨ctx', .update old changed⟩).container.children.map
            (fun node => (node.widget, node.slot.cells?)) =
          c.children.map fun node => (node.widget, node.slot.cells?) := by
  intro wide narrow second steps c g
  have hunits : ∀ s ∈ steps, s.context.units = unmeasured.units := by simp [steps]
  exact ⟨hunits, rfl, rfl, run_shows_current unmeasured ⟨1⟩ wide steps hunits⟩

end Grid

end PanelLayout
