import PanelLayout.Proofs.Container.Equations
import PanelLayout.Proofs.Overlay.Run

/-!
Runs of operations on a container of any kind. A refused operation changes nothing, and no
operation changes the kind of a container.
-/
namespace PanelLayout

namespace Container
variable {c : Container}

theorem exists_flex (h : c.kind = .flex) : ∃ f, c.layout = .flex f := by
  cases hc : c.layout <;> simp [kind, hc, Layout.kind] at h ⊢

theorem exists_grid (h : c.kind = .grid) : ∃ g, c.layout = .grid g := by
  cases hc : c.layout <;> simp [kind, hc, Layout.kind] at h ⊢

theorem exists_canvas (h : c.kind = .canvas) : ∃ canvas, c.layout = .canvas canvas := by
  cases hc : c.layout <;> simp [kind, hc, Layout.kind] at h ⊢

theorem exists_overlay (h : c.kind = .overlay) : ∃ o, c.layout = .overlay o := by
  cases hc : c.layout <;> simp [kind, hc, Layout.kind] at h ⊢

theorem layout_uniformGrid (h : c.kind = .uniformGrid) : c.layout = .uniformGrid := by
  cases hc : c.layout <;> simp [kind, hc, Layout.kind] at h ⊢

theorem insert_of_has {child : WidgetId} (h : c.has child) (style : Style) (atFront : Bool)
    (place : Slot → Slot) : c.insert child style atFront place = .error (.duplicateChild child) :=
  if_pos h

theorem exists_insert {child : WidgetId} (h : ¬c.has child) (style : Style) (atFront : Bool)
    (place : Slot → Slot) : ∃ c', c.insert child style atFront place = .ok c' ∧ c'.kind = c.kind :=
  ⟨_, if_neg h, rfl⟩

theorem expect_eq {k : LayoutKind} (h : c.kind = k) : c.expect k = .ok () := if_pos h

end Container

namespace LayoutKind

inductive Operation where
  | append (child : WidgetId) (style : Style)
  | updateChild (child : WidgetId) (changed : Style)
  | remove (child : WidgetId)
  | update (old changed : Style)
  | resume (ticket : Ticket)

def apply (k : LayoutKind) (ctx : Context) (c : Container) : Operation → Except LayoutError Outcome
  | .append child style => k.append ctx c child style
  | .updateChild child changed => k.updateChild ctx c child changed
  | .remove child => k.remove c child
  | .update old changed => k.update ctx c old changed
  | .resume ticket => k.resume ctx c ticket

structure Step where
  context : Context
  operation : Operation

def outcome (k : LayoutKind) (c : Container) (s : Step) : Outcome :=
  Overlay.outcomeOf c (k.apply s.context c s.operation)

def run (k : LayoutKind) : Container → List Step → Container
  | c, [] => c
  | c, s :: steps => k.run (k.outcome c s).container steps

theorem run_concat (k : LayoutKind) (c : Container) (steps : List Step) (s : Step) :
    k.run c (steps ++ [s]) = (k.outcome (k.run c steps) s).container := by
  induction steps generalizing c with
  | nil => rfl
  | cons t steps ih => exact ih _

theorem run_induction {k : LayoutKind} {P : Container → Prop}
    (hstep : ∀ c s, P c → P (k.outcome c s).container) {c : Container} (hc : P c)
    (steps : List Step) : P (k.run c steps) := by
  induction steps generalizing c with
  | nil => exact hc
  | cons s steps ih => exact ih (hstep c s hc)

section
variable {k : LayoutKind} {c : Container}

theorem remove_eq (hk : c.kind = k) (hne : k ≠ .overlay) (child : WidgetId) :
    k.remove c child = .ok (c.remove child).unscheduled := by
  cases k with
  | overlay => exact absurd rfl hne
  | _ =>
    rw [remove, Container.expect_eq hk]
    · rfl
    · exact hne

theorem resume_eq (hk : c.kind = k) (hne : k ≠ .overlay) (ctx : Context) (ticket : Ticket) :
    k.resume ctx c ticket = .ok c.unscheduled := by
  cases k with
  | overlay => exact absurd rfl hne
  | _ =>
    rw [resume, Container.expect_eq hk]
    · rfl
    · exact hne

/-! On a container of its own kind a layout refuses a child that is present and nothing else, and the
kind stays. -/

theorem append_of_has (hk : c.kind = k) (ctx : Context) {child : WidgetId} (style : Style)
    (h : c.has child) : k.append ctx c child style = .error (.duplicateChild child) := by
  cases k with
  | flex =>
    obtain ⟨f, hc⟩ := Container.exists_flex hk
    rw [append, Flex.append_eq hc, Container.insert_of_has h]
    rfl
  | grid =>
    obtain ⟨g, hc⟩ := Container.exists_grid hk
    rw [append, Grid.append_eq hc, if_pos h]
  | canvas =>
    obtain ⟨canvas, hc⟩ := Container.exists_canvas hk
    rw [append, Canvas.append_eq hc, Container.insert_of_has h]
    rfl
  | overlay =>
    obtain ⟨o, hc⟩ := Container.exists_overlay hk
    rw [append, Overlay.append_eq hc, Container.insert_of_has h]
    rfl
  | uniformGrid =>
    rw [append, UniformGrid.append_eq (Container.layout_uniformGrid hk), Container.insert_of_has h]
    rfl

theorem exists_append (hk : c.kind = k) (ctx : Context) {child : WidgetId} (style : Style)
    (h : ¬c.has child) : ∃ out, k.append ctx c child style = .ok out ∧ out.container.kind = k := by
  cases k with
  | flex =>
    obtain ⟨f, hc⟩ := Container.exists_flex hk
    obtain ⟨c', hinsert, hkind⟩ := Container.exists_insert h style (!f.isRow && f.isReverse)
      (f.place ctx.units c.children.isEmpty style)
    rw [append, Flex.append_eq hc, hinsert]
    exact ⟨_, rfl, hkind.trans hk⟩
  | grid =>
    obtain ⟨g, hc⟩ := Container.exists_grid hk
    rw [append, Grid.append_eq hc, if_neg h]
    exact ⟨_, rfl, rfl⟩
  | canvas =>
    obtain ⟨canvas, hc⟩ := Container.exists_canvas hk
    rw [append, Canvas.append_eq hc, Container.insert_back, if_neg h]
    exact ⟨_, rfl, hk⟩
  | overlay =>
    obtain ⟨o, hc⟩ := Container.exists_overlay hk
    rw [append, Overlay.append_eq hc, Container.insert_back, if_neg h]
    exact ⟨_, rfl, rfl⟩
  | uniformGrid =>
    rw [append, UniformGrid.append_eq (Container.layout_uniformGrid hk), Container.insert_back,
      if_neg h]
    exact ⟨_, rfl, hk⟩

theorem exists_updateChild (hk : c.kind = k) (ctx : Context) (child : WidgetId) (changed : Style) :
    ∃ out, k.updateChild ctx c child changed = .ok out ∧ out.container.kind = k := by
  cases k with
  | flex =>
    obtain ⟨f, hc⟩ := Container.exists_flex hk
    exact ⟨_, Flex.updateChild_eq hc ctx child changed, hk⟩
  | grid =>
    obtain ⟨g, hc⟩ := Container.exists_grid hk
    exact ⟨_, Grid.updateChild_eq hc ctx child changed, hk⟩
  | canvas =>
    obtain ⟨canvas, hc⟩ := Container.exists_canvas hk
    exact ⟨_, Canvas.updateChild_eq hc ctx child changed, hk⟩
  | overlay =>
    obtain ⟨o, hc⟩ := Container.exists_overlay hk
    exact ⟨_, Overlay.updateChild_eq hc ctx child changed, rfl⟩
  | uniformGrid =>
    have hc := Container.layout_uniformGrid hk
    exact ⟨_, UniformGrid.updateChild_eq hc ctx child changed, hk⟩

theorem exists_update (hk : c.kind = k) (ctx : Context) (old changed : Style) :
    ∃ out, k.update ctx c old changed = .ok out ∧ out.container.kind = k := by
  cases k with
  | flex =>
    obtain ⟨f, hc⟩ := Container.exists_flex hk
    exact ⟨_, Flex.update_eq hc ctx old changed, rfl⟩
  | grid =>
    obtain ⟨g, hc⟩ := Container.exists_grid hk
    exact ⟨_, Grid.update_eq hc ctx old changed, rfl⟩
  | canvas =>
    obtain ⟨canvas, hc⟩ := Container.exists_canvas hk
    exact ⟨_, Canvas.update_eq hc ctx old changed, rfl⟩
  | overlay =>
    obtain ⟨o, hc⟩ := Container.exists_overlay hk
    exact ⟨_, Overlay.update_eq hc ctx old changed, rfl⟩
  | uniformGrid =>
    have hc := Container.layout_uniformGrid hk
    exact ⟨_, UniformGrid.update_eq hc ctx old changed, hk⟩

theorem exists_remove (hk : c.kind = k) (child : WidgetId) :
    ∃ out, k.remove c child = .ok out ∧ out.container.kind = k := by
  by_cases ho : k = .overlay
  · subst ho
    obtain ⟨o, hc⟩ := Container.exists_overlay hk
    exact ⟨_, Overlay.remove_eq hc child, rfl⟩
  · exact ⟨_, remove_eq hk ho child, hk⟩

theorem exists_resume (hk : c.kind = k) (ctx : Context) (ticket : Ticket) :
    ∃ out, k.resume ctx c ticket = .ok out ∧ out.container.kind = k := by
  by_cases ho : k = .overlay
  · subst ho
    obtain ⟨o, hc⟩ := Container.exists_overlay hk
    refine ⟨_, Overlay.resume_eq hc ctx ticket, ?_⟩
    split_ifs
    · rfl
    · exact hk
  · exact ⟨_, resume_eq hk ho ctx ticket, hk⟩

def Operation.Repeats (op : Operation) (c : Container) : Prop :=
  ∃ child style, op = .append child style ∧ c.has child

theorem exists_apply (hk : c.kind = k) {op : Operation} (hop : ¬op.Repeats c) (ctx : Context) :
    ∃ out, k.apply ctx c op = .ok out ∧ out.container.kind = k := by
  cases op with
  | append child style =>
    exact exists_append hk ctx style fun hhas => hop ⟨child, style, rfl, hhas⟩
  | updateChild child changed => exact exists_updateChild hk ctx child changed
  | remove child => exact exists_remove hk child
  | update old changed => exact exists_update hk ctx old changed
  | resume ticket => exact exists_resume hk ctx ticket

theorem kind_outcome (hk : c.kind = k) (s : Step) : (k.outcome c s).container.kind = k := by
  by_cases hrepeats : s.operation.Repeats c
  · obtain ⟨child, style, hop, hhas⟩ := hrepeats
    rw [outcome, hop, apply, append_of_has hk s.context style hhas]
    exact hk
  · obtain ⟨out, hout, hkind⟩ := exists_apply hk hrepeats s.context
    rw [outcome, hout]
    exact hkind

end

theorem kind_create (k : LayoutKind) (ctx : Context) (widget : WidgetId) (style : Style) :
    (k.create ctx widget style).kind = k := by
  cases k <;> rfl

theorem kind_run (k : LayoutKind) (ctx : Context) (widget : WidgetId) (style : Style)
    (steps : List Step) : (k.run (k.create ctx widget style) steps).kind = k :=
  run_induction (P := fun c => c.kind = k) (fun _ s hk => kind_outcome hk s)
    (kind_create k ctx widget style) steps

/-! A run on an overlay container is one of its own runs. -/

def Operation.onOverlay : Operation → Overlay.Operation
  | append child style => .edit (.append child style)
  | updateChild child changed => .edit (.updateChild child changed)
  | remove child => .edit (.remove child)
  | update old changed => .edit (.update old changed)
  | resume ticket => .resume ticket

def Step.onOverlay (s : Step) : Overlay.Step := ⟨s.context, s.operation.onOverlay⟩

theorem overlay_outcome (c : Container) (s : Step) :
    overlay.outcome c s = s.onOverlay.outcome c := by
  rcases s with ⟨ctx, op⟩
  cases op <;> rfl

theorem overlay_run (c : Container) (steps : List Step) :
    overlay.run c steps = Overlay.run c (steps.map Step.onOverlay) := by
  induction steps generalizing c with
  | nil => rfl
  | cons s steps ih =>
    rw [run, overlay_outcome]
    exact ih _

end LayoutKind

end PanelLayout
