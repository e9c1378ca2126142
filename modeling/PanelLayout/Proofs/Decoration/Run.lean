import PanelLayout.Proofs.Container.Refusal
import PanelLayout.Proofs.Overlay.Bookkeeping

/-!
Runs of operations on a decorated container. The container inside goes on as it does alone, and the
wrappers follow: an update brings them in step with the new style, and a child that is placed is
aligned in the outermost one.
-/
namespace PanelLayout
open LayoutKind (Operation Step)

theorem Container.map_style_child? (c : Container) (w : WidgetId) :
    (c.child? w).map Child.style = (c.styles.find? fun p => p.1 = w).map Prod.snd := by
  simp [child?, styles, List.find?_map, Function.comp_def]

namespace LayoutKind

def Operation.placed? (c : Container) : Operation → Option Style
  | append child style => if c.has child then none else some style
  | updateChild child changed => (c.child? child).map fun node => node.style.merge changed
  | _ => none

theorem style_updateChild {k : LayoutKind} {c : Container} (hk : c.kind = k) {ctx : Context}
    {child : WidgetId} {changed : Style} {out : Outcome}
    (hout : k.updateChild ctx c child changed = .ok out) :
    (out.container.child? child).map Child.style =
      (Operation.updateChild child changed).placed? c := by
  have hrestyle : ∀ place, ((c.restyle child changed place).child? child).map Child.style =
      (Operation.updateChild child changed).placed? c := by
    intro place
    rw [Container.child?_restyle, Option.map_map]
    rfl
  cases k with
  | flex =>
    obtain ⟨f, hc⟩ := Container.exists_flex hk
    obtain rfl := Except.ok.inj ((Flex.updateChild_eq hc ctx child changed).symm.trans hout)
    exact hrestyle _
  | grid =>
    obtain ⟨g, hc⟩ := Container.exists_grid hk
    obtain rfl := Except.ok.inj ((Grid.updateChild_eq hc ctx child changed).symm.trans hout)
    exact hrestyle _
  | canvas =>
    obtain ⟨canvas, hc⟩ := Container.exists_canvas hk
    obtain rfl := Except.ok.inj ((Canvas.updateChild_eq hc ctx child changed).symm.trans hout)
    exact hrestyle _
  | overlay =>
    obtain ⟨o, hc⟩ := Container.exists_overlay hk
    obtain rfl := Except.ok.inj ((Overlay.updateChild_eq hc ctx child changed).symm.trans hout)
    have hstyles := Overlay.track_styles ctx
      ⟨c.restyle child changed (Overlay.placeInitial ctx.units), o⟩ child
    rw [← hrestyle (Overlay.placeInitial ctx.units), Container.map_style_child?,
      Container.map_style_child?]
    exact congrArg (fun l => Option.map Prod.snd (List.find? _ l)) hstyles
  | uniformGrid =>
    have hc := Container.layout_uniformGrid hk
    obtain rfl := Except.ok.inj ((UniformGrid.updateChild_eq hc ctx child changed).symm.trans hout)
    exact hrestyle _

theorem isSome_ofTag? (tag : String) (style style' : Style) :
    (ofTag? tag style).isSome = (ofTag? tag style').isSome := by
  unfold ofTag?
  split <;> rfl

end LayoutKind

namespace Decorated

def outcome (d : Decorated) (s : Step) : DecoratedOutcome :=
  match d.apply s.context s.operation with
  | .ok out => out
  | .error _ => ⟨d, []⟩

theorem apply_eq_outcome {d : Decorated} {s : Step}
    (h : ∀ child style, s.operation = .append child style → ¬d.layout.has child) :
    d.apply s.context s.operation = .ok (d.outcome s) := by
  unfold outcome
  cases hout : d.apply s.context s.operation with
  | ok out => rfl
  | error e =>
    obtain ⟨child, style, hop, hhas, -⟩ := (apply_eq_error_iff _ d _ e).mp hout
    exact absurd hhas (h child style hop)

def run : Decorated → List Step → Decorated
  | d, [] => d
  | d, s :: steps => run (d.outcome s).container steps

def outcomes : Decorated → List Step → List DecoratedOutcome
  | _, [] => []
  | d, s :: steps => d.outcome s :: outcomes (d.outcome s).container steps

def follow (u : CssUnits) (d : Decorated) : Operation → Decorated
  | .update old changed => d.decorate u (old.merge changed)
  | op =>
    match op.placed? d.layout with
    | some style => d.alignInWrapper u style
    | none => d

theorem mapExternalSlot_with_layout (f : Seat → Seat) (d : Decorated) (layout : Container) :
    mapExternalSlot f { d with layout } = { mapExternalSlot f d with layout } := by
  simp only [mapExternalSlot]
  cases d.sizeBox <;> rfl

/-- Everything that an operation does to a decorated container. -/
theorem outcome_eq (d : Decorated) (s : Step) :
    d.outcome s = ⟨{ d.follow s.context.units s.operation with
        layout := (d.kind.outcome d.layout s).container },
      (d.kind.outcome d.layout s).scheduled⟩ := by
  obtain ⟨ctx, op⟩ := s
  have hkind : d.layout.kind = d.kind := rfl
  cases op with
  | append child style =>
    -- A refused append aligns nothing, which is why `placed?` looks at the children.
    by_cases hhas : d.layout.has child
    · have hrefused := LayoutKind.append_of_has hkind ctx style hhas
      simp only [outcome, apply, append, LayoutKind.outcome, LayoutKind.apply, hrefused, follow,
        Operation.placed?, if_pos hhas]
      rfl
    · obtain ⟨out, hout, -⟩ := LayoutKind.exists_append hkind ctx style hhas
      simp only [outcome, apply, append, LayoutKind.outcome, LayoutKind.apply, hout, follow,
        Operation.placed?, if_neg hhas]
      exact congrArg (fun d => (⟨d, out.scheduled⟩ : DecoratedOutcome))
        (mapExternalSlot_with_layout _ d out.container)
  | updateChild child changed =>
    obtain ⟨out, hout, -⟩ := LayoutKind.exists_updateChild hkind ctx child changed
    have hstyle := LayoutKind.style_updateChild hkind hout
    simp only [outcome, apply, updateChild, LayoutKind.outcome, LayoutKind.apply, hout, follow,
      ← hstyle, bind, Except.bind]
    cases out.container.child? child with
    | none => rfl
    | some node =>
      exact congrArg (fun d => (⟨d, out.scheduled⟩ : DecoratedOutcome))
        (mapExternalSlot_with_layout _ d out.container)
  | remove child =>
    obtain ⟨out, hout, -⟩ := LayoutKind.exists_remove hkind child
    simp only [outcome, apply, remove, LayoutKind.outcome, LayoutKind.apply, hout, Except.map]
    rfl
  | update old changed =>
    obtain ⟨out, hout, -⟩ := LayoutKind.exists_update hkind ctx old changed
    simp only [outcome, apply, update, LayoutKind.outcome, LayoutKind.apply, hout]
    rfl
  | resume ticket =>
    obtain ⟨out, hout, -⟩ := LayoutKind.exists_resume hkind ctx ticket
    simp only [outcome, apply, resume, LayoutKind.outcome, LayoutKind.apply, hout, Except.map]
    rfl

theorem create_eq_ok_iff {ctx : Context} {tag : String} {widget : WidgetId} {style : Style}
    {d : Decorated} :
    create ctx tag widget style = .ok d ↔
      ∃ k, LayoutKind.ofTag? tag style = some k ∧
        d = decorate ctx.units style ⟨k.create ctx widget style, none, none, none⟩ := by
  unfold create
  cases LayoutKind.ofTag? tag style with
  | none => simp
  | some k => simp [eq_comm]

end Decorated

end PanelLayout
