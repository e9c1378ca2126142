import PanelLayout.Proofs.Container.Reading
import PanelLayout.Proofs.Decoration.Wrapper

/-!
The concerns of a decorated container are independent. Its layout does not see the decoration, and
each wrapper sees the properties of its own concern only.
-/
namespace PanelLayout
open LayoutKind (Operation Step)
open Style (paddings fits limits decorations)
open Background (paintProperties)
open SizeBox (sizeProperties)

structure WrapperKind.Overlooks {α : Type} (k : WrapperKind α) (hidden : List Property) : Prop where
  isNeeded_eq : ∀ s, k.isNeeded (s.without hidden) = k.isNeeded s
  configure_eq : ∀ u s, k.configure u (s.without hidden) = k.configure u s

theorem Background.paint?_without (s : Style) :
    ∀ p ∈ paintProperties, paint? (s.without (sizeProperties ++ fits)) p = paint? s p := by
  have hdisjoint : ∀ p ∈ paintProperties, p ∉ sizeProperties ++ fits := by decide
  intro p hp
  rw [paint?, paint?, Style.get_without (hdisjoint p hp)]

theorem Background.overlooks : kind.Overlooks (sizeProperties ++ fits) where
  isNeeded_eq s := by
    rw [Bool.eq_iff_iff]
    simp only [kind, isNeeded, List.any_eq_true]
    exact exists_congr fun p => and_congr_right fun hp => by rw [paint?_without s p hp]
  configure_eq u s := by
    have hproperties := List.filterMap_congr fun p hp =>
      congrArg (Option.map fun v => (p, v)) (paint?_without s p hp)
    funext b
    simp (disch := decide) only [kind, configure, hproperties, CssUnits.padding,
      CssUnits.sides_without]

theorem SizeBox.overlooks : kind.Overlooks (paintProperties ++ paddings ++ fits) where
  isNeeded_eq s := by
    simp (disch := decide) only [kind, isNeeded, sizeProperties, List.any_cons, List.any_nil,
      Style.isSet_without]
  configure_eq u s := by
    funext b
    simp (disch := decide) only [kind, configure, fixed?, Style.get_without, Style.definite?_without,
      CssUnits.pixels_without]

theorem ScaleBox.overlooks : kind.Overlooks (paintProperties ++ paddings ++ sizeProperties) where
  isNeeded_eq s := by
    simp (disch := decide) only [kind, isNeeded, Style.get_without]
  configure_eq u s := by
    have hstretch : stretchOf (s.without (paintProperties ++ paddings ++ sizeProperties)) =
        stretchOf s := by
      simp (disch := decide) only [stretchOf, Style.keyword?_without]
    have hscale : Canvas.scaleFactor (s.without (paintProperties ++ paddings ++ sizeProperties)) =
        Canvas.scaleFactor s := by
      simp (disch := decide) only [Canvas.scaleFactor, Style.get_without]
    funext b
    simp only [kind, configure, hstretch, hscale]

namespace WrapperKind
variable {α : Type} (k : WrapperKind α)

def bareAfter (u : CssUnits) (w : Option α) : Operation → Option α
  | .update old changed =>
    if k.isNeeded (old.merge changed) then some (k.bare (k.configure u (old.merge changed) k.initial))
    else w.map fun _ => k.bare k.initial
  | _ => w

variable {k}

theorem Worn.map_bare_outcome {get : Decorated → Option α} {outermost : Decorated → Prop}
    (hw : k.Worn get outermost) (d : Decorated) (s : Step) :
    (get (d.outcome s).container).map k.bare =
      k.bareAfter s.context.units ((get d).map k.bare) s.operation := by
  rcases hw.step_cases d s with ⟨old, changed, hop, hget⟩ | ⟨hchild, hget⟩
  · rw [hop, hget, k.map_bare_renew, bareAfter, Option.map_map]
    rfl
  · have hsame : k.bareAfter s.context.units ((get d).map k.bare) s.operation =
        (get d).map k.bare := by
      cases hop : s.operation with
      | update old changed => exact absurd hop (hchild old changed)
      | _ => rfl
    rw [hsame]
    rcases hget with hget | ⟨-, placed, -, hget⟩
    · rw [hget]
    · rw [hget, Option.map_map]
      exact congrArg (fun f => (get d).map f) (funext (k.bare_mapContent _))

theorem Overlooks.bareAfter_without {hidden : List Property} (h : k.Overlooks hidden)
    (u : CssUnits) (w : Option α) (op : Operation) :
    k.bareAfter u w (op.without hidden) = k.bareAfter u w op := by
  cases op with
  | update old changed =>
    simp only [Operation.without, bareAfter, ← Style.without_merge, h.isNeeded_eq, h.configure_eq]
  | _ => rfl

end WrapperKind

namespace LayoutKind
variable {hidden : List Property}

def Operation.AgreeOff (hidden : List Property) : Operation → Operation → Prop
  | update old changed, update old' changed' =>
    old.AgreeOff hidden old' ∧ changed.AgreeOff hidden changed'
  | op, op' => op = op'

def Step.AgreeOff (hidden : List Property) (s s' : Step) : Prop :=
  s.context = s'.context ∧ s.operation.AgreeOff hidden s'.operation

theorem Operation.AgreeOff.without_eq {op op' : Operation} (h : op.AgreeOff hidden op') :
    op.without hidden = op'.without hidden := by
  cases op with
  | update old changed =>
    cases op' with
    | update old' changed' =>
      exact congrArg₂ update (Style.agreeOff_iff.mp h.1) (Style.agreeOff_iff.mp h.2)
    | _ => exact congrArg (without hidden) h
  | _ => exact congrArg (without hidden) h

theorem Step.map_without_eq {steps steps' : List Step}
    (h : List.Forall₂ (Step.AgreeOff hidden) steps steps') :
    steps.map (Step.without hidden) = steps'.map (Step.without hidden) := by
  induction h with
  | nil => rfl
  | cons hstep _ ih =>
    obtain ⟨hctx, hop⟩ := hstep
    rw [List.map_cons, List.map_cons, ih, Step.without, Step.without, hctx, hop.without_eq]

end LayoutKind

namespace Decorated
variable {β : Type} {hidden : List Property}

def trace (ctx : Context) (tag : String) (widget : WidgetId) (style : Style) (steps : List Step) :
    Except LayoutError (List DecoratedOutcome) :=
  (create ctx tag widget style).map fun d => ⟨d, []⟩ :: d.outcomes steps

/-- Two runs of the same operations look the same at every moment, if the styles of the container
differ in the hidden properties only. -/
def Ignores (view : DecoratedOutcome → β) (hidden : List Property) : Prop :=
  ∀ (ctx : Context) (tag : String) (widget : WidgetId) (style style' : Style)
    (steps steps' : List Step), style.AgreeOff hidden style' →
    List.Forall₂ (Step.AgreeOff hidden) steps steps' →
    (trace ctx tag widget style steps).map (List.map view) =
      (trace ctx tag widget style' steps').map (List.map view)

/-- What is looked at before an operation decides what is looked at after it, and nothing changes
when properties are hidden. -/
structure Blind (view : DecoratedOutcome → β) (hidden : List Property) : Prop where
  create_eq : ∀ ctx tag widget style,
    (create ctx tag widget (style.without hidden)).map (fun d => view ⟨d, []⟩) =
      (create ctx tag widget style).map fun d => view ⟨d, []⟩
  step_eq : ∀ {out out' : DecoratedOutcome}, view out = view out' → ∀ s : Step,
    view (out.container.outcome (s.without hidden)) = view (out'.container.outcome s)

namespace Blind
variable {view : DecoratedOutcome → β} (h : Blind view hidden)
include h

theorem map_outcomes {out out' : DecoratedOutcome} (hview : view out = view out')
    (steps : List Step) :
    (out.container.outcomes (steps.map (Step.without hidden))).map view =
      (out'.container.outcomes steps).map view := by
  induction steps generalizing out out' with
  | nil => rfl
  | cons s steps ih =>
    have hstep := h.step_eq hview s
    exact congrArg₂ List.cons hstep (ih hstep)

theorem trace_without (ctx : Context) (tag : String) (widget : WidgetId) (style : Style)
    (steps : List Step) :
    (trace ctx tag widget (style.without hidden) (steps.map (Step.without hidden))).map
        (List.map view) =
      (trace ctx tag widget style steps).map (List.map view) := by
  have hcreate := h.create_eq ctx tag widget style
  unfold trace
  cases hd : create ctx tag widget (style.without hidden) with
  | error e =>
    cases hd' : create ctx tag widget style with
    | error e' => simpa [hd, hd', Except.map] using hcreate
    | ok d' => simp [hd, hd', Except.map] at hcreate
  | ok d =>
    cases hd' : create ctx tag widget style with
    | error e' => simp [hd, hd', Except.map] at hcreate
    | ok d' =>
      rw [hd, hd'] at hcreate
      have hview : view ⟨d, []⟩ = view ⟨d', []⟩ := Except.ok.inj hcreate
      exact congrArg Except.ok (congrArg₂ List.cons hview (h.map_outcomes hview steps))

theorem ignores : Ignores view hidden := by
  intro ctx tag widget style style' steps steps' hstyle hsteps
  rw [← h.trace_without, ← h.trace_without ctx tag widget style', Style.agreeOff_iff.mp hstyle,
    Step.map_without_eq hsteps]

end Blind

theorem blind_layout :
    Blind (fun out => (out.container.layout, out.scheduled)) decorations where
  create_eq ctx tag widget style := by
    simp only [create, LayoutKind.ofTag?_without]
    cases LayoutKind.ofTag? tag style with
    | none => rfl
    | some k =>
      exact congrArg (fun c : Container => Except.ok (c, [])) (k.create_without ctx widget style)
  step_eq {out out'} hview s := by
    have hlayout : out.container.layout = out'.container.layout := congrArg Prod.fst hview
    simp only [outcome_eq, kind, hlayout, LayoutKind.outcome_without]

theorem blind_wrapper {α : Type} {k : WrapperKind α} {get : Decorated → Option α}
    {outermost : Decorated → Prop} (hw : k.Worn get outermost) (h : k.Overlooks hidden) :
    Blind (fun out => (get out.container).map k.bare) hidden where
  create_eq ctx tag widget style := by
    have hsome := LayoutKind.isSome_ofTag? tag (style.without hidden) style
    unfold create
    cases hk : LayoutKind.ofTag? tag (style.without hidden) with
    | none =>
      have hk' : LayoutKind.ofTag? tag style = none := by simpa [hk] using hsome
      rw [hk']
    | some kind =>
      obtain ⟨kind', hk'⟩ := Option.isSome_iff_exists.mp (hsome.symm.trans (hk ▸ rfl))
      rw [hk']
      refine congrArg Except.ok ?_
      simp only [hw.decorate, hw.undecorated, k.map_bare_renew, h.isNeeded_eq, h.configure_eq]
  step_eq {out out'} hview s := by
    show (get (out.container.outcome (s.without hidden)).container).map k.bare =
      (get (out'.container.outcome s).container).map k.bare
    rw [hw.map_bare_outcome, hw.map_bare_outcome]
    exact (h.bareAfter_without _ _ _).trans (congrArg (fun w => k.bareAfter _ w _) hview)

/-- The layout of a container and the tickets that it asks for do not depend on the paint, the padding,
the fit and the limits of the size. Nor do the backgrounds depend on sizes and fit, the size boxes on
paint, padding and fit, and the scale boxes on paint, padding and sizes. -/
theorem concerns_separate :
    Ignores (fun out => (out.container.layout, out.scheduled))
        (paintProperties ++ paddings ++ fits ++ limits) ∧
      Ignores (fun out => out.container.background.map Background.kind.bare)
        (sizeProperties ++ fits) ∧
      Ignores (fun out => out.container.sizeBox.map SizeBox.kind.bare)
        (paintProperties ++ paddings ++ fits) ∧
      Ignores (fun out => out.container.scaleBox.map ScaleBox.kind.bare)
        (paintProperties ++ paddings ++ sizeProperties) :=
  ⟨blind_layout.ignores, (blind_wrapper Background.worn Background.overlooks).ignores,
    (blind_wrapper SizeBox.worn SizeBox.overlooks).ignores,
    (blind_wrapper ScaleBox.worn ScaleBox.overlooks).ignores⟩

theorem concerns_separate_painted :
    let plain := Style.empty.set .gap (.text "4px")
    let painted := plain.set .backgroundColor (.text "red")
    let sized := plain.set .width (.number 40)
    let steps : Style → List Step := fun style =>
      [⟨Overlay.unmeasured, .append ⟨2⟩ .empty⟩, ⟨Overlay.unmeasured, .update .empty style⟩]
    let traceOf : Style → Except LayoutError (List DecoratedOutcome) := fun style =>
      trace Overlay.unmeasured "div" ⟨1⟩ style (steps style)
    (Background.isNeeded plain = false ∧ Background.isNeeded painted = true ∧
        SizeBox.isNeeded plain = false ∧ SizeBox.isNeeded sized = true) ∧
      (traceOf plain).map (List.map fun out => (out.container.layout, out.scheduled)) =
        (traceOf painted).map (List.map fun out => (out.container.layout, out.scheduled)) ∧
      (traceOf plain).map (List.map fun out => out.container.background.map Background.kind.bare) =
        (traceOf sized).map (List.map fun out => out.container.background.map Background.kind.bare) ∧
      (traceOf plain).map (List.map fun out => out.container.sizeBox.map SizeBox.kind.bare) =
        (traceOf painted).map (List.map fun out => out.container.sizeBox.map SizeBox.kind.bare) ∧
      (traceOf plain).map (List.map fun out => out.container.scaleBox.map ScaleBox.kind.bare) =
        (traceOf sized).map (List.map fun out => out.container.scaleBox.map ScaleBox.kind.bare) := by
  intro plain painted sized steps traceOf
  obtain ⟨hlayout, hbackground, hsize, hscale⟩ := concerns_separate
  have hpainted : ∀ {hidden}, .backgroundColor ∈ hidden → plain.AgreeOff hidden painted :=
    fun h => Style.agreeOff_set h _ _
  have hsized : ∀ {hidden}, .width ∈ hidden → plain.AgreeOff hidden sized :=
    fun h => Style.agreeOff_set h _ _
  have hsteps : ∀ {hidden style}, plain.AgreeOff hidden style →
      List.Forall₂ (Step.AgreeOff hidden) (steps plain) (steps style) :=
    fun h => .cons ⟨rfl, rfl⟩ (.cons ⟨rfl, fun _ _ => rfl, h⟩ .nil)
  refine ⟨by decide +kernel, ?_, ?_, ?_, ?_⟩
  · exact hlayout _ _ _ _ _ _ _ (hpainted (by decide)) (hsteps (hpainted (by decide)))
  · exact hbackground _ _ _ _ _ _ _ (hsized (by decide)) (hsteps (hsized (by decide)))
  · exact hsize _ _ _ _ _ _ _ (hpainted (by decide)) (hsteps (hpainted (by decide)))
  · exact hscale _ _ _ _ _ _ _ (hsized (by decide)) (hsteps (hsized (by decide)))

end Decorated

end PanelLayout
