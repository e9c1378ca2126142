import PanelLayout.Proofs.Container.History
import PanelLayout.Proofs.Decoration.Wrapper

/-!
Wrappers follow the style of their container. A wrapper is there as soon as one style has needed it,
and is then configured by the style of the moment. The seat of its content stays, but for what the
children ask of the outermost wrapper.
-/
namespace PanelLayout
open LayoutKind (Operation Step finalStyle Accumulated)

theorem LayoutKind.finalStyle_concat (style : Style) (ops : List Operation) (op : Operation) :
    finalStyle style (ops ++ [op]) = op.onStyle (finalStyle style ops) := by
  simp only [finalStyle, List.foldl_append, List.foldl_cons, List.foldl_nil]

theorem LayoutKind.onStyle_of_ne_update {op : Operation}
    (h : ∀ old changed, op ≠ .update old changed) (style : Style) : op.onStyle style = style := by
  cases op with
  | update old changed => exact absurd rfl (h old changed)
  | _ => rfl

namespace Decorated

def Asks (style : Style) : Prop :=
  (SelfAlignment.ofStyle style).isEmpty = false ∨ hasMargin style

theorem alignSeat_of_not_asks {style : Style} (h : ¬Asks style) (u : CssUnits) (seat : Seat) :
    alignSeat u style seat = seat := by
  simp only [Asks, SelfAlignment.isEmpty, not_or, Bool.not_eq_false, Bool.and_eq_true,
    Option.isNone_iff_eq_none] at h
  obtain ⟨⟨halign, hjustify⟩, hmargin⟩ := h
  simp [alignSeat, SelfAlignment.horizontal, SelfAlignment.vertical, halign, hjustify, hmargin]

end Decorated

namespace WrapperKind
variable {α : Type} (k : WrapperKind α)

def WasNeeded (style : Style) (ops : List Operation) : Prop :=
  ∃ past, past <+: ops ∧ k.isNeeded (finalStyle style past)

theorem wasNeeded_concat (style : Style) (ops : List Operation) (op : Operation) :
    k.WasNeeded style (ops ++ [op]) ↔
      k.WasNeeded style ops ∨ k.isNeeded (op.onStyle (finalStyle style ops)) := by
  rw [← LayoutKind.finalStyle_concat]
  constructor
  · rintro ⟨past, hpast, hneeded⟩
    rcases List.prefix_concat_iff.mp hpast with rfl | hpast
    · exact .inr hneeded
    · exact .inl ⟨past, hpast, hneeded⟩
  · rintro (⟨past, hpast, hneeded⟩ | hneeded)
    · exact ⟨past, hpast.trans (List.prefix_append ops [op]), hneeded⟩
    · exact ⟨_, List.prefix_refl _, hneeded⟩

structure Follows (u : CssUnits) (style : Style) (ops : List Operation) (w : Option α) : Prop where
  isSome_iff : w.isSome ↔ k.WasNeeded style ops
  eq_fresh : ∀ x ∈ w, x = k.withContent (k.content x) (k.fresh u (finalStyle style ops))

/-- An operation leaves the seat of the content, unless a child that it places asks for another one
and the wrapper is the outermost. -/
def Keeps (get : Decorated → Option α) (outermost : Prop) (d : Decorated) (s : Step) : Prop :=
  ∀ x ∈ get d, ∃ x' ∈ get (d.outcome s).container,
    k.content x' = k.content x ∨
      outermost ∧ ∃ style, s.operation.placed? d.layout = some style ∧ Decorated.Asks style ∧
        k.content x' = Decorated.alignSeat s.context.units style (k.content x)

variable {k} {u : CssUnits} {style : Style} {ops : List Operation} {w : Option α}

theorem follows_create (u : CssUnits) (style : Style) :
    k.Follows u style [] (k.renew u style none) := by
  have hstart : k.WasNeeded style [] ↔ k.isNeeded style := by
    simp [WasNeeded, List.prefix_nil, finalStyle]
  refine ⟨?_, fun x hx => k.eq_of_mem_renew hx⟩
  rw [k.isSome_renew, hstart]
  simp

theorem Follows.update (h : k.Follows u style ops w) (changed : Style) :
    k.Follows u style (ops ++ [.update (finalStyle style ops) changed])
      (k.renew u ((finalStyle style ops).merge changed) w) := by
  refine ⟨?_, fun x hx => ?_⟩
  · rw [k.isSome_renew, wasNeeded_concat, h.isSome_iff]
    rfl
  · rw [LayoutKind.finalStyle_concat]
    exact k.eq_of_mem_renew hx

theorem Follows.of_onStyle_eq (h : k.Follows u style ops w) {op : Operation}
    (hop : op.onStyle (finalStyle style ops) = finalStyle style ops) :
    k.Follows u style (ops ++ [op]) w := by
  refine ⟨?_, ?_⟩
  · rw [h.isSome_iff, wasNeeded_concat, hop]
    have hnow : k.isNeeded (finalStyle style ops) → k.WasNeeded style ops :=
      fun hneeded => ⟨ops, List.prefix_refl ops, hneeded⟩
    exact ⟨.inl, fun h => h.elim id hnow⟩
  · rw [LayoutKind.finalStyle_concat, hop]
    exact h.eq_fresh

theorem Follows.mapContent (h : k.Follows u style ops w) (f : Seat → Seat) :
    k.Follows u style ops (w.map (k.mapContent f)) := by
  refine ⟨?_, fun x hx => ?_⟩
  · rw [Option.isSome_map]
    exact h.isSome_iff
  · obtain ⟨y, hy, rfl⟩ := Option.map_eq_some_iff.mp hx
    rw [k.content_mapContent, WrapperKind.mapContent]
    exact (congrArg _ (h.eq_fresh y hy)).trans (k.withContent_withContent _ _ _)

section
variable {get : Decorated → Option α} {outermost : Decorated → Prop}
  (hw : k.Worn get outermost)
include hw

theorem Follows.step {d : Decorated} (h : k.Follows u style ops (get d)) {s : Step}
    (hu : s.context.units = u) (hold : s.operation.Continues (finalStyle style ops)) :
    k.Follows u style (ops ++ [s.operation]) (get (d.outcome s).container) := by
  rcases hw.step_cases d s with ⟨old, changed, hop, hget⟩ | ⟨hchild, hget⟩
  · rw [hop] at hold ⊢
    obtain rfl : old = finalStyle style ops := hold
    rw [hget, hu]
    exact h.update changed
  · refine Follows.of_onStyle_eq ?_ (LayoutKind.onStyle_of_ne_update hchild _)
    rcases hget with hget | ⟨-, placed, -, hget⟩
    · rwa [hget]
    · rw [hget]
      exact h.mapContent _

theorem Follows.run {d : Decorated} (h : k.Follows u style ops (get d)) {steps : List Step}
    (hunits : ∀ s ∈ steps, s.context.units = u)
    (hold : Accumulated (finalStyle style ops) (steps.map Step.operation)) :
    k.Follows u style (ops ++ steps.map Step.operation) (get (d.run steps)) := by
  -- The operations done so far grow at their end, so the induction is for any of them.
  induction steps generalizing d ops with
  | nil => rwa [List.map_nil, List.append_nil]
  | cons s steps ih =>
    obtain ⟨hu, hunits⟩ := List.forall_mem_cons.mp hunits
    obtain ⟨hs, hrest⟩ := hold
    rw [← LayoutKind.finalStyle_concat] at hrest
    have hall : ops ++ (s :: steps).map Step.operation =
        (ops ++ [s.operation]) ++ steps.map Step.operation := by simp
    rw [hall]
    exact ih (h.step hw hu hs) hunits hrest

theorem Worn.keeps (d : Decorated) (s : Step) : k.Keeps get (outermost d) d s := by
  intro x hx
  rcases hw.step_cases d s with ⟨old, changed, -, hget⟩ | ⟨-, hget | ⟨houter, placed, hplaced, hget⟩⟩
  · have hcontent : (get (d.outcome s).container).map k.content = some (k.content x) := by
      rw [hget, k.map_content_renew, Option.mem_def.mp hx]
      exact ite_self _
    obtain ⟨x', hx', heq⟩ := Option.map_eq_some_iff.mp hcontent
    exact ⟨x', hx', .inl heq⟩
  · exact ⟨x, hget ▸ hx, .inl rfl⟩
  · refine ⟨k.mapContent (Decorated.alignSeat s.context.units placed) x, ?_, ?_⟩
    · rw [hget, Option.mem_def.mp hx]
      rfl
    · rw [k.content_mapContent]
      by_cases hasks : Decorated.Asks placed
      · exact .inr ⟨houter, placed, hplaced, hasks, rfl⟩
      · exact .inl (Decorated.alignSeat_of_not_asks hasks _ _)

theorem Worn.content_outcome (hinner : ∀ d, ¬outermost d) {d : Decorated}
    (h : ∀ x ∈ get d, k.content x = .filling) (s : Step) :
    ∀ x ∈ get (d.outcome s).container, k.content x = .filling := by
  intro x hx
  rcases hw.step_cases d s with ⟨old, changed, -, hget⟩ | ⟨-, hget | ⟨houter, -⟩⟩
  · exact k.content_of_mem_renew h (hget ▸ hx)
  · exact h x (hget ▸ hx)
  · exact absurd houter (hinner d)

theorem Worn.content_run (hinner : ∀ d, ¬outermost d) {d : Decorated}
    (h : ∀ x ∈ get d, k.content x = .filling) (steps : List Step) :
    ∀ x ∈ get (d.run steps), k.content x = .filling := by
  induction steps generalizing d with
  | nil => exact h
  | cons s steps ih => exact ih (hw.content_outcome hinner h s)

end

end WrapperKind

namespace Decorated

/-- After operations on a container each wrapper is there exactly if a style has needed it, and is
configured by the style of the moment as a new one, or neutral if that style does not need it. No
operation moves the content of a background or a size box, but for what a child asks of the outermost
one, and that of a scale box is never moved. -/
theorem run_wrappers_follow {ctx : Context} {tag : String} {widget : WidgetId} {style : Style}
    {d : Decorated} (hd : create ctx tag widget style = .ok d) {steps : List Step}
    (hunits : ∀ s ∈ steps, s.context.units = ctx.units)
    (hold : Accumulated style (steps.map Step.operation)) :
    let e := d.run steps
    let ops := steps.map Step.operation
    Background.kind.Follows ctx.units style ops e.background ∧
      SizeBox.kind.Follows ctx.units style ops e.sizeBox ∧
      ScaleBox.kind.Follows ctx.units style ops e.scaleBox ∧
      (∀ s, Background.kind.Keeps background (e.sizeBox = none) e s ∧
        SizeBox.kind.Keeps sizeBox True e s) ∧
      ∀ b ∈ e.scaleBox, b.content = .filling := by
  intro e ops
  have hstart : ∀ {α : Type} {k : WrapperKind α} {get : Decorated → Option α}
      {outermost : Decorated → Prop}, k.Worn get outermost →
      k.Follows ctx.units style ops (get e) := by
    intro α k get outermost hw
    have hcreate : k.Follows ctx.units style [] (get d) :=
      hw.create_eq hd ▸ WrapperKind.follows_create ctx.units style
    exact hcreate.run hw hunits hold
  refine ⟨hstart Background.worn, hstart SizeBox.worn, hstart ScaleBox.worn,
    fun s => ⟨Background.worn.keeps e s, SizeBox.worn.keeps e s⟩, ?_⟩
  have hnew : ∀ b ∈ d.scaleBox, b.content = .filling := by
    rw [ScaleBox.worn.create_eq hd]
    intro b hb
    exact ScaleBox.kind.content_of_mem_renew (fun _ h => absurd h (Option.not_mem_none _)) hb
  exact ScaleBox.worn.content_run (fun _ => id) hnew steps

theorem run_wrappers_follow_dropped :
    let bordered := (Style.empty.set .border (.text "1px")).set .width (.number 40)
    let dropped := Style.empty.set .border (.text "none")
    let centred := Style.empty.set .alignSelf (.text "center")
    let steps : List Step := [⟨Overlay.unmeasured, .append ⟨2⟩ centred⟩,
      ⟨Overlay.unmeasured, .update bordered dropped⟩]
    ∃ d, create Overlay.unmeasured "canvas" ⟨1⟩ bordered = .ok d ∧
      (∀ s ∈ steps, s.context.units = Overlay.unmeasured.units) ∧
      Accumulated bordered (steps.map Step.operation) ∧
      ∃ b ∈ (d.run steps).background, b = { Background.initial with content := b.content } := by
  intro bordered dropped centred steps
  have htag : LayoutKind.ofTag? "canvas" bordered = some .canvas := rfl
  have hd : create Overlay.unmeasured "canvas" ⟨1⟩ bordered = .ok _ :=
    create_eq_ok_iff.mpr ⟨_, htag, rfl⟩
  have hunits : ∀ s ∈ steps, s.context.units = Overlay.unmeasured.units := by simp [steps]
  have hold : Accumulated bordered (steps.map Step.operation) := ⟨trivial, rfl, trivial⟩
  obtain ⟨hfollows, -⟩ := run_wrappers_follow hd hunits hold
  have hneeded : Background.kind.WasNeeded bordered (steps.map Step.operation) :=
    ⟨[], List.nil_prefix, rfl⟩
  obtain ⟨b, hb⟩ := Option.isSome_iff_exists.mp (hfollows.isSome_iff.mpr hneeded)
  exact ⟨_, hd, hunits, hold, b, hb, hfollows.eq_fresh b hb⟩

end Decorated

end PanelLayout
