import PanelLayout.Proofs.Container.History
import PanelLayout.Proofs.Container.Structure
import Mathlib.Data.List.Induction

/-!
The slots of flex containers. A child is bound to its slot when it is appended or restyled, by the
layout in force and by whether an older child is there. Nothing that happens to the container or to
other children changes the slot afterwards.
-/
namespace PanelLayout

def Child.styled (child : Child) : WidgetId × Style := (child.widget, child.style)

namespace Container
variable {c c' : Container} {l : List Child} {w : WidgetId}

structure Aged (c : Container) (l : List Child) : Prop where
  perm : l.Perm c.children
  increasing : l.Pairwise fun a b => a.sequence < b.sequence
  lt_next : ∀ child ∈ l, child.sequence < c.nextSequence
  distinct : (l.map Child.widget).Nodup

theorem Aged.has_iff (h : c.Aged l) : c.has w ↔ w ∈ l.map Child.widget := by
  have hwidgets : c.styles.map Prod.fst = c.children.map Child.widget := List.map_map
  rw [Container.has_iff, hwidgets]
  exact (h.perm.map Child.widget).mem_iff.symm

theorem Aged.child?_eq (h : c.Aged l) {node : Child} (hnode : node ∈ l) :
    c.child? node.widget = some node := by
  have hhas : c.has node.widget := h.has_iff.mpr (List.mem_map_of_mem hnode)
  obtain ⟨found, hfound⟩ := Option.isSome_iff_exists.mp hhas
  have hmem : found ∈ l := h.perm.mem_iff.mpr (List.mem_of_find?_eq_some hfound)
  rw [hfound, List.inj_on_of_nodup_map h.distinct hmem hnode (child?_widget hfound)]

theorem Aged.isFirst_eq {older younger : List Child} {node : Child}
    (h : c.Aged (older ++ node :: younger)) : c.isFirst node.widget = older.isEmpty := by
  have hchild : c.child? node.widget = some node := h.child?_eq (by simp)
  obtain ⟨_, hyounger, hbetween⟩ := List.pairwise_append.mp h.increasing
  rw [isFirst, hchild, Bool.eq_iff_iff]
  simp only [List.all_eq_true, decide_eq_true_eq, List.isEmpty_iff, ← h.perm.mem_iff]
  constructor
  · intro hleast
    rcases older with _ | ⟨oldest, older⟩
    · rfl
    · have hlt := hbetween oldest List.mem_cons_self node List.mem_cons_self
      exact absurd (hleast oldest (by simp)) (Nat.not_le_of_lt hlt)
  · rintro rfl other hother
    rcases List.mem_cons.mp hother with rfl | hmem
    · exact Nat.le_refl _
    · exact Nat.le_of_lt (List.rel_of_pairwise_cons hyounger hmem)

theorem Aged.insert {style : Style} {atFront : Bool} {place : Slot → Slot} (h : c.Aged l)
    (hinsert : c.insert w style atFront place = .ok c') :
    c'.Aged (l ++ [⟨w, style, place c.panel.newSlot, c.nextSequence⟩]) := by
  obtain ⟨hhas, rfl⟩ := eq_of_insert hinsert
  refine ⟨?_, ?_, fun child hchild => ?_, ?_⟩
  · -- By age the child is the last one, also where the host shows it first.
    have hperm := h.perm.append_right [⟨w, style, place c.panel.newSlot, c.nextSequence⟩]
    cases atFront
    · exact hperm
    · exact hperm.trans (List.perm_append_singleton _ _)
  · refine List.pairwise_append.mpr ⟨h.increasing, List.pairwise_singleton _ _, ?_⟩
    intro child hchild new hnew
    rw [List.mem_singleton.mp hnew]
    exact h.lt_next child hchild
  · rcases List.mem_append.mp hchild with hold | hnew
    · exact Nat.lt_succ_of_lt (h.lt_next child hold)
    · rw [List.mem_singleton.mp hnew]
      exact Nat.lt_succ_self c.nextSequence
  · rw [List.map_append, List.map_singleton]
    refine List.nodup_append.mpr ⟨h.distinct, List.nodup_singleton _, ?_⟩
    rintro v hv new hnew rfl
    rw [List.mem_singleton.mp hnew] at hv
    exact hhas (h.has_iff.mpr hv)

theorem Aged.modify (h : c.Aged l) (w : WidgetId) {f : Child → Child}
    (hwidget : ∀ child, (f child).widget = child.widget)
    (hsequence : ∀ child, (f child).sequence = child.sequence) :
    (c.modify w f).Aged (l.map (Child.changeIf w f)) := by
  refine ⟨h.perm.map _, ?_, fun child hchild => ?_, ?_⟩
  · simpa only [List.pairwise_map, Child.sequence_changeIf w hsequence] using h.increasing
  · obtain ⟨old, hold, rfl⟩ := List.mem_map.mp hchild
    rw [Child.sequence_changeIf w hsequence]
    exact h.lt_next old hold
  · simpa only [List.map_map, Function.comp_def, Child.widget_changeIf w hwidget] using h.distinct

theorem Aged.remove (h : c.Aged l) (w : WidgetId) :
    (c.remove w).Aged (l.filter fun child => child.widget ≠ w) :=
  ⟨h.perm.filter _, h.increasing.sublist List.filter_sublist,
    fun child hchild => h.lt_next child (List.mem_of_mem_filter hchild),
    h.distinct.sublist (List.filter_sublist.map Child.widget)⟩

theorem child?_eq_find?_others {v : WidgetId} (hne : v ≠ w) :
    c.child? v = (c.others w).find? fun child => child.widget = v := by
  rw [others, List.find?_filter, child?]
  congr 1
  funext child
  by_cases hv : child.widget = v
  · simp [hv, hne]
  · simp [hv]

end Container

namespace LayoutKind.Operation

def Places (present : List WidgetId) (w : WidgetId) : Operation → Prop
  | append child _ => child = w ∧ w ∉ present
  | updateChild child _ => child = w ∧ w ∈ present
  | _ => False

def Disturbs (w : WidgetId) : Operation → Prop
  | updateChild child _ | remove child => child = w
  | _ => False

end LayoutKind.Operation

namespace Flex
open LayoutKind (Step Operation survivors)

variable {u : CssUnits} {style : Style} {steps : List Step} {c : Container} {l : List Child}

def padding (f : Flex) (hasOlder : Bool) (m : Margin) : Margin where
  left := if hasOlder && f.isRow && !f.isReverse then m.left + f.mainGap else m.left
  right := if hasOlder && f.isRow && f.isReverse then m.right + f.mainGap else m.right
  top := if hasOlder && !f.isRow && !f.isReverse then m.top + f.mainGap else m.top
  bottom := if hasOlder && !f.isRow && f.isReverse then m.bottom + f.mainGap else m.bottom

theorem padding_boxSlot (f : Flex) (u : CssUnits) (isFirst : Bool) (style : Style) :
    (f.boxSlot u isFirst style).seat.padding = f.padding (!isFirst) (u.margin style) := by
  cases isFirst <;> cases hrow : f.isRow <;> cases hreverse : f.isReverse <;>
    simp [boxSlot, padding, addGap, hrow, hreverse]

theorem place_place (f f' : Flex) (u : CssUnits) (isFirst isFirst' : Bool) (style style' : Style)
    (s : Slot) : f.place u isFirst style (f'.place u isFirst' style' s) = f.place u isFirst style s := by
  cases s <;> rfl

theorem newSlot_onPanel (f : Flex) (p : Panel) : (f.onPanel p).newSlot = p.newSlot := by
  cases p <;> rfl

theorem newSlot_of_layout {p : Panel} (h : p.kind.layout = .flex) :
    (∃ s, p.newSlot = .box s) ∨ ∃ s, p.newSlot = .wrap s := by
  cases p with
  | horizontalBox _ | verticalBox _ => exact .inl ⟨_, rfl⟩
  | wrapBox _ => exact .inr ⟨_, rfl⟩
  | _ => cases h

def latestStyle : Style → List Operation → Style :=
  List.foldl fun style op =>
    match op with
    | .update old changed => old.merge changed
    | _ => style

def inForce (u : CssUnits) (style : Style) (steps : List Step) : Flex :=
  ofStyle u (latestStyle style (steps.map Step.operation))

theorem inForce_concat (u : CssUnits) (style : Style) (steps : List Step) (s : Step) :
    inForce u style (steps ++ [s]) =
      match s.operation with
      | .update old changed => ofStyle u (old.merge changed)
      | _ => inForce u style steps := by
  unfold inForce latestStyle
  rw [List.map_append, List.foldl_append]
  cases hop : s.operation <;> simp [hop]

/-- The step of a run that has placed a child last. After it the children are those that are older,
the child itself with its style, and those that are younger. -/
structure Placement (steps : List Step) (w : WidgetId) (own : Style) where
  before : List Step
  step : Step
  after : List Step
  older : List (WidgetId × Style)
  younger : List (WidgetId × Style)
  steps_eq : steps = before ++ step :: after
  places : step.operation.Places ((survivors [] (before.map Step.operation)).map Prod.fst) w
  undisturbed : ∀ s ∈ after, ¬s.operation.Disturbs w
  present_eq : survivors [] ((before ++ [step]).map Step.operation) = older ++ (w, own) :: younger

def Placement.keep {w : WidgetId} {own : Style} (p : Placement steps w own) {s : Step}
    (hs : ¬s.operation.Disturbs w) : Placement (steps ++ [s]) w own where
  before := p.before
  step := p.step
  after := p.after ++ [s]
  older := p.older
  younger := p.younger
  steps_eq := (congrArg (· ++ [s]) p.steps_eq).trans (List.append_assoc ..)
  places := p.places
  undisturbed := List.forall_mem_append.mpr ⟨p.undisturbed, List.forall_mem_singleton.mpr hs⟩
  present_eq := p.present_eq

structure Bound (u : CssUnits) (style : Style) (steps : List Step) (c : Container)
    (l : List Child) : Prop where
  layout_eq : c.layout = .flex (inForce u style steps)
  aged : c.Aged l
  styles_eq : l.map Child.styled = survivors [] (steps.map Step.operation)
  slot_eq : ∀ node ∈ l, ∃ p : Placement steps node.widget node.style,
    node.slot = (inForce u style p.before).place u p.older.isEmpty node.style c.panel.newSlot

theorem Bound.widgets_eq (h : Bound u style steps c l) :
    (survivors [] (steps.map Step.operation)).map Prod.fst = l.map Child.widget := by
  rw [← h.styles_eq, List.map_map]
  rfl

theorem Bound.concat (h : Bound u style steps c l) {s : Step} {c' : Container} {l' : List Child}
    (hlayout : c'.layout = .flex (inForce u style (steps ++ [s]))) (haged : c'.Aged l')
    (hpanel : c'.panel.newSlot = c.panel.newSlot)
    (hstyles : l'.map Child.styled = s.operation.onStyles (l.map Child.styled))
    (hslot : ∀ node ∈ l', (node ∈ l ∧ ¬s.operation.Disturbs node.widget) ∨
      (s.operation.Places (l.map Child.widget) node.widget ∧
        ∃ older younger, l' = older ++ node :: younger ∧
          node.slot = (inForce u style steps).place u older.isEmpty node.style c.panel.newSlot)) :
    Bound u style (steps ++ [s]) c' l' := by
  have hpresent : l'.map Child.styled = survivors [] ((steps ++ [s]).map Step.operation) := by
    rw [hstyles, h.styles_eq, List.map_append]
    exact (LayoutKind.survivors_concat _ _).symm
  refine ⟨hlayout, haged, hpresent, fun node hnode => ?_⟩
  rw [hpanel]
  rcases hslot node hnode with ⟨hold, hs⟩ | ⟨hplaces, older, younger, rfl, hplaced⟩
  · obtain ⟨p, hp⟩ := h.slot_eq node hold
    exact ⟨p.keep hs, hp⟩
  · refine ⟨⟨steps, s, [], older.map Child.styled, younger.map Child.styled, rfl, ?_, nofun, ?_⟩, ?_⟩
    · rw [h.widgets_eq]
      exact hplaces
    · rw [← hpresent, List.map_append]
      rfl
    · rw [List.isEmpty_map]
      exact hplaced

theorem Bound.of_children_eq (h : Bound u style steps c l) {s : Step} {c' : Container}
    (hlayout : c'.layout = .flex (inForce u style (steps ++ [s])))
    (hchildren : c'.children = c.children) (hnext : c'.nextSequence = c.nextSequence)
    (hpanel : c'.panel.newSlot = c.panel.newSlot)
    (hstyles : s.operation.onStyles (l.map Child.styled) = l.map Child.styled)
    (hs : ∀ w, ¬s.operation.Disturbs w) : Bound u style (steps ++ [s]) c' l := by
  have haged : c'.Aged l := ⟨hchildren ▸ h.aged.perm, h.aged.increasing, hnext ▸ h.aged.lt_next,
    h.aged.distinct⟩
  exact h.concat hlayout haged hpanel hstyles.symm fun node hnode => .inl ⟨hnode, hs _⟩

theorem Bound.append (h : Bound u style steps c l) {ctx : Context} (hu : ctx.units = u)
    (w : WidgetId) (child : Style) :
    ∃ l', Bound u style (steps ++ [⟨ctx, .append w child⟩])
      (LayoutKind.flex.outcome c ⟨ctx, .append w child⟩).container l' := by
  have hforce := inForce_concat u style steps ⟨ctx, .append w child⟩
  by_cases hhas : c.has w
  · have hrefused : (LayoutKind.flex.outcome c ⟨ctx, .append w child⟩).container = c :=
      LayoutKind.container_outcome_of_misuse (.inr ⟨w, child, rfl, hhas⟩)
    have hpresent : w ∈ (l.map Child.styled).map Prod.fst := by
      rw [List.map_map]
      exact h.aged.has_iff.mp hhas
    rw [hrefused]
    refine ⟨l, h.of_children_eq ?_ rfl rfl rfl (if_pos hpresent) fun _ => id⟩
    rw [hforce]
    exact h.layout_eq
  · have habsent : w ∉ (l.map Child.styled).map Prod.fst := by
      rw [List.map_map]
      exact fun hmem => hhas (h.aged.has_iff.mpr hmem)
    have hempty : c.children.isEmpty = l.isEmpty := h.aged.perm.isEmpty_eq.symm
    obtain ⟨c', hinsert, _⟩ := Container.exists_insert hhas child
      (!(inForce u style steps).isRow && (inForce u style steps).isReverse)
      ((inForce u style steps).place u c.children.isEmpty child)
    have happended : (LayoutKind.flex.outcome c ⟨ctx, .append w child⟩).container = c' := by
      subst hu
      rw [LayoutKind.outcome, LayoutKind.apply, LayoutKind.append, append_eq h.layout_eq, hinsert]
      rfl
    have haged := h.aged.insert hinsert
    obtain ⟨_, hc'⟩ := Container.eq_of_insert hinsert
    rw [happended]
    refine ⟨_, h.concat ?_ haged ?_ ?_ fun node hnode => ?_⟩
    · rw [hforce, hc']
      exact h.layout_eq
    · rw [hc']
    · rw [List.map_append]
      exact (if_neg habsent).symm
    · rcases List.mem_append.mp hnode with hold | hnew
      · exact .inl ⟨hold, id⟩
      · obtain rfl := List.mem_singleton.mp hnew
        refine .inr ⟨⟨rfl, fun hmem => hhas (h.aged.has_iff.mpr hmem)⟩, l, [], rfl, ?_⟩
        rw [hempty]

theorem Bound.updateChild (h : Bound u style steps c l) {ctx : Context} (hu : ctx.units = u)
    (w : WidgetId) (changed : Style) :
    ∃ l', Bound u style (steps ++ [⟨ctx, .updateChild w changed⟩])
      (LayoutKind.flex.outcome c ⟨ctx, .updateChild w changed⟩).container l' := by
  have hrestyled : (LayoutKind.flex.outcome c ⟨ctx, .updateChild w changed⟩).container =
      c.restyle w changed ((inForce u style steps).place u (c.isFirst w)) := by
    subst hu
    rw [LayoutKind.outcome, LayoutKind.apply, LayoutKind.updateChild, updateChild_eq h.layout_eq]
    rfl
  have hforce := inForce_concat u style steps ⟨ctx, .updateChild w changed⟩
  rw [hrestyled]
  refine ⟨_, h.concat ?_ (h.aged.modify w (fun _ => rfl) fun _ => rfl) rfl ?_ fun node hnode => ?_⟩
  · rw [hforce]
    exact h.layout_eq
  · rw [LayoutKind.onStyles_updateChild, List.map_map, List.map_map]
    refine List.map_congr_left fun node _ => ?_
    by_cases hw : node.widget = w <;> simp [Child.changeIf, Child.styled, hw]
  · obtain ⟨old, hold, rfl⟩ := List.mem_map.mp hnode
    by_cases hw : old.widget = w
    · subst hw
      have hpresent : old.widget ∈ l.map Child.widget := List.mem_map_of_mem hold
      obtain ⟨older, younger, rfl⟩ := List.append_of_mem hold
      obtain ⟨p, hp⟩ := h.slot_eq old hold
      rw [Child.changeIf_self]
      refine .inr ⟨⟨rfl, hpresent⟩, _, _, Child.map_changeIf_self .., ?_⟩
      show (inForce u style steps).place u (c.isFirst old.widget) _ old.slot = _
      rw [h.aged.isFirst_eq, hp, place_place, List.isEmpty_map]
    · rw [Child.changeIf, if_neg hw]
      exact .inl ⟨hold, fun heq => hw heq.symm⟩

theorem Bound.remove (h : Bound u style steps c l) (ctx : Context) (w : WidgetId) :
    ∃ l', Bound u style (steps ++ [⟨ctx, .remove w⟩])
      (LayoutKind.flex.outcome c ⟨ctx, .remove w⟩).container l' := by
  have hkind : c.kind = .flex := congrArg Layout.kind h.layout_eq
  have hremoved : (LayoutKind.flex.outcome c ⟨ctx, .remove w⟩).container = c.remove w := by
    rw [LayoutKind.outcome, LayoutKind.apply, LayoutKind.remove_eq hkind (by decide)]
    rfl
  have hforce := inForce_concat u style steps ⟨ctx, .remove w⟩
  rw [hremoved]
  refine ⟨_, h.concat ?_ (h.aged.remove w) rfl ?_ fun node hnode => ?_⟩
  · rw [hforce]
    exact h.layout_eq
  · rw [LayoutKind.onStyles_remove, List.filter_map]
    rfl
  · obtain ⟨hold, hne⟩ := List.mem_filter.mp hnode
    exact .inl ⟨hold, fun heq => of_decide_eq_true hne heq.symm⟩

theorem Bound.step (h : Bound u style steps c l) {s : Step} (hu : s.context.units = u) :
    ∃ l', Bound u style (steps ++ [s]) (LayoutKind.flex.outcome c s).container l' := by
  obtain ⟨ctx, op⟩ := s
  cases op with
  | append w child => exact h.append hu w child
  | updateChild w changed => exact h.updateChild hu w changed
  | remove w => exact h.remove ctx w
  | update old changed =>
    have hforce := inForce_concat u style steps ⟨ctx, .update old changed⟩
    have hupdated := update_eq h.layout_eq ctx old changed
    rw [LayoutKind.outcome, LayoutKind.apply, LayoutKind.update, hupdated]
    refine ⟨l, h.of_children_eq ?_ rfl rfl (newSlot_onPanel _ _) List.filterMap_some fun _ => id⟩
    rw [hforce, ← hu]
    rfl
  | resume ticket =>
    have hforce := inForce_concat u style steps ⟨ctx, .resume ticket⟩
    have hkind : c.kind = .flex := congrArg Layout.kind h.layout_eq
    rw [LayoutKind.outcome, LayoutKind.apply, LayoutKind.resume_eq hkind (by decide)]
    refine ⟨l, h.of_children_eq ?_ rfl rfl rfl List.filterMap_some fun _ => id⟩
    rw [hforce]
    exact h.layout_eq

theorem bound_run (ctx : Context) (widget : WidgetId) (style : Style) (steps : List Step)
    (hunits : ∀ s ∈ steps, s.context.units = ctx.units) :
    ∃ l, Bound ctx.units style steps
      (LayoutKind.flex.run (LayoutKind.flex.create ctx widget style) steps) l := by
  -- From the back, since a placement is told from the steps that come before it.
  induction steps using List.reverseRecOn with
  | nil =>
    exact ⟨[], rfl, ⟨.refl _, .nil, fun _ hchild => absurd hchild List.not_mem_nil, List.nodup_nil⟩,
      rfl, fun _ hnode => absurd hnode List.not_mem_nil⟩
  | append_singleton steps s ih =>
    obtain ⟨hsteps, hs⟩ := List.forall_mem_append.mp hunits
    obtain ⟨l, hl⟩ := ih hsteps
    rw [LayoutKind.run_concat]
    exact hl.step (hs s List.mem_cons_self)

theorem child?_outcome {s : Step} {w : WidgetId} (hs : ¬s.operation.Disturbs w) (hhas : c.has w) :
    (LayoutKind.flex.outcome c s).container.child? w = c.child? w := by
  have hother : ∀ v, s.operation.target? = some v → v ≠ w →
      (LayoutKind.flex.outcome c s).container.child? w = c.child? w := by
    intro v hv hne
    rw [Container.child?_eq_find?_others hne.symm, LayoutKind.others_outcome .flex c hv]
    exact (Container.child?_eq_find?_others hne.symm).symm
  by_cases hkind : c.kind = .flex
  · obtain ⟨ctx, op⟩ := s
    cases op with
    | append v child =>
      by_cases hv : v = w
      · subst hv
        rw [LayoutKind.container_outcome_of_misuse (.inr ⟨v, child, rfl, hhas⟩)]
      · exact hother v rfl hv
    | updateChild v changed => exact hother v rfl hs
    | remove v => exact hother v rfl hs
    | update old changed =>
      obtain ⟨f, hc⟩ := Container.exists_flex hkind
      rw [LayoutKind.outcome, LayoutKind.apply, LayoutKind.update, update_eq hc]
      rfl
    | resume ticket =>
      rw [LayoutKind.outcome, LayoutKind.apply, LayoutKind.resume_eq hkind (by decide)]
      rfl
  · rw [LayoutKind.container_outcome_of_kind_ne hkind]

theorem padding_place (f : Flex) (u : CssUnits) (isFirst : Bool) (style : Style) {p : Panel}
    (hp : p.kind.layout = .flex) :
    (∃ s, f.place u isFirst style p.newSlot = .box s ∧
        s.seat.padding = f.padding (!isFirst) (u.margin style)) ∨
      ∃ s, f.place u isFirst style p.newSlot = .wrap s ∧ s.seat.padding = u.margin style := by
  rcases newSlot_of_layout hp with ⟨s, hs⟩ | ⟨s, hs⟩
  · exact .inl ⟨f.boxSlot u isFirst style, by rw [hs]; rfl, f.padding_boxSlot u isFirst style⟩
  · exact .inr ⟨f.wrapSlot u style, by rw [hs]; rfl, rfl⟩

theorem panel_run (ctx : Context) (widget : WidgetId) (style : Style) (steps : List Step) :
    (LayoutKind.flex.run (LayoutKind.flex.create ctx widget style) steps).panel.kind.layout =
      .flex := by
  have hcreate := LayoutKind.kind_panel_create .flex ctx widget style
  have hrun := (LayoutKind.structured_create .flex ctx widget style).run hcreate steps
  rw [hrun.panel_eq]
  exact hcreate

/-- After any operations on a flex container the children are those that the operations leave. Each
has the slot that follows from its style, from the layout that was in force when it was last appended
or restyled, and from whether an older child was there then. A step that does not restyle or remove
a child leaves it as it is. -/
theorem run_binds (ctx : Context) (widget : WidgetId) (style : Style) (steps : List Step)
    (hunits : ∀ s ∈ steps, s.context.units = ctx.units) :
    let run := LayoutKind.flex.run (LayoutKind.flex.create ctx widget style)
    (run steps).styles.Perm (survivors [] (steps.map Step.operation)) ∧
      (∀ node ∈ (run steps).children, ∃ (p : Placement steps node.widget node.style) (f : Flex),
        f = inForce ctx.units style p.before ∧ (run p.before).layout = .flex f ∧
        node.slot = f.place ctx.units p.older.isEmpty node.style (run steps).panel.newSlot ∧
        ((∃ s, node.slot = .box s ∧
            s.seat.padding = f.padding (!p.older.isEmpty) (ctx.units.margin node.style)) ∨
          ∃ s, node.slot = .wrap s ∧ s.seat.padding = ctx.units.margin node.style)) ∧
      ∀ (s : Step) (w : WidgetId), (run steps).has w → ¬s.operation.Disturbs w →
        (LayoutKind.flex.outcome (run steps) s).container.child? w = (run steps).child? w := by
  intro run
  obtain ⟨l, hl⟩ := bound_run ctx widget style steps hunits
  refine ⟨?_, fun node hnode => ?_, fun s w hhas hs => child?_outcome hs hhas⟩
  · rw [← hl.styles_eq]
    exact hl.aged.perm.symm.map _
  · obtain ⟨p, hp⟩ := hl.slot_eq node (hl.aged.perm.mem_iff.mpr hnode)
    have hbefore : ∀ s ∈ p.before, s.context.units = ctx.units := by
      intro s hs
      refine hunits s ?_
      rw [p.steps_eq]
      exact List.mem_append_left _ hs
    obtain ⟨_, hthen⟩ := bound_run ctx widget style p.before hbefore
    refine ⟨p, inForce ctx.units style p.before, rfl, hthen.layout_eq, hp, ?_⟩
    rw [hp]
    exact padding_place _ ctx.units _ node.style (panel_run ctx widget style steps)

open Overlay (unmeasured pinned) in
/-- The child that was appended anew is the younger one when it is restyled, although a column that
is reversed by then would show it first. -/
theorem run_binds_reappended :
    let reversed := Style.empty.set .flexDirection (.text "column-reverse")
    let steps : List Step := [⟨unmeasured, .append ⟨2⟩ .empty⟩, ⟨unmeasured, .append ⟨3⟩ pinned⟩,
      ⟨unmeasured, .remove ⟨2⟩⟩, ⟨unmeasured, .update .empty reversed⟩,
      ⟨unmeasured, .append ⟨2⟩ .empty⟩, ⟨unmeasured, .updateChild ⟨2⟩ pinned⟩]
    let run := LayoutKind.flex.run (LayoutKind.flex.create unmeasured ⟨1⟩ .empty)
    (∀ s ∈ steps, s.context.units = unmeasured.units) ∧
      (run steps).styles.Perm [(⟨3⟩, pinned), (⟨2⟩, Style.empty.merge pinned)] ∧
      (∀ node ∈ (run steps).children, ∃ (p : Placement steps node.widget node.style) (f : Flex),
        f = inForce unmeasured.units .empty p.before ∧ (run p.before).layout = .flex f ∧
        node.slot = f.place unmeasured.units p.older.isEmpty node.style (run steps).panel.newSlot ∧
        ((∃ s, node.slot = .box s ∧
            s.seat.padding = f.padding (!p.older.isEmpty) (unmeasured.units.margin node.style)) ∨
          ∃ s, node.slot = .wrap s ∧ s.seat.padding = unmeasured.units.margin node.style)) ∧
      ∀ (s : Step) (w : WidgetId), (run steps).has w → ¬s.operation.Disturbs w →
        (LayoutKind.flex.outcome (run steps) s).container.child? w = (run steps).child? w := by
  intro reversed steps run
  have hunits : ∀ s ∈ steps, s.context.units = unmeasured.units := by simp [steps]
  exact ⟨hunits, run_binds unmeasured ⟨1⟩ .empty steps hunits⟩

end Flex

end PanelLayout
