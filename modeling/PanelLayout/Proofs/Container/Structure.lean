import PanelLayout.Proofs.Container.Refusal

/-!
The structure of containers. Whatever operations a run holds and whichever kind of layout each of
them is addressed to, a container keeps its kind of panel, no child occurs twice, the numbers in the
order of appending differ, and every slot is of the kind that the panel hands out. An operation on
one child leaves all others and their order.
-/
namespace PanelLayout

inductive SlotKind where
  | box
  | wrap
  | grid
  | canvas
  | overlay
  | uniformGrid
  deriving DecidableEq

inductive PanelKind where
  | horizontalBox
  | verticalBox
  | wrapBox
  | grid
  | canvas
  | overlay
  | uniformGrid
  deriving DecidableEq

def PanelKind.layout : PanelKind → LayoutKind
  | horizontalBox | verticalBox | wrapBox => .flex
  | grid => .grid
  | canvas => .canvas
  | overlay => .overlay
  | uniformGrid => .uniformGrid

theorem PanelKind.eq_grid {p : PanelKind} (h : p.layout = .grid) : p = .grid := by
  cases p with
  | grid => rfl
  | _ => cases h

theorem PanelKind.eq_uniformGrid {p : PanelKind} (h : p.layout = .uniformGrid) :
    p = .uniformGrid := by
  cases p with
  | uniformGrid => rfl
  | _ => cases h

def PanelKind.slot : PanelKind → SlotKind
  | horizontalBox | verticalBox => .box
  | wrapBox => .wrap
  | grid => .grid
  | canvas => .canvas
  | overlay => .overlay
  | uniformGrid => .uniformGrid

def Slot.kind : Slot → SlotKind
  | box _ => .box
  | wrap _ => .wrap
  | grid _ => .grid
  | canvas _ => .canvas
  | overlay _ => .overlay
  | uniformGrid _ => .uniformGrid

def Panel.kind : Panel → PanelKind
  | horizontalBox _ => .horizontalBox
  | verticalBox _ => .verticalBox
  | wrapBox _ => .wrapBox
  | grid _ => .grid
  | canvas => .canvas
  | overlay => .overlay
  | uniformGrid _ => .uniformGrid

theorem Panel.kind_newSlot (p : Panel) : p.newSlot.kind = p.kind.slot := by
  cases p <;> rfl

/-! No placement changes the kind of a slot. -/

theorem Flex.kind_place (u : CssUnits) (f : Flex) (isFirst : Bool) (style : Style) (s : Slot) :
    (f.place u isFirst style s).kind = s.kind := by
  cases s <;> rfl

theorem Flex.kind_onPanel (f : Flex) (p : Panel) : (f.onPanel p).kind = p.kind := by
  cases p <;> rfl

theorem Flex.kind_panel (f : Flex) : f.panel.kind.layout = .flex := by
  unfold panel
  split_ifs <;> rfl

theorem Grid.kind_putSlot (slot : GridSlot) (s : Slot) : (putSlot slot s).kind = s.kind := by
  cases s <;> rfl

theorem Grid.kind_move (u : CssUnits) (g : Grid) (style : Style) (s : Slot) :
    (g.move u style s).kind = s.kind := by
  cases s <;> rfl

theorem Grid.kind_reseat (u : CssUnits) (g : Grid) (style : Style) (s : Slot) :
    (g.reseat u style s).kind = s.kind := by
  cases s <;> rfl

theorem Canvas.kind_place (u : CssUnits) (c : Canvas) (style : Style) (s : Slot) :
    (c.place u style s).kind = s.kind := by
  cases s <;> rfl

theorem UniformGrid.kind_place (u : CssUnits) (style : Style) (s : Slot) :
    (place u style s).kind = s.kind := by
  cases s <;> rfl

theorem Overlay.kind_placeInitial (u : CssUnits) (style : Style) (s : Slot) :
    (placeInitial u style s).kind = s.kind := by
  cases s <;> rfl

theorem Overlay.kind_placeAbsolute (u : CssUnits) (parent own : Size) (style : Style) (s : Slot) :
    (placeAbsolute u parent own style s).kind = s.kind := by
  cases s <;> rfl

structure Tag where
  widget : WidgetId
  sequence : Nat
  slot : SlotKind

def Child.tag (child : Child) : Tag := ⟨child.widget, child.sequence, child.slot.kind⟩

structure Frame where
  panel : PanelKind
  tags : List Tag
  next : Nat

def Container.frame (c : Container) : Frame :=
  ⟨c.panel.kind, c.children.map Child.tag, c.nextSequence⟩

namespace Frame

structure Sound (f : Frame) : Prop where
  distinct : (f.tags.map Tag.widget).Nodup
  sequences : (f.tags.map Tag.sequence).Nodup
  sequence_lt : ∀ t ∈ f.tags, t.sequence < f.next
  slot_eq : ∀ t ∈ f.tags, t.slot = f.panel.slot

inductive Changes (f : Frame) : Frame → Prop
  | keeps : Changes f f
  | adds (w : WidgetId) (tags : List Tag) (hnew : w ∉ f.tags.map Tag.widget)
    (htags : tags.Perm (⟨w, f.next, f.panel.slot⟩ :: f.tags)) :
    Changes f ⟨f.panel, tags, f.next + 1⟩
  | removes (w : WidgetId) : Changes f ⟨f.panel, f.tags.filter fun t => t.widget ≠ w, f.next⟩

theorem Changes.panel_eq {f f' : Frame} (h : f.Changes f') : f'.panel = f.panel := by
  cases h <;> rfl

theorem Sound.changes {f f' : Frame} (h : f.Sound) (hc : f.Changes f') : f'.Sound := by
  cases hc with
  | keeps => exact h
  | adds w tags hnew htags =>
    -- Where the new child is put does not matter, and nobody has the next number yet.
    have hmem : ∀ t ∈ tags, t = ⟨w, f.next, f.panel.slot⟩ ∨ t ∈ f.tags :=
      fun t ht => List.mem_cons.mp (htags.mem_iff.mp ht)
    refine ⟨?_, ?_, fun t ht => ?_, fun t ht => ?_⟩
    · exact (htags.map Tag.widget).nodup_iff.mpr (List.nodup_cons.mpr ⟨hnew, h.distinct⟩)
    · refine (htags.map Tag.sequence).nodup_iff.mpr (List.nodup_cons.mpr ⟨fun hseq => ?_, h.sequences⟩)
      obtain ⟨t, ht, hnext⟩ := List.mem_map.mp hseq
      exact Nat.ne_of_lt (h.sequence_lt t ht) hnext
    · rcases hmem t ht with rfl | ht
      · exact Nat.lt_succ_self f.next
      · exact Nat.lt_succ_of_lt (h.sequence_lt t ht)
    · rcases hmem t ht with rfl | ht
      · rfl
      · exact h.slot_eq t ht
  | removes w =>
    exact ⟨h.distinct.sublist (List.filter_sublist.map _),
      h.sequences.sublist (List.filter_sublist.map _),
      fun t ht => h.sequence_lt t (List.mem_of_mem_filter ht),
      fun t ht => h.slot_eq t (List.mem_of_mem_filter ht)⟩

end Frame

namespace Container

def others (c : Container) (w : WidgetId) : List Child :=
  c.children.filter fun child => child.widget ≠ w

theorem frame_modify (c : Container) (w : WidgetId) {f : Child → Child}
    (hf : ∀ child, (f child).tag = child.tag) : (c.modify w f).frame = c.frame := by
  have htags : (c.modify w f).children.map Child.tag = c.children.map Child.tag := by
    simp only [modify, List.map_map]
    refine List.map_congr_left fun child _ => ?_
    by_cases h : child.widget = w <;> simp [h, hf]
  exact congrArg (fun tags => (⟨c.panel.kind, tags, c.nextSequence⟩ : Frame)) htags

theorem others_modify (c : Container) (w : WidgetId) {f : Child → Child}
    (hf : ∀ child, (f child).widget = child.widget) : (c.modify w f).others w = c.others w := by
  show (c.children.map (Child.changeIf w f)).filter _ = _
  rw [List.filter_map, Child.comp_changeIf w hf fun v => decide (v ≠ w)]
  refine (List.map_congr_left fun child hchild => ?_).trans (List.map_id' _)
  have hne : child.widget ≠ w := of_decide_eq_true (List.mem_filter.mp hchild).2
  exact if_neg hne

theorem frame_restyle (c : Container) (w : WidgetId) (changed : Style)
    {place : Style → Slot → Slot} (hplace : ∀ style s, (place style s).kind = s.kind) :
    (c.restyle w changed place).frame = c.frame :=
  c.frame_modify w fun child => congrArg (Tag.mk child.widget child.sequence) (hplace _ _)

theorem others_restyle (c : Container) (w : WidgetId) (changed : Style)
    (place : Style → Slot → Slot) : (c.restyle w changed place).others w = c.others w :=
  c.others_modify w fun _ => rfl

theorem frame_refit (c : Container) {panel : Panel} (hpanel : panel.kind = c.panel.kind)
    (layout : Layout) {place : Style → Slot → Slot}
    (hplace : ∀ style s, (place style s).kind = s.kind) :
    (c.refit panel layout place).frame = c.frame := by
  have htags : (c.refit panel layout place).children.map Child.tag = c.children.map Child.tag := by
    simp only [refit, replace, List.map_map]
    refine List.map_congr_left fun child _ => ?_
    exact congrArg (Tag.mk child.widget child.sequence) (hplace _ _)
  rw [frame, htags]
  exact congrArg (fun kind => (⟨kind, c.children.map Child.tag, c.nextSequence⟩ : Frame)) hpanel

theorem changes_remove (c : Container) (w : WidgetId) : c.frame.Changes (c.remove w).frame := by
  have hframe : (c.remove w).frame =
      ⟨c.frame.panel, c.frame.tags.filter fun t => t.widget ≠ w, c.frame.next⟩ := by
    simp only [frame, remove, List.filter_map]
    rfl
  rw [hframe]
  exact .removes w

theorem others_remove (c : Container) (w : WidgetId) : (c.remove w).others w = c.others w := by
  simp only [others, remove, List.filter_filter, Bool.and_self]

theorem map_widget_tags (c : Container) :
    c.frame.tags.map Tag.widget = c.styles.map Prod.fst := by
  simp only [frame, styles, List.map_map]
  rfl

theorem eq_of_insert {c c' : Container} {w : WidgetId} {style : Style} {atFront : Bool}
    {place : Slot → Slot} (h : c.insert w style atFront place = .ok c') :
    ¬c.has w ∧ c' = { c with
      children := if atFront then ⟨w, style, place c.panel.newSlot, c.nextSequence⟩ :: c.children
        else c.children ++ [⟨w, style, place c.panel.newSlot, c.nextSequence⟩]
      nextSequence := c.nextSequence + 1 } := by
  unfold insert at h
  by_cases hhas : c.has w
  · rw [if_pos hhas] at h
    cases h
  · rw [if_neg hhas] at h
    exact ⟨hhas, (Except.ok.inj h).symm⟩

theorem insert_of_not_has (c : Container) {w : WidgetId} (h : ¬c.has w) (style : Style)
    (place : Slot → Slot) :
    c.insert w style false place = .ok (c.push w style (place c.panel.newSlot)) := if_neg h

theorem changes_insert {c c' : Container} {w : WidgetId} {style : Style} {atFront : Bool}
    {place : Slot → Slot} (hplace : ∀ s, (place s).kind = s.kind)
    (h : c.insert w style atFront place = .ok c') : c.frame.Changes c'.frame := by
  obtain ⟨hhas, rfl⟩ := eq_of_insert h
  have hkind : (place c.panel.newSlot).kind = c.panel.kind.slot :=
    (hplace _).trans c.panel.kind_newSlot
  have htag : (⟨w, style, place c.panel.newSlot, c.nextSequence⟩ : Child).tag =
      ⟨w, c.frame.next, c.frame.panel.slot⟩ := congrArg (Tag.mk w c.nextSequence) hkind
  refine .adds w _ ?_ ?_
  · rw [map_widget_tags, ← has_iff]
    exact hhas
  · rw [← htag]
    cases atFront
    · exact (List.perm_append_singleton _ _).map Child.tag
    · exact .refl _

theorem others_insert {c c' : Container} {w : WidgetId} {style : Style} {atFront : Bool}
    {place : Slot → Slot} (h : c.insert w style atFront place = .ok c') :
    c'.others w = c.others w := by
  obtain ⟨_, rfl⟩ := eq_of_insert h
  cases atFront <;> simp [others]

end Container

namespace Overlay
variable (ctx : Context)

theorem attempt_container (b : Board) (child : WidgetId) :
    (attempt ctx b child).1.container = b.container ∨
      (attempt ctx b child).1.container = seatAbsolute ctx b.container child := by
  unfold attempt
  cases b.overlay.find? child with
  | none => exact .inl rfl
  | some t =>
    dsimp only
    split_ifs
    · exact .inr rfl
    · exact .inl rfl

theorem track_container (b : Board) (child : WidgetId) :
    (track ctx b child).1.container = b.container ∨
      (track ctx b child).1.container = seatAbsolute ctx b.container child := by
  unfold track
  cases b.container.child? child with
  | none => exact .inl rfl
  | some node =>
    dsimp only
    split_ifs
    · exact attempt_container ctx (b.restart child) child
    · exact .inl rfl

theorem frame_seatAbsolute (c : Container) (child : WidgetId) :
    (seatAbsolute ctx c child).frame = c.frame :=
  c.frame_modify child fun node =>
    congrArg (Tag.mk node.widget node.sequence) (kind_placeAbsolute ..)

theorem frame_attempt (b : Board) (child : WidgetId) :
    (attempt ctx b child).1.container.frame = b.container.frame := by
  rcases attempt_container ctx b child with h | h
  · rw [h]
  · rw [h, frame_seatAbsolute]

theorem frame_attemptAll (b : Board) (children : List WidgetId) :
    (attemptAll ctx b children).1.container.frame = b.container.frame := by
  induction children generalizing b with
  | nil => rfl
  | cons child children ih => exact (ih (attempt ctx b child).1).trans (frame_attempt ctx b child)

theorem frame_track (b : Board) (child : WidgetId) :
    (track ctx b child).1.container.frame = b.container.frame := by
  rcases track_container ctx b child with h | h
  · rw [h]
  · rw [h, frame_seatAbsolute]

theorem others_track (b : Board) (child : WidgetId) :
    (track ctx b child).1.container.others child = b.container.others child := by
  rcases track_container ctx b child with h | h
  · rw [h]
  · rw [h]
    exact b.container.others_modify child fun _ => rfl

end Overlay

namespace LayoutKind
open Overlay (outcomeOf)
variable {k : LayoutKind} {c : Container}

theorem outcomeOf_insert_changes_others (c : Container) (w : WidgetId) (style : Style)
    (atFront : Bool) {place : Slot → Slot} (hplace : ∀ s, (place s).kind = s.kind) :
    c.frame.Changes (outcomeOf c
        ((c.insert w style atFront place).map Container.unscheduled)).container.frame ∧
      (outcomeOf c ((c.insert w style atFront place).map Container.unscheduled)).container.others w =
        c.others w := by
  cases h : c.insert w style atFront place with
  | error e => exact ⟨.keeps, rfl⟩
  | ok c' => exact ⟨Container.changes_insert hplace h, Container.others_insert h⟩

section OwnKind
variable (hk : c.kind = k)
include hk

theorem frame_update (hpanel : c.panel.kind.layout = k) (ctx : Context) (old changed : Style) :
    (outcomeOf c (k.update ctx c old changed)).container.frame = c.frame := by
  cases k with
  | flex =>
    obtain ⟨f, hc⟩ := Container.exists_flex hk
    rw [update, Flex.update_eq hc]
    exact congrArg (fun kind => (⟨kind, c.children.map Child.tag, c.nextSequence⟩ : Frame))
      (Flex.kind_onPanel _ c.panel)
  | grid =>
    obtain ⟨g, hc⟩ := Container.exists_grid hk
    have hgrid : (Panel.grid (g.renew ctx (old.merge changed)).panel).kind = c.panel.kind :=
      (PanelKind.eq_grid hpanel).symm
    rw [update, Grid.update_eq hc]
    exact c.frame_refit hgrid _ (Grid.kind_reseat ctx.units _)
  | canvas =>
    obtain ⟨canvas, hc⟩ := Container.exists_canvas hk
    rw [update, Canvas.update_eq hc]
    exact c.frame_refit rfl _ (Canvas.kind_place ctx.units _)
  | overlay =>
    obtain ⟨o, hc⟩ := Container.exists_overlay hk
    rw [update, Overlay.update_eq hc]
    exact Overlay.frame_attemptAll ctx ⟨c, o.restartAll⟩ _
  | uniformGrid =>
    rw [update, UniformGrid.update_eq (Container.layout_uniformGrid hk)]
    exact congrArg (fun kind => (⟨kind, c.children.map Child.tag, c.nextSequence⟩ : Frame))
      (PanelKind.eq_uniformGrid hpanel).symm

theorem append_changes_others (ctx : Context) (child : WidgetId) (style : Style) :
    c.frame.Changes (outcomeOf c (k.append ctx c child style)).container.frame ∧
      (outcomeOf c (k.append ctx c child style)).container.others child = c.others child := by
  cases k with
  | flex =>
    obtain ⟨f, hc⟩ := Container.exists_flex hk
    rw [append, Flex.append_eq hc]
    exact outcomeOf_insert_changes_others c child style _ (Flex.kind_place ctx.units f _ style)
  | grid =>
    obtain ⟨g, hc⟩ := Container.exists_grid hk
    rw [append, Grid.append_eq hc]
    split_ifs with hhas
    · exact ⟨.keeps, rfl⟩
    · -- That the flow moves on shows in neither of the two.
      have hinsert := c.insert_of_not_has hhas style (Grid.putSlot (g.slotFor ctx.units style).1)
      have hchanges := Container.changes_insert (Grid.kind_putSlot _) hinsert
      have hothers := Container.others_insert hinsert
      exact ⟨hchanges, hothers⟩
  | canvas =>
    obtain ⟨canvas, hc⟩ := Container.exists_canvas hk
    rw [append, Canvas.append_eq hc]
    exact outcomeOf_insert_changes_others c child style _ (Canvas.kind_place ctx.units canvas style)
  | overlay =>
    obtain ⟨o, hc⟩ := Container.exists_overlay hk
    rw [append, Overlay.append_eq hc]
    cases hinsert : c.insert child style false (Overlay.placeInitial ctx.units style) with
    | error e => exact ⟨.keeps, rfl⟩
    | ok c' =>
      have hchanges := Container.changes_insert (Overlay.kind_placeInitial ctx.units style) hinsert
      have hothers := Overlay.others_track ctx ⟨c', o⟩ child
      rw [← Overlay.frame_track ctx ⟨c', o⟩ child] at hchanges
      exact ⟨hchanges, hothers.trans (Container.others_insert hinsert)⟩
  | uniformGrid =>
    rw [append, UniformGrid.append_eq (Container.layout_uniformGrid hk)]
    exact outcomeOf_insert_changes_others c child style _ (UniformGrid.kind_place ctx.units style)

theorem updateChild_frame_others (ctx : Context) (child : WidgetId) (changed : Style) :
    (outcomeOf c (k.updateChild ctx c child changed)).container.frame = c.frame ∧
      (outcomeOf c (k.updateChild ctx c child changed)).container.others child =
        c.others child := by
  cases k with
  | flex =>
    obtain ⟨f, hc⟩ := Container.exists_flex hk
    rw [updateChild, Flex.updateChild_eq hc]
    exact ⟨c.frame_restyle child changed (Flex.kind_place ctx.units f _),
      c.others_restyle child changed _⟩
  | grid =>
    obtain ⟨g, hc⟩ := Container.exists_grid hk
    rw [updateChild, Grid.updateChild_eq hc]
    exact ⟨c.frame_restyle child changed (Grid.kind_move ctx.units g),
      c.others_restyle child changed _⟩
  | canvas =>
    obtain ⟨canvas, hc⟩ := Container.exists_canvas hk
    rw [updateChild, Canvas.updateChild_eq hc]
    exact ⟨c.frame_restyle child changed (Canvas.kind_place ctx.units canvas),
      c.others_restyle child changed _⟩
  | overlay =>
    obtain ⟨o, hc⟩ := Container.exists_overlay hk
    rw [updateChild, Overlay.updateChild_eq hc]
    exact ⟨(Overlay.frame_track ctx _ child).trans
        (c.frame_restyle child changed (Overlay.kind_placeInitial ctx.units)),
      (Overlay.others_track ctx _ child).trans (c.others_restyle child changed _)⟩
  | uniformGrid =>
    rw [updateChild, UniformGrid.updateChild_eq (Container.layout_uniformGrid hk)]
    exact ⟨c.frame_restyle child changed (UniformGrid.kind_place ctx.units),
      c.others_restyle child changed _⟩

theorem remove_changes_others (child : WidgetId) :
    c.frame.Changes (outcomeOf c (k.remove c child)).container.frame ∧
      (outcomeOf c (k.remove c child)).container.others child = c.others child := by
  by_cases ho : k = .overlay
  · subst ho
    obtain ⟨o, hc⟩ := Container.exists_overlay hk
    rw [remove, Overlay.remove_eq hc]
    exact ⟨c.changes_remove child, c.others_remove child⟩
  · rw [remove_eq hk ho]
    exact ⟨c.changes_remove child, c.others_remove child⟩

theorem frame_resume (ctx : Context) (ticket : Ticket) :
    (outcomeOf c (k.resume ctx c ticket)).container.frame = c.frame := by
  by_cases ho : k = .overlay
  · subst ho
    obtain ⟨o, hc⟩ := Container.exists_overlay hk
    rw [resume, Overlay.resume_eq hc]
    split_ifs
    · exact Overlay.frame_attempt ctx ⟨c, o⟩ ticket.child
    · rfl
  · rw [resume_eq hk ho]
    rfl

end OwnKind

theorem container_outcome_of_misuse {s : Step} (h : c.kind ≠ k ∨ s.operation.Repeats c) :
    (k.outcome c s).container = c := by
  obtain ⟨e, hmisuse⟩ := exists_misuse_iff.mpr h
  rw [outcome, hmisuse.apply_eq]
  rfl

theorem container_outcome_of_kind_ne (hk : c.kind ≠ k) (s : Step) :
    (k.outcome c s).container = c := container_outcome_of_misuse (.inl hk)

theorem kind_outcome_eq (k : LayoutKind) (c : Container) (s : Step) :
    (k.outcome c s).container.kind = c.kind := by
  by_cases hk : c.kind = k
  · exact (kind_outcome hk s).trans hk.symm
  · rw [container_outcome_of_kind_ne hk]

theorem changes_outcome (hpanel : c.panel.kind.layout = c.kind) (k : LayoutKind) (s : Step) :
    c.frame.Changes (k.outcome c s).container.frame := by
  by_cases hk : c.kind = k
  · obtain ⟨ctx, op⟩ := s
    cases op with
    | append child style => exact (append_changes_others hk ctx child style).1
    | updateChild child changed =>
      have hframe := (updateChild_frame_others hk ctx child changed).1
      exact hframe ▸ Frame.Changes.keeps
    | remove child => exact (remove_changes_others hk child).1
    | update old changed => exact frame_update hk (hpanel.trans hk) ctx old changed ▸ .keeps
    | resume ticket => exact frame_resume hk ctx ticket ▸ .keeps
  · rw [container_outcome_of_kind_ne hk]
    exact .keeps

def Operation.target? : Operation → Option WidgetId
  | append child _ | updateChild child _ | remove child => some child
  | update _ _ | resume _ => none

theorem others_outcome (k : LayoutKind) (c : Container) {s : Step} {w : WidgetId}
    (hw : s.operation.target? = some w) : (k.outcome c s).container.others w = c.others w := by
  by_cases hk : c.kind = k
  · obtain ⟨ctx, op⟩ := s
    cases op with
    | append child style =>
      obtain rfl : child = w := Option.some.inj hw
      exact (append_changes_others hk ctx child style).2
    | updateChild child changed =>
      obtain rfl : child = w := Option.some.inj hw
      exact (updateChild_frame_others hk ctx child changed).2
    | remove child =>
      obtain rfl : child = w := Option.some.inj hw
      exact (remove_changes_others hk child).2
    | update old changed => cases hw
    | resume ticket => cases hw
  · rw [container_outcome_of_kind_ne hk]

def runMixed : Container → List (LayoutKind × Step) → Container
  | c, [] => c
  | c, (k, s) :: steps => runMixed (k.outcome c s).container steps

structure Structured (k : LayoutKind) (p : PanelKind) (c : Container) : Prop where
  kind_eq : c.kind = k
  panel_eq : c.panel.kind = p
  sound : c.frame.Sound

theorem Structured.outcome {p : PanelKind} (hp : p.layout = k) (h : Structured k p c)
    (addressee : LayoutKind) (s : Step) : Structured k p (addressee.outcome c s).container := by
  have hchanges := changes_outcome (c := c) (by rw [h.panel_eq, h.kind_eq, hp]) addressee s
  exact ⟨(kind_outcome_eq addressee c s).trans h.kind_eq, hchanges.panel_eq.trans h.panel_eq,
    h.sound.changes hchanges⟩

theorem Structured.runMixed {p : PanelKind} (hp : p.layout = k) (h : Structured k p c)
    (steps : List (LayoutKind × Step)) : Structured k p (runMixed c steps) := by
  induction steps generalizing c with
  | nil => exact h
  | cons step steps ih => exact ih (h.outcome hp step.1 step.2)

theorem Structured.run {p : PanelKind} (hp : p.layout = k) (h : Structured k p c)
    (steps : List Step) : Structured k p (k.run c steps) :=
  run_induction (P := Structured k p) (fun _ s hs => hs.outcome hp k s) h steps

theorem kind_panel_create (k : LayoutKind) (ctx : Context) (widget : WidgetId) (style : Style) :
    (k.create ctx widget style).panel.kind.layout = k := by
  cases k with
  | flex => exact (Flex.ofStyle ctx.units style).kind_panel
  | _ => rfl

theorem structured_create (k : LayoutKind) (ctx : Context) (widget : WidgetId) (style : Style) :
    Structured k (k.create ctx widget style).panel.kind (k.create ctx widget style) := by
  have htags : (k.create ctx widget style).frame.tags = [] := by cases k <;> rfl
  refine ⟨kind_create k ctx widget style, rfl, ?_, ?_, ?_, ?_⟩ <;> rw [htags]
  · exact List.nodup_nil
  · exact List.nodup_nil
  · exact fun t ht => absurd ht List.not_mem_nil
  · exact fun t ht => absurd ht List.not_mem_nil

/-- After any operations, refused ones included and whichever kind of layout each is addressed to, a
container has the kind of panel that it was made with, which is one of its kind of layout; its
children differ, their numbers in the order of appending differ and are below the next one, and
every slot is of the kind that the panel hands out. An operation on one child leaves the others with
their styles and slots in their order. -/
theorem runMixed_structured (k : LayoutKind) (ctx : Context) (widget : WidgetId) (style : Style)
    (steps : List (LayoutKind × Step)) :
    let c := runMixed (k.create ctx widget style) steps
    c.panel.kind = (k.create ctx widget style).panel.kind ∧ c.panel.kind.layout = k ∧ c.kind = k ∧
      (c.children.map Child.widget).Nodup ∧ (c.children.map Child.sequence).Nodup ∧
      (∀ child ∈ c.children, child.sequence < c.nextSequence) ∧
      (∀ child ∈ c.children, child.slot.kind = c.panel.newSlot.kind) ∧
      ∀ (addressee : LayoutKind) (s : Step) (w : WidgetId), s.operation.target? = some w →
        (addressee.outcome c s).container.others w = c.others w := by
  intro c
  have hpanel := kind_panel_create k ctx widget style
  have h : Structured k (k.create ctx widget style).panel.kind c :=
    (structured_create k ctx widget style).runMixed hpanel steps
  have htag : ∀ child ∈ c.children, child.tag ∈ c.frame.tags :=
    fun child hchild => List.mem_map.mpr ⟨child, hchild, rfl⟩
  refine ⟨h.panel_eq, h.panel_eq ▸ hpanel, h.kind_eq, ?_, ?_, fun child hchild => ?_,
    fun child hchild => ?_, fun addressee s w => others_outcome addressee c⟩
  · simpa [Container.frame, Function.comp_def, Child.tag] using h.sound.distinct
  · simpa [Container.frame, Function.comp_def, Child.tag] using h.sound.sequences
  · exact h.sound.sequence_lt _ (htag child hchild)
  · exact (h.sound.slot_eq _ (htag child hchild)).trans c.panel.kind_newSlot.symm

theorem runMixed_structured_refused :
    let c := runMixed (grid.create Overlay.unmeasured ⟨1⟩ .empty)
      [(.grid, ⟨Overlay.unmeasured, .append ⟨2⟩ .empty⟩),
        (.flex, ⟨Overlay.unmeasured, .append ⟨3⟩ .empty⟩),
        (.grid, ⟨Overlay.unmeasured, .append ⟨4⟩ .empty⟩)]
    let s : Step := ⟨Overlay.unmeasured, .remove ⟨2⟩⟩
    c.children.map Child.widget = [⟨2⟩, ⟨4⟩] ∧ s.operation.target? = some ⟨2⟩ ∧
      (grid.outcome c s).container.others ⟨2⟩ = c.others ⟨2⟩ := by
  intro c s
  obtain ⟨-, -, -, -, -, -, -, hothers⟩ :=
    runMixed_structured grid Overlay.unmeasured ⟨1⟩ .empty
      [(.grid, ⟨Overlay.unmeasured, .append ⟨2⟩ .empty⟩),
        (.flex, ⟨Overlay.unmeasured, .append ⟨3⟩ .empty⟩),
        (.grid, ⟨Overlay.unmeasured, .append ⟨4⟩ .empty⟩)]
  exact ⟨by decide +kernel, rfl, hothers .grid s ⟨2⟩ rfl⟩

end LayoutKind

end PanelLayout
