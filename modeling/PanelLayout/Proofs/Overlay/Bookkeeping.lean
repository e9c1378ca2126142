import Mathlib.Order.MinMax
import PanelLayout.Proofs.Overlay.Moves

/-!
The bookkeeping of overlay containers. In every state of a run the tracked children are the
absolute ones, their generations differ, and the number of checks of each fits its phase.
-/
namespace PanelLayout

def Tracked.Counted (limit : Nat) (t : Tracked) : Prop :=
  match t.phase with
  | .notScheduled => t.attempts = 0
  | .waiting => 1 ≤ t.attempts ∧ t.attempts < limit
  | .applied => 1 ≤ t.attempts ∧ t.attempts ≤ limit
  | .abandoned => t.attempts = limit

theorem Tracked.Counted.check {t : Tracked} {limit : Nat} (h : t.Counted limit)
    (hlimit : 1 ≤ limit) (hp : t.phase = .notScheduled ∨ t.phase = .waiting) (isReady : Bool) :
    (t.check limit isReady).Counted limit := by
  have hlt : t.attempts < limit := by
    rcases hp with hp | hp <;> simp only [Counted, hp] at h <;> omega
  simp only [Counted, Tracked.check]
  cases isReady with
  | true => exact ⟨by simp, hlt⟩
  | false =>
    by_cases hlast : limit ≤ t.attempts + 1
    · simp only [hlast, Bool.false_eq_true, if_false, if_true]
      omega
    · simp only [hlast, Bool.false_eq_true, if_false]
      omega

namespace Overlay

structure Numbered (o : Overlay) : Prop where
  le : ∀ t ∈ o.tracked, t.generation ≤ o.generation
  ne : ∀ t ∈ o.tracked, ∀ u ∈ o.tracked, t.child ≠ u.child → t.generation ≠ u.generation

theorem numbered_initial : initial.Numbered := by
  constructor <;> simp [initial]

theorem Numbered.restart {o : Overlay} (h : o.Numbered) (hs : o.Sorted) (child : WidgetId) :
    (o.restart child).Numbered := by
  constructor
  · intro t ht
    rw [generation_restart]
    rcases hs.mem_restart.mp ht with rfl | ⟨ht, _⟩
    · exact le_rfl
    · exact Nat.le_succ_of_le (h.le t ht)
  · have hold : ∀ v ∈ o.tracked, v.generation < o.generation + 1 := by
      intro v hv
      exact Nat.lt_succ_of_le (h.le v hv)
    intro t ht u hu hne
    rcases hs.mem_restart.mp ht with rfl | ⟨ht, _⟩
    · rcases hs.mem_restart.mp hu with rfl | ⟨hu, _⟩
      · exact absurd rfl hne
      · exact (hold u hu).ne'
    · rcases hs.mem_restart.mp hu with rfl | ⟨hu, _⟩
      · exact (hold t ht).ne
      · exact h.ne t ht u hu hne

theorem Numbered.check {o : Overlay} (h : o.Numbered) (hs : o.Sorted) {t : Tracked}
    (ht : t ∈ o.tracked) (limit : Nat) (isReady : Bool) :
    (o.put (t.check limit isReady)).Numbered := by
  -- A check keeps child and generation, so each new entry stands for an old one.
  have hold : ∀ u ∈ (o.put (t.check limit isReady)).tracked,
      ∃ v ∈ o.tracked, v.child = u.child ∧ v.generation = u.generation := by
    intro u hu
    rcases hs.mem_put.mp hu with rfl | ⟨hu, _⟩
    · exact ⟨t, ht, rfl, rfl⟩
    · exact ⟨u, hu, rfl, rfl⟩
  constructor
  · intro u hu
    obtain ⟨v, hv, _, hg⟩ := hold u hu
    exact hg ▸ h.le v hv
  · intro u hu w hw hne
    obtain ⟨v, hv, hvc, hvg⟩ := hold u hu
    obtain ⟨x, hx, hxc, hxg⟩ := hold w hw
    rw [← hvg, ← hxg]
    exact h.ne v hv x hx (by rwa [hvc, hxc])

theorem stable_numbered : Stable Numbered where
  restart hs child h := h.restart hs child
  forget _ h := by
    refine ⟨fun t ht => h.le t (mem_forget.mp ht).1, fun t ht u hu => ?_⟩
    exact h.ne t (mem_forget.mp ht).1 u (mem_forget.mp hu).1
  check hs ht limit isReady h := h.check hs ht limit isReady

def Counted (limit : Nat) (o : Overlay) : Prop := ∀ t ∈ o.tracked, t.Counted limit

theorem Counted.check {limit : Nat} {o : Overlay} (h : o.Counted limit) (hs : o.Sorted)
    {t : Tracked} (ht : t ∈ o.tracked) (hlimit : 1 ≤ limit)
    (hp : t.phase = .notScheduled ∨ t.phase = .waiting) (isReady : Bool) :
    (o.put (t.check limit isReady)).Counted limit := by
  intro u hu
  rcases hs.mem_put.mp hu with rfl | ⟨hu, _⟩
  · exact (h t ht).check hlimit hp isReady
  · exact h u hu

theorem one_le_attemptLimit (config : Config) : 1 ≤ config.attemptLimit := le_max_right _ _

theorem Moves.counted {config : Config} {widget : WidgetId} {o o' : Overlay}
    {l : List Scheduled} (h : Moves config widget o l o') (hs : o.Sorted)
    (hc : o.Counted config.attemptLimit) : o'.Counted config.attemptLimit := by
  induction h with
  | none => exact hc
  | restart child hm ih =>
    intro t ht
    rcases (hm.sorted hs).mem_restart.mp ht with rfl | ⟨ht, _⟩
    · exact rfl
    · exact ih t ht
  | forget child _ ih => exact fun t ht => ih t (mem_forget.mp ht).1
  | check isReady hm ht hp ih =>
    exact ih.check (hm.sorted hs) ht (one_le_attemptLimit config) (.inl hp) isReady

def HoldsAbsolute (c : Container) (w : WidgetId) : Prop :=
  ∃ child ∈ c.children, child.widget = w ∧ isAbsolute child.style

theorem holdsAbsolute_iff {c : Container} {w : WidgetId} :
    HoldsAbsolute c w ↔ ∃ style, (w, style) ∈ c.styles ∧ isAbsolute style := by
  constructor
  · rintro ⟨child, hc, rfl, ha⟩
    exact ⟨child.style, Container.mem_styles.mpr ⟨child, hc, rfl, rfl⟩, ha⟩
  · rintro ⟨style, hs, ha⟩
    obtain ⟨child, hc, hw, rfl⟩ := Container.mem_styles.mp hs
    exact ⟨child, hc, hw, ha⟩

theorem holdsAbsolute_congr {c c' : Container} (h : c.styles = c'.styles) {w : WidgetId} :
    HoldsAbsolute c w ↔ HoldsAbsolute c' w := by
  rw [holdsAbsolute_iff, holdsAbsolute_iff, h]

theorem holdsAbsolute_push {c : Container} {child w : WidgetId} (style : Style) (slot : Slot)
    (hne : w ≠ child) : HoldsAbsolute (c.push child style slot) w ↔ HoldsAbsolute c w := by
  simp [holdsAbsolute_iff, Container.styles_push, hne]

theorem holdsAbsolute_restyle {c : Container} {child w : WidgetId} (changed : Style)
    (place : Style → Slot → Slot) (hne : w ≠ child) :
    HoldsAbsolute (c.restyle child changed place) w ↔ HoldsAbsolute c w := by
  have hmem : ∀ style, (w, style) ∈ (c.restyle child changed place).styles ↔
      (w, style) ∈ c.styles := by
    intro style
    rw [Container.styles_restyle, List.mem_map]
    constructor
    · rintro ⟨p, hp, heq⟩
      split_ifs at heq with hc
      · exact absurd ((congrArg Prod.fst heq).symm.trans hc) hne
      · exact heq ▸ hp
    · exact fun h => ⟨(w, style), h, if_neg hne⟩
  simp only [holdsAbsolute_iff, hmem]

theorem holdsAbsolute_remove {c : Container} {child w : WidgetId} :
    HoldsAbsolute (c.remove child) w ↔ HoldsAbsolute c w ∧ w ≠ child := by
  simp only [holdsAbsolute_iff, Container.styles_remove, List.mem_filter, decide_eq_true_eq]
  constructor
  · rintro ⟨style, ⟨hs, hne⟩, ha⟩
    exact ⟨⟨style, hs, ha⟩, hne⟩
  · rintro ⟨⟨style, hs, ha⟩, hne⟩
    exact ⟨style, ⟨hs, hne⟩, ha⟩

def Agrees (b : Board) (w : WidgetId) : Prop := b.overlay.Tracks w ↔ HoldsAbsolute b.container w

theorem attempt_tracks (ctx : Context) {b : Board} (hs : b.overlay.Sorted) (child : WidgetId)
    {w : WidgetId} : (attempt ctx b child).1.overlay.Tracks w ↔ b.overlay.Tracks w := by
  by_cases ht : b.overlay.Tracks child
  · obtain ⟨t, ht, rfl⟩ := ht
    rw [attempt_eq ctx hs ht]
    exact hs.tracks_put_of_mem ht (t.check_child _ _)
  · rw [attempt_of_not_tracks ctx ht]

theorem attempt_sorted (ctx : Context) {b : Board} (hs : b.overlay.Sorted) (child : WidgetId) :
    (attempt ctx b child).1.overlay.Sorted := by
  unfold attempt
  cases b.overlay.find? child with
  | none => exact hs
  | some t => exact hs.put _

theorem attempt_agrees (ctx : Context) {b : Board} (hs : b.overlay.Sorted) (child : WidgetId)
    {w : WidgetId} (h : Agrees b w) : Agrees (attempt ctx b child).1 w := by
  rw [Agrees, attempt_tracks ctx hs, holdsAbsolute_congr (attempt_styles ctx b child)]
  exact h

theorem attemptAll_agrees (ctx : Context) {b : Board} (hs : b.overlay.Sorted)
    (children : List WidgetId) {w : WidgetId} (h : Agrees b w) :
    Agrees (attemptAll ctx b children).1 w := by
  induction children generalizing b with
  | nil => exact h
  | cons child children ih =>
    exact ih (attempt_sorted ctx hs child) (attempt_agrees ctx hs child h)

theorem track_agrees (ctx : Context) {b : Board} (hs : b.overlay.Sorted)
    (hd : b.container.Distinct) {child : WidgetId} (h : ∀ w, w ≠ child → Agrees b w)
    (hnone : b.container.child? child = none → ¬b.overlay.Tracks child) (w : WidgetId) :
    Agrees (track ctx b child).1 w := by
  unfold track
  cases hf : b.container.child? child with
  | none =>
    by_cases hw : w = child
    · subst hw
      have hout : ¬HoldsAbsolute b.container w := by
        intro ha
        obtain ⟨style, hmem, _⟩ := holdsAbsolute_iff.mp ha
        exact Container.child?_eq_none.mp hf _ hmem rfl
      exact iff_of_false (hnone hf) hout
    · exact h w hw
  | some node =>
    have hnode := Container.mem_styles_of_child? hf
    dsimp only
    split_ifs with habs
    · refine attempt_agrees ctx (b := b.restart child) (hs.restart child) child ?_
      show (b.overlay.restart child).Tracks w ↔ HoldsAbsolute b.container w
      rw [hs.tracks_restart]
      by_cases hw : w = child
      · subst hw
        exact iff_of_true (.inl rfl) (holdsAbsolute_iff.mpr ⟨_, hnode, habs⟩)
      · rw [or_iff_right hw]
        exact h w hw
    · show (b.overlay.forget child).Tracks w ↔ HoldsAbsolute b.container w
      rw [tracks_forget]
      by_cases hw : w = child
      · subst hw
        -- The style of a child is its only one, and it is not absolute.
        have hout : ¬HoldsAbsolute b.container w := by
          intro ha
          obtain ⟨style, hmem, hstyle⟩ := holdsAbsolute_iff.mp ha
          have hsame : node.style = style := hd.style_unique hnode hmem
          exact habs (hsame ▸ hstyle)
        exact iff_of_false (fun ht => ht.2 rfl) hout
      · rw [and_iff_left hw]
        exact h w hw

theorem track_styles (ctx : Context) (b : Board) (child : WidgetId) :
    (track ctx b child).1.container.styles = b.container.styles := by
  unfold track
  cases b.container.child? child with
  | none => rfl
  | some node =>
    dsimp only
    split_ifs
    · exact attempt_styles ctx (b.restart child) child
    · rfl

theorem attemptAll_styles (ctx : Context) (b : Board) (children : List WidgetId) :
    (attemptAll ctx b children).1.container.styles = b.container.styles := by
  induction children generalizing b with
  | nil => rfl
  | cons child children ih => exact (ih _).trans (attempt_styles ctx b child)

structure Kept (c : Container) (o : Overlay) : Prop extends Rests c o where
  distinct : c.Distinct
  numbered : o.Numbered
  agrees : ∀ w, Agrees ⟨c, o⟩ w

theorem kept_create (ctx : Context) (widget : WidgetId) (style : Style) :
    Kept (create ctx widget style) initial where
  layout_eq := rfl
  sorted := sorted_initial
  unchecked := unchecked_initial
  distinct := List.nodup_nil
  numbered := numbered_initial
  agrees _ := by simp [Agrees, Tracks, HoldsAbsolute, initial, create, Container.new]

theorem Kept.not_tracks {c : Container} {o : Overlay} (h : Kept c o) {w : WidgetId}
    (hw : ∀ p ∈ c.styles, p.1 ≠ w) : ¬o.Tracks w := by
  intro ht
  obtain ⟨style, hmem, _⟩ := holdsAbsolute_iff.mp ((h.agrees w).mp ht)
  exact hw _ hmem rfl

theorem Kept.board_agrees {c : Container} {o : Overlay} (h : Kept c o) (e : Edit) (ctx : Context)
    (w : WidgetId) : Agrees (e.board ctx c o).1 w := by
  cases e with
  | append child style =>
    rw [Edit.board]
    split_ifs with hhas
    · exact h.agrees w
    · have hnew : c.has child = false := Bool.eq_false_iff.mpr hhas
      have huntracked : ¬o.Tracks child := h.not_tracks (Container.has_eq_false.mp hnew)
      refine track_agrees ctx (b := ⟨c.push child style _, o⟩) h.sorted (h.distinct.push hnew _ _)
        (fun w hw => ?_) (fun _ => huntracked) w
      exact (h.agrees w).trans (holdsAbsolute_push _ _ hw).symm
  | updateChild child changed =>
    refine track_agrees ctx (b := ⟨c.restyle child changed _, o⟩) h.sorted
      (h.distinct.restyle _ _ _) (fun w hw => ?_) (fun hnone => ?_) w
    · exact (h.agrees w).trans (holdsAbsolute_restyle _ _ hw).symm
    · exact h.not_tracks (Container.child?_restyle_eq_none.mp hnone)
  | remove child =>
    show (o.forget child).Tracks w ↔ HoldsAbsolute (c.remove child) w
    rw [tracks_forget, holdsAbsolute_remove]
    exact and_congr_left' (h.agrees w)
  | update old changed =>
    have hrestarted : Agrees ⟨c, o.restartAll⟩ w := h.sorted.tracks_restartAll.trans (h.agrees w)
    exact attemptAll_agrees ctx (foldl_restart_sorted h.sorted _) _ hrestarted

theorem Kept.board_distinct {c : Container} {o : Overlay} (h : Kept c o) (e : Edit)
    (ctx : Context) : (e.board ctx c o).1.container.Distinct := by
  cases e with
  | append child style =>
    rw [Edit.board]
    split_ifs with hhas
    · exact h.distinct
    · rw [Container.Distinct, track_styles]
      exact h.distinct.push (Bool.eq_false_iff.mpr hhas) _ _
  | updateChild child changed =>
    rw [Edit.board, Container.Distinct, track_styles]
    exact h.distinct.restyle _ _ _
  | remove child => exact h.distinct.remove child
  | update old changed =>
    rw [Edit.board, Container.Distinct, attemptAll_styles]
    exact h.distinct

theorem Kept.edit {c : Container} {o : Overlay} (h : Kept c o) (e : Edit) (ctx : Context) :
    Kept (outcomeOf c (e.apply ctx c)).container (e.board ctx c o).1.overlay := by
  have hmoves := (e.follows ctx c h.sorted h.unchecked).moves
  refine ⟨h.toRests.edit e ctx, ?_, stable_numbered.moves hmoves h.sorted h.numbered, ?_⟩
  · rw [h.edit_eq]
    exact h.board_distinct e ctx
  · rw [h.edit_eq]
    exact h.board_agrees e ctx

theorem Kept.check {c : Container} {o : Overlay} (h : Kept c o) (ctx : Context) {t : Tracked}
    (ht : t ∈ o.tracked) {b : Board} (hb : b.overlay = o.put (checked ctx c t))
    (hstyles : b.container.styles = c.styles) (l : List Scheduled) :
    Kept (b.finish l).container (o.put (checked ctx c t)) := by
  refine ⟨h.toRests.check ctx t hb l, ?_, h.numbered.check h.sorted ht _ _, fun w => ?_⟩
  · show (b.container.styles.map Prod.fst).Nodup
    rw [hstyles]
    exact h.distinct
  · have htracks : (o.put (checked ctx c t)).Tracks w ↔ o.Tracks w :=
      h.sorted.tracks_put_of_mem ht (t.check_child _ _)
    have habs : HoldsAbsolute (b.finish l).container w ↔ HoldsAbsolute c w :=
      holdsAbsolute_congr hstyles
    show (o.put (checked ctx c t)).Tracks w ↔ HoldsAbsolute (b.finish l).container w
    rw [htracks, habs]
    exact h.agrees w

theorem Kept.step {c : Container} {o : Overlay} (h : Kept c o) (s : Step) :
    ∃ o', Kept (s.outcome c).container o' ∧
      (Moves s.context.config c.widget o (s.outcome c).scheduled o' ∨
        ∃ t ∈ o.tracked, t.phase = .waiting ∧ o' = o.put (checked s.context c t) ∧
          (s.outcome c).scheduled = (checked s.context c t).asked s.context.config c.widget) := by
  rcases s with ⟨ctx, e | ticket⟩
  · refine ⟨_, h.edit e ctx, .inl ?_⟩
    simp only [Step.outcome, Operation.apply, h.edit_eq]
    exact (e.follows ctx c h.sorted h.unchecked).moves
  · simp only [Step.outcome, Operation.apply]
    rcases h.toRests.resume_cases ctx ticket with ⟨hres, _⟩ | ⟨t, ht, hp, rfl⟩
    · rw [hres]
      exact ⟨o, h, .inl .none⟩
    · obtain ⟨b, hres, hb, hstyles, _⟩ := h.toRests.resume_ticket ctx ht hp
      rw [hres]
      exact ⟨_, h.check ctx ht hb hstyles _, .inr ⟨t, ht, hp, rfl, rfl⟩⟩

theorem Stable.run {Q : Overlay → Prop} (hQ : Stable Q) {c : Container} {o : Overlay}
    (h : Kept c o) (hq : Q o) (steps : List Step) : ∃ o', Kept (run c steps) o' ∧ Q o' := by
  refine run_induction (P := fun c => ∃ o, Kept c o ∧ Q o) (A := fun _ => True) ?_
    ⟨o, h, hq⟩ fun _ _ => trivial
  rintro c s - ⟨o, hk, hq⟩
  rcases hk.step s with ⟨o', hk', hm | ⟨t, ht, _, rfl, _⟩⟩
  · exact ⟨o', hk', hQ.moves hm hk.sorted hq⟩
  · exact ⟨_, hk', hQ.check hk.sorted ht _ _ hq⟩

/-- In every state of a run with fixed settings the tracked children are the absolute ones, each has
been checked, their generations differ, and the number of checks fits the phase. -/
theorem run_bookkeeping (config : Config) (ctx : Context) (widget : WidgetId) (style : Style)
    (steps : List Step) (hconfig : ∀ s ∈ steps, s.context.config = config) :
    ∃ o, (run (create ctx widget style) steps).layout = .overlay o ∧ o.Sorted ∧
      (∀ w, o.Tracks w ↔ HoldsAbsolute (run (create ctx widget style) steps) w) ∧
      (∀ t ∈ o.tracked, t.phase ≠ .notScheduled) ∧ o.Numbered ∧
      o.Counted config.attemptLimit := by
  have hrun : ∃ o, Kept (run (create ctx widget style) steps) o ∧
      o.Counted config.attemptLimit := by
    refine run_induction (P := fun c => ∃ o, Kept c o ∧ o.Counted config.attemptLimit)
      (A := fun s => s.context.config = config) ?_
      ⟨initial, kept_create ctx widget style, fun t ht => absurd ht List.not_mem_nil⟩ hconfig
    rintro c s rfl ⟨o, hk, hc⟩
    rcases hk.step s with ⟨o', hk', hm | ⟨t, ht, hp, rfl, _⟩⟩
    · exact ⟨o', hk', hm.counted hk.sorted hc⟩
    · exact ⟨_, hk', hc.check hk.sorted ht (one_le_attemptLimit _) (.inr hp) _⟩
  obtain ⟨o, hk, hc⟩ := hrun
  have hchecked : ∀ t ∈ o.tracked, t.phase ≠ .notScheduled := by
    intro t ht hp
    exact List.not_mem_nil ((hk.unchecked t ht).mp hp)
  exact ⟨o, hk.layout_eq, hk.sorted, hk.agrees, hchecked, hk.numbered, hc⟩

theorem run_bookkeeping_pinned :
    (∀ s ∈ ([⟨unmeasured, .edit (.append ⟨2⟩ pinned)⟩, ⟨unmeasured, .resume ⟨⟨1⟩, ⟨2⟩, 1⟩⟩] :
        List Step), s.context.config = .standard) ∧
      ∃ o, (run (create unmeasured ⟨1⟩ .empty) [⟨unmeasured, .edit (.append ⟨2⟩ pinned)⟩,
          ⟨unmeasured, .resume ⟨⟨1⟩, ⟨2⟩, 1⟩⟩]).layout = .overlay o ∧ o.Sorted ∧
        (∀ w, o.Tracks w ↔ HoldsAbsolute (run (create unmeasured ⟨1⟩ .empty)
          [⟨unmeasured, .edit (.append ⟨2⟩ pinned)⟩, ⟨unmeasured, .resume ⟨⟨1⟩, ⟨2⟩, 1⟩⟩]) w) ∧
        (∀ t ∈ o.tracked, t.phase ≠ .notScheduled) ∧ o.Numbered ∧
        o.Counted Config.standard.attemptLimit :=
  ⟨by simp [unmeasured], run_bookkeeping .standard unmeasured ⟨1⟩ .empty _ (by simp [unmeasured])⟩

end Overlay

end PanelLayout
