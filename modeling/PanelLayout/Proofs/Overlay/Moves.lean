import PanelLayout.Proofs.Container.Children
import PanelLayout.Proofs.Overlay.Run

/-!
What operations do to the table of tracked children, entry by entry. An edit is a chain of moves
after which no entry is left unchecked; a ticket checks the waiting entry it belongs to.
-/
namespace PanelLayout

def Tracked.ticket (t : Tracked) (widget : WidgetId) : Ticket := ⟨widget, t.child, t.generation⟩

theorem Tracked.check_ticket (t : Tracked) (limit : Nat) (isReady : Bool) (widget : WidgetId) :
    (t.check limit isReady).ticket widget = t.ticket widget := rfl

def Tracked.asked (t : Tracked) (config : Config) (widget : WidgetId) : List Scheduled :=
  if t.phase = .waiting then [⟨config.retryDelay, t.ticket widget⟩] else []

theorem Tracked.mem_asked {t : Tracked} {config : Config} {widget : WidgetId} {s : Scheduled}
    (h : s ∈ t.asked config widget) : s.ticket = t.ticket widget := by
  unfold asked at h
  split_ifs at h with hw
  · rw [List.mem_singleton.mp h]
  · simp at h

namespace Overlay

/-- Chains of moves from one table to another, with all that they ask for. Only an entry that has
not been checked since its start is checked. -/
inductive Moves (config : Config) (widget : WidgetId) (o : Overlay) :
    List Scheduled → Overlay → Prop where
  | none : Moves config widget o [] o
  | restart {l : List Scheduled} {o' : Overlay} (child : WidgetId) :
      Moves config widget o l o' → Moves config widget o l (o'.restart child)
  | forget {l : List Scheduled} {o' : Overlay} (child : WidgetId) :
      Moves config widget o l o' → Moves config widget o l (o'.forget child)
  | check {l : List Scheduled} {o' : Overlay} {t : Tracked} (isReady : Bool) :
      Moves config widget o l o' → t ∈ o'.tracked → t.phase = .notScheduled →
      Moves config widget o (l ++ (t.check config.attemptLimit isReady).asked config widget)
        (o'.put (t.check config.attemptLimit isReady))

theorem Moves.trans {config : Config} {widget : WidgetId} {a b c : Overlay} {l m : List Scheduled}
    (h : Moves config widget a l b) (h' : Moves config widget b m c) :
    Moves config widget a (l ++ m) c := by
  induction h' with
  | none => rwa [List.append_nil]
  | restart child _ ih => exact .restart child ih
  | forget child _ ih => exact .forget child ih
  | check isReady _ ht hp ih =>
    rw [← List.append_assoc]
    exact .check isReady ih ht hp

theorem Moves.sorted {config : Config} {widget : WidgetId} {o o' : Overlay} {l : List Scheduled}
    (h : Moves config widget o l o') (hs : o.Sorted) : o'.Sorted := by
  induction h with
  | none => exact hs
  | restart child _ ih => exact ih.restart child
  | forget child _ ih => exact ih.forget child
  | check isReady _ _ _ ih => exact ih.put _

structure Stable (Q : Overlay → Prop) : Prop where
  restart : ∀ {o}, o.Sorted → ∀ child, Q o → Q (o.restart child)
  forget : ∀ {o} child, Q o → Q (o.forget child)
  check : ∀ {o t}, o.Sorted → t ∈ o.tracked → ∀ limit isReady, Q o →
    Q (o.put (t.check limit isReady))

theorem Stable.moves {Q : Overlay → Prop} (hQ : Stable Q) {config : Config} {widget : WidgetId}
    {o o' : Overlay} {l : List Scheduled} (h : Moves config widget o l o') (hs : o.Sorted)
    (hq : Q o) : Q o' := by
  induction h with
  | none => exact hq
  | restart child hm ih => exact hQ.restart (hm.sorted hs) child ih
  | forget child _ ih => exact hQ.forget child ih
  | check isReady hm ht _ ih => exact hQ.check (hm.sorted hs) ht _ _ ih

def Unchecked (o : Overlay) (children : List WidgetId) : Prop :=
  ∀ t ∈ o.tracked, t.phase = .notScheduled ↔ t.child ∈ children

theorem unchecked_initial : initial.Unchecked [] := by
  simp [Unchecked, initial]

theorem Unchecked.restart {o : Overlay} {children : List WidgetId} (h : o.Unchecked children)
    (hs : o.Sorted) (child : WidgetId) : (o.restart child).Unchecked (child :: children) := by
  intro t ht
  rcases hs.mem_restart.mp ht with rfl | ⟨ht, hne⟩
  · simp
  · rw [List.mem_cons, h t ht]
    exact ⟨.inr, fun hc => hc.resolve_left hne⟩

theorem Unchecked.forget {o : Overlay} {children : List WidgetId} (h : o.Unchecked children)
    (child : WidgetId) : (o.forget child).Unchecked children :=
  fun t ht => h t (mem_forget.mp ht).1

theorem Sorted.unchecked_check {o : Overlay} {t : Tracked} {children : List WidgetId}
    (hs : o.Sorted)
    (h : ∀ u ∈ o.tracked, u.child ≠ t.child → (u.phase = .notScheduled ↔ u.child ∈ children))
    (hnew : t.child ∉ children) (limit : Nat) (isReady : Bool) :
    (o.put (t.check limit isReady)).Unchecked children := by
  intro u hu
  rcases hs.mem_put.mp hu with rfl | ⟨hu, hne⟩
  · exact ⟨fun hp => absurd hp (t.check_phase_ne limit isReady), fun hc => absurd hc hnew⟩
  · exact h u hu hne

theorem Unchecked.check {o : Overlay} {t : Tracked} {children : List WidgetId}
    (h : o.Unchecked (t.child :: children)) (hs : o.Sorted) (hnew : t.child ∉ children)
    (limit : Nat) (isReady : Bool) : (o.put (t.check limit isReady)).Unchecked children := by
  refine hs.unchecked_check (fun u hu hne => ?_) hnew limit isReady
  rw [h u hu, List.mem_cons]
  exact ⟨fun hc => hc.resolve_left hne, .inr⟩

theorem attempt_eq (ctx : Context) {b : Board} {t : Tracked} (hs : b.overlay.Sorted)
    (ht : t ∈ b.overlay.tracked) :
    attempt ctx b t.child =
      (⟨if isReady ctx b.container t.child then seatAbsolute ctx b.container t.child
          else b.container,
        b.overlay.put (t.check ctx.config.attemptLimit (isReady ctx b.container t.child))⟩,
        (t.check ctx.config.attemptLimit (isReady ctx b.container t.child)).asked ctx.config
          b.container.widget) := by
  rw [attempt, hs.find?_eq_some.mpr ⟨ht, rfl⟩]
  rfl

theorem attempt_of_not_tracks (ctx : Context) {b : Board} {child : WidgetId}
    (h : ¬b.overlay.Tracks child) : attempt ctx b child = (b, []) := by
  have hnone : b.overlay.find? child = none :=
    find?_eq_none.mpr fun t ht hc => h ⟨t, ht, hc⟩
  rw [attempt, hnone]

@[simp]
theorem attempt_widget (ctx : Context) (b : Board) (child : WidgetId) :
    (attempt ctx b child).1.container.widget = b.container.widget := by
  unfold attempt
  cases b.overlay.find? child with
  | none => rfl
  | some t =>
    dsimp only
    split_ifs <;> rfl

theorem seatAbsolute_styles (ctx : Context) (c : Container) (child : WidgetId) :
    (seatAbsolute ctx c child).styles = c.styles := by
  simp only [Container.styles, seatAbsolute, Container.modify, List.map_map]
  refine List.map_congr_left fun node _ => ?_
  simp only [Function.comp_apply]
  split_ifs <;> rfl

@[simp]
theorem attempt_styles (ctx : Context) (b : Board) (child : WidgetId) :
    (attempt ctx b child).1.container.styles = b.container.styles := by
  unfold attempt
  cases b.overlay.find? child with
  | none => rfl
  | some t =>
    dsimp only
    split_ifs
    · exact seatAbsolute_styles ctx b.container child
    · rfl

structure Follows (config : Config) (widget : WidgetId) (o : Overlay) (b : Board)
    (l : List Scheduled) : Prop where
  widget_eq : b.container.widget = widget
  moves : Moves config widget o l b.overlay
  unchecked : b.overlay.Unchecked []

theorem attemptAll_follows (ctx : Context) {b : Board} {children : List WidgetId}
    (hs : b.overlay.Sorted) (hu : b.overlay.Unchecked children)
    (ht : ∀ w ∈ children, b.overlay.Tracks w) (hnd : children.Nodup) :
    Follows ctx.config b.container.widget b.overlay (attemptAll ctx b children).1
      (attemptAll ctx b children).2 := by
  -- What has not been checked yet are just the children that are still to come.
  induction children generalizing b with
  | nil => exact ⟨rfl, .none, hu⟩
  | cons child children ih =>
    obtain ⟨hnew, hrest⟩ := List.nodup_cons.mp hnd
    obtain ⟨t, hmem, rfl⟩ := ht child List.mem_cons_self
    have hp : t.phase = .notScheduled := (hu t hmem).mpr List.mem_cons_self
    have hfirst := attempt_eq ctx hs hmem
    have hmove : Moves ctx.config b.container.widget b.overlay _ _ :=
      .check (isReady ctx b.container t.child) .none hmem hp
    have hs' : (attempt ctx b t.child).1.overlay.Sorted := by
      rw [hfirst]
      exact hs.put _
    have hu' : (attempt ctx b t.child).1.overlay.Unchecked children := by
      rw [hfirst]
      exact hu.check hs hnew _ _
    have ht' : ∀ w ∈ children, (attempt ctx b t.child).1.overlay.Tracks w := by
      intro w hw
      obtain ⟨u, hu, rfl⟩ := ht w (List.mem_cons_of_mem _ hw)
      have hne : u.child ≠ t.child := fun hc => hnew (hc ▸ hw)
      rw [hfirst]
      exact ⟨u, hs.mem_put.mpr (.inr ⟨hu, hne⟩), rfl⟩
    obtain ⟨hw, hm, hall⟩ := ih hs' hu' ht' hrest
    rw [attempt_widget] at hw hm
    refine ⟨hw, ?_, hall⟩
    rw [hfirst] at hm
    rw [attemptAll, hfirst]
    exact hmove.trans hm

theorem attempt_restart_follows (ctx : Context) {b : Board} (child : WidgetId)
    (hs : b.overlay.Sorted) (hu : b.overlay.Unchecked []) :
    Follows ctx.config b.container.widget b.overlay (attempt ctx (b.restart child) child).1
      (attempt ctx (b.restart child) child).2 := by
  have ht : (⟨child, .notScheduled, b.overlay.generation + 1, 0⟩ : Tracked) ∈
      (b.restart child).overlay.tracked := hs.mem_restart.mpr (.inl rfl)
  have hmove : Moves ctx.config b.container.widget b.overlay _ _ :=
    .check (isReady ctx b.container child) (.restart child .none) ht rfl
  have hfirst := attempt_eq ctx (b := b.restart child) (hs.restart child) ht
  refine ⟨attempt_widget ctx (b.restart child) child, ?_, ?_⟩
  · rw [hfirst]
    exact hmove
  · rw [hfirst]
    exact (hu.restart hs child).check (hs.restart child) List.not_mem_nil _ _

theorem track_follows (ctx : Context) {b : Board} (child : WidgetId) (hs : b.overlay.Sorted)
    (hu : b.overlay.Unchecked []) :
    Follows ctx.config b.container.widget b.overlay (track ctx b child).1
      (track ctx b child).2 := by
  unfold track
  cases b.container.child? child with
  | none => exact ⟨rfl, .none, hu⟩
  | some node =>
    dsimp only
    split_ifs
    · exact attempt_restart_follows ctx child hs hu
    · exact ⟨rfl, .forget child .none, hu.forget child⟩

theorem foldl_restart_moves (config : Config) (widget : WidgetId) {o : Overlay}
    (children : List WidgetId) {before : List WidgetId} (hs : o.Sorted) (hu : o.Unchecked before) :
    Moves config widget o [] (children.foldl Overlay.restart o) ∧
      (children.foldl Overlay.restart o).Unchecked (children.reverse ++ before) := by
  induction children generalizing o before with
  | nil => exact ⟨.none, hu⟩
  | cons child children ih =>
    obtain ⟨hm, hu⟩ := ih (hs.restart child) (hu.restart hs child)
    refine ⟨(Moves.restart child .none).trans hm, ?_⟩
    rw [List.reverse_cons, List.append_assoc]
    exact hu

theorem foldl_restart_sorted {o : Overlay} (hs : o.Sorted) (children : List WidgetId) :
    (children.foldl Overlay.restart o).Sorted := by
  induction children generalizing o with
  | nil => exact hs
  | cons child children ih => exact ih (hs.restart child)

theorem foldl_restart_tracks {o : Overlay} {children : List WidgetId} (hs : o.Sorted)
    {w : WidgetId} :
    (children.foldl Overlay.restart o).Tracks w ↔ w ∈ children ∨ o.Tracks w := by
  induction children generalizing o with
  | nil => simp
  | cons child children ih =>
    rw [List.foldl_cons, ih (hs.restart child), hs.tracks_restart, List.mem_cons]
    tauto

theorem Sorted.tracks_restartAll {o : Overlay} (hs : o.Sorted) {w : WidgetId} :
    o.restartAll.Tracks w ↔ o.Tracks w := by
  rw [restartAll, foldl_restart_tracks hs, mem_children_iff, or_self]

theorem update_follows (ctx : Context) (c : Container) {o : Overlay} (hs : o.Sorted)
    (hu : o.Unchecked []) :
    Follows ctx.config c.widget o
      (attemptAll ctx ⟨c, o.restartAll⟩ (o.tracked.map Tracked.child)).1
      (attemptAll ctx ⟨c, o.restartAll⟩ (o.tracked.map Tracked.child)).2 := by
  obtain ⟨hm, hall⟩ := foldl_restart_moves ctx.config c.widget (o.tracked.map Tracked.child) hs hu
  have hall : o.restartAll.Unchecked (o.tracked.map Tracked.child) := by
    intro t ht
    simpa using hall t ht
  have htracks : ∀ w ∈ o.tracked.map Tracked.child, o.restartAll.Tracks w := by
    intro w hw
    exact hs.tracks_restartAll.mpr (mem_children_iff.mp hw)
  obtain ⟨hw, hm', hu'⟩ :=
    attemptAll_follows ctx (b := ⟨c, o.restartAll⟩) (hm.sorted hs) hall htracks hs.nodup
  exact ⟨hw, hm.trans hm', hu'⟩

/-- A container between two operations: its table is `o`, and every entry has been checked. -/
structure Rests (c : Container) (o : Overlay) : Prop where
  layout_eq : c.layout = .overlay o
  sorted : o.Sorted
  unchecked : o.Unchecked []

theorem Follows.rests {config : Config} {widget : WidgetId} {o : Overlay} {b : Board}
    {l : List Scheduled} (h : Follows config widget o b l) (hs : o.Sorted) :
    Rests (b.finish l).container b.overlay := ⟨rfl, h.moves.sorted hs, h.unchecked⟩

theorem Rests.finish_self {c : Container} {o : Overlay} (h : Rests c o) :
    Board.finish ⟨c, o⟩ [] = c.unscheduled := by
  rw [Board.finish, ← h.layout_eq]
  rfl

def Edit.board (ctx : Context) (c : Container) (o : Overlay) : Edit → Board × List Scheduled
  | append child style =>
    if c.has child then (⟨c, o⟩, [])
    else track ctx ⟨c.push child style (placeInitial ctx.units style c.panel.newSlot), o⟩ child
  | updateChild child changed =>
    track ctx ⟨c.restyle child changed (placeInitial ctx.units), o⟩ child
  | remove child => (⟨c.remove child, o.forget child⟩, [])
  | update _ _ => attemptAll ctx ⟨c, o.restartAll⟩ (o.tracked.map Tracked.child)

theorem Rests.edit_eq {c : Container} {o : Overlay} (h : Rests c o) (e : Edit) (ctx : Context) :
    outcomeOf c (e.apply ctx c) = (e.board ctx c o).1.finish (e.board ctx c o).2 := by
  cases e with
  | append child style =>
    rw [Edit.apply, append_eq h.layout_eq, Edit.board, Container.insert_back]
    split_ifs
    · exact h.finish_self.symm
    · rfl
  | updateChild child changed =>
    rw [Edit.apply, updateChild_eq h.layout_eq]
    rfl
  | remove child =>
    rw [Edit.apply, remove_eq h.layout_eq]
    rfl
  | update old changed =>
    rw [Edit.apply, update_eq h.layout_eq]
    rfl

theorem Edit.follows (e : Edit) (ctx : Context) (c : Container) {o : Overlay} (hs : o.Sorted)
    (hu : o.Unchecked []) :
    Follows ctx.config c.widget o (e.board ctx c o).1 (e.board ctx c o).2 := by
  cases e with
  | append child style =>
    rw [Edit.board]
    split_ifs
    · exact ⟨rfl, .none, hu⟩
    · exact track_follows ctx (b := ⟨c.push child style _, o⟩) child hs hu
  | updateChild child changed =>
    exact track_follows ctx (b := ⟨c.restyle child changed _, o⟩) child hs hu
  | remove child => exact ⟨rfl, .forget child .none, hu.forget child⟩
  | update old changed => exact update_follows ctx c hs hu

theorem Rests.edit {c : Container} {o : Overlay} (h : Rests c o) (e : Edit) (ctx : Context) :
    Rests (outcomeOf c (e.apply ctx c)).container (e.board ctx c o).1.overlay := by
  rw [h.edit_eq]
  exact (e.follows ctx c h.sorted h.unchecked).rests h.sorted

theorem Sorted.isCurrent_iff {o : Overlay} (hs : o.Sorted) {widget : WidgetId} {ticket : Ticket} :
    ticket.container = widget ∧ o.isCurrent ticket ↔
      ∃ t ∈ o.tracked, t.phase = .waiting ∧ ticket = t.ticket widget := by
  unfold isCurrent
  constructor
  · rintro ⟨rfl, h⟩
    cases hf : o.find? ticket.child with
    | none => simp [hf] at h
    | some t =>
      obtain ⟨ht, hchild⟩ := hs.find?_eq_some.mp hf
      simp only [hf, Bool.and_eq_true, decide_eq_true_eq] at h
      exact ⟨t, ht, h.2, by rw [Tracked.ticket, hchild, h.1]⟩
  · rintro ⟨t, ht, hp, rfl⟩
    have hf : o.find? t.child = some t := hs.find?_eq_some.mpr ⟨ht, rfl⟩
    simp [Tracked.ticket, hf, hp]

def checked (ctx : Context) (c : Container) (t : Tracked) : Tracked :=
  t.check ctx.config.attemptLimit (isReady ctx c t.child)

theorem Rests.resume_ticket {c : Container} {o : Overlay} (h : Rests c o) (ctx : Context)
    {t : Tracked} (ht : t ∈ o.tracked) (hp : t.phase = .waiting) :
    ∃ b : Board, resume ctx c (t.ticket c.widget) =
        .ok (b.finish ((checked ctx c t).asked ctx.config c.widget)) ∧
      b.overlay = o.put (checked ctx c t) ∧ b.container.styles = c.styles ∧
      b.container.widget = c.widget := by
  have hattempt := attempt_eq ctx (b := ⟨c, o⟩) h.sorted ht
  have hcurrent : (t.ticket c.widget).container = c.widget ∧ o.isCurrent (t.ticket c.widget) :=
    h.sorted.isCurrent_iff.mpr ⟨t, ht, hp, rfl⟩
  refine ⟨(attempt ctx ⟨c, o⟩ t.child).1, ?_, ?_, ?_, ?_⟩
  · rw [resume_eq h.layout_eq, if_pos hcurrent]
    simp only [Tracked.ticket, hattempt]
    rfl
  · rw [hattempt]
    rfl
  · exact attempt_styles ctx ⟨c, o⟩ t.child
  · exact attempt_widget ctx ⟨c, o⟩ t.child

theorem Rests.resume_stale {c : Container} {o : Overlay} (h : Rests c o) (ctx : Context)
    {ticket : Ticket} (hstale : ∀ t ∈ o.tracked, t.phase = .waiting → ticket ≠ t.ticket c.widget) :
    resume ctx c ticket = .ok c.unscheduled := by
  rw [resume_eq h.layout_eq, if_neg]
  rw [h.sorted.isCurrent_iff]
  rintro ⟨t, ht, hp, rfl⟩
  exact hstale t ht hp rfl

theorem Rests.resume_cases {c : Container} {o : Overlay} (h : Rests c o) (ctx : Context)
    (ticket : Ticket) :
    (resume ctx c ticket = .ok c.unscheduled ∧
        ∀ t ∈ o.tracked, t.phase = .waiting → ticket ≠ t.ticket c.widget) ∨
      ∃ t ∈ o.tracked, t.phase = .waiting ∧ ticket = t.ticket c.widget := by
  by_cases hcurrent : ∃ t ∈ o.tracked, t.phase = .waiting ∧ ticket = t.ticket c.widget
  · exact .inr hcurrent
  · have hstale : ∀ t ∈ o.tracked, t.phase = .waiting → ticket ≠ t.ticket c.widget :=
      fun t ht hp hk => hcurrent ⟨t, ht, hp, hk⟩
    exact .inl ⟨h.resume_stale ctx hstale, hstale⟩

theorem Rests.check {c : Container} {o : Overlay} (h : Rests c o) (ctx : Context) (t : Tracked)
    {b : Board} (hb : b.overlay = o.put (checked ctx c t)) (l : List Scheduled) :
    Rests (b.finish l).container (o.put (checked ctx c t)) := by
  refine ⟨?_, h.sorted.put _, ?_⟩
  · rw [← hb]
    rfl
  · exact h.sorted.unchecked_check (fun u hu _ => h.unchecked u hu) List.not_mem_nil _ _

end Overlay

end PanelLayout
