import PanelLayout.Proofs.Overlay.Bookkeeping

/-!
Tickets in flight. Between the operations on an overlay container tickets wait to be delivered,
those of other containers among them. Every waiting child has exactly one ticket of its current wait
in flight, and no other child has one: no retry is lost, and none is doubled.
-/
namespace PanelLayout.Overlay

/-- An overlay container, and the tickets that have been asked for and not delivered yet. -/
structure Scene where
  container : Container
  inFlight : List Scheduled

inductive Event where
  | edit (ctx : Context) (e : Edit)
  | deliver (ctx : Context) (r : Scheduled)
  | arrive (r : Scheduled)
  | depart (r : Scheduled)

namespace Scene

def start (ctx : Context) (widget : WidgetId) (style : Style) : Scene :=
  ⟨create ctx widget style, []⟩

def tickets (s : Scene) : List Ticket := s.inFlight.map Scheduled.ticket

def take (s : Scene) (out : Outcome) : Scene := ⟨out.container, s.inFlight ++ out.scheduled⟩

def deliver (ctx : Context) (s : Scene) (r : Scheduled) : Scene :=
  take ⟨s.container, s.inFlight.erase r⟩
    (outcomeOf s.container (resume ctx s.container r.ticket))

def after (s : Scene) : Event → Scene
  | .edit ctx e => s.take (outcomeOf s.container (e.apply ctx s.container))
  | .deliver ctx r => if r ∈ s.inFlight then s.deliver ctx r else s
  | .arrive r =>
    if r.ticket.container = s.container.widget then s else ⟨s.container, r :: s.inFlight⟩
  | .depart r =>
    if r.ticket.container = s.container.widget then s else ⟨s.container, s.inFlight.erase r⟩

def run (s : Scene) (events : List Event) : Scene := events.foldl after s

end Scene

structure Balanced (widget : WidgetId) (o : Overlay) (l : List Ticket) : Prop where
  issued : ∀ k ∈ l, k.container = widget → k.generation ≤ o.generation
  count : ∀ t ∈ o.tracked, l.count (t.ticket widget) = if t.phase = .waiting then 1 else 0

section
variable {widget : WidgetId} {o : Overlay} {l : List Ticket}

theorem Balanced.perm (h : Balanced widget o l) {l' : List Ticket} (hl : l.Perm l') :
    Balanced widget o l' :=
  ⟨fun k hk => h.issued k (hl.mem_iff.mpr hk), fun t ht => hl.count_eq _ ▸ h.count t ht⟩

theorem Balanced.restart (h : Balanced widget o l) (hs : o.Sorted) (child : WidgetId) :
    Balanced widget (o.restart child) l := by
  refine ⟨fun k hk hw => Nat.le_succ_of_le (h.issued k hk hw), fun t ht => ?_⟩
  rcases hs.mem_restart.mp ht with rfl | ⟨ht, _⟩
  · -- The new generation is ahead of everything in flight.
    refine List.count_eq_zero.mpr fun hk => ?_
    exact absurd (h.issued _ hk rfl) (Nat.not_succ_le_self o.generation)
  · exact h.count t ht

theorem Balanced.forget (h : Balanced widget o l) (child : WidgetId) :
    Balanced widget (o.forget child) l :=
  ⟨h.issued, fun t ht => h.count t (mem_forget.mp ht).1⟩

theorem ticket_ne {t u : Tracked} (hne : u.child ≠ t.child) : t.ticket widget ≠ u.ticket widget :=
  fun h => hne (congrArg Ticket.child h).symm

theorem count_asked (t : Tracked) (config : Config) :
    ((t.asked config widget).map Scheduled.ticket).count (t.ticket widget) =
      if t.phase = .waiting then 1 else 0 := by
  unfold Tracked.asked
  split_ifs <;> simp

theorem balanced_check (hs : o.Sorted) (hn : o.Numbered) {t : Tracked} (ht : t ∈ o.tracked)
    (hissued : ∀ k ∈ l, k.container = widget → k.generation ≤ o.generation)
    (hnone : l.count (t.ticket widget) = 0)
    (hothers : ∀ u ∈ o.tracked, u.child ≠ t.child →
      l.count (u.ticket widget) = if u.phase = .waiting then 1 else 0)
    (config : Config) (limit : Nat) (isReady : Bool) :
    Balanced widget (o.put (t.check limit isReady))
      (l ++ ((t.check limit isReady).asked config widget).map Scheduled.ticket) := by
  have hasked : ∀ k ∈ ((t.check limit isReady).asked config widget).map Scheduled.ticket,
      k = t.ticket widget := by
    intro k hk
    obtain ⟨r, hr, rfl⟩ := List.mem_map.mp hk
    exact (Tracked.mem_asked hr).trans (t.check_ticket limit isReady widget)
  constructor
  · intro k hk hw
    rcases List.mem_append.mp hk with hk | hk
    · exact hissued k hk hw
    · rw [hasked k hk]
      exact hn.le t ht
  · intro u hu
    rw [List.count_append]
    rcases hs.mem_put.mp hu with rfl | ⟨hu, hne⟩
    · have hself : l.count ((t.check limit isReady).ticket widget) = 0 := hnone
      rw [hself, Nat.zero_add]
      exact count_asked _ config
    · have hzero : (((t.check limit isReady).asked config widget).map Scheduled.ticket).count
          (u.ticket widget) = 0 :=
        List.count_eq_zero.mpr fun hk => ticket_ne hne (hasked _ hk).symm
      rw [hzero, Nat.add_zero]
      exact hothers u hu hne

theorem Moves.balanced {config : Config} {o' : Overlay} {asked : List Scheduled}
    (hm : Moves config widget o asked o') (hs : o.Sorted) (hn : o.Numbered)
    (h : Balanced widget o l) : Balanced widget o' (l ++ asked.map Scheduled.ticket) := by
  induction hm with
  | none => simpa using h
  | restart child hm ih => exact ih.restart (hm.sorted hs) child
  | forget child _ ih => exact ih.forget child
  | check isReady hm ht hp ih =>
    rw [List.map_append, ← List.append_assoc]
    refine balanced_check (hm.sorted hs) (stable_numbered.moves hm hs hn) ht ih.issued ?_
      (fun u hu _ => ih.count u hu) config _ _
    rw [ih.count _ ht, hp]
    rfl

theorem Balanced.drop {k : Ticket} (h : Balanced widget o (k :: l))
    (hstale : ∀ t ∈ o.tracked, t.phase = .waiting → k ≠ t.ticket widget) : Balanced widget o l := by
  refine ⟨fun k' hk' => h.issued k' (List.mem_cons_of_mem _ hk'), fun t ht => ?_⟩
  have hcount := h.count t ht
  split_ifs at hcount ⊢ with hp
  · rwa [List.count_cons_of_ne (hstale t ht hp)] at hcount
  · exact Nat.eq_zero_of_le_zero (hcount ▸ List.count_le_count_cons)

theorem Balanced.waiting_of_mem (h : Balanced widget o l) {t : Tracked} (ht : t ∈ o.tracked)
    (hl : t.ticket widget ∈ l) : t.phase = .waiting := by
  by_contra hp
  have hcount := h.count t ht
  rw [if_neg hp] at hcount
  exact List.count_eq_zero.mp hcount hl

theorem Balanced.foreign {k : Ticket} (h : Balanced widget o l) (hk : k.container ≠ widget) :
    Balanced widget o (k :: l) := by
  constructor
  · intro k' hk' hw
    rcases List.mem_cons.mp hk' with rfl | hk'
    · exact absurd hw hk
    · exact h.issued k' hk' hw
  · intro t ht
    rw [List.count_cons_of_ne fun heq => hk (congrArg Ticket.container heq)]
    exact h.count t ht

theorem Balanced.check {t : Tracked} (hs : o.Sorted) (hn : o.Numbered) (ht : t ∈ o.tracked)
    (hp : t.phase = .waiting) (h : Balanced widget o (t.ticket widget :: l)) (config : Config)
    (limit : Nat) (isReady : Bool) :
    Balanced widget (o.put (t.check limit isReady))
      (l ++ ((t.check limit isReady).asked config widget).map Scheduled.ticket) := by
  refine balanced_check hs hn ht (fun k hk => h.issued k (List.mem_cons_of_mem _ hk)) ?_
    (fun u hu hne => ?_) config _ _
  · have hcount := h.count t ht
    rw [List.count_cons_self, if_pos hp] at hcount
    exact Nat.succ.inj hcount
  · rw [← h.count u hu, List.count_cons_of_ne (ticket_ne hne)]

end

namespace Scene

structure Kept (s : Scene) (widget : WidgetId) (o : Overlay) : Prop where
  widget_eq : s.container.widget = widget
  kept : Overlay.Kept s.container o
  balanced : Balanced widget o s.tickets

theorem tickets_take (s : Scene) (out : Outcome) :
    (s.take out).tickets = s.tickets ++ out.scheduled.map Scheduled.ticket := List.map_append

theorem Kept.perm {s : Scene} {widget : WidgetId} {o : Overlay} (h : s.Kept widget o)
    {queue : List Scheduled} (hq : s.inFlight.Perm queue) : Kept ⟨s.container, queue⟩ widget o :=
  ⟨h.widget_eq, h.kept, h.balanced.perm (hq.map _)⟩

theorem kept_start (ctx : Context) (widget : WidgetId) (style : Style) :
    (start ctx widget style).Kept widget initial :=
  ⟨rfl, kept_create ctx widget style, by simp [tickets, start], by simp [initial]⟩

theorem Kept.edit {s : Scene} {widget : WidgetId} {o : Overlay} (h : s.Kept widget o)
    (ctx : Context) (e : Edit) :
    (s.after (.edit ctx e)).Kept widget (e.board ctx s.container o).1.overlay := by
  obtain ⟨rfl, hk, hb⟩ := h
  have hfollows := e.follows ctx s.container hk.sorted hk.unchecked
  refine ⟨?_, hk.edit e ctx, ?_⟩
  · rw [after, hk.edit_eq]
    exact hfollows.widget_eq
  · rw [after, tickets_take, hk.edit_eq]
    exact hfollows.moves.balanced hk.sorted hk.numbered hb

theorem Kept.deliver_head {c : Container} {r : Scheduled} {rest : List Scheduled}
    {widget : WidgetId} {o : Overlay} (h : Kept ⟨c, r :: rest⟩ widget o) (ctx : Context) :
    (resume ctx c r.ticket = .ok c.unscheduled ∧ Kept ⟨c, rest⟩ widget o ∧
        ∀ t ∈ o.tracked, r.ticket ≠ t.ticket widget) ∨
      ∃ t ∈ o.tracked, t.phase = .waiting ∧ r.ticket = t.ticket widget ∧
        ∃ out, resume ctx c r.ticket = .ok out ∧
          out.scheduled = (checked ctx c t).asked ctx.config widget ∧
          Kept ⟨out.container, rest ++ out.scheduled⟩ widget (o.put (checked ctx c t)) := by
  obtain ⟨rfl, hk, hb⟩ := h
  rcases hk.toRests.resume_cases ctx r.ticket with ⟨hres, hstale⟩ | ⟨t, ht, hp, hr⟩
  · have hnone : ∀ t ∈ o.tracked, r.ticket ≠ t.ticket c.widget := by
      intro t ht heq
      have hmem : t.ticket c.widget ∈ tickets ⟨c, r :: rest⟩ := heq ▸ List.mem_cons_self
      exact hstale t ht (hb.waiting_of_mem ht hmem) heq
    exact .inl ⟨hres, ⟨rfl, hk, hb.drop hstale⟩, hnone⟩
  · obtain ⟨b, hres, hover, hstyles, hw⟩ := hk.toRests.resume_ticket ctx ht hp
    refine .inr ⟨t, ht, hp, hr, _, hr ▸ hres, rfl, hw, hk.check ctx ht hover hstyles
      ((checked ctx c t).asked ctx.config c.widget), ?_⟩
    have hb' : Balanced c.widget o (t.ticket c.widget :: rest.map Scheduled.ticket) := hr ▸ hb
    have hnext := hb'.check hk.sorted hk.numbered ht hp ctx.config ctx.config.attemptLimit
      (isReady ctx c t.child)
    rw [tickets, List.map_append]
    exact hnext

theorem Kept.deliver {s : Scene} {widget : WidgetId} {o : Overlay} (h : s.Kept widget o)
    (ctx : Context) {r : Scheduled} (hr : r ∈ s.inFlight) :
    ∃ o', (s.deliver ctx r).Kept widget o' := by
  unfold Scene.deliver
  -- The order of what is in flight does not matter, so the ticket may stand at the head.
  rcases (h.perm (List.perm_cons_erase hr)).deliver_head ctx with
    ⟨hres, hk, _⟩ | ⟨t, _, _, _, out, hres, _, hk⟩
  · rw [hres]
    exact ⟨o, by simpa [outcomeOf, take, Container.unscheduled] using hk⟩
  · rw [hres]
    exact ⟨_, hk⟩

theorem Kept.after {s : Scene} {widget : WidgetId} {o : Overlay} (h : s.Kept widget o)
    (event : Event) : ∃ o', (s.after event).Kept widget o' := by
  cases event with
  | edit ctx e => exact ⟨_, h.edit ctx e⟩
  | deliver ctx r =>
    rw [Scene.after]
    split_ifs with hr
    · exact h.deliver ctx hr
    · exact ⟨o, h⟩
  | arrive r =>
    rw [Scene.after]
    split_ifs with hw
    · exact ⟨o, h⟩
    · exact ⟨o, h.widget_eq, h.kept, h.balanced.foreign (h.widget_eq ▸ hw)⟩
  | depart r =>
    rw [Scene.after]
    split_ifs with hw
    · exact ⟨o, h⟩
    · by_cases hr : r ∈ s.inFlight
      · obtain ⟨hwidget, hk, hb⟩ := h.perm (List.perm_cons_erase hr)
        have hforeign : ∀ t ∈ o.tracked, t.phase = .waiting → r.ticket ≠ t.ticket widget := by
          intro t _ _ heq
          have hcontainer : r.ticket.container = widget := congrArg Ticket.container heq
          exact hw (hcontainer.trans hwidget.symm)
        exact ⟨o, hwidget, hk, hb.drop hforeign⟩
      · rw [List.erase_of_not_mem hr]
        exact ⟨o, h⟩

theorem run_kept (ctx : Context) (widget : WidgetId) (style : Style) (events : List Event) :
    ∃ o, ((start ctx widget style).run events).Kept widget o := by
  have hrun : ∀ s : Scene, (∃ o, s.Kept widget o) → ∃ o, (s.run events).Kept widget o := by
    induction events with
    | nil => exact fun s h => h
    | cons event events ih =>
      rintro s ⟨o, h⟩
      exact ih (s.after event) (h.after event)
  exact hrun _ ⟨initial, kept_start ctx widget style⟩

/-- After every event each waiting child has exactly one ticket of its current wait in flight, and
each child that has been placed or given up has none. -/
theorem run_in_flight (ctx : Context) (widget : WidgetId) (style : Style) (events : List Event) :
    ∃ o, ((start ctx widget style).run events).container.layout = .overlay o ∧
      ∀ t ∈ o.tracked,
        (t.phase = .waiting →
          ((start ctx widget style).run events).tickets.count ⟨widget, t.child, t.generation⟩ = 1) ∧
        (t.phase = .applied ∨ t.phase = .abandoned →
          ((start ctx widget style).run events).tickets.count
            ⟨widget, t.child, t.generation⟩ = 0) := by
  obtain ⟨o, h⟩ := run_kept ctx widget style events
  refine ⟨o, h.kept.layout_eq, fun t ht => ⟨fun hp => ?_, fun hp => ?_⟩⟩
  · exact (h.balanced.count t ht).trans (if_pos hp)
  · have hwait : t.phase ≠ .waiting := by
      rcases hp with hp | hp <;> rw [hp] <;> decide
    exact (h.balanced.count t ht).trans (if_neg hwait)

theorem run_in_flight_waiting :
    let measured : Context := ⟨.standard, .standard, fun _ => ⟨100, 50⟩⟩
    let s := (start unmeasured ⟨1⟩ .empty).run
      [.edit measured (.append ⟨2⟩ pinned), .edit unmeasured (.append ⟨3⟩ pinned)]
    ∃ o, s.container.layout = .overlay o ∧
      o.tracked = [⟨⟨2⟩, .applied, 1, 1⟩, ⟨⟨3⟩, .waiting, 2, 1⟩] ∧
      s.tickets.count ⟨⟨1⟩, ⟨2⟩, 1⟩ = 0 ∧ s.tickets.count ⟨⟨1⟩, ⟨3⟩, 2⟩ = 1 := by
  intro measured s
  have hlayout : s.container.layout =
      .overlay ⟨[⟨⟨2⟩, .applied, 1, 1⟩, ⟨⟨3⟩, .waiting, 2, 1⟩], 2⟩ := by
    decide +kernel
  obtain ⟨o, ho, h⟩ := run_in_flight unmeasured ⟨1⟩ .empty
    [.edit measured (.append ⟨2⟩ pinned), .edit unmeasured (.append ⟨3⟩ pinned)]
  obtain rfl := Layout.overlay.inj (hlayout.symm.trans ho)
  exact ⟨_, ho, rfl, (h _ List.mem_cons_self).2 (.inl rfl),
    (h _ (List.mem_cons_of_mem _ List.mem_cons_self)).1 rfl⟩

end Scene

end PanelLayout.Overlay
