import PanelLayout.Proofs.Overlay.Bookkeeping

/-!
Cancelled tickets. Once the child of a ticket has been removed, restyled, appended again or
restarted with its container, the ticket changes nothing any more, whatever comes after.
-/
namespace PanelLayout.Overlay

/-- No entry goes by a ticket any more, and no generation still to come does. -/
structure Expired (ticket : Ticket) (o : Overlay) : Prop where
  le : ticket.generation ≤ o.generation
  ne : ∀ t ∈ o.tracked, t.child = ticket.child → t.generation ≠ ticket.generation

theorem stable_expired (ticket : Ticket) : Stable (Expired ticket) where
  restart {o} hs child h := by
    refine ⟨Nat.le_succ_of_le h.le, fun t ht hc => ?_⟩
    rcases hs.mem_restart.mp ht with rfl | ⟨ht, _⟩
    · exact (Nat.lt_succ_of_le h.le).ne'
    · exact h.ne t ht hc
  forget child h := ⟨h.le, fun t ht => h.ne t (mem_forget.mp ht).1⟩
  check {o t} hs ht limit isReady h := by
    refine ⟨h.le, fun u hu hc => ?_⟩
    rcases hs.mem_put.mp hu with rfl | ⟨hu, _⟩
    · exact h.ne t ht hc
    · exact h.ne u hu hc

theorem stable_le_generation (n : Nat) : Stable fun o => n ≤ o.generation where
  restart _ _ h := Nat.le_succ_of_le h
  forget _ h := h
  check _ _ _ _ h := h

theorem expired_of_not_tracks {ticket : Ticket} {o : Overlay}
    (hle : ticket.generation ≤ o.generation) (h : ¬o.Tracks ticket.child) : Expired ticket o :=
  ⟨hle, fun t ht hc => absurd ⟨t, ht, hc⟩ h⟩

theorem expired_forget {ticket : Ticket} {o : Overlay} (hle : ticket.generation ≤ o.generation) :
    Expired ticket (o.forget ticket.child) :=
  expired_of_not_tracks hle fun h => (tracks_forget.mp h).2 rfl

theorem expired_restart {ticket : Ticket} {o : Overlay} (hs : o.Sorted)
    (hle : ticket.generation ≤ o.generation) : Expired ticket (o.restart ticket.child) := by
  refine ⟨Nat.le_succ_of_le hle, fun t ht hc => ?_⟩
  rcases hs.mem_restart.mp ht with rfl | ⟨_, hne⟩
  · exact (Nat.lt_succ_of_le hle).ne'
  · exact absurd hc hne

theorem expired_foldl_restart {ticket : Ticket} {o : Overlay} {children : List WidgetId}
    (hs : o.Sorted) (hle : ticket.generation ≤ o.generation)
    (h : ticket.child ∈ children ∨ Expired ticket o) :
    Expired ticket (children.foldl Overlay.restart o) := by
  induction children generalizing o with
  | nil => exact h.resolve_left List.not_mem_nil
  | cons child children ih =>
    -- The first restart is that of the child of the ticket, or keeps what holds of the others.
    refine ih (hs.restart child) (Nat.le_succ_of_le hle) ?_
    rcases h with hmem | hexp
    · rcases List.mem_cons.mp hmem with rfl | hmem
      · exact .inr (expired_restart hs hle)
      · exact .inl hmem
    · exact .inr ((stable_expired ticket).restart hs child hexp)

theorem Stable.attempt {Q : Overlay → Prop} (hQ : Stable Q) (ctx : Context) {b : Board}
    (hs : b.overlay.Sorted) (child : WidgetId) (hq : Q b.overlay) :
    Q (attempt ctx b child).1.overlay := by
  by_cases ht : b.overlay.Tracks child
  · obtain ⟨t, ht, rfl⟩ := ht
    rw [attempt_eq ctx hs ht]
    exact hQ.check hs ht _ _ hq
  · rw [attempt_of_not_tracks ctx ht]
    exact hq

theorem Stable.attemptAll {Q : Overlay → Prop} (hQ : Stable Q) (ctx : Context) {b : Board}
    (hs : b.overlay.Sorted) (children : List WidgetId) (hq : Q b.overlay) :
    Q (attemptAll ctx b children).1.overlay := by
  induction children generalizing b with
  | nil => exact hq
  | cons child children ih =>
    exact ih (attempt_sorted ctx hs child) (hQ.attempt ctx hs child hq)

theorem expired_track {ticket : Ticket} (ctx : Context) {b : Board} (hs : b.overlay.Sorted)
    (hle : ticket.generation ≤ b.overlay.generation)
    (hnone : b.container.child? ticket.child = none → ¬b.overlay.Tracks ticket.child) :
    Expired ticket (track ctx b ticket.child).1.overlay := by
  unfold track
  cases hf : b.container.child? ticket.child with
  | none => exact expired_of_not_tracks hle (hnone hf)
  | some node =>
    dsimp only
    split_ifs
    · exact (stable_expired ticket).attempt ctx (b := b.restart ticket.child)
        (hs.restart ticket.child) ticket.child (expired_restart hs hle)
    · exact expired_forget hle

def Edit.Concerns (child : WidgetId) : Edit → Prop
  | append w _ => w = child
  | updateChild w _ => w = child
  | remove w => w = child
  | update _ _ => True

theorem Kept.expired_board {c : Container} {o : Overlay} (h : Kept c o) {ticket : Ticket}
    (hle : ticket.generation ≤ o.generation) {e : Edit} (he : e.Concerns ticket.child)
    (ctx : Context) {out : Outcome} (hout : e.apply ctx c = .ok out) :
    Expired ticket (e.board ctx c o).1.overlay := by
  cases e with
  | append child style =>
    obtain rfl : child = ticket.child := he
    rw [Edit.apply, append_eq h.layout_eq, Container.insert_back] at hout
    rw [Edit.board]
    split_ifs at hout ⊢ with hhas
    · simp [Except.map] at hout
    · have hnew : c.has ticket.child = false := Bool.eq_false_iff.mpr hhas
      have huntracked : ¬o.Tracks ticket.child := h.not_tracks (Container.has_eq_false.mp hnew)
      exact expired_track ctx (b := ⟨c.push ticket.child style _, o⟩) h.sorted hle
        fun _ => huntracked
  | updateChild child changed =>
    obtain rfl : child = ticket.child := he
    refine expired_track ctx (b := ⟨c.restyle ticket.child changed _, o⟩) h.sorted hle ?_
    intro hnone
    exact h.not_tracks (Container.child?_restyle_eq_none.mp hnone)
  | remove child =>
    obtain rfl : child = ticket.child := he
    exact expired_forget hle
  | update old changed =>
    have hrestarted : Expired ticket o.restartAll := by
      refine expired_foldl_restart h.sorted hle ?_
      by_cases ht : o.Tracks ticket.child
      · exact .inl (mem_children_iff.mpr ht)
      · exact .inr (expired_of_not_tracks hle ht)
    exact (stable_expired ticket).attemptAll ctx (b := ⟨c, o.restartAll⟩)
      (foldl_restart_sorted h.sorted _) _ hrestarted

theorem Moves.generation_le {config : Config} {widget : WidgetId} {o o' : Overlay}
    {l : List Scheduled} (h : Moves config widget o l o') (hs : o.Sorted) (hn : o.Numbered) :
    ∀ s ∈ l, s.ticket.generation ≤ o'.generation := by
  induction h with
  | none => simp
  | restart child _ ih => exact fun s hmem => Nat.le_succ_of_le (ih s hmem)
  | forget child _ ih => exact ih
  | check isReady hm ht _ ih =>
    have hnumbered := stable_numbered.moves hm hs hn
    intro s hmem
    rcases List.mem_append.mp hmem with hmem | hmem
    · exact ih s hmem
    · have hle := hnumbered.le _ ht
      rw [Tracked.mem_asked hmem]
      exact hle

theorem Kept.step_generation_le {c : Container} {o : Overlay} (h : Kept c o) (s : Step) :
    ∃ o', Kept (s.outcome c).container o' ∧
      ∀ r ∈ (s.outcome c).scheduled, r.ticket.generation ≤ o'.generation := by
  rcases h.step s with ⟨o', hk, hm | ⟨t, ht, _, rfl, hl⟩⟩
  · exact ⟨o', hk, hm.generation_le h.sorted h.numbered⟩
  · refine ⟨_, hk, fun r hr => ?_⟩
    rw [hl] at hr
    rw [Tracked.mem_asked hr]
    exact h.numbered.le t ht

/-- A ticket whose child has been removed, restyled, appended again or restarted since it was asked
for is answered without any change, at every later moment of the run and as often as it comes:
the steps that follow may deliver it themselves. -/
theorem resume_cancelled (ctx : Context) (widget : WidgetId) (style : Style)
    (before between after : List Step) (asking : Step) (ticket : Ticket)
    (hasked : ticket ∈
      (asking.outcome (run (create ctx widget style) before)).scheduled.map Scheduled.ticket)
    {e : Edit} (he : e.Concerns ticket.child) (ctx' : Context) {out : Outcome}
    (hout : e.apply ctx' (run (create ctx widget style) (before ++ asking :: between)) = .ok out)
    (ctx'' : Context) :
    resume ctx'' (run out.container after) ticket = .ok (run out.container after).unscheduled := by
  -- The generation of the ticket has been given out when it is asked for, and stays so.
  obtain ⟨o, hk, _⟩ := stable_numbered.run (kept_create ctx widget style) numbered_initial before
  obtain ⟨o, hk, hasked'⟩ := hk.step_generation_le asking
  have hle : ticket.generation ≤ o.generation := by
    obtain ⟨r, hr, rfl⟩ := List.mem_map.mp hasked
    exact hasked' r hr
  obtain ⟨o, hk, hle⟩ := (stable_le_generation ticket.generation).run hk hle between
  rw [run_append, run] at hout
  -- The edit makes the ticket expire, and no step revives it.
  have hexpired := hk.expired_board hle he ctx' hout
  have hk := hk.edit e ctx'
  rw [hout] at hk
  obtain ⟨o, hk, hexpired⟩ := (stable_expired ticket).run hk hexpired after
  refine hk.toRests.resume_stale ctx'' fun t ht _ hticket => ?_
  subst hticket
  exact hexpired.ne t ht rfl rfl

theorem resume_cancelled_removed :
    ∃ out, Edit.apply unmeasured
        (run (create unmeasured ⟨1⟩ .empty) [⟨unmeasured, .edit (.append ⟨2⟩ pinned)⟩])
        (.remove ⟨2⟩) = .ok out ∧
      resume unmeasured (run out.container [⟨unmeasured, .edit (.append ⟨2⟩ pinned)⟩])
          ⟨⟨1⟩, ⟨2⟩, 1⟩ =
        .ok (run out.container [⟨unmeasured, .edit (.append ⟨2⟩ pinned)⟩]).unscheduled :=
  ⟨_, rfl, resume_cancelled unmeasured ⟨1⟩ .empty [] [] _
    ⟨unmeasured, .edit (.append ⟨2⟩ pinned)⟩ ⟨⟨1⟩, ⟨2⟩, 1⟩ (by decide) (e := .remove ⟨2⟩) rfl
    unmeasured rfl unmeasured⟩

end PanelLayout.Overlay
