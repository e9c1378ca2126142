import Mathlib.Algebra.Ring.Nat
import Mathlib.Data.Nat.Find
import PanelLayout.Proofs.Overlay.Checks
import PanelLayout.Proofs.Overlay.Flight

/-!
The loop that delivers queued tickets until none is left. Each delivery takes a ticket from the
queue and puts at most one back, which then stands for one check less to come; so the loop ends, and
it ends with every tracked child placed or given up.
-/
namespace PanelLayout

def Tracked.remaining (limit : Nat) (t : Tracked) : Nat :=
  if t.phase = .waiting then limit - 1 - t.attempts else 0

theorem Tracked.asked_add_remaining_le {t : Tracked} (hp : t.phase = .waiting) (limit : Nat)
    (isReady : Bool) (config : Config) (widget : WidgetId) :
    ((t.check limit isReady).asked config widget).length +
      (t.check limit isReady).remaining limit ≤ t.remaining limit := by
  unfold asked remaining
  rw [if_pos hp]
  cases isReady with
  | true => simp [check]
  | false =>
    by_cases hlast : limit ≤ t.attempts + 1
    · simp [check, hlast]
    · simp [check, hlast]
      omega

theorem Tracked.sum_insert (f : Tracked → Nat) {t u : Tracked} (hc : u.child = t.child)
    {es : List Tracked} (hs : es.Pairwise Below) (ht : t ∈ es) :
    ((u.insert es).map f).sum + f t = (es.map f).sum + f u := by
  induction es with
  | nil => exact absurd ht List.not_mem_nil
  | cons e es ih =>
    obtain ⟨he, hes⟩ := List.pairwise_cons.mp hs
    simp only [insert]
    split_ifs with same before
    · have htop : t = e := by
        refine (List.mem_cons.mp ht).resolve_right fun hmem => ?_
        exact (he t hmem).child_ne (hc.symm.trans same.symm)
      subst htop
      simp only [List.map_cons, List.sum_cons]
      omega
    · -- All entries lie above the new one, so none is of its child.
      have hraw : e.child.raw ≤ t.child.raw := by
        rcases List.mem_cons.mp ht with rfl | hmem
        · exact le_rfl
        · exact (he t hmem).le
      rw [← hc] at hraw
      omega
    · have hmem : t ∈ es :=
        (List.mem_cons.mp ht).resolve_left fun htop => same (htop ▸ hc.symm)
      have hsum := ih hes hmem
      simp only [List.map_cons, List.sum_cons]
      omega

namespace Overlay

def remaining (limit : Nat) (o : Overlay) : Nat := (o.tracked.map (Tracked.remaining limit)).sum

theorem remaining_put {o : Overlay} (hs : o.Sorted) {t u : Tracked} (ht : t ∈ o.tracked)
    (hc : u.child = t.child) (limit : Nat) :
    (o.put u).remaining limit + t.remaining limit = o.remaining limit + u.remaining limit :=
  Tracked.sum_insert (Tracked.remaining limit) hc hs ht

namespace Scene

def turn (ctx : Context) (s : Scene) : Scene :=
  match s.inFlight with
  | [] => s
  | r :: rest =>
    take ⟨s.container, rest⟩ (outcomeOf s.container (resume ctx s.container r.ticket))

def drain (probe : Nat → Context) (s : Scene) : Nat → Scene
  | 0 => s
  | n + 1 => turn (probe n) (drain probe s n)

def delivered (probe : Nat → Context) (s : Scene) : Nat → List (Context × Ticket)
  | 0 => []
  | n + 1 =>
    delivered probe s n ++
      ((s.drain probe n).inFlight.head?.map fun r => (probe n, r.ticket)).toList

def met (probe : Nat → Context) (s : Scene) (ticket : Ticket) (n : Nat) : List Context :=
  ((delivered probe s n).filter fun d => d.2 = ticket).map Prod.fst

/-- The loop stops after `n` deliveries, none of which is refused. -/
structure Drains (probe : Nat → Context) (s : Scene) (n : Nat) : Prop where
  delivers : ∀ m < n, ∃ r rest out, (s.drain probe m).inFlight = r :: rest ∧
    resume (probe m) (s.drain probe m).container r.ticket = .ok out ∧
    s.drain probe (m + 1) = ⟨out.container, rest ++ out.scheduled⟩
  stops : (s.drain probe n).inFlight = []

def Settled (s : Scene) : Prop :=
  ∃ o, s.container.layout = .overlay o ∧ ∀ t ∈ o.tracked, t.phase = .applied ∨ t.phase = .abandoned

/-- How the child of a ticket stands after `n` turns, if its first check has met `first` and its
check `k` is the first good one: it is placed and `k - 1` tickets have been delivered to it, or it
is given up and so many tickets as there may be have been. -/
def Decided (limit : Nat) (first : Context) (probe : Nat → Context) (s : Scene) (ticket : Ticket)
    (n : Nat) : Prop :=
  ∃ o, (s.drain probe n).container.layout = .overlay o ∧
    ∃ t ∈ o.tracked, t.ticket ticket.container = ticket ∧
      ∀ k, 1 ≤ k →
        FirstGood k ((first :: s.met probe ticket n).map fun ctx =>
          ctx.knows ticket.container ticket.child) →
        (k ≤ limit → t.phase = .applied ∧ (s.met probe ticket n).length = k - 1) ∧
          (limit < k → t.phase = .abandoned ∧ (s.met probe ticket n).length = limit - 1)

theorem turn_eq {s : Scene} {ctx : Context} {r : Scheduled} {rest : List Scheduled}
    (hq : s.inFlight = r :: rest) {out : Outcome}
    (hres : resume ctx s.container r.ticket = .ok out) :
    s.turn ctx = ⟨out.container, rest ++ out.scheduled⟩ := by
  simp only [turn, hq, hres]
  rfl

theorem Kept.turn {s : Scene} {widget : WidgetId} {o : Overlay} (h : s.Kept widget o)
    (ctx : Context) {r : Scheduled} {rest : List Scheduled} (hq : s.inFlight = r :: rest) :
    ∃ out o', resume ctx s.container r.ticket = .ok out ∧ (s.turn ctx).Kept widget o' ∧
      (s.turn ctx).inFlight.length + o'.remaining ctx.config.attemptLimit + 1 ≤
        s.inFlight.length + o.remaining ctx.config.attemptLimit := by
  obtain ⟨c, q⟩ := s
  obtain rfl : q = r :: rest := hq
  rcases h.deliver_head ctx with ⟨hres, hk, _⟩ | ⟨t, ht, hp, hr, out, hres, hasked, hk⟩
  · refine ⟨_, o, hres, ?_⟩
    rw [turn_eq rfl hres, Container.unscheduled, List.append_nil]
    refine ⟨hk, ?_⟩
    simp only [List.length_cons]
    omega
  · refine ⟨out, o.put (checked ctx c t), hres, ?_⟩
    rw [turn_eq rfl hres]
    refine ⟨hk, ?_⟩
    have hput := remaining_put h.kept.sorted ht (t.check_child ctx.config.attemptLimit
      (isReady ctx c t.child)) ctx.config.attemptLimit
    have hcheck := Tracked.asked_add_remaining_le hp ctx.config.attemptLimit
      (isReady ctx c t.child) ctx.config widget
    simp only [hasked, checked, List.length_append, List.length_cons]
    omega

def metNow (ctx : Context) (s : Scene) (ticket : Ticket) : List Context :=
  if s.inFlight.head?.map Scheduled.ticket = some ticket then [ctx] else []

theorem met_succ (probe : Nat → Context) (s : Scene) (ticket : Ticket) (n : Nat) :
    s.met probe ticket (n + 1) =
      s.met probe ticket n ++ (s.drain probe n).metNow (probe n) ticket := by
  rw [met, met, delivered, metNow, List.filter_append, List.map_append]
  cases (s.drain probe n).inFlight with
  | nil => rfl
  | cons r rest => by_cases hr : r.ticket = ticket <;> simp [hr]

theorem Kept.turn_history {s : Scene} {widget : WidgetId} {o : Overlay} (h : s.Kept widget o)
    {t : Tracked} (ht : t ∈ o.tracked) {ctx : Context} {config : Config}
    (hctx : ctx.config = config) {results : List Bool}
    (hh : t.History config.attemptLimit results) :
    ∃ o' t', (s.turn ctx).Kept widget o' ∧ t' ∈ o'.tracked ∧
      t'.ticket widget = t.ticket widget ∧
      t'.History config.attemptLimit
        (results ++ (s.metNow ctx (t.ticket widget)).map fun ctx => ctx.knows widget t.child) := by
  subst hctx
  obtain ⟨c, queue⟩ := s
  cases queue with
  | nil => exact ⟨o, t, h, ht, rfl, by simpa [metNow] using hh⟩
  | cons r rest =>
    have hs := h.kept.sorted
    rcases h.deliver_head ctx with ⟨hres, hk, hne⟩ | ⟨u, hu, hp, hr, out, hres, _, hk⟩
    · rw [turn_eq rfl hres, Container.unscheduled, List.append_nil]
      exact ⟨o, t, hk, ht, rfl, by simpa [metNow, hne t ht] using hh⟩
    · rw [turn_eq rfl hres]
      -- The turn checks one entry: that of the child, or another one.
      by_cases hc : t.child = u.child
      · obtain rfl := hs.eq_of_child ht hu hc
        refine ⟨_, checked ctx c t, hk, hs.mem_put.mpr (.inl rfl), rfl, ?_⟩
        have hready : isReady ctx c t.child = ctx.knows widget t.child :=
          isReady_eq_knows ctx h.widget_eq t.child
        have hnext := hh.check (one_le_attemptLimit ctx.config) (.inr hp) (isReady ctx c t.child)
        simpa [metNow, hr, checked, hready] using hnext
      · have hother : r.ticket ≠ t.ticket widget := fun heq => ticket_ne hc (hr.symm.trans heq)
        exact ⟨_, t, hk, hs.mem_put.mpr (.inr ⟨ht, hc⟩), rfl, by simpa [metNow, hother] using hh⟩

section
variable {s : Scene} {widget : WidgetId} {o : Overlay} {config : Config} {probe : Nat → Context}

theorem Kept.drain_add_le (h : s.Kept widget o) (hprobe : ∀ i, (probe i).config = config) {n : Nat}
    (hne : ∀ m < n, (s.drain probe m).inFlight ≠ []) :
    ∃ o', (s.drain probe n).Kept widget o' ∧
      (s.drain probe n).inFlight.length + o'.remaining config.attemptLimit + n ≤
        s.inFlight.length + o.remaining config.attemptLimit := by
  -- Every turn takes one from the tickets in flight and the checks that may follow on them.
  induction n with
  | zero => exact ⟨o, h, le_rfl⟩
  | succ n ih =>
    obtain ⟨o₁, h₁, hle⟩ := ih fun m hm => hne m (Nat.lt_succ_of_lt hm)
    obtain ⟨r, rest, hq⟩ := List.exists_cons_of_ne_nil (hne n (Nat.lt_succ_self n))
    obtain ⟨_, o₂, _, h₂, hle'⟩ := h₁.turn (probe n) hq
    refine ⟨o₂, h₂, ?_⟩
    rw [hprobe n] at hle'
    simp only [drain]
    omega

theorem Kept.drains (h : s.Kept widget o) (hprobe : ∀ i, (probe i).config = config) :
    ∃ n ≤ s.inFlight.length + o.remaining config.attemptLimit, s.Drains probe n ∧
      ∃ o', (s.drain probe n).Kept widget o' := by
  have hstop : ∃ n, (s.drain probe n).inFlight = [] := by
    by_contra hnever
    rw [not_exists] at hnever
    -- So many turns would use up more deliveries than there are.
    obtain ⟨_, _, hle⟩ := h.drain_add_le hprobe
      (n := s.inFlight.length + o.remaining config.attemptLimit + 1) fun m _ => hnever m
    omega
  classical
  have hne : ∀ m < Nat.find hstop, (s.drain probe m).inFlight ≠ [] := fun m => Nat.find_min hstop
  obtain ⟨o', hk, hle⟩ := h.drain_add_le hprobe hne
  refine ⟨Nat.find hstop, by omega, ⟨fun m hm => ?_, Nat.find_spec hstop⟩, o', hk⟩
  obtain ⟨o₁, h₁, _⟩ := h.drain_add_le hprobe fun m' hm' => hne m' (hm'.trans hm)
  obtain ⟨r, rest, hq⟩ := List.exists_cons_of_ne_nil (hne m hm)
  obtain ⟨out, _, hres, _⟩ := h₁.turn (probe m) hq
  exact ⟨r, rest, out, hq, hres, turn_eq hq hres⟩

theorem Kept.not_waiting (h : s.Kept widget o) (hq : s.inFlight = []) :
    ∀ t ∈ o.tracked, t.phase = .applied ∨ t.phase = .abandoned := by
  intro t ht
  have hcount := h.balanced.count t ht
  rw [tickets, hq] at hcount
  cases hp : t.phase with
  | notScheduled => exact absurd ((h.kept.unchecked t ht).mp hp) List.not_mem_nil
  | waiting => simp [hp] at hcount
  | applied => exact .inl rfl
  | abandoned => exact .inr rfl

theorem Kept.settled (h : s.Kept widget o) (hq : s.inFlight = []) : s.Settled :=
  ⟨o, h.kept.layout_eq, h.not_waiting hq⟩

theorem Kept.drain_history (h : s.Kept widget o) (hprobe : ∀ i, (probe i).config = config)
    {t : Tracked} (ht : t ∈ o.tracked) {results : List Bool}
    (hh : t.History config.attemptLimit results) (n : Nat) :
    ∃ o' t', (s.drain probe n).Kept widget o' ∧ t' ∈ o'.tracked ∧
      t'.ticket widget = t.ticket widget ∧
      t'.History config.attemptLimit
        (results ++ (s.met probe (t.ticket widget) n).map fun ctx => ctx.knows widget t.child) := by
  induction n with
  | zero => exact ⟨o, t, h, ht, rfl, by simpa [met, delivered] using hh⟩
  | succ n ih =>
    obtain ⟨o₁, t₁, h₁, ht₁, hticket, hh₁⟩ := ih
    obtain ⟨o₂, t₂, h₂, ht₂, hticket', hh₂⟩ := h₁.turn_history ht₁ (hprobe n) hh₁
    have hchild : t₁.child = t.child := congrArg Ticket.child hticket
    refine ⟨o₂, t₂, h₂, ht₂, hticket'.trans hticket, ?_⟩
    rw [hchild, hticket] at hh₂
    rwa [met_succ, List.map_append, ← List.append_assoc]

theorem Kept.decided (h : s.Kept widget o) (hprobe : ∀ i, (probe i).config = config) {t : Tracked}
    (ht : t ∈ o.tracked) {first : Context}
    (hh : t.History config.attemptLimit [first.knows widget t.child]) {n : Nat}
    (hdrains : s.Drains probe n) :
    s.Decided config.attemptLimit first probe (t.ticket widget) n := by
  obtain ⟨o', t', hk, ht', hticket, hh'⟩ := h.drain_history hprobe ht hh n
  refine ⟨o', hk.kept.layout_eq, t', ht', hticket, fun k hk₁ hfirst => ?_⟩
  obtain ⟨hgood, hbad⟩ := hh'.outcome (hk.not_waiting hdrains.stops t' ht') hk₁ hfirst
  simp only [List.length_append, List.length_singleton, List.length_map] at hgood hbad
  constructor
  · intro hle
    obtain ⟨hp, hlength⟩ := hgood hle
    exact ⟨hp, by omega⟩
  · intro hlt
    obtain ⟨hp, hlength⟩ := hbad hlt
    exact ⟨hp, by omega⟩

end

theorem Kept.append_absolute {s : Scene} {widget : WidgetId} {o : Overlay} (h : s.Kept widget o)
    (ctx : Context) {child : WidgetId} {style : Style} (habs : isAbsolute style) {out : Outcome}
    (hout : append ctx s.container child style = .ok out) :
    ∃ o' t, (s.take out).Kept widget o' ∧ t ∈ o'.tracked ∧
      t.ticket widget = ⟨widget, child, o.generation + 1⟩ ∧
      t.History ctx.config.attemptLimit [ctx.knows widget child] := by
  have hk := h.edit ctx (.append child style)
  have hnew : s.container.has child = false := by
    rw [append_eq h.kept.layout_eq, Container.insert_back] at hout
    split_ifs at hout with hhas
    · simp [Except.map] at hout
    · exact Bool.eq_false_iff.mpr hhas
  rw [Scene.after, Edit.apply, hout, board_append h.kept.sorted ctx hnew habs] at hk
  refine ⟨_, _, hk, (h.kept.sorted.restart child).mem_put.mpr (.inl rfl), rfl, ?_⟩
  have hready : isReady ctx s.container child = ctx.knows widget child :=
    isReady_eq_knows ctx h.widget_eq child
  have hfirst := (Tracked.history_start ctx.config.attemptLimit child (o.generation + 1)).check
    (one_le_attemptLimit ctx.config) (.inl rfl) (isReady ctx s.container child)
  simpa [checked, hready] using hfirst

/-- With fixed settings the loop ends from every scene of a run, whatever the order of the queue
and whatever sizes it meets, and then no child waits. An absolute child that has just been appended
is placed by its first good check, if that is one of those that may be made, and else given up after
the last of them; each check but the first is brought by a ticket. -/
theorem drain_ends (config : Config) (ctx : Context) (widget : WidgetId) (style : Style)
    (events : List Event) :
    ∃ o, ((start ctx widget style).run events).container.layout = .overlay o ∧
      (∀ queue probe, queue.Perm ((start ctx widget style).run events).inFlight →
        (∀ i, (probe i).config = config) →
        ∃ n ≤ queue.length + o.remaining config.attemptLimit,
          Drains probe ⟨((start ctx widget style).run events).container, queue⟩ n ∧
          Settled (drain probe ⟨((start ctx widget style).run events).container, queue⟩ n)) ∧
      ∀ first child style' out queue probe, first.config = config → isAbsolute style' →
        append first ((start ctx widget style).run events).container child style' = .ok out →
        queue.Perm (((start ctx widget style).run events).inFlight ++ out.scheduled) →
        (∀ i, (probe i).config = config) →
        ∃ n, Drains probe ⟨out.container, queue⟩ n ∧
          Decided config.attemptLimit first probe ⟨out.container, queue⟩
            ⟨widget, child, o.generation + 1⟩ n := by
  obtain ⟨o, h⟩ := run_kept ctx widget style events
  refine ⟨o, h.kept.layout_eq, fun queue probe hqueue hprobe => ?_, ?_⟩
  · obtain ⟨n, hn, hdrains, _, hk⟩ := (h.perm hqueue.symm).drains hprobe
    exact ⟨n, hn, hdrains, hk.settled hdrains.stops⟩
  · rintro first child style' out queue probe rfl habs hout hqueue hprobe
    obtain ⟨o₁, t₁, h₁, ht₁, hticket, hh⟩ := h.append_absolute first habs hout
    have hqueued : Kept ⟨out.container, queue⟩ widget o₁ := h₁.perm hqueue.symm
    obtain ⟨n, _, hdrains, _⟩ := hqueued.drains hprobe
    have hchild : t₁.child = child := congrArg Ticket.child hticket
    rw [← hchild] at hh
    exact ⟨n, hdrains, hticket ▸ hqueued.decided hprobe ht₁ hh hdrains⟩

theorem drain_ends_pinned :
    let s := (start unmeasured ⟨1⟩ .empty).run [.edit unmeasured (.append ⟨2⟩ pinned)]
    (∃ n ≤ 9, Drains (fun _ => unmeasured) s n ∧ Settled (drain (fun _ => unmeasured) s n)) ∧
      ∃ n, Drains (fun _ => unmeasured) s n ∧
        Decided 10 unmeasured (fun _ => unmeasured) s ⟨⟨1⟩, ⟨2⟩, 1⟩ n := by
  constructor
  · obtain ⟨o, ho, hends, _⟩ := drain_ends .standard unmeasured ⟨1⟩ .empty
      [.edit unmeasured (.append ⟨2⟩ pinned)]
    obtain rfl : (⟨[⟨⟨2⟩, .waiting, 1, 1⟩], 1⟩ : Overlay) = o := Layout.overlay.inj ho
    exact hends _ (fun _ => unmeasured) (.refl _) fun _ => rfl
  · obtain ⟨o, ho, _, hends⟩ := drain_ends .standard unmeasured ⟨1⟩ .empty []
    obtain rfl : initial = o := Layout.overlay.inj ho
    exact hends unmeasured ⟨2⟩ pinned _ _ (fun _ => unmeasured) rfl (by decide) rfl (.refl _)
      fun _ => rfl

end Scene

end Overlay

end PanelLayout
