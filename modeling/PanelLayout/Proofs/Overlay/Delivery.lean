import PanelLayout.Proofs.Overlay.Bookkeeping

/-!
Batches of tickets. Tickets of different children touch different entries and slots, and of the
tickets of one child at most one counts, so the order of their delivery does not matter.
-/
namespace PanelLayout

theorem Tracked.Below.asymm {t u : Tracked} (h : t.Below u) : ¬u.Below t :=
  Nat.lt_asymm h

namespace Overlay

theorem Sorted.ext {o o' : Overlay} (hs : o.Sorted) (hs' : o'.Sorted)
    (hmem : ∀ t, t ∈ o.tracked ↔ t ∈ o'.tracked) (hgen : o.generation = o'.generation) :
    o = o' := by
  have hperm : o.tracked.Perm o'.tracked :=
    (List.perm_ext_iff_of_nodup hs.nodup.of_map hs'.nodup.of_map).mpr hmem
  have htracked : o.tracked = o'.tracked :=
    hperm.eq_of_pairwise (fun t u _ _ h h' => absurd h' h.asymm) hs hs'
  cases o
  cases o'
  simp_all

theorem Sorted.put_comm {o : Overlay} (hs : o.Sorted) {t u : Tracked} (hne : t.child ≠ u.child) :
    (o.put t).put u = (o.put u).put t := by
  refine ((hs.put t).put u).ext ((hs.put u).put t) (fun v => ?_) rfl
  rw [(hs.put t).mem_put, (hs.put u).mem_put, hs.mem_put, hs.mem_put]
  constructor
  · rintro (rfl | ⟨rfl | ⟨hv, hvt⟩, hvu⟩)
    · exact .inr ⟨.inl rfl, hne.symm⟩
    · exact .inl rfl
    · exact .inr ⟨.inr ⟨hv, hvu⟩, hvt⟩
  · rintro (rfl | ⟨rfl | ⟨hv, hvu⟩, hvt⟩)
    · exact .inr ⟨.inl rfl, hne⟩
    · exact .inl rfl
    · exact .inr ⟨.inr ⟨hv, hvt⟩, hvu⟩

def seatReady (ctx : Context) (c : Container) (child : WidgetId) : Container :=
  if isReady ctx c child then seatAbsolute ctx c child else c

def seatNode (ctx : Context) (widget child : WidgetId) (node : Child) : Child :=
  { node with
    slot := placeAbsolute ctx.units (ctx.sizeOf widget) (ctx.sizeOf child) node.style node.slot }

theorem seatReady_eq (ctx : Context) (c : Container) (child : WidgetId) :
    seatReady ctx c child =
      if isReady ctx c child then c.modify child (seatNode ctx c.widget child) else c := rfl

theorem isReady_congr (ctx : Context) {c c' : Container} (h : c.widget = c'.widget)
    (child : WidgetId) : isReady ctx c child = isReady ctx c' child := by
  rw [isReady, isReady, h]

@[simp]
theorem seatReady_widget (ctx : Context) (c : Container) (child : WidgetId) :
    (seatReady ctx c child).widget = c.widget := by
  unfold seatReady
  split_ifs <;> rfl

theorem seatReady_layout (ctx : Context) (c : Container) (child : WidgetId) (layout : Layout) :
    seatReady ctx { c with layout := layout } child =
      { seatReady ctx c child with layout := layout } := by
  have hready : isReady ctx { c with layout := layout } child = isReady ctx c child := rfl
  rw [seatReady, seatReady, hready]
  split_ifs <;> rfl

theorem seatReady_comm (ctx : Context) (c : Container) {child other : WidgetId}
    (hne : child ≠ other) :
    seatReady ctx (seatReady ctx c child) other = seatReady ctx (seatReady ctx c other) child := by
  have hready : ∀ v w, isReady ctx (seatReady ctx c v) w = isReady ctx c w :=
    fun v w => isReady_congr ctx (seatReady_widget ctx c v) w
  rw [seatReady_eq ctx (seatReady ctx c child), seatReady_eq ctx (seatReady ctx c other), hready,
    hready, seatReady_widget, seatReady_widget, seatReady_eq, seatReady_eq]
  split_ifs
  · exact Container.modify_comm c hne (fun _ => rfl) fun _ => rfl
  all_goals rfl

theorem Sorted.stale_put {o : Overlay} (hs : o.Sorted) {widget : WidgetId} {ticket : Ticket}
    (hstale : ∀ t ∈ o.tracked, t.phase = .waiting → ticket ≠ t.ticket widget) {u v : Tracked}
    (hu : u ∈ o.tracked) (hp : u.phase = .waiting) (hv : v.ticket widget = u.ticket widget) :
    ∀ t ∈ (o.put v).tracked, t.phase = .waiting → ticket ≠ t.ticket widget := by
  intro t ht htp
  rcases hs.mem_put.mp ht with rfl | ⟨ht, _⟩
  · rw [hv]
    exact hstale u hu hp
  · exact hstale t ht htp

section
variable {c : Container} {o : Overlay}

def afterCheck (ctx : Context) (c : Container) (o : Overlay) (t : Tracked) : Container :=
  { seatReady ctx c t.child with layout := .overlay (o.put (checked ctx c t)) }

@[simp]
theorem afterCheck_widget (ctx : Context) (c : Container) (o : Overlay) (t : Tracked) :
    (afterCheck ctx c o t).widget = c.widget := seatReady_widget ctx c t.child

theorem checked_congr (ctx : Context) {c c' : Container} (h : c.widget = c'.widget) (t : Tracked) :
    checked ctx c t = checked ctx c' t := by
  rw [checked, checked, isReady_congr ctx h]

theorem Rests.afterCheck (h : Rests c o) (ctx : Context) (t : Tracked) :
    Rests (afterCheck ctx c o t) (o.put (checked ctx c t)) :=
  h.check ctx t (b := ⟨seatReady ctx c t.child, o.put (checked ctx c t)⟩) rfl []

theorem Rests.resume_ticket_eq (h : Rests c o) (ctx : Context) {t : Tracked} (ht : t ∈ o.tracked)
    (hp : t.phase = .waiting) :
    resume ctx c (t.ticket c.widget) =
      .ok ⟨Overlay.afterCheck ctx c o t, (checked ctx c t).asked ctx.config c.widget⟩ := by
  have hcurrent : (t.ticket c.widget).container = c.widget ∧ o.isCurrent (t.ticket c.widget) :=
    h.sorted.isCurrent_iff.mpr ⟨t, ht, hp, rfl⟩
  have hattempt := attempt_eq ctx (b := ⟨c, o⟩) h.sorted ht
  rw [resume_eq h.layout_eq, if_pos hcurrent]
  simp only [Tracked.ticket, hattempt]
  rfl

theorem Rests.afterCheck_comm (h : Rests c o) (ctx : Context) {t u : Tracked}
    (hne : t.child ≠ u.child) :
    Overlay.afterCheck ctx (Overlay.afterCheck ctx c o t) (o.put (checked ctx c t)) u =
      Overlay.afterCheck ctx (Overlay.afterCheck ctx c o u) (o.put (checked ctx c u)) t := by
  have hcheck : ∀ v w, checked ctx (Overlay.afterCheck ctx c o v) w = checked ctx c w :=
    fun v w => checked_congr ctx (afterCheck_widget ctx c o v) w
  have hput : (o.put (checked ctx c t)).put (checked ctx c u) =
      (o.put (checked ctx c u)).put (checked ctx c t) := h.sorted.put_comm hne
  have hseat : ∀ v w : Tracked, seatReady ctx (Overlay.afterCheck ctx c o v) w.child =
      { seatReady ctx (seatReady ctx c v.child) w.child with
        layout := .overlay (o.put (checked ctx c v)) } :=
    fun v w => seatReady_layout ctx (seatReady ctx c v.child) w.child _
  rw [Overlay.afterCheck, hseat, hcheck, hput, seatReady_comm ctx c hne, Overlay.afterCheck, hseat,
    hcheck]

def deliverAll (ctx : Context) : Container → List Ticket → Except LayoutError Outcome
  | c, [] => .ok c.unscheduled
  | c, ticket :: rest => do
    let first ← resume ctx c ticket
    let others ← deliverAll ctx first.container rest
    return ⟨others.container, first.scheduled ++ others.scheduled⟩

theorem deliverAll_cons {ctx : Context} {c : Container} {ticket : Ticket} {first : Outcome}
    (hfirst : resume ctx c ticket = .ok first) (rest : List Ticket) :
    deliverAll ctx c (ticket :: rest) = (deliverAll ctx first.container rest).map fun others =>
      ⟨others.container, first.scheduled ++ others.scheduled⟩ := by
  simp only [deliverAll, hfirst, bind, Except.bind]
  cases deliverAll ctx first.container rest <;> rfl

theorem Rests.resume (h : Rests c o) (ctx : Context) (ticket : Ticket) :
    ∃ out o', Overlay.resume ctx c ticket = .ok out ∧ Rests out.container o' := by
  rcases h.resume_cases ctx ticket with ⟨hres, _⟩ | ⟨t, ht, hp, rfl⟩
  · exact ⟨_, o, hres, h⟩
  · exact ⟨_, _, h.resume_ticket_eq ctx ht hp, h.afterCheck ctx t⟩

theorem Rests.deliverAll (h : Rests c o) (ctx : Context) (tickets : List Ticket) :
    ∃ out, Overlay.deliverAll ctx c tickets = .ok out := by
  induction tickets generalizing c o with
  | nil => exact ⟨_, rfl⟩
  | cons ticket rest ih =>
    obtain ⟨first, o', hfirst, h'⟩ := h.resume ctx ticket
    obtain ⟨others, hothers⟩ := ih h'
    rw [deliverAll_cons hfirst, hothers]
    exact ⟨_, rfl⟩

def Commute (ctx : Context) (c : Container) (k k' : Ticket) : Prop :=
  ∃ a b a' b', Overlay.resume ctx c k = .ok a ∧ Overlay.resume ctx a.container k' = .ok b ∧
    Overlay.resume ctx c k' = .ok a' ∧ Overlay.resume ctx a'.container k = .ok b' ∧
    b.container = b'.container ∧ (a.scheduled ++ b.scheduled).Perm (a'.scheduled ++ b'.scheduled) ∧
    ∃ o', Rests b.container o'

theorem Commute.symm {ctx : Context} {k k' : Ticket} (h : Commute ctx c k k') :
    Commute ctx c k' k := by
  obtain ⟨a, b, a', b', ha, hb, ha', hb', heq, hperm, o', hrests⟩ := h
  exact ⟨a', b', a, b, ha', hb', ha, hb, heq.symm, hperm.symm, o', heq ▸ hrests⟩

theorem Rests.commute_self (h : Rests c o) (ctx : Context) (k : Ticket) : Commute ctx c k k := by
  obtain ⟨a, o', ha, h'⟩ := h.resume ctx k
  obtain ⟨b, o'', hb, h''⟩ := h'.resume ctx k
  exact ⟨a, b, a, b, ha, hb, ha, hb, rfl, .refl _, o'', h''⟩

theorem Rests.commute_stale (h : Rests c o) (ctx : Context) {k : Ticket} (k' : Ticket)
    (hstale : ∀ t ∈ o.tracked, t.phase = .waiting → k ≠ t.ticket c.widget) :
    Commute ctx c k k' := by
  have hk := h.resume_stale ctx hstale
  rcases h.resume_cases ctx k' with ⟨hk', _⟩ | ⟨t, ht, hp, rfl⟩
  · exact ⟨_, _, _, _, hk, hk', hk', hk, rfl, .refl _, o, h⟩
  · have h' := h.afterCheck ctx t
    have hk' := h.resume_ticket_eq ctx ht hp
    have hstale' : ∀ u ∈ (o.put (checked ctx c t)).tracked, u.phase = .waiting →
        k ≠ u.ticket (Overlay.afterCheck ctx c o t).widget := by
      rw [afterCheck_widget]
      exact h.sorted.stale_put hstale ht hp (t.check_ticket _ _ _)
    refine ⟨_, _, _, _, hk, hk', hk', h'.resume_stale ctx hstale', rfl, ?_, _, h'⟩
    exact List.perm_append_comm

theorem Rests.commute_waiting (h : Rests c o) (ctx : Context) {t u : Tracked} (ht : t ∈ o.tracked)
    (hu : u ∈ o.tracked) (htp : t.phase = .waiting) (hup : u.phase = .waiting)
    (hne : t.child ≠ u.child) : Commute ctx c (t.ticket c.widget) (u.ticket c.widget) := by
  have hsecond : ∀ v w : Tracked, w ∈ o.tracked → w.phase = .waiting → w.child ≠ v.child →
      Overlay.resume ctx (Overlay.afterCheck ctx c o v) (w.ticket c.widget) =
        .ok ⟨Overlay.afterCheck ctx (Overlay.afterCheck ctx c o v) (o.put (checked ctx c v)) w,
          (checked ctx c w).asked ctx.config c.widget⟩ := by
    intro v w hw hwp hwv
    have hmem : w ∈ (o.put (checked ctx c v)).tracked := h.sorted.mem_put.mpr (.inr ⟨hw, hwv⟩)
    have hres := (h.afterCheck ctx v).resume_ticket_eq ctx hmem hwp
    rw [afterCheck_widget, checked_congr ctx (afterCheck_widget ctx c o v)] at hres
    exact hres
  refine ⟨_, _, _, _, h.resume_ticket_eq ctx ht htp, hsecond t u hu hup hne.symm,
    h.resume_ticket_eq ctx hu hup, hsecond u t ht htp hne, h.afterCheck_comm ctx hne, ?_, _,
    (h.afterCheck ctx t).afterCheck ctx u⟩
  exact List.perm_append_comm

theorem Rests.commute (h : Rests c o) (ctx : Context) (k k' : Ticket) : Commute ctx c k k' := by
  rcases h.resume_cases ctx k with ⟨_, hstale⟩ | ⟨t, ht, htp, rfl⟩
  · exact h.commute_stale ctx k' hstale
  · rcases h.resume_cases ctx k' with ⟨_, hstale⟩ | ⟨u, hu, hup, rfl⟩
    · exact (h.commute_stale ctx _ hstale).symm
    · by_cases hc : t.child = u.child
      · obtain rfl := h.sorted.eq_of_child ht hu hc
        exact h.commute_self ctx _
      · exact h.commute_waiting ctx ht hu htp hup hc

theorem Rests.deliverAll_perm (h : Rests c o) (ctx : Context) {l l' : List Ticket}
    (hl : l.Perm l') :
    ∃ out out', Overlay.deliverAll ctx c l = .ok out ∧ Overlay.deliverAll ctx c l' = .ok out' ∧
      out.container = out'.container ∧ out.scheduled.Perm out'.scheduled := by
  induction hl generalizing c o with
  | nil => exact ⟨_, _, rfl, rfl, rfl, .refl _⟩
  | cons k _ ih =>
    obtain ⟨first, o', hfirst, h'⟩ := h.resume ctx k
    obtain ⟨out, out', hout, hout', hcontainer, hperm⟩ := ih h'
    refine ⟨⟨out.container, first.scheduled ++ out.scheduled⟩,
      ⟨out'.container, first.scheduled ++ out'.scheduled⟩, ?_, ?_, hcontainer,
      hperm.append_left first.scheduled⟩
    · rw [deliverAll_cons hfirst, hout]
      rfl
    · rw [deliverAll_cons hfirst, hout']
      rfl
  | swap k k' l =>
    obtain ⟨a, b, a', b', ha, hb, ha', hb', hcontainer, hperm, o', hrests⟩ := h.commute ctx k' k
    obtain ⟨out, hout⟩ := hrests.deliverAll ctx l
    refine ⟨⟨out.container, a.scheduled ++ (b.scheduled ++ out.scheduled)⟩,
      ⟨out.container, a'.scheduled ++ (b'.scheduled ++ out.scheduled)⟩, ?_, ?_, rfl, ?_⟩
    · rw [deliverAll_cons ha, deliverAll_cons hb, hout]
      rfl
    · rw [deliverAll_cons ha', deliverAll_cons hb', ← hcontainer, hout]
      rfl
    · rw [← List.append_assoc, ← List.append_assoc]
      exact hperm.append_right out.scheduled
  | trans _ _ ih ih' =>
    obtain ⟨out, out', hout, hout', hcontainer, hperm⟩ := ih h
    obtain ⟨mid, out'', hmid, hout'', hcontainer', hperm'⟩ := ih' h
    obtain rfl : out' = mid := Except.ok.inj (hout'.symm.trans hmid)
    exact ⟨out, out'', hout, hout'', hcontainer.trans hcontainer', hperm.trans hperm'⟩

end

/-- From every state of a run a batch of tickets, whatever they are, ends in the same container and
asks for the same tickets in whichever order it is delivered, and none of it is refused. -/
theorem run_deliverAll_perm (ctx₀ : Context) (widget : WidgetId) (style : Style)
    (steps : List Step) (ctx : Context) {l l' : List Ticket} (hl : l.Perm l') :
    ∃ out out', deliverAll ctx (run (create ctx₀ widget style) steps) l = .ok out ∧
      deliverAll ctx (run (create ctx₀ widget style) steps) l' = .ok out' ∧
      out.container = out'.container ∧ out.scheduled.Perm out'.scheduled := by
  obtain ⟨o, hk, _⟩ := stable_numbered.run (kept_create ctx₀ widget style) numbered_initial steps
  exact hk.toRests.deliverAll_perm ctx hl

theorem run_deliverAll_perm_pinned :
    let c := run (create unmeasured ⟨1⟩ .empty)
      [⟨unmeasured, .edit (.append ⟨2⟩ pinned)⟩, ⟨unmeasured, .edit (.append ⟨3⟩ pinned)⟩]
    let l : List Ticket := [⟨⟨1⟩, ⟨2⟩, 1⟩, ⟨⟨1⟩, ⟨3⟩, 2⟩, ⟨⟨1⟩, ⟨2⟩, 1⟩, ⟨⟨9⟩, ⟨2⟩, 1⟩]
    l.Perm l.reverse ∧ ∃ out out', deliverAll unmeasured c l = .ok out ∧
      deliverAll unmeasured c l.reverse = .ok out' ∧
      out.container = out'.container ∧ out.scheduled.Perm out'.scheduled := by
  intro c l
  have hl : l.Perm l.reverse := by decide
  exact ⟨hl, run_deliverAll_perm unmeasured ⟨1⟩ .empty _ unmeasured hl⟩

end Overlay

end PanelLayout
