import PanelLayout.Proofs.Overlay.Delivery

/-!
Updates of overlay containers. An update seats every tracked child whose sizes are known and leaves
the others in their first check, so with the same sizes a second one changes generations only.
-/
namespace PanelLayout.Overlay

theorem seatNode_seatNode (ctx : Context) (widget child : WidgetId) (node : Child) :
    seatNode ctx widget child (seatNode ctx widget child node) = seatNode ctx widget child node := by
  unfold seatNode
  cases node.slot <;> rfl

def seatAll (ctx : Context) (c : Container) (children : List WidgetId) : Container :=
  children.foldl (seatReady ctx) c

theorem seatAll_widget (ctx : Context) (c : Container) (children : List WidgetId) :
    (seatAll ctx c children).widget = c.widget := by
  induction children generalizing c with
  | nil => rfl
  | cons child children ih => exact (ih (seatReady ctx c child)).trans (seatReady_widget ctx c child)

theorem seatAll_layout (ctx : Context) (c : Container) (children : List WidgetId)
    (layout : Layout) :
    seatAll ctx { c with layout := layout } children =
      { seatAll ctx c children with layout := layout } := by
  induction children generalizing c with
  | nil => rfl
  | cons child children ih =>
    have hfirst := seatReady_layout ctx c child layout
    rw [seatAll, List.foldl_cons, hfirst]
    exact ih (seatReady ctx c child)

theorem seatReady_idem (ctx : Context) (c : Container) (child : WidgetId) :
    seatReady ctx (seatReady ctx c child) child = seatReady ctx c child := by
  rw [seatReady_eq ctx (seatReady ctx c child),
    isReady_congr ctx (seatReady_widget ctx c child) child, seatReady_widget, seatReady_eq]
  split_ifs
  · exact Container.modify_idem c (fun _ => rfl) fun node => seatNode_seatNode ctx _ child node
  · rfl

theorem seatReady_comm_any (ctx : Context) (c : Container) (child other : WidgetId) :
    seatReady ctx (seatReady ctx c child) other =
      seatReady ctx (seatReady ctx c other) child := by
  by_cases h : child = other
  · rw [h]
  · exact seatReady_comm ctx c h

theorem seatReady_seatAll_comm (ctx : Context) (c : Container) (children : List WidgetId)
    (child : WidgetId) :
    seatReady ctx (seatAll ctx c children) child =
      seatAll ctx (seatReady ctx c child) children := by
  induction children generalizing c with
  | nil => rfl
  | cons other children ih =>
    have hrest := ih (seatReady ctx c other)
    rw [seatReady_comm_any ctx c other child] at hrest
    exact hrest

theorem seatReady_seatAll (ctx : Context) (c : Container) {children : List WidgetId}
    {child : WidgetId} (h : child ∈ children) :
    seatReady ctx (seatAll ctx c children) child = seatAll ctx c children := by
  induction children generalizing c with
  | nil => exact absurd h List.not_mem_nil
  | cons other children ih =>
    rcases List.mem_cons.mp h with rfl | h
    · rw [seatReady_seatAll_comm, seatAll, List.foldl_cons, seatReady_idem]
      rfl
    · exact ih (seatReady ctx c other) h

theorem seatAll_seatAll (ctx : Context) (c : Container) {children again : List WidgetId}
    (h : ∀ w ∈ again, w ∈ children) :
    seatAll ctx (seatAll ctx c children) again = seatAll ctx c children := by
  induction again with
  | nil => rfl
  | cons child again ih =>
    obtain ⟨hchild, hrest⟩ := List.forall_mem_cons.mp h
    have hfirst := seatReady_seatAll ctx c hchild
    rw [seatAll, List.foldl_cons, hfirst]
    exact ih hrest

def firstPhase (ctx : Context) (widget child : WidgetId) : OverlayPhase :=
  if (ctx.sizeOf widget).isPositive && (ctx.sizeOf child).isPositive then .applied
  else if ctx.config.attemptLimit ≤ 1 then .abandoned
  else .waiting

def IsFirst (ctx : Context) (widget : WidgetId) (t : Tracked) : Prop :=
  t.phase = firstPhase ctx widget t.child ∧ t.attempts = 1

theorem isFirst_checked (ctx : Context) (c : Container) {t : Tracked} (h : t.attempts = 0) :
    IsFirst ctx c.widget (checked ctx c t) := by
  constructor
  · simp only [checked, Tracked.check, isReady, firstPhase, h]
  · simp only [checked, Tracked.check_attempts, h]

theorem attemptAll_eq (ctx : Context) {b : Board} (hs : b.overlay.Sorted)
    {children : List WidgetId} (ht : ∀ w ∈ children, b.overlay.Tracks w) :
    (attemptAll ctx b children).1.container = seatAll ctx b.container children ∧
      (attemptAll ctx b children).1.overlay.Sorted ∧
      ∀ w, (attemptAll ctx b children).1.overlay.Tracks w ↔ b.overlay.Tracks w := by
  induction children generalizing b with
  | nil => exact ⟨rfl, hs, fun _ => .rfl⟩
  | cons child children ih =>
    have htracks : ∀ w, (attempt ctx b child).1.overlay.Tracks w ↔ b.overlay.Tracks w :=
      fun w => attempt_tracks ctx hs child
    obtain ⟨t, hmem, rfl⟩ := ht child List.mem_cons_self
    have hfirst : (attempt ctx b t.child).1.container = seatReady ctx b.container t.child := by
      rw [attempt_eq ctx hs hmem]
      rfl
    obtain ⟨hc, hs', ht'⟩ := ih (attempt_sorted ctx hs t.child)
      fun w hw => (htracks w).mpr (ht w (List.mem_cons_of_mem _ hw))
    rw [hfirst] at hc
    exact ⟨hc, hs', fun w => (ht' w).trans (htracks w)⟩

theorem attemptAll_isFirst (ctx : Context) {b : Board} (hs : b.overlay.Sorted)
    {children : List WidgetId} (hnd : children.Nodup) (ht : ∀ w ∈ children, b.overlay.Tracks w)
    (hstart : ∀ t ∈ b.overlay.tracked, t.child ∈ children → t.attempts = 0)
    (hfirst : ∀ t ∈ b.overlay.tracked, t.child ∉ children → IsFirst ctx b.container.widget t) :
    ∀ t ∈ (attemptAll ctx b children).1.overlay.tracked, IsFirst ctx b.container.widget t := by
  induction children generalizing b with
  | nil => exact fun t ht => hfirst t ht List.not_mem_nil
  | cons child children ih =>
    obtain ⟨hnew, hrest⟩ := List.nodup_cons.mp hnd
    obtain ⟨u, hu, rfl⟩ := ht child List.mem_cons_self
    have hover : (attempt ctx b u.child).1.overlay =
        b.overlay.put (checked ctx b.container u) := by
      rw [attempt_eq ctx hs hu]
      rfl
    have hmem : ∀ t ∈ (attempt ctx b u.child).1.overlay.tracked,
        t = checked ctx b.container u ∨ t ∈ b.overlay.tracked ∧ t.child ≠ u.child := by
      intro t ht
      rw [hover] at ht
      exact hs.mem_put.mp ht
    have hchecked : IsFirst ctx b.container.widget (checked ctx b.container u) :=
      isFirst_checked ctx b.container (hstart u hu List.mem_cons_self)
    have hdone := ih (b := (attempt ctx b u.child).1) (attempt_sorted ctx hs u.child) hrest
      (fun w hw => (attempt_tracks ctx hs u.child).mpr (ht w (List.mem_cons_of_mem _ hw)))
      (fun t ht hc => ?_) fun t ht hc => ?_
    · rw [attempt_widget] at hdone
      exact hdone
    · rcases hmem t ht with rfl | ⟨ht, _⟩
      · exact absurd hc hnew
      · exact hstart t ht (List.mem_cons_of_mem _ hc)
    · rw [attempt_widget]
      rcases hmem t ht with rfl | ⟨ht, hne⟩
      · exact hchecked
      · exact hfirst t ht fun h => (List.mem_cons.mp h).elim hne hc

theorem foldl_restart_attempts {o : Overlay} (hs : o.Sorted) (children : List WidgetId) :
    ∀ t ∈ (children.foldl Overlay.restart o).tracked,
      t.attempts = 0 ∨ t ∈ o.tracked ∧ t.child ∉ children := by
  induction children generalizing o with
  | nil => exact fun t ht => .inr ⟨ht, List.not_mem_nil⟩
  | cons child children ih =>
    intro t ht
    rcases ih (hs.restart child) t ht with h | ⟨ht, hrest⟩
    · exact .inl h
    · rcases hs.mem_restart.mp ht with rfl | ⟨ht, hne⟩
      · exact .inl rfl
      · exact .inr ⟨ht, fun h => (List.mem_cons.mp h).elim hne hrest⟩

theorem Sorted.restartAll_attempts {o : Overlay} (hs : o.Sorted) :
    ∀ t ∈ o.restartAll.tracked, t.attempts = 0 := by
  intro t ht
  rcases foldl_restart_attempts hs _ t ht with h | ⟨ht, hnot⟩
  · exact h
  · exact absurd (mem_children_iff.mpr ⟨t, ht, rfl⟩) hnot

theorem Sorted.children_eq {o o' : Overlay} (hs : o.Sorted) (hs' : o'.Sorted)
    (h : ∀ w, o.Tracks w ↔ o'.Tracks w) :
    o.tracked.map Tracked.child = o'.tracked.map Tracked.child := by
  have hperm : (o.tracked.map Tracked.child).Perm (o'.tracked.map Tracked.child) := by
    refine (List.perm_ext_iff_of_nodup hs.nodup hs'.nodup).mpr fun w => ?_
    rw [mem_children_iff, mem_children_iff, h]
  have hraw : ∀ {o : Overlay}, o.Sorted →
      (o.tracked.map Tracked.child).Pairwise fun v w => v.raw < w.raw :=
    fun hs => List.pairwise_map.mpr hs
  exact hperm.eq_of_pairwise (fun v w _ _ hlt hgt => absurd hgt (Nat.lt_asymm hlt)) (hraw hs)
    (hraw hs')

def progress (o : Overlay) : List (WidgetId × OverlayPhase × Nat) :=
  o.tracked.map fun t => (t.child, t.phase, t.attempts)

theorem progress_of_isFirst {o : Overlay} {ctx : Context} {widget : WidgetId}
    (h : ∀ t ∈ o.tracked, IsFirst ctx widget t) :
    o.progress = (o.tracked.map Tracked.child).map fun w => (w, firstPhase ctx widget w, 1) := by
  rw [progress, List.map_map]
  refine List.map_congr_left fun t ht => ?_
  obtain ⟨hp, ha⟩ := h t ht
  rw [hp, ha]
  rfl

theorem Rests.update {c : Container} {o : Overlay} (h : Rests c o) (ctx : Context)
    (old changed : Style) :
    ∃ out o', Overlay.update ctx c old changed = .ok out ∧ Rests out.container o' ∧
      out.container = { seatAll ctx c (o.tracked.map Tracked.child) with layout := .overlay o' } ∧
      o'.tracked.map Tracked.child = o.tracked.map Tracked.child ∧
      ∀ t ∈ o'.tracked, IsFirst ctx c.widget t := by
  have hsorted := foldl_restart_sorted h.sorted (o.tracked.map Tracked.child)
  have htracks : ∀ w ∈ o.tracked.map Tracked.child, o.restartAll.Tracks w :=
    fun w hw => h.sorted.tracks_restartAll.mpr (mem_children_iff.mp hw)
  obtain ⟨hc, hs', ht'⟩ := attemptAll_eq ctx (b := ⟨c, o.restartAll⟩) hsorted htracks
  have hfirst := attemptAll_isFirst ctx (b := ⟨c, o.restartAll⟩) hsorted h.sorted.nodup htracks
    (fun t ht _ => h.sorted.restartAll_attempts t ht)
    fun t ht hnot => absurd (mem_children_iff.mpr (h.sorted.tracks_restartAll.mp ⟨t, ht, rfl⟩)) hnot
  refine ⟨_, _, update_eq h.layout_eq ctx old changed,
    (update_follows ctx c h.sorted h.unchecked).rests h.sorted, ?_, ?_, hfirst⟩
  · rw [Board.finish, hc]
  · exact hs'.children_eq h.sorted fun w => (ht' w).trans h.sorted.tracks_restartAll

/-- After two updates everything but the generations is as after the first of them, and so are the
slots as after the second of them alone. -/
theorem Rests.update_update {c : Container} {o : Overlay} (h : Rests c o) (ctx : Context)
    (old₁ changed₁ old₂ changed₂ : Style) :
    ∃ first both second o₁ o₂, Overlay.update ctx c old₁ changed₁ = .ok first ∧
      Overlay.update ctx first.container old₂ changed₂ = .ok both ∧
      Overlay.update ctx c old₂ changed₂ = .ok second ∧
      first.container.layout = .overlay o₁ ∧
      both.container = { first.container with layout := .overlay o₂ } ∧
      second.container = first.container ∧ o₂.progress = o₁.progress := by
  obtain ⟨first, o₁, hfirst, h₁, hc₁, hchildren₁, hstate₁⟩ := h.update ctx old₁ changed₁
  obtain ⟨both, o₂, hboth, _, hc₂, hchildren₂, hstate₂⟩ := h₁.update ctx old₂ changed₂
  have hsecond : Overlay.update ctx c old₂ changed₂ = .ok first := by
    rw [update_eq h.layout_eq] at hfirst ⊢
    exact hfirst
  have hwidget : first.container.widget = c.widget := by
    rw [hc₁]
    exact seatAll_widget ctx c _
  refine ⟨first, both, first, o₁, o₂, hfirst, hboth, hsecond, h₁.layout_eq, ?_, rfl, ?_⟩
  · rw [hc₂, hchildren₁, hc₁, seatAll_layout, seatAll_seatAll ctx c fun w hw => hw]
  · rw [hwidget] at hstate₂
    rw [progress_of_isFirst hstate₁, progress_of_isFirst hstate₂, hchildren₂]

end PanelLayout.Overlay
