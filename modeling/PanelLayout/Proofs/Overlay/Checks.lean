import PanelLayout.Proofs.Overlay.Bookkeeping

/-!
The size checks of one child. As long as a child waits all its checks have failed; it is placed by
its first good one, and given up when as many have failed as may be made.
-/
namespace PanelLayout

def Context.knows (ctx : Context) (widget child : WidgetId) : Bool :=
  (ctx.sizeOf widget).isPositive && (ctx.sizeOf child).isPositive

/-- The entry that the results of the checks since the start lead to, in their order. -/
def Tracked.History (limit : Nat) (results : List Bool) (t : Tracked) : Prop :=
  t.attempts = results.length ∧
    match t.phase with
    | .notScheduled => results = []
    | .waiting => ∃ n < limit, results = List.replicate n false
    | .applied => ∃ n < limit, results = List.replicate n false ++ [true]
    | .abandoned => results = List.replicate limit false

theorem Tracked.history_start (limit : Nat) (child : WidgetId) (generation : Nat) :
    (⟨child, .notScheduled, generation, 0⟩ : Tracked).History limit [] := ⟨rfl, rfl⟩

theorem Tracked.History.check {t : Tracked} {limit : Nat} {results : List Bool}
    (h : t.History limit results) (hlimit : 1 ≤ limit)
    (hp : t.phase = .notScheduled ∨ t.phase = .waiting) (isReady : Bool) :
    (t.check limit isReady).History limit (results ++ [isReady]) := by
  obtain ⟨hlength, hphase⟩ := h
  -- Both at a start and in a wait, all checks so far have failed.
  obtain ⟨n, hn, rfl⟩ : ∃ n < limit, results = List.replicate n false := by
    rcases hp with hp | hp
    · rw [hp] at hphase
      exact ⟨0, hlimit, hphase⟩
    · rwa [hp] at hphase
  rw [List.length_replicate] at hlength
  refine ⟨by simp [hlength], ?_⟩
  cases isReady with
  | true => exact ⟨n, hn, rfl⟩
  | false =>
    have hsnoc : List.replicate n false ++ [false] = List.replicate (n + 1) false :=
      List.replicate_succ'.symm
    simp only [Tracked.check, hlength, hsnoc, Bool.false_eq_true, if_false]
    by_cases hlast : limit ≤ n + 1
    · rw [if_pos hlast, Nat.le_antisymm hlast hn]
    · rw [if_neg hlast]
      exact ⟨n + 1, Nat.lt_of_not_le hlast, rfl⟩

def FirstGood (k : Nat) (results : List Bool) : Prop :=
  ∀ i (h : i < results.length), i + 1 ≤ k → (results[i] = true ↔ i + 1 = k)

theorem FirstGood.lt_of_replicate {k n : Nat} {rest : List Bool} (hk : 1 ≤ k)
    (h : FirstGood k (List.replicate n false ++ rest)) : n < k := by
  by_contra hle
  have hi : k - 1 < n := by omega
  have hlength : k - 1 < (List.replicate n false ++ rest).length := by
    rw [List.length_append, List.length_replicate]
    omega
  have hgood := (h (k - 1) hlength (by omega)).mpr (by omega)
  rw [List.getElem_append_left (by simpa using hi), List.getElem_replicate] at hgood
  exact Bool.false_ne_true hgood

/-- A child that does not wait any more has been placed by its first good check, if that was one of
those that may be made, and else been given up. -/
theorem Tracked.History.outcome {t : Tracked} {limit : Nat} {results : List Bool}
    (h : t.History limit results) (hp : t.phase = .applied ∨ t.phase = .abandoned) {k : Nat}
    (hk : 1 ≤ k) (hfirst : FirstGood k results) :
    (k ≤ limit → t.phase = .applied ∧ results.length = k) ∧
      (limit < k → t.phase = .abandoned ∧ results.length = limit) := by
  obtain ⟨_, hphase⟩ := h
  rcases hp with hp | hp
  · rw [hp] at hphase
    obtain ⟨n, hn, rfl⟩ := hphase
    have hlt := hfirst.lt_of_replicate hk
    have hat : n + 1 = k := (hfirst n (by simp) hlt).mp (by simp)
    exact ⟨fun _ => ⟨hp, by simp [hat]⟩, fun hlimit => by omega⟩
  · rw [hp] at hphase
    obtain rfl : results = List.replicate limit false := hphase
    have hlt : limit < k := by
      rw [← List.append_nil (List.replicate limit false)] at hfirst
      exact hfirst.lt_of_replicate hk
    exact ⟨fun hle => by omega, fun _ => ⟨hp, List.length_replicate⟩⟩

namespace Overlay

theorem isReady_eq_knows (ctx : Context) {c : Container} {widget : WidgetId}
    (hc : c.widget = widget) (child : WidgetId) :
    isReady ctx c child = ctx.knows widget child := by
  rw [← hc]
  rfl

theorem board_append {c : Container} {o : Overlay} (hs : o.Sorted) (ctx : Context)
    {child : WidgetId} {style : Style} (hnew : c.has child = false) (habs : isAbsolute style) :
    (Edit.board ctx c o (.append child style)).1.overlay =
      (o.restart child).put (checked ctx c ⟨child, .notScheduled, o.generation + 1, 0⟩) := by
  have hnode := Container.child?_push hnew style
    (placeInitial ctx.units style c.panel.newSlot)
  have ht : (⟨child, .notScheduled, o.generation + 1, 0⟩ : Tracked) ∈ (o.restart child).tracked :=
    hs.mem_restart.mpr (.inl rfl)
  rw [Edit.board, hnew, if_neg Bool.false_ne_true, track, hnode]
  dsimp only
  rw [if_pos habs]
  exact congrArg (fun r => r.1.overlay)
    (attempt_eq ctx (b := Board.restart ⟨c.push child style _, o⟩ child) (hs.restart child) ht)

end Overlay

end PanelLayout
