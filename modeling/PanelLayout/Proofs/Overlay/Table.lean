import PanelLayout.Overlay.Basic
import Mathlib.Data.List.Nodup

/-!
The table of tracked children as a finite map: what it holds after an entry is put, forgotten or
restarted. Entries rise by child, so no child has two of them.
-/
namespace PanelLayout

namespace Tracked

def Below (t u : Tracked) : Prop := t.child.raw < u.child.raw

theorem Below.child_ne {t u : Tracked} (h : t.Below u) : u.child ≠ t.child := by
  intro same
  rw [Below, same] at h
  exact Nat.lt_irrefl _ h

theorem below_of_not_before {t u : Tracked} (hne : t.child ≠ u.child)
    (hle : ¬u.child.raw < t.child.raw) : t.Below u := by
  have hraw : t.child.raw ≠ u.child.raw := fun h => hne (congrArg WidgetId.mk h)
  exact Nat.lt_of_le_of_ne (Nat.le_of_not_lt hle) hraw

theorem mem_insert {t u : Tracked} {es : List Tracked} (h : es.Pairwise Below) :
    u ∈ t.insert es ↔ u = t ∨ u ∈ es ∧ u.child ≠ t.child := by
  induction es with
  | nil => simp [insert]
  | cons e es ih =>
    obtain ⟨he, hes⟩ := List.pairwise_cons.mp h
    unfold insert
    -- The new entry takes the place of one, goes before all, or goes further back.
    split_ifs with same before
    · have hrest : ∀ u ∈ es, u.child ≠ t.child := by
        intro u hu
        rw [← same]
        exact (he u hu).child_ne
      rw [List.mem_cons, List.mem_cons]
      constructor
      · rintro (rfl | hu)
        · exact .inl rfl
        · exact .inr ⟨.inr hu, hrest u hu⟩
      · rintro (rfl | ⟨rfl | hu, hne⟩)
        · exact .inl rfl
        · exact absurd same hne
        · exact .inr hu
    · have hrest : ∀ u ∈ e :: es, u.child ≠ t.child := by
        intro u hu
        rcases List.mem_cons.mp hu with rfl | hu
        · exact Below.child_ne before
        · exact Below.child_ne (t := t) (Nat.lt_trans before (he u hu))
      rw [List.mem_cons]
      exact or_congr_right ⟨fun hu => ⟨hu, hrest u hu⟩, And.left⟩
    · rw [List.mem_cons, List.mem_cons, ih hes]
      constructor
      · rintro (rfl | rfl | ⟨hu, hne⟩)
        · exact .inr ⟨.inl rfl, same⟩
        · exact .inl rfl
        · exact .inr ⟨.inr hu, hne⟩
      · rintro (rfl | ⟨rfl | hu, hne⟩)
        · exact .inr (.inl rfl)
        · exact .inl rfl
        · exact .inr (.inr ⟨hu, hne⟩)

theorem pairwise_insert (t : Tracked) {es : List Tracked} (h : es.Pairwise Below) :
    (t.insert es).Pairwise Below := by
  induction es with
  | nil => exact List.pairwise_singleton _ _
  | cons e es ih =>
    obtain ⟨he, hes⟩ := List.pairwise_cons.mp h
    unfold insert
    split_ifs with same before
    · refine List.pairwise_cons.mpr ⟨fun u hu => ?_, hes⟩
      have hlt : e.child.raw < u.child.raw := he u hu
      rw [same] at hlt
      exact hlt
    · refine List.pairwise_cons.mpr ⟨fun u hu => ?_, h⟩
      rcases List.mem_cons.mp hu with rfl | hu
      · exact before
      · exact Nat.lt_trans before (he u hu)
    · refine List.pairwise_cons.mpr ⟨fun u hu => ?_, ih hes⟩
      rcases (mem_insert hes).mp hu with rfl | ⟨hu, _⟩
      · exact below_of_not_before same before
      · exact he u hu

@[simp]
theorem check_child (t : Tracked) (limit : Nat) (isReady : Bool) :
    (t.check limit isReady).child = t.child := rfl

@[simp]
theorem check_attempts (t : Tracked) (limit : Nat) (isReady : Bool) :
    (t.check limit isReady).attempts = t.attempts + 1 := rfl

theorem check_phase_ne (t : Tracked) (limit : Nat) (isReady : Bool) :
    (t.check limit isReady).phase ≠ .notScheduled := by
  unfold check
  dsimp only
  split_ifs <;> decide

end Tracked

namespace Overlay

def Sorted (o : Overlay) : Prop := o.tracked.Pairwise Tracked.Below

theorem sorted_initial : initial.Sorted := List.Pairwise.nil

theorem Sorted.put {o : Overlay} (h : o.Sorted) (t : Tracked) : (o.put t).Sorted :=
  Tracked.pairwise_insert t h

theorem Sorted.restart {o : Overlay} (h : o.Sorted) (child : WidgetId) :
    (o.restart child).Sorted :=
  Tracked.pairwise_insert _ h

theorem Sorted.forget {o : Overlay} (h : o.Sorted) (child : WidgetId) : (o.forget child).Sorted :=
  h.filter _

theorem Sorted.mem_put {o : Overlay} (h : o.Sorted) {t u : Tracked} :
    u ∈ (o.put t).tracked ↔ u = t ∨ u ∈ o.tracked ∧ u.child ≠ t.child :=
  Tracked.mem_insert h

theorem Sorted.mem_restart {o : Overlay} (h : o.Sorted) {child : WidgetId} {u : Tracked} :
    u ∈ (o.restart child).tracked ↔
      u = ⟨child, .notScheduled, o.generation + 1, 0⟩ ∨ u ∈ o.tracked ∧ u.child ≠ child :=
  Tracked.mem_insert h

@[simp]
theorem mem_forget {o : Overlay} {child : WidgetId} {u : Tracked} :
    u ∈ (o.forget child).tracked ↔ u ∈ o.tracked ∧ u.child ≠ child := by
  simp [forget]

@[simp]
theorem generation_restart (o : Overlay) (child : WidgetId) :
    (o.restart child).generation = o.generation + 1 := rfl

theorem Sorted.nodup {o : Overlay} (h : o.Sorted) : (o.tracked.map Tracked.child).Nodup :=
  List.pairwise_map.mpr (h.imp fun hlt => hlt.child_ne.symm)

theorem Sorted.eq_of_child {o : Overlay} (h : o.Sorted) {t u : Tracked} (ht : t ∈ o.tracked)
    (hu : u ∈ o.tracked) (hc : t.child = u.child) : t = u :=
  List.inj_on_of_nodup_map h.nodup ht hu hc

theorem find?_eq_none {o : Overlay} {child : WidgetId} :
    o.find? child = none ↔ ∀ t ∈ o.tracked, t.child ≠ child := by
  simp [find?]

theorem Sorted.find?_eq_some {o : Overlay} (h : o.Sorted) {child : WidgetId} {t : Tracked} :
    o.find? child = some t ↔ t ∈ o.tracked ∧ t.child = child := by
  constructor
  · intro hf
    exact ⟨List.mem_of_find?_eq_some hf, by simpa using List.find?_some hf⟩
  · rintro ⟨ht, rfl⟩
    obtain ⟨u, hf⟩ : ∃ u, o.find? t.child = some u := by
      rw [← Option.ne_none_iff_exists', Ne, find?_eq_none]
      exact fun hall => hall t ht rfl
    have hu : u.child = t.child := by simpa using List.find?_some hf
    rw [hf, h.eq_of_child (List.mem_of_find?_eq_some hf) ht hu]

def Tracks (o : Overlay) (child : WidgetId) : Prop := ∃ t ∈ o.tracked, t.child = child

theorem Sorted.tracks_put {o : Overlay} (h : o.Sorted) {t : Tracked} {child : WidgetId} :
    (o.put t).Tracks child ↔ child = t.child ∨ o.Tracks child := by
  constructor
  · rintro ⟨u, hu, rfl⟩
    rcases h.mem_put.mp hu with rfl | ⟨hu, _⟩
    · exact .inl rfl
    · exact .inr ⟨u, hu, rfl⟩
  · intro hc
    by_cases same : child = t.child
    · exact ⟨t, h.mem_put.mpr (.inl rfl), same.symm⟩
    · obtain ⟨u, hu, rfl⟩ := hc.resolve_left same
      exact ⟨u, h.mem_put.mpr (.inr ⟨hu, same⟩), rfl⟩

theorem Sorted.tracks_put_of_mem {o : Overlay} (h : o.Sorted) {t u : Tracked} (ht : t ∈ o.tracked)
    (hc : u.child = t.child) {child : WidgetId} : (o.put u).Tracks child ↔ o.Tracks child := by
  rw [h.tracks_put]
  constructor
  · rintro (rfl | htracks)
    · exact ⟨t, ht, hc.symm⟩
    · exact htracks
  · exact .inr

theorem Sorted.tracks_restart {o : Overlay} (h : o.Sorted) {child w : WidgetId} :
    (o.restart child).Tracks w ↔ w = child ∨ o.Tracks w :=
  h.tracks_put (t := ⟨child, .notScheduled, o.generation + 1, 0⟩)

theorem tracks_forget {o : Overlay} {child w : WidgetId} :
    (o.forget child).Tracks w ↔ o.Tracks w ∧ w ≠ child := by
  constructor
  · rintro ⟨t, ht, rfl⟩
    exact ⟨⟨t, (mem_forget.mp ht).1, rfl⟩, (mem_forget.mp ht).2⟩
  · rintro ⟨⟨t, ht, rfl⟩, hne⟩
    exact ⟨t, mem_forget.mpr ⟨ht, hne⟩, rfl⟩

theorem mem_children_iff {o : Overlay} {child : WidgetId} :
    child ∈ o.tracked.map Tracked.child ↔ o.Tracks child := List.mem_map

end Overlay

end PanelLayout
