import Mathlib.Algebra.Group.Nat.Defs
import PanelLayout.Proofs.Grid.Flow

/-! Grid lines among tracks. A pair of lines covers the tracks between them in either order, and a
line that is counted from the end is the one that is counted from the start. A span before an end
line ends there if there is room for it before the line. -/
namespace PanelLayout.AxisPlacement
open GridLine (line)

section
variable {n : Nat} (hn : 0 < n)
include hn

theorem start_clamp_lt {p : AxisPlacement} {s : Nat} (hs : (p.clamp n).start = some s) : s < n := by
  rw [clamp, if_neg (Nat.ne_of_gt hn)] at hs
  obtain ⟨t, _, rfl⟩ := Option.map_eq_some_iff.mp hs
  omega

theorem resolve_lines (s e : Int) :
    resolve (line s) (line e) n =
      ⟨some (min (min (lineIndex s n) (lineIndex e n)) (n - 1)),
        max (min (max (lineIndex s n) (lineIndex e n)) n -
          min (min (lineIndex s n) (lineIndex e n)) (n - 1)) 1⟩ := by
  have hend : endIndex e n = min (lineIndex e n) n := if_pos hn
  simp only [resolve, ofLines, hend, clamp, if_neg (Nat.ne_of_gt hn), Option.map_some,
    Option.getD_some]
  generalize lineIndex s n = a
  generalize lineIndex e n = b
  have hstart : min (min a (min b n)) (n - 1) = min (min a b) (n - 1) := by omega
  have hspan : max (min (max (max a (min b n) - min a (min b n)) 1) (n - min (min a b) (n - 1))) 1 =
      max (min (max a b) n - min (min a b) (n - 1)) 1 := by
    -- A placement whose first line is behind all tracks comes down to the last track.
    by_cases hinside : min a b < n
    · have hfirst : min a (min b n) = min a b := by omega
      have hlast : min (max a (min b n)) n = min (max a b) n := by omega
      rw [min_eq_left (Nat.le_sub_one_of_lt hinside), hfirst, ← hlast]
      generalize max a (min b n) = last
      omega
    · have hbehind : min (min a b) (n - 1) = n - 1 := by omega
      have hlast : min (max a b) n = n := by omega
      rw [hbehind, hlast]
      omega
  rw [hstart, hspan]

theorem resolve_lines_comm (s e : Int) :
    resolve (line s) (line e) n = resolve (line e) (line s) n := by
  rw [resolve_lines hn, resolve_lines hn, min_comm (lineIndex s n), max_comm (lineIndex s n)]

theorem resolve_lines_of_lt {s e : Int} (hs : 1 ≤ s) (hse : s < e) (he : e ≤ n + 1) :
    resolve (line s) (line e) n = ⟨some (s - 1).toNat, (e - s).toNat⟩ := by
  have hstart : lineIndex s n = (s - 1).toNat := if_pos hs
  have hend : lineIndex e n = (e - 1).toNat := if_pos (hs.trans hse.le)
  rw [resolve_lines hn, hstart, hend]
  have hfirst : min (min (s - 1).toNat (e - 1).toNat) (n - 1) = (s - 1).toNat := by omega
  have hcount : max (min (max (s - 1).toNat (e - 1).toNat) n - (s - 1).toNat) 1 = (e - s).toNat := by
    omega
  rw [hfirst, hcount]

end

theorem lineIndex_neg {n k : Nat} (hn : n < 2 ^ 31 - 1) (hk : 1 ≤ k) (hkn : k ≤ n + 1) :
    lineIndex (-k) n = lineIndex (n + 2 - k) n := by
  have hleft : lineIndex (-k) n = ((n : Int) + 1 + -k).toNat % UInt32.size := if_neg (by omega)
  have hright : lineIndex (n + 2 - k) n = ((n : Int) + 2 - k - 1).toNat := if_pos (by omega)
  have hsize : UInt32.size = 2 ^ 32 := rfl
  rw [hleft, hright, hsize]
  omega

theorem resolve_congr {i j : Int} {n : Nat} (h : lineIndex i n = lineIndex j n) (l : GridLine) :
    resolve (line i) l n = resolve (line j) l n ∧ resolve l (line i) n = resolve l (line j) n := by
  have hend : endIndex i n = endIndex j n := by simp only [endIndex, h]
  constructor
  · cases l <;> simp only [resolve, ofLines, h]
  · cases l <;> simp only [resolve, ofLines, hend]

/-- Among `n` tracks every placement covers at least one and ends inside, with or without a start. A
pair of lines covers the tracks from the first line to the second, in either order, and the line `-k`
is the line `n + 2 - k`. -/
theorem resolve_among_tracks {n : Nat} (hpos : 1 ≤ n) (hn : n < 2 ^ 31 - 1) :
    (∀ start finish : GridLine,
      1 ≤ (resolve start finish n).span ∧
      (∀ s, (resolve start finish n).start = some s →
        s < n ∧ s + (resolve start finish n).span ≤ n) ∧
      ((resolve start finish n).start = none → (resolve start finish n).span ≤ n)) ∧
    (∀ s e : Int, 1 ≤ s → s < e → e ≤ n + 1 →
      resolve (line s) (line e) n = ⟨some (s - 1).toNat, (e - s).toNat⟩) ∧
    (∀ s e : Int, resolve (line s) (line e) n = resolve (line e) (line s) n) ∧
    ∀ k : Nat, 1 ≤ k → k ≤ n + 1 → ∀ l : GridLine,
      resolve (line (-k)) l n = resolve (line (n + 2 - k)) l n ∧
      resolve l (line (-k)) n = resolve l (line (n + 2 - k)) n := by
  refine ⟨fun start finish => ⟨one_le_span_clamp _ n, fun s hs => ?_, fun _ => span_clamp_le _ hpos⟩,
    fun s e hs hse he => resolve_lines_of_lt hpos hs hse he, resolve_lines_comm hpos,
    fun k hk hkn l => resolve_congr (lineIndex_neg hn hk hkn) l⟩
  exact ⟨start_clamp_lt hpos hs, end_clamp_le _ hpos hs⟩

theorem resolve_among_three :
    1 ≤ 3 ∧ 3 < 2 ^ 31 - 1 ∧ resolve (line 2) (line (-1)) 3 = ⟨some 1, 2⟩ ∧
      resolve (line (-1)) (line 2) 3 = ⟨some 1, 2⟩ := by
  have hn : 3 < 2 ^ 31 - 1 := by decide
  obtain ⟨-, hlines, hcomm, hneg⟩ := resolve_among_tracks (n := 3) (by decide) hn
  have hback : resolve (line 2) (line (-1)) 3 = resolve (line 2) (line 4) 3 :=
    (hneg 1 (by decide) (by decide) (line 2)).2
  have hresult : resolve (line 2) (line (-1)) 3 = ⟨some 1, 2⟩ :=
    hback.trans (hlines 2 4 (by decide) (by decide) (by decide))
  exact ⟨by decide, hn, hresult, (hcomm (-1) 2).trans hresult⟩

theorem endIndex_le {n : Nat} (hn : 0 < n) (e : Int) : endIndex e n ≤ n := by
  rw [endIndex, if_pos hn]
  exact min_le_right _ n

theorem resolve_span_line {n s : Nat} {e : Int} (hs : 1 ≤ s) (he : 1 ≤ endIndex e n) :
    resolve (.span s) (line e) n =
      ⟨some (endIndex e n - s), if 0 < n then min s n else s⟩ := by
  simp only [resolve, ofLines, clamp, max_eq_left hs, Option.map_some, Option.getD_some]
  rcases Nat.eq_zero_or_pos n with rfl | hn
  · rfl
  · have hle := endIndex_le hn e
    rw [if_neg (Nat.ne_of_gt hn), if_pos hn]
    generalize endIndex e n = i at he hle ⊢
    have hstart : min (i - s) (n - 1) = i - s := by omega
    have hspan : max (min s (n - (i - s))) 1 = min s n := by omega
    rw [hstart, hspan]

/-- A span before an end line ends at that line exactly if it is not longer than the tracks before the
line, or if there are no tracks after the line. It never ends before the line. -/
theorem span_ends_at_line_iff {n s : Nat} {e : Int} (hs : 1 ≤ s) (he : 1 ≤ endIndex e n) :
    ∃ start count, resolve (.span s) (line e) n = ⟨some start, count⟩ ∧
      start = endIndex e n - s ∧ count = (if 0 < n then min s n else s) ∧
      endIndex e n ≤ start + count ∧
      (start + count = endIndex e n ↔ s ≤ endIndex e n ∨ endIndex e n = n) := by
  refine ⟨_, _, resolve_span_line hs he, rfl, rfl, ?_⟩
  rcases Nat.eq_zero_or_pos n with rfl | hn
  · rw [if_neg (Nat.lt_irrefl 0)]
    omega
  · have hle := endIndex_le hn e
    rw [if_pos hn]
    omega

theorem span_ends_at_line_iff_counted_back :
    1 ≤ 2 ∧ 1 ≤ endIndex (-2) 4 ∧ resolve (.span 2) (line (-2)) 4 = ⟨some 1, 2⟩ ∧
      1 + 2 = endIndex (-2) 4 := by
  have hs : 1 ≤ 2 := by decide
  have he : 1 ≤ endIndex (-2) 4 := by decide
  obtain ⟨start, count, hresolve, rfl, rfl, -, hends⟩ := span_ends_at_line_iff hs he
  exact ⟨hs, he, hresolve, hends.mpr (.inl (by decide))⟩

/-- Three tracks before the second line of four tracks take the first three. -/
theorem not_forall_span_ends_at_line :
    ¬∀ (n s : Nat) (e : Int), 1 ≤ s → 1 ≤ endIndex e n →
      ∃ start, (resolve (.span s) (line e) n).start = some start ∧
        start + (resolve (.span s) (line e) n).span = endIndex e n := by
  intro h
  obtain ⟨start, hstart, hend⟩ := h 4 3 2 (by decide) (by decide)
  have hresolve : resolve (.span 3) (line 2) 4 = ⟨some 0, 3⟩ := rfl
  rw [hresolve] at hstart hend
  obtain rfl := Option.some.inj hstart
  exact absurd hend (by decide)

end PanelLayout.AxisPlacement
