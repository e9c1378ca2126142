import PanelLayout.Proofs.Grid.Areas
import PanelLayout.Proofs.Length.Grammar

/-!
Line numbers written in digits. They are kept inside the tracks as long as they fit into 32 bits with a
sign; a larger one is read as the name of an area.
-/
namespace PanelLayout

def spelledNumber (ds : List Char) : Nat := ofDigits (ds.map digitValue)

namespace IsDigits
variable {ds : List Char} (hds : IsDigits ds)
include hds

theorem trim_eq : Text.trim ds = ds := Text.trim_eq_self fun c hc => Text.isBlank_of_isDigit (hds.2 c hc)

theorem slash_notMem : '/' ∉ ds := fun h => absurd (hds.2 '/' h) (by decide)

theorem isWord_eq_false {word : String} (hword : word.toList.Forall (·.isDigit = false)) :
    Text.isWord word ds = false := by
  obtain ⟨c, s, rfl⟩ := List.exists_cons_of_ne_nil hds.1
  have hdigit : c.isDigit = true := hds.2 c List.mem_cons_self
  refine Bool.eq_false_iff.mpr fun h => ?_
  have hmem := Text.mem_of_isWord h List.mem_cons_self
  rw [Numeral.toLower_of_isDigit hdigit] at hmem
  rw [List.forall_iff_forall_mem.mp hword c hmem] at hdigit
  cases hdigit

theorem scan_eq : Numeral.scanSign ds = (false, ds) ∧
    Numeral.scanDigits ds = (ds.map digitValue, []) := by
  have hsign : ∀ c ∈ ds.head?, c ≠ '+' ∧ c ≠ '-' := by
    intro c hc
    have hdigit := hds.2 c (List.mem_of_mem_head? hc)
    constructor <;> rintro rfl <;> exact absurd hdigit (by decide)
  have hdigits := Numeral.scanDigits_of_isDigit hds.2 (r := []) (by simp)
  rw [List.append_nil] at hdigits
  have hunsigned : [] ∈ [[], ['+'], ['-']] := List.mem_cons_self
  exact ⟨Numeral.scanSign_append hunsigned hsign, hdigits⟩

end IsDigits

namespace GridLine
variable {ds : List Char} (hds : IsDigits ds)
include hds

theorem integer?_digits :
    integer? ds = if spelledNumber ds < 2 ^ 31 then some (spelledNumber ds : Int) else none := by
  obtain ⟨hsign, hdigits⟩ := hds.scan_eq
  obtain ⟨c, s, rfl⟩ := List.exists_cons_of_ne_nil hds.1
  have hbound : (Int32.minValue.toInt ≤ (spelledNumber (c :: s) : Int) ∧
      (spelledNumber (c :: s) : Int) ≤ Int32.maxValue.toInt) ↔ spelledNumber (c :: s) < 2 ^ 31 := by
    have hmin : Int32.minValue.toInt = -2 ^ 31 := by decide
    have hmax : Int32.maxValue.toInt = 2 ^ 31 - 1 := by decide
    omega
  -- The bounds of signed integers of 32 bits are the one bound, for there is no sign.
  simp only [integer?, hsign, hdigits, List.map_cons]
  exact if_congr hbound rfl rfl

theorem span?_digits : span? ds = none := by
  obtain ⟨c, s, rfl⟩ := List.exists_cons_of_ne_nil hds.1
  have hdigit : c.isDigit = true := hds.2 c List.mem_cons_self
  have hletter : c.toLower ≠ 's' := by
    rw [Numeral.toLower_of_isDigit hdigit]
    rintro rfl
    exact absurd hdigit (by decide)
  have hdrop : Text.dropWord? "span".toList (c :: s) = none := if_neg hletter
  rw [span?, hdrop]

theorem ofText_digits (hpos : 1 ≤ spelledNumber ds) :
    ofText ds = if spelledNumber ds < 2 ^ 31 then .line (spelledNumber ds) else .named (String.ofList ds) := by
  have hauto : Text.isWord "auto" ds = false := hds.isWord_eq_false (by decide)
  have hspan : Text.isWord "span" ds = false := hds.isWord_eq_false (by decide)
  have hempty : ds.isEmpty = false := List.isEmpty_eq_false_iff.mpr hds.1
  have hname : ds.all isNameChar = true := by
    rw [List.all_eq_true]
    intro c hc
    simp [isNameChar, Text.isAlphanumeric, Char.isAlphanum, hds.2 c hc]
  simp only [ofText, hds.trim_eq, hempty, hauto, hspan, span?_digits hds, integer?_digits hds, hname,
    Bool.or_self, Bool.false_eq_true, if_false, if_true]
  split_ifs with hfits
  · have hne : (spelledNumber ds : Int) ≠ 0 := by omega
    exact if_neg hne
  · rfl

end GridLine

theorem AxisPlacement.resolve_line_auto {n k : Nat} (hn : 1 ≤ n) (hk : 1 ≤ k) :
    resolve (.line k) .auto n = ⟨some (min k n - 1), 1⟩ := by
  have hindex : lineIndex k n = k - 1 := by
    rw [lineIndex, if_pos (by omega)]
    omega
  have hspan : max (min (max 1 1) (n - min (k - 1) (n - 1))) 1 = 1 := by omega
  have hstart : min (k - 1) (n - 1) = min k n - 1 := by omega
  simp only [resolve, ofLines, clamp, hindex, if_neg (Nat.ne_of_gt hn), Option.map_some,
    Option.getD_some, hspan]
  rw [hstart]

theorem AxisPlacement.resolve_auto_auto {n : Nat} (hn : 1 ≤ n) : resolve .auto .auto n = ⟨none, 1⟩ := by
  have hspan : max (min (max 1 1) (n - 0)) 1 = 1 := by omega
  simp only [resolve, ofLines, clamp, if_neg (Nat.ne_of_gt hn), Option.map_none, Option.getD_none, hspan]

namespace Grid

/-- A child whose place along an axis is a number in digits. Below `2 ^ 31` it is the line that the child
begins at, or the last track if that comes before. Any other number is taken for the name of an area, so
that the child is left to the flow if there is none of that name. -/
theorem placement_number {g : Grid} {axis : Axis} (hn : 1 ≤ g.trackCount axis) {ds : List Char}
    (hds : IsDigits ds) (hpos : 1 ≤ spelledNumber ds) {s : Style}
    (hs : s.get axis.properties.1 = some (.text (String.ofList ds))) :
    (spelledNumber ds < 2 ^ 31 →
      g.placement axis s = ⟨some (min (spelledNumber ds) (g.trackCount axis) - 1), 1⟩) ∧
    (2 ^ 31 ≤ spelledNumber ds →
      g.placement axis s = g.between axis (.named (String.ofList ds), .auto)) ∧
    (g.area? (String.ofList ds) = none →
      (2 ^ 31 ≤ spelledNumber ds → g.placement axis s = ⟨none, 1⟩) ∧
      (g.placement axis s = ⟨some (min (spelledNumber ds) (g.trackCount axis) - 1), 1⟩ ↔
        spelledNumber ds < 2 ^ 31)) := by
  have hsides : axis.sides s = (GridLine.ofText ds, .auto) := by
    have hslash : Text.splitOnce '/' ds = none := Text.splitOnce_eq_none hds.slash_notMem
    simp only [Axis.sides, hs, GridLine.pairOfValue, String.toList_ofList, hslash]
  have hplacement : g.placement axis s = g.between axis (GridLine.ofText ds, .auto) := by
    rw [← hsides]
    rfl
  rw [GridLine.ofText_digits hds hpos] at hplacement
  have hfits : spelledNumber ds < 2 ^ 31 →
      g.placement axis s = ⟨some (min (spelledNumber ds) (g.trackCount axis) - 1), 1⟩ := by
    intro h
    rw [hplacement, if_pos h]
    exact AxisPlacement.resolve_line_auto hn hpos
  have hlarge : 2 ^ 31 ≤ spelledNumber ds →
      g.placement axis s = g.between axis (.named (String.ofList ds), .auto) := by
    intro h
    rw [hplacement, if_neg (Nat.not_lt.mpr h)]
  have hunnamed : g.area? (String.ofList ds) = none → 2 ^ 31 ≤ spelledNumber ds →
      g.placement axis s = ⟨none, 1⟩ := by
    intro harea h
    have hlines : g.expandNames axis (.named (String.ofList ds), .auto) = (.auto, .auto) := by
      simp only [expandNames, linesOf?, harea, Option.map_none, Option.getD_none]
    rw [hlarge h, between, hlines]
    exact AxisPlacement.resolve_auto_auto hn
  refine ⟨hfits, hlarge, fun harea => ⟨hunnamed harea, ?_, hfits⟩⟩
  intro heq
  by_contra hnot
  rw [hunnamed harea (Nat.not_lt.mp hnot)] at heq
  cases heq

theorem placement_number_three :
    let g := ofStyle .standard .standard (Style.empty.set .gridTemplateColumns (.text "1fr 1fr 1fr"))
    let child (t : String) := Style.empty.set .gridColumn (.text t)
    g.trackCount .column = 3 ∧ g.placement .column (child "2147483647") = ⟨some 2, 1⟩ ∧
      g.placement .column (child "2147483648") = ⟨none, 1⟩ := by
  intro g child
  have hcount : g.trackCount .column = 3 := by decide +kernel
  have htracks : 1 ≤ g.trackCount .column := by omega
  have hlast : spelledNumber "2147483647".toList = 2147483647 := by decide +kernel
  have hnext : spelledNumber "2147483648".toList = 2147483648 := by decide +kernel
  have hlastDigits : IsDigits "2147483647".toList := ⟨by decide, List.all_eq_true.mp (by decide)⟩
  have hnextDigits : IsDigits "2147483648".toList := ⟨by decide, List.all_eq_true.mp (by decide)⟩
  have hareas : g.area? (String.ofList "2147483648".toList) = none := by decide +kernel
  obtain ⟨hfits, -, -⟩ := placement_number htracks hlastDigits (by omega) (s := child "2147483647") rfl
  obtain ⟨-, -, hunnamed⟩ :=
    placement_number htracks hnextDigits (by omega) (s := child "2147483648") rfl
  have hinside := hfits (by omega)
  rw [hlast, hcount] at hinside
  exact ⟨hcount, hinside, (hunnamed hareas).1 (by omega)⟩

/-- Not every number in digits is kept inside the tracks: `2 ^ 31` is left to the flow. -/
theorem not_forall_placement_number :
    ¬∀ (g : Grid) (ds : List Char) (s : Style), 1 ≤ g.trackCount .column → IsDigits ds →
      1 ≤ spelledNumber ds → s.get .gridColumn = some (.text (String.ofList ds)) →
      g.placement .column s = ⟨some (min (spelledNumber ds) (g.trackCount .column) - 1), 1⟩ := by
  intro h
  let g := ofStyle .standard .standard (Style.empty.set .gridTemplateColumns (.text "1fr 1fr 1fr"))
  have hdigits : IsDigits "2147483648".toList := ⟨by decide, List.all_eq_true.mp (by decide)⟩
  have hspelled : 1 ≤ spelledNumber "2147483648".toList := by decide +kernel
  have hcount : 1 ≤ g.trackCount .column := by decide +kernel
  have hstart := congrArg AxisPlacement.start
    (h g "2147483648".toList (Style.empty.set .gridColumn (.text "2147483648")) hcount hdigits hspelled rfl)
  have hnone : (g.placement .column (Style.empty.set .gridColumn (.text "2147483648"))).start = none := by
    decide +kernel
  rw [hnone] at hstart
  cases hstart

end Grid

end PanelLayout
