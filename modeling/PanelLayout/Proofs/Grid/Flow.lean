import PanelLayout.Proofs.Container.Structure
import PanelLayout.Proofs.Grid.Seats
import Mathlib.Data.Prod.Lex

/-!
The flow of grid containers. While the tracks and the flow of a grid stay, the children for which
neither index is given are put one behind the other in the order of the flow, inside the tracks and
without a cell in common. Nothing else moves the cursor, until other tracks put it back to the start.
-/
namespace PanelLayout

namespace Track

def Alike (a b : Track) : Prop := a.kind = b.kind ∧ (a.value == b.value) = true

theorem sameList_iff {as bs : List Track} : sameList as bs ↔ List.Forall₂ Alike as bs := by
  induction as generalizing bs with
  | nil => cases bs <;> simp [sameList]
  | cons a as ih =>
    cases bs with
    | nil => simp [sameList]
    | cons b bs => simp [sameList, same, Alike, ih]

end Track

namespace AxisPlacement
variable (p : AxisPlacement)

theorem one_le_span_clamp (count : Nat) : 1 ≤ (p.clamp count).span := by
  unfold clamp
  split_ifs <;> exact Nat.le_max_right _ 1

theorem span_clamp_le {count : Nat} (hcount : 0 < count) : (p.clamp count).span ≤ count := by
  rw [clamp, if_neg (Nat.ne_of_gt hcount)]
  exact max_le (le_trans (min_le_right _ _) (Nat.sub_le _ _)) hcount

theorem end_clamp_le {count s : Nat} (hcount : 0 < count) (hs : (p.clamp count).start = some s) :
    s + (p.clamp count).span ≤ count := by
  rw [clamp, if_neg (Nat.ne_of_gt hcount)] at hs ⊢
  simp only [Option.map_eq_some_iff] at hs
  obtain ⟨t, ht, rfl⟩ := hs
  simp only [ht, Option.map_some, Option.getD_some]
  omega

end AxisPlacement

namespace Grid

def Axis.other : Axis → Axis
  | row => column
  | column => row

variable (g : Grid) (axis : Axis) (style : Style)

theorem one_le_span_placement : 1 ≤ (g.placement axis style).span :=
  AxisPlacement.one_le_span_clamp ..

theorem span_placement_le {g : Grid} {axis : Axis} (h : 0 < g.trackCount axis) (style : Style) :
    (g.placement axis style).span ≤ g.trackCount axis :=
  AxisPlacement.span_clamp_le _ h

theorem end_placement_le {g : Grid} {axis : Axis} {style : Style} {s : Nat}
    (h : 0 < g.trackCount axis) (hs : (g.placement axis style).start = some s) :
    s + (g.placement axis style).span ≤ g.trackCount axis :=
  AxisPlacement.end_clamp_le _ h hs

end Grid

/-! Cells and slots along an axis, and the order in which a flow comes to the cells. -/

def Cell.index (c : Cell) : Grid.Axis → Nat
  | .row => c.row
  | .column => c.column

namespace GridSlot

def cell (s : GridSlot) : Cell := ⟨s.row, s.column⟩

def start (s : GridSlot) (axis : Grid.Axis) : Nat := s.cell.index axis

def span (s : GridSlot) : Grid.Axis → Nat
  | .row => s.rowSpan
  | .column => s.columnSpan

def Covers (s : GridSlot) (c : Cell) : Prop :=
  ∀ axis, s.start axis ≤ c.index axis ∧ c.index axis < s.start axis + s.span axis

def Apart (s t : GridSlot) : Prop := ∀ c, ¬(s.Covers c ∧ t.Covers c)

end GridSlot

namespace AutoFlow

def axis : AutoFlow → Grid.Axis
  | row => .column
  | column => .row

/-- The line of a cell and its place in the line; the flow comes to the cells in this order. -/
def position (f : AutoFlow) (c : Cell) : Nat ×ₗ Nat :=
  toLex (c.index f.axis.other, c.index f.axis)

def cellAt : AutoFlow → Nat × Nat → Cell
  | row, (line, place) => ⟨line, place⟩
  | column, (line, place) => ⟨place, line⟩

def begun (f : AutoFlow) (c : Cell) : Nat :=
  if 0 < c.index f.axis then c.index f.axis.other + 1 else c.index f.axis.other

def Behind (f : AutoFlow) (s : GridSlot) (c : Cell) : Prop :=
  s.start f.axis.other < c.index f.axis.other ∨
    s.start f.axis.other = c.index f.axis.other ∧ s.start f.axis + s.span f.axis ≤ c.index f.axis

variable {f : AutoFlow} {s t : GridSlot} {c d : Cell}

theorem position_le_iff : f.position c ≤ f.position d ↔
    c.index f.axis.other < d.index f.axis.other ∨
      c.index f.axis.other = d.index f.axis.other ∧ c.index f.axis ≤ d.index f.axis :=
  Prod.Lex.toLex_le_toLex

theorem position_lt_iff : f.position c < f.position d ↔
    c.index f.axis.other < d.index f.axis.other ∨
      c.index f.axis.other = d.index f.axis.other ∧ c.index f.axis < d.index f.axis :=
  Prod.Lex.toLex_lt_toLex

theorem index_cellAt (f : AutoFlow) (p : Nat × Nat) :
    (f.cellAt p).index f.axis.other = p.1 ∧ (f.cellAt p).index f.axis = p.2 := by
  cases f <;> exact ⟨rfl, rfl⟩

theorem Behind.of_le (h : f.Behind s c) (hle : f.position c ≤ f.position d) : f.Behind s d := by
  rcases position_le_iff.mp hle with hline | ⟨hline, hplace⟩
  · rcases h with h | ⟨h, _⟩
    · exact .inl (h.trans hline)
    · exact .inl (h ▸ hline)
  · rcases h with h | ⟨h, hend⟩
    · exact .inl (hline ▸ h)
    · exact .inr ⟨h.trans hline, hend.trans hplace⟩

theorem Behind.position_lt (h : f.Behind s c) (hspan : 1 ≤ s.span f.axis) :
    f.position s.cell < f.position c := by
  refine position_lt_iff.mpr (h.imp id fun ⟨hline, hend⟩ => ⟨hline, ?_⟩)
  exact Nat.lt_of_lt_of_le (Nat.lt_add_of_pos_right hspan) hend

theorem behind_of_position_lt (h : f.position s.cell < f.position c) (hspan : s.span f.axis = 1) :
    f.Behind s c := by
  refine (position_lt_iff.mp h).imp id fun ⟨hline, hplace⟩ => ⟨hline, ?_⟩
  rw [hspan]
  exact hplace

theorem Behind.apart (h : f.Behind s t.cell) (hspan : s.span f.axis.other = 1) : s.Apart t := by
  rintro c ⟨hs, ht⟩
  have hline := (hs f.axis.other).2
  rw [hspan] at hline
  rcases h with h | ⟨_, hend⟩
  · exact absurd (ht f.axis.other).1 (Nat.not_le_of_lt (Nat.lt_of_le_of_lt (Nat.lt_succ_iff.mp hline) h))
  · exact absurd (hend.trans (ht f.axis).1) (Nat.not_le_of_lt (hs f.axis).2)

end AutoFlow

namespace Grid
open LayoutKind (Step Operation Structured)

def AlikeTracks (a b : Grid) : Prop :=
  List.Forall₂ Track.Alike a.columns b.columns ∧ List.Forall₂ Track.Alike a.rows b.rows

theorem sameTracks_iff {a b : Grid} : a.sameTracks b ↔ a.AlikeTracks b := by
  simp only [sameTracks, Bool.and_eq_true, Track.sameList_iff, AlikeTracks]

theorem AlikeTracks.trackCount_eq {a b : Grid} (h : a.AlikeTracks b) (axis : Axis) :
    a.trackCount axis = b.trackCount axis := by
  cases axis
  · exact h.2.length_eq
  · exact h.1.length_eq

theorem renew_of_alike {ctx : Context} {g : Grid} {style : Style}
    (h : (ofStyle ctx.units ctx.config style).AlikeTracks g) :
    g.renew ctx style = { ofStyle ctx.units ctx.config style with cursor := g.cursor } :=
  if_pos (sameTracks_iff.mpr h)

theorem renew_of_not_alike {ctx : Context} {g : Grid} {style : Style}
    (h : ¬(ofStyle ctx.units ctx.config style).AlikeTracks g) :
    g.renew ctx style = ofStyle ctx.units ctx.config style :=
  if_neg fun hsame => h (sameTracks_iff.mp hsame)

/-- What a step of the flow does, where no sum is cut. The next child goes where the flow stands, or
begins a new line; behind it the flow stands in the same line, or before a new one. -/
theorem advance_cases {count line place : Nat} (span : Nat) (hcount : count ≤ 0xFFFFFFFF)
    (hline : (if 0 < place then line + 1 else line) + 1 ≤ 0xFFFFFFFF) :
    let (cell, next) := advance count line place span
    (cell = (line, place) ∨ cell = (line + 1, 0) ∧ 0 < place) ∧
      (next = (cell.1 + 1, 0) ∨ next = (cell.1, cell.2 + span)) := by
  unfold advance addSaturating
  dsimp only
  split_ifs at hline ⊢ <;> grind

theorem end_advance_le {count span : Nat} (hcount : count < 0xFFFFFFFF) (hspan : span ≤ count)
    (line place : Nat) : (advance count line place span).1.2 + span ≤ count := by
  unfold advance addSaturating
  dsimp only
  split_ifs with hwraps
  · rwa [Nat.zero_add]
  · -- Past the end of the line only a child in its first place would not have begun a new one.
    grind

theorem advance_place_lt {count : Nat} (hcount : 0 < count) (line place span : Nat) :
    (advance count line place span).2.2 < count := by
  unfold advance
  dsimp only
  split_ifs with _ hfull hfull
  · exact hcount
  · exact Nat.lt_of_not_le hfull
  · exact hcount
  · exact Nat.lt_of_not_le hfull

theorem nextCell_eq (g : Grid) (rowSpan columnSpan : Nat) :
    let step := advance (max (g.trackCount g.flow.axis) 1) (g.cursor.index g.flow.axis.other)
      (g.cursor.index g.flow.axis) (match g.flow.axis with | .row => rowSpan | .column => columnSpan)
    g.nextCell rowSpan columnSpan =
      (g.flow.cellAt step.1, { g with cursor := g.flow.cellAt step.2 }) := by
  unfold nextCell
  cases g.flow <;> rfl

section
variable (u : CssUnits) (g : Grid) (style : Style)

theorem cell_slotFor : (g.slotFor u style).1.cell =
    (g.cellFor (g.placement .row style) (g.placement .column style)).1 := rfl

theorem span_slotFor (axis : Axis) :
    (g.slotFor u style).1.span axis = (g.placement axis style).span := by
  cases axis <;> rfl

theorem snd_slotFor : (g.slotFor u style).2 =
    (g.cellFor (g.placement .row style) (g.placement .column style)).2 := rfl

def Flows : Prop := ∀ axis, (g.placement axis style).start = none

theorem cellFor_of_flows {g : Grid} {style : Style} (h : g.Flows style) :
    g.cellFor (g.placement .row style) (g.placement .column style) =
      g.nextCell (g.placement .row style).span (g.placement .column style).span := by
  simp only [cellFor, h .row, h .column]

theorem cellFor_of_not_flows {g : Grid} {style : Style} (h : ¬g.Flows style) :
    (g.cellFor (g.placement .row style) (g.placement .column style)).2 = g := by
  unfold cellFor
  cases hrow : (g.placement .row style).start with
  | some r => cases (g.placement .column style).start <;> rfl
  | none =>
    cases hcolumn : (g.placement .column style).start with
    | some c => rfl
    | none => exact absurd (fun axis => by cases axis <;> assumption) h

end

def next (g : Grid) (c : Container) : Step → Grid
  | ⟨ctx, .append child style⟩ => if c.has child then g else (g.slotFor ctx.units style).2
  | ⟨ctx, .update old changed⟩ => g.renew ctx (old.merge changed)
  | _ => g

section
variable {c : Container} {g : Grid}

theorem layout_outcome (hg : c.layout = .grid g) (s : Step) :
    (LayoutKind.grid.outcome c s).container.layout = .grid (g.next c s) := by
  have hk : c.kind = .grid := congrArg Layout.kind hg
  obtain ⟨ctx, op⟩ := s
  cases op with
  | append child style =>
    rw [LayoutKind.outcome, LayoutKind.apply, LayoutKind.append, append_eq hg, next]
    split_ifs
    · exact hg
    · rfl
  | updateChild child changed =>
    rw [LayoutKind.outcome, LayoutKind.apply, LayoutKind.updateChild, updateChild_eq hg]
    exact hg
  | remove child =>
    rw [LayoutKind.outcome, LayoutKind.apply, LayoutKind.remove_eq hk (by decide)]
    exact hg
  | update old changed =>
    rw [LayoutKind.outcome, LayoutKind.apply, LayoutKind.update, update_eq hg]
    rfl
  | resume ticket =>
    rw [LayoutKind.outcome, LayoutKind.apply, LayoutKind.resume_eq hk (by decide)]
    exact hg

theorem putSlot_newSlot (hs : Structured .grid .grid c) (slot : GridSlot) :
    putSlot slot c.panel.newSlot = .grid slot := by
  have hpanel := hs.panel_eq
  cases hp : c.panel with
  | grid p => rfl
  | _ => rw [hp] at hpanel; cases hpanel

theorem child?_append (hs : Structured .grid .grid c) (hg : c.layout = .grid g) (ctx : Context)
    {child : WidgetId} (hnew : ¬c.has child) (style : Style) :
    (LayoutKind.grid.outcome c ⟨ctx, .append child style⟩).container.child? child =
      some ⟨child, style, .grid (g.slotFor ctx.units style).1, c.nextSequence⟩ := by
  rw [LayoutKind.outcome, LayoutKind.apply, LayoutKind.append, append_eq hg, if_neg hnew,
    putSlot_newSlot hs]
  exact Container.child?_push (Bool.eq_false_iff.mpr hnew) style _

end

def slot? (c : Container) (child : WidgetId) : Option GridSlot :=
  (c.child? child).bind fun node => node.slot.grid?

structure Arrival where
  cursor : Cell
  asked : Axis → AxisPlacement
  slot : GridSlot

def Arrival.of (u : CssUnits) (g : Grid) (style : Style) : Arrival :=
  ⟨g.cursor, fun axis => g.placement axis style, (g.slotFor u style).1⟩

def Arrival.Flows (a : Arrival) : Prop := ∀ axis, (a.asked axis).start = none

structure Arrival.InFlow (f : AutoFlow) (count : Nat) (a : Arrival) : Prop where
  cursor_le : f.position a.cursor ≤ f.position a.slot.cell
  one_le_span : 1 ≤ a.slot.span f.axis
  end_le : 0 < count → count < 0xFFFFFFFF → a.slot.start f.axis + a.slot.span f.axis ≤ count

def arrival? (c : Container) (s : Step) : Option Arrival :=
  match c.layout, s.operation with
  | .grid g, .append child style =>
    if c.has child then none
    else (slot? (LayoutKind.grid.outcome c s).container child).map fun slot =>
      ⟨g.cursor, fun axis => g.placement axis style, slot⟩
  | _, _ => none

def arrivals : Container → List Step → List Arrival
  | _, [] => []
  | c, s :: steps => (arrival? c s).toList ++ arrivals (LayoutKind.grid.outcome c s).container steps

def Steady : Grid → List Step → Prop
  | _, [] => True
  | g, s :: steps =>
    (∀ old changed, s.operation = .update old changed →
      (g.after s).AlikeTracks g ∧ (g.after s).flow = g.flow) ∧ Steady (g.after s) steps

theorem slot?_append {c : Container} {g : Grid} (hs : Structured .grid .grid c)
    (hg : c.layout = .grid g) (ctx : Context) {child : WidgetId} (hnew : ¬c.has child)
    (style : Style) : slot? (LayoutKind.grid.outcome c ⟨ctx, .append child style⟩).container child =
      some (g.slotFor ctx.units style).1 := by
  rw [slot?, child?_append hs hg ctx hnew style]
  rfl

theorem arrival?_append {c : Container} {g : Grid} (hs : Structured .grid .grid c)
    (hg : c.layout = .grid g) (ctx : Context) {child : WidgetId} (hnew : ¬c.has child)
    (style : Style) : arrival? c ⟨ctx, .append child style⟩ = some (.of ctx.units g style) := by
  rw [arrival?, hg]
  dsimp only
  rw [if_neg hnew, slot?_append hs hg ctx hnew style]
  rfl

theorem arrival?_of_has {c : Container} (ctx : Context) {child : WidgetId} (hhas : c.has child)
    (style : Style) : arrival? c ⟨ctx, .append child style⟩ = none := by
  unfold arrival?
  cases c.layout with
  | grid g => exact if_pos hhas
  | _ => rfl

theorem arrival?_of_not_append {c : Container} {g : Grid} (hg : c.layout = .grid g) {s : Step}
    (h : ∀ child style, s.operation ≠ .append child style) : arrival? c s = none := by
  rw [arrival?, hg]
  cases hop : s.operation with
  | append child style => exact absurd hop (h child style)
  | _ => rfl

theorem exists_next (g : Grid) (c : Container) (s : Step) :
    ∃ cursor, g.next c s = { g.after s with cursor := cursor } := by
  obtain ⟨ctx, op⟩ := s
  cases op with
  | append child style =>
    rw [next]
    split_ifs
    · exact ⟨g.cursor, rfl⟩
    · obtain ⟨slot, cursor, hslot, _⟩ := exists_slotFor ctx.units g style
      exact ⟨cursor, congrArg Prod.snd hslot⟩
  | update old changed => exact exists_renew ctx g (old.merge changed)
  | _ => exact ⟨g.cursor, rfl⟩

theorem Steady.with_cursor {g : Grid} {steps : List Step} (h : g.Steady steps) (cursor : Cell) :
    Steady { g with cursor := cursor } steps := by
  induction steps generalizing g cursor with
  | nil => trivial
  | cons s steps ih =>
    obtain ⟨hs, hrest⟩ := h
    obtain ⟨ctx, op⟩ := s
    cases op with
    | update old changed => exact ⟨hs, hrest⟩
    | _ => exact ⟨by rintro _ _ ⟨⟩, ih hrest cursor⟩

theorem Steady.next {g : Grid} {s : Step} {steps : List Step} (h : g.Steady (s :: steps))
    (c : Container) : (g.next c s).Steady steps := by
  obtain ⟨cursor, hnext⟩ := exists_next g c s
  rw [hnext]
  exact h.2.with_cursor cursor

/-- What a step does to the flow of a grid, whose tracks and flow stay: the cursor does not go back,
it begins at most one line for each child that is added, and a child for which neither index is given
is put between where the flow stood and where it stands then, inside the tracks. -/
structure Advances (g g' : Grid) (a? : Option Arrival) : Prop where
  flow_eq : g'.flow = g.flow
  count_eq : g'.trackCount g.flow.axis = g.trackCount g.flow.axis
  cursor_le : g.flow.position g.cursor ≤ g.flow.position g'.cursor
  begun_le : g.flow.begun g'.cursor ≤ g.flow.begun g.cursor + a?.toList.length
  arrival : ∀ a ∈ a?, a.cursor = g.cursor ∧ (a.Flows →
    a.InFlow g.flow (g.trackCount g.flow.axis) ∧ g.flow.Behind a.slot g'.cursor)

theorem slotFor_of_flows {g : Grid} {style : Style} (h : g.Flows style) (u : CssUnits) :
    let step := advance (max (g.trackCount g.flow.axis) 1) (g.cursor.index g.flow.axis.other)
      (g.cursor.index g.flow.axis) (g.placement g.flow.axis style).span
    (g.slotFor u style).1.cell = g.flow.cellAt step.1 ∧
      (g.slotFor u style).2 = { g with cursor := g.flow.cellAt step.2 } := by
  have hspan : (match g.flow.axis with
      | .row => (g.placement .row style).span
      | .column => (g.placement .column style).span) = (g.placement g.flow.axis style).span := by
    cases g.flow.axis <;> rfl
  rw [cell_slotFor, snd_slotFor, cellFor_of_flows h, nextCell_eq, hspan]
  exact ⟨rfl, rfl⟩

theorem end_slotFor_le_of_flows {g : Grid} {style : Style} (hflows : g.Flows style)
    (hpos : 0 < g.trackCount g.flow.axis) (hcount : g.trackCount g.flow.axis < 0xFFFFFFFF)
    (u : CssUnits) :
    (g.slotFor u style).1.start g.flow.axis + (g.slotFor u style).1.span g.flow.axis ≤
      g.trackCount g.flow.axis := by
  have hle := end_advance_le hcount (span_placement_le hpos style)
    (g.cursor.index g.flow.axis.other) (g.cursor.index g.flow.axis)
  rw [GridSlot.start, (slotFor_of_flows hflows u).1, (g.flow.index_cellAt _).2, span_slotFor,
    max_eq_left hpos]
  exact hle

theorem advances_of_flows {g : Grid} (hcount : g.trackCount g.flow.axis ≤ 0xFFFFFFFF)
    (hbegun : g.flow.begun g.cursor + 1 ≤ 0xFFFFFFFF) {style : Style} (hflows : g.Flows style)
    (u : CssUnits) :
    Advances g (g.slotFor u style).2 (some (.of u g style)) := by
  obtain ⟨hcell, hnext⟩ := slotFor_of_flows hflows u
  have hspan := span_slotFor u g style g.flow.axis
  have hpos := g.one_le_span_placement g.flow.axis style
  have hmax : max (g.trackCount g.flow.axis) 1 ≤ 0xFFFFFFFF := max_le hcount (by decide)
  have hcases := advance_cases (g.placement g.flow.axis style).span hmax hbegun
  dsimp only at hcases
  rcases hstep : advance (max (g.trackCount g.flow.axis) 1) (g.cursor.index g.flow.axis.other)
      (g.cursor.index g.flow.axis) (g.placement g.flow.axis style).span with ⟨⟨l, p⟩, ⟨l', p'⟩⟩
  rw [hstep] at hcell hnext hcases
  obtain ⟨hl, hp⟩ := g.flow.index_cellAt (l, p)
  obtain ⟨hl', hp'⟩ := g.flow.index_cellAt (l', p')
  rw [hnext]
  refine ⟨rfl, by cases g.flow.axis <;> rfl, ?_, ?_, ?_⟩
  · rw [AutoFlow.position_le_iff, hl', hp']
    grind
  · rw [AutoFlow.begun, AutoFlow.begun, hl', hp']
    grind
  · rintro a ⟨⟩
    refine ⟨rfl, fun _ => ⟨⟨?_, hspan.symm ▸ hpos, fun hn hlt => ?_⟩, ?_⟩⟩
    · show g.flow.position g.cursor ≤ g.flow.position (g.slotFor u style).1.cell
      rw [hcell, AutoFlow.position_le_iff, hl, hp]
      grind
    · exact end_slotFor_le_of_flows hflows hn hlt u
    · show g.flow.Behind (g.slotFor u style).1 _
      rw [AutoFlow.Behind, hspan, GridSlot.start, GridSlot.start, hcell, hl, hp, hl', hp']
      grind

structure Rests (g g' : Grid) (a? : Option Arrival) : Prop where
  flow_eq : g'.flow = g.flow
  count_eq : g'.trackCount g.flow.axis = g.trackCount g.flow.axis
  cursor_eq : g'.cursor = g.cursor
  arrival : ∀ a ∈ a?, a.cursor = g.cursor ∧ ¬a.Flows

theorem Rests.advances {g g' : Grid} {a? : Option Arrival} (h : Rests g g' a?) :
    Advances g g' a? where
  flow_eq := h.flow_eq
  count_eq := h.count_eq
  cursor_le := by rw [h.cursor_eq]
  begun_le := by rw [h.cursor_eq]; exact Nat.le_add_right _ _
  arrival a ha := ⟨(h.arrival a ha).1, fun hflows => absurd hflows (h.arrival a ha).2⟩

theorem rests_or_flows {c : Container} {g : Grid} (hs : Structured .grid .grid c)
    (hg : c.layout = .grid g) {s : Step} {steps : List Step} (hsteady : g.Steady (s :: steps)) :
    Rests g (g.next c s) (arrival? c s) ∨ ∃ u style, g.Flows style ∧
      arrival? c s = some (.of u g style) ∧ g.next c s = (g.slotFor u style).2 := by
  obtain ⟨ctx, op⟩ := s
  cases op with
  | append child style =>
    by_cases hhas : c.has child
    · have hnext : g.next c ⟨ctx, .append child style⟩ = g := if_pos hhas
      rw [hnext, arrival?_of_has ctx hhas style]
      exact .inl ⟨rfl, rfl, rfl, by rintro _ ⟨⟩⟩
    · have hnext : g.next c ⟨ctx, .append child style⟩ = (g.slotFor ctx.units style).2 := if_neg hhas
      have harrival := arrival?_append hs hg ctx hhas style
      by_cases hflows : g.Flows style
      · exact .inr ⟨ctx.units, style, hflows, harrival, hnext⟩
      · rw [hnext, harrival, snd_slotFor, cellFor_of_not_flows hflows]
        refine .inl ⟨rfl, rfl, rfl, ?_⟩
        rintro a ⟨⟩
        exact ⟨rfl, hflows⟩
  | update old changed =>
    obtain ⟨hsame, hflow⟩ := hsteady.1 old changed rfl
    have hcount := hsame.trackCount_eq g.flow.axis
    rw [next, renew_of_alike hsame, arrival?_of_not_append hg (by simp)]
    refine .inl ⟨hflow, ?_, rfl, by rintro _ ⟨⟩⟩
    rw [← hcount]
    cases g.flow.axis <;> rfl
  | _ =>
    rw [arrival?_of_not_append hg (by simp)]
    exact .inl ⟨rfl, rfl, rfl, by rintro _ ⟨⟩⟩

theorem advances_next {c : Container} {g : Grid} (hs : Structured .grid .grid c)
    (hg : c.layout = .grid g) {s : Step} {steps : List Step} (hsteady : g.Steady (s :: steps))
    (hcount : g.trackCount g.flow.axis ≤ 0xFFFFFFFF)
    (hbegun : g.flow.begun g.cursor + (arrival? c s).toList.length ≤ 0xFFFFFFFF) :
    Advances g (g.next c s) (arrival? c s) := by
  rcases rests_or_flows hs hg hsteady with hrests | ⟨u, style, hflows, harrival, hnext⟩
  · exact hrests.advances
  · rw [harrival] at hbegun ⊢
    rw [hnext]
    exact advances_of_flows hcount hbegun hflows u

theorem run_advances {c : Container} {g : Grid} (hs : Structured .grid .grid c)
    (hg : c.layout = .grid g) {steps : List Step} (hsteady : g.Steady steps)
    (hcount : g.trackCount g.flow.axis ≤ 0xFFFFFFFF)
    (hbegun : g.flow.begun g.cursor + (arrivals c steps).length ≤ 0xFFFFFFFF) :
    (∀ a ∈ arrivals c steps, g.flow.position g.cursor ≤ g.flow.position a.cursor ∧
      (a.Flows → a.InFlow g.flow (g.trackCount g.flow.axis))) ∧
    (arrivals c steps).Pairwise fun a b =>
      g.flow.position a.cursor ≤ g.flow.position b.cursor ∧
        (a.Flows → g.flow.Behind a.slot b.cursor) := by
  -- A later child finds the cursor at or behind where this step leaves it, and a child that this step
  -- puts lies before that.
  induction steps generalizing c g with
  | nil => exact ⟨fun a ha => absurd ha List.not_mem_nil, List.Pairwise.nil⟩
  | cons s steps ih =>
    rw [arrivals, List.length_append] at hbegun
    have hstep := advances_next hs hg hsteady hcount (by omega)
    have hflow := hstep.flow_eq
    have hn := hstep.count_eq
    have hbegun' := hstep.begun_le
    obtain ⟨hrest, hpairs⟩ := ih (hs.outcome (p := .grid) rfl .grid s) (layout_outcome hg s) (hsteady.next c)
      (by rw [hflow, hn]; exact hcount) (by rw [hflow]; omega)
    rw [hflow] at hrest hpairs
    rw [hn] at hrest
    rw [arrivals]
    refine ⟨fun a ha => ?_, List.pairwise_append.mpr ⟨?_, hpairs, fun a ha b hb => ?_⟩⟩
    · rcases List.mem_append.mp ha with ha | ha
      · obtain ⟨hcursor, hflows⟩ := hstep.arrival a (Option.mem_toList.mp ha)
        exact ⟨hcursor ▸ le_rfl, fun h => (hflows h).1⟩
      · exact (hrest a ha).imp (hstep.cursor_le.trans ·) id
    · cases arrival? c s with
      | none => exact List.Pairwise.nil
      | some a => exact List.pairwise_singleton _ a
    · obtain ⟨hcursor, hflows⟩ := hstep.arrival a (Option.mem_toList.mp ha)
      have hle := (hrest b hb).1
      refine ⟨?_, fun h => (hflows h).2.of_le hle⟩
      rw [hcursor]
      exact hstep.cursor_le.trans hle

def cursor? (c : Container) : Option Cell :=
  match c.layout with
  | .grid g => some g.cursor
  | _ => none

theorem cursor?_outcome {c : Container} {g : Grid} (hg : c.layout = .grid g) (s : Step) :
    cursor? (LayoutKind.grid.outcome c s).container = some (g.next c s).cursor := by
  rw [cursor?, layout_outcome hg s]

theorem cursor_next_append {c : Container} {g : Grid} {child : WidgetId} {style : Style}
    (h : c.has child ∨ ∃ axis, (g.placement axis style).start ≠ none) (ctx : Context) :
    (g.next c ⟨ctx, .append child style⟩).cursor = g.cursor := by
  rw [next]
  split_ifs with hhas
  · rfl
  · obtain ⟨axis, haxis⟩ := h.resolve_left hhas
    rw [snd_slotFor, cellFor_of_not_flows fun hflows => haxis (hflows axis)]

/-- Once the cursor is at the start, and while updates of the container bring neither other tracks nor
another flow, the children that give neither index have cells that follow each other in the order of
the flow. They end inside the tracks, if there are any along the flow, and one that covers a single
line has no cell in common with a later one. At any time nothing but such a child and an update that
brings other tracks moves the cursor, and the update puts it back to the start. The number of tracks
has 32 bits and that of children is below the greatest such number, where sums are cut; of so many
tracks a sum would not show the end. -/
theorem run_flow_advances (ctx : Context) (widget : WidgetId) (style : Style)
    (before : List Step) :
    let c := LayoutKind.grid.run (LayoutKind.grid.create ctx widget style) before
    ∃ g, c.layout = .grid g ∧
      (∀ steps, g.cursor = ⟨0, 0⟩ → g.Steady steps → g.trackCount g.flow.axis ≤ 0xFFFFFFFF →
        (arrivals c steps).length < 0xFFFFFFFF →
        (∀ a ∈ arrivals c steps, a.Flows → 0 < g.trackCount g.flow.axis →
          g.trackCount g.flow.axis < 0xFFFFFFFF →
          a.slot.start g.flow.axis + a.slot.span g.flow.axis ≤ g.trackCount g.flow.axis) ∧
        (arrivals c steps).Pairwise fun a b => a.Flows → b.Flows →
          g.flow.position a.slot.cell < g.flow.position b.slot.cell ∧
            (a.slot.span g.flow.axis.other = 1 → a.slot.Apart b.slot)) ∧
      (∀ ctx' child childStyle,
        (c.has child ∨ ∃ axis, (g.placement axis childStyle).start ≠ none) →
        cursor? (LayoutKind.grid.outcome c ⟨ctx', .append child childStyle⟩).container =
          some g.cursor) ∧
      (∀ ctx' child changed,
        cursor? (LayoutKind.grid.outcome c ⟨ctx', .updateChild child changed⟩).container =
          some g.cursor) ∧
      (∀ ctx' child,
        cursor? (LayoutKind.grid.outcome c ⟨ctx', .remove child⟩).container = some g.cursor) ∧
      ∀ ctx' old changed,
        let g' := ofStyle ctx'.units ctx'.config (old.merge changed)
        let c' := (LayoutKind.grid.outcome c ⟨ctx', .update old changed⟩).container
        (g'.AlikeTracks g → cursor? c' = some g.cursor) ∧
          (¬g'.AlikeTracks g → cursor? c' = some ⟨0, 0⟩) := by
  intro c
  have hs : Structured .grid .grid c :=
    Structured.run (p := .grid) rfl (LayoutKind.structured_create .grid ctx widget style) before
  obtain ⟨g, hg⟩ := Container.exists_grid hs.kind_eq
  refine ⟨g, hg, fun steps hstart hsteady hcount hlength => ?_, fun ctx' child childStyle h => ?_,
    fun ctx' child changed => cursor?_outcome hg _, fun ctx' child => cursor?_outcome hg _,
    fun ctx' old changed => ⟨fun h => ?_, fun h => ?_⟩⟩
  · have hbegun : g.flow.begun g.cursor = 0 := by
      rw [hstart]
      cases g.flow <;> rfl
    obtain ⟨hall, hpairs⟩ := run_advances hs hg hsteady hcount (by omega)
    refine ⟨fun a ha hflows => ((hall a ha).2 hflows).end_le, hpairs.imp_of_mem ?_⟩
    intro a b ha hb hab haflows hbflows
    have hbehind : g.flow.Behind a.slot b.slot.cell :=
      (hab.2 haflows).of_le ((hall b hb).2 hbflows).cursor_le
    exact ⟨hbehind.position_lt ((hall a ha).2 haflows).one_le_span, hbehind.apart⟩
  · rw [cursor?_outcome hg, cursor_next_append h]
  · rw [cursor?_outcome hg, next, renew_of_alike h]
  · rw [cursor?_outcome hg, next, renew_of_not_alike h]
    rfl

open Overlay (unmeasured) in
/-- A child of two columns does not fit behind the first two of three, so it begins a new line; the
child in between has asked for a row, and the update brings a gap and the same tracks. -/
theorem run_flow_advances_wrapped :
    let wide := Style.empty.set .gridTemplateColumns (.text "1fr 1fr 1fr")
    let steps : List Step := [⟨unmeasured, .append ⟨2⟩ .empty⟩, ⟨unmeasured, .append ⟨3⟩ .empty⟩,
      ⟨unmeasured, .append ⟨4⟩ (Style.empty.set .gridRow (.number 2))⟩,
      ⟨unmeasured, .update wide (Style.empty.set .gap (.number 4))⟩,
      ⟨unmeasured, .append ⟨5⟩ (Style.empty.set .gridColumn (.text "span 2"))⟩,
      ⟨unmeasured, .append ⟨6⟩ .empty⟩]
    let c := LayoutKind.grid.run (LayoutKind.grid.create unmeasured ⟨1⟩ wide) []
    let g := ofStyle unmeasured.units unmeasured.config wide
    g.cursor = ⟨0, 0⟩ ∧ g.Steady steps ∧ g.trackCount g.flow.axis ≤ 0xFFFFFFFF ∧
      (arrivals c steps).length < 0xFFFFFFFF ∧
      (arrivals c steps).map (fun a => (a.slot.row, a.slot.column, a.slot.columnSpan)) =
        [(0, 0, 1), (0, 1, 1), (1, 2, 1), (1, 0, 2), (1, 2, 1)] ∧
      (∀ a ∈ arrivals c steps, a.Flows →
        a.slot.start g.flow.axis + a.slot.span g.flow.axis ≤ g.trackCount g.flow.axis) ∧
      (arrivals c steps).Pairwise fun a b => a.Flows → b.Flows →
        g.flow.position a.slot.cell < g.flow.position b.slot.cell ∧
          (a.slot.span g.flow.axis.other = 1 → a.slot.Apart b.slot) := by
  intro wide steps c g
  obtain ⟨g', hg', hrun, -⟩ := run_flow_advances unmeasured ⟨1⟩ wide []
  obtain rfl : g = g' := Layout.grid.inj hg'
  have hsteady : g.Steady steps := by
    have hsame : (ofStyle unmeasured.units unmeasured.config
        (wide.merge (Style.empty.set .gap (.number 4)))).sameTracks g := by decide +kernel
    refine ⟨by simp, by simp, by simp, ?_, by simp, by simp, trivial⟩
    rintro _ _ ⟨⟩
    exact ⟨sameTracks_iff.mp hsame, by decide +kernel⟩
  have hcount : g.trackCount g.flow.axis ≤ 0xFFFFFFFF := by decide +kernel
  have hlength : (arrivals c steps).length < 0xFFFFFFFF := by decide +kernel
  obtain ⟨hends, hpairs⟩ := hrun steps rfl hsteady hcount hlength
  exact ⟨rfl, hsteady, hcount, hlength, by decide +kernel,
    fun a ha hflows => hends a ha hflows (by decide +kernel) (by decide +kernel), hpairs⟩

end Grid
end PanelLayout
