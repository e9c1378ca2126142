import PanelLayout.Grid.Placement
import PanelLayout.Proofs.Text.Pieces

/-!
The ways to write where a grid child begins and ends. One area property, a shorthand for each axis and
four single sides say the same when they hold the same texts.
-/
namespace PanelLayout

theorem GridLine.ofText_congr {s t : List Char} (h : Text.trim s = Text.trim t) :
    ofText s = ofText t := by
  unfold ofText
  rw [h]

theorem GridLine.ofText_padded (s : List Char) :
    ofText (' ' :: s) = ofText s ∧ ofText (s ++ [' ']) = ofText s ∧
      ofText (' ' :: s ++ [' ']) = ofText s := by
  have hblank : Text.isBlank ' ' = true := rfl
  have hbefore : Text.trim (' ' :: s) = Text.trim s := Text.trim_cons hblank s
  refine ⟨ofText_congr hbefore, ofText_congr (Text.trim_concat hblank s), ofText_congr ?_⟩
  rw [Text.trim_concat hblank, hbefore]

namespace Grid
open GridLine (ofText)

def LeavesLines (s : Style) : Prop :=
  ∀ axis : Axis, s.get axis.properties.1 = none ∧ s.get axis.properties.2.1 = none ∧
    s.get axis.properties.2.2 = none

theorem LeavesLines.sides_eq {s : Style} (h : LeavesLines s) {v : Value}
    (hv : s.get .gridArea = some v) (axis : Axis) :
    axis.sides s = axis.ofAreaSides (GridLine.listOfValue v) := by
  obtain ⟨hboth, hstart, hfinish⟩ := h axis
  rw [Axis.sides]
  simp only [hboth, hstart, hfinish, hv]
  exact if_neg Bool.false_ne_true

theorem ofAreaSides_four (a b c d : GridLine) :
    Axis.row.ofAreaSides [a, b, c, d] = (a, c) ∧ Axis.column.ofAreaSides [a, b, c, d] = (b, d) := by
  cases a <;> exact ⟨rfl, rfl⟩

structure WrittenSides where
  rowStart : String
  rowEnd : String
  columnStart : String
  columnEnd : String

namespace WrittenSides
variable (w : WrittenSides)

def along : Axis → String × String
  | .row => (w.rowStart, w.rowEnd)
  | .column => (w.columnStart, w.columnEnd)

def sides (axis : Axis) : Sides :=
  (ofText (w.along axis).1.toList, ofText (w.along axis).2.toList)

def Undivided : Prop :=
  ∀ axis, '/' ∉ (w.along axis).1.toList ∧ '/' ∉ (w.along axis).2.toList

def asArea (s : Style) : Style :=
  s.set .gridArea
    (.text (w.rowStart ++ " / " ++ w.columnStart ++ " / " ++ w.rowEnd ++ " / " ++ w.columnEnd))

def asShorthands (s : Style) : Style :=
  (s.set .gridRow (.text (w.rowStart ++ " / " ++ w.rowEnd))).set .gridColumn
    (.text (w.columnStart ++ " / " ++ w.columnEnd))

def asSingles (s : Style) : Style :=
  (((s.set .gridRowStart (.text w.rowStart)).set .gridRowEnd (.text w.rowEnd)).set .gridColumnStart
    (.text w.columnStart)).set .gridColumnEnd (.text w.columnEnd)

end WrittenSides

theorem pairOfValue_slash {a : String} (ha : '/' ∉ a.toList) (b : String) :
    GridLine.pairOfValue (.text (a ++ " / " ++ b)) = (ofText a.toList, ofText b.toList) := by
  have hpieces : (a ++ " / " ++ b).toList = (a.toList ++ [' ']) ++ '/' :: (' ' :: b.toList) := by
    simp
  have hstart : '/' ∉ a.toList ++ [' '] := by simp [ha]
  simp only [GridLine.pairOfValue, hpieces, Text.splitOnce_append hstart]
  rw [(GridLine.ofText_padded a.toList).2.1, (GridLine.ofText_padded b.toList).1]

theorem listOfValue_slashes {a b c d : String} (ha : '/' ∉ a.toList) (hb : '/' ∉ b.toList)
    (hc : '/' ∉ c.toList) (hd : '/' ∉ d.toList) :
    GridLine.listOfValue (.text (a ++ " / " ++ b ++ " / " ++ c ++ " / " ++ d)) =
      [ofText a.toList, ofText b.toList, ofText c.toList, ofText d.toList] := by
  have hpieces : (a ++ " / " ++ b ++ " / " ++ c ++ " / " ++ d).toList =
      (a.toList ++ [' ']) ++ '/' :: ((' ' :: b.toList ++ [' ']) ++ '/' ::
        ((' ' :: c.toList ++ [' ']) ++ '/' :: (' ' :: d.toList))) := by simp
  have hkeeps : ∀ {s : List Char}, '/' ∉ s → ∀ x ∈ s, decide (x = '/') = false :=
    fun hs x hx => decide_eq_false fun h => hs (h ▸ hx)
  have hslash : decide ('/' = '/') = true := rfl
  rw [GridLine.listOfValue, hpieces, Text.split_append (hkeeps (by simp [ha])) hslash,
    Text.split_append (hkeeps (by simp [hb])) hslash, Text.split_append (hkeeps (by simp [hc])) hslash,
    Text.split_eq_singleton (hkeeps (by simp [hd]))]
  simp only [List.map_cons, List.map_nil, GridLine.ofText_padded]

section
variable {w : WrittenSides} (hw : w.Undivided)
include hw

theorem sides_asArea {s : Style} (hs : LeavesLines s) (axis : Axis) :
    axis.sides (w.asArea s) = w.sides axis := by
  have hlines : LeavesLines (w.asArea s) := by
    intro axis
    cases axis <;> exact hs _
  have hlist := listOfValue_slashes (hw .row).1 (hw .column).1 (hw .row).2 (hw .column).2
  rw [hlines.sides_eq rfl]
  refine (congrArg axis.ofAreaSides hlist).trans ?_
  cases axis with
  | row => exact (ofAreaSides_four ..).1
  | column => exact (ofAreaSides_four ..).2

theorem sides_asShorthands (s : Style) (axis : Axis) :
    axis.sides (w.asShorthands s) = w.sides axis := by
  cases axis with
  | row => exact pairOfValue_slash (hw .row).1 w.rowEnd
  | column => exact pairOfValue_slash (hw .column).1 w.columnEnd

end

theorem sides_asSingles (w : WrittenSides) {s : Style} (hs : LeavesLines s) (axis : Axis) :
    axis.sides (w.asSingles s) = w.sides axis := by
  have hboth : (w.asSingles s).get axis.properties.1 = none := by
    cases axis <;> exact (hs _).1
  rw [Axis.sides]
  simp only [hboth]
  cases axis <;> rfl

def between (g : Grid) (axis : Axis) (sides : Sides) : AxisPlacement :=
  let (start, finish) := g.expandNames axis sides
  AxisPlacement.resolve start finish (g.trackCount axis)

/-- Whatever texts without a slash the four sides of a child hold, and whatever else its style says but
for its lines, the sides have the same effect on both axes as an area, as shorthands and one by one:
each axis is placed between the two of its own. -/
theorem placement_written (g : Grid) {w : WrittenSides} (hw : w.Undivided) {s : Style}
    (hs : LeavesLines s) (axis : Axis) :
    g.placement axis (w.asArea s) = g.between axis (w.sides axis) ∧
      g.placement axis (w.asShorthands s) = g.between axis (w.sides axis) ∧
      g.placement axis (w.asSingles s) = g.between axis (w.sides axis) := by
  have hplacement : ∀ style, g.placement axis style = g.between axis (axis.sides style) := fun _ => rfl
  rw [hplacement, hplacement, hplacement, sides_asArea hw hs, sides_asShorthands hw,
    sides_asSingles w hs]
  exact ⟨rfl, rfl, rfl⟩

theorem placement_written_named :
    let w : WrittenSides := ⟨"1", " -1 ", "main", "what?"⟩
    let named := Style.empty.set .gridTemplateAreas (.text "'side main' 'side main'")
    let g := ofStyle .standard .standard named
    w.Undivided ∧ LeavesLines .empty ∧
      g.placement .row (w.asArea .empty) = ⟨some 0, 2⟩ ∧
      g.placement .row (w.asShorthands .empty) = ⟨some 0, 2⟩ ∧
      g.placement .row (w.asSingles .empty) = ⟨some 0, 2⟩ ∧
      g.placement .column (w.asArea .empty) = ⟨some 1, 1⟩ ∧
      g.placement .column (w.asShorthands .empty) = ⟨some 1, 1⟩ ∧
      g.placement .column (w.asSingles .empty) = ⟨some 1, 1⟩ := by
  intro w named g
  have hw : w.Undivided := by
    intro axis
    cases axis <;> decide
  have hs : LeavesLines .empty := fun _ => ⟨rfl, rfl, rfl⟩
  have hrow : g.between .row (w.sides .row) = ⟨some 0, 2⟩ := by decide +kernel
  have hcolumn : g.between .column (w.sides .column) = ⟨some 1, 1⟩ := by decide +kernel
  obtain ⟨h₁, h₂, h₃⟩ := placement_written g hw hs .row
  obtain ⟨h₄, h₅, h₆⟩ := placement_written g hw hs .column
  exact ⟨hw, hs, h₁.trans hrow, h₂.trans hrow, h₃.trans hrow, h₄.trans hcolumn, h₅.trans hcolumn,
    h₆.trans hcolumn⟩

end Grid

end PanelLayout
