import Mathlib.Order.Bounds.Basic
import PanelLayout.Proofs.Grid.Extent
import PanelLayout.Proofs.Grid.Lines
import PanelLayout.Proofs.Grid.Sides

/-!
Named areas of grids. In a grid whose tracks come from its areas a child that names an area covers the
smallest rectangle around all cells of that name, whatever shape they have.
-/
namespace PanelLayout

/-! The smallest rectangle around cells, along each axis. -/

namespace GridArea
variable {a : GridArea} {cells : Set Cell}

def Around (a : GridArea) (cells : Set Cell) : Prop :=
  ∀ axis : Grid.Axis, IsLeast ((·.index axis) '' cells) (axis.bounds a).1 ∧
    ∃ last, IsGreatest ((·.index axis) '' cells) last ∧ (axis.bounds a).2 = last + 1

theorem around_ofCell (c : Cell) : (ofCell c).Around {c} := by
  intro axis
  rw [Set.image_singleton]
  cases axis <;> exact ⟨isLeast_singleton, _, isGreatest_singleton, rfl⟩

theorem Around.cover (h : a.Around cells) (c : Cell) : (a.cover c).Around (insert c cells) := by
  intro axis
  obtain ⟨hleast, last, hgreatest, hlast⟩ := h axis
  rw [Set.image_insert_eq]
  have hmin := hleast.insert (c.index axis)
  have hmax := hgreatest.insert (c.index axis)
  rw [min_comm] at hmin
  rw [max_comm] at hmax
  cases axis with
  | row =>
    refine ⟨hmin, _, hmax, ?_⟩
    change a.rowEnd = last + 1 at hlast
    show max a.rowEnd (c.row + 1) = max last c.row + 1
    omega
  | column =>
    refine ⟨hmin, _, hmax, ?_⟩
    change a.columnEnd = last + 1 at hlast
    show max a.columnEnd (c.column + 1) = max last c.column + 1
    omega

theorem Around.foldl (h : a.Around cells) (cs : List Cell) :
    (cs.foldl GridArea.cover a).Around ({c | c ∈ cs} ∪ cells) := by
  induction cs generalizing a cells with
  | nil => simpa using h
  | cons c cs ih =>
    have hset : {d | d ∈ c :: cs} ∪ cells = {d | d ∈ cs} ∪ insert c cells := by
      ext d
      simp only [List.mem_cons, Set.mem_union, Set.mem_ofPred_eq, Set.mem_insert_iff]
      tauto
    rw [hset]
    exact ih (h.cover c)

theorem exists_ofCells? {cs : List Cell} (hne : cs ≠ []) :
    ∃ a, ofCells? cs = some a ∧ a.Around {c | c ∈ cs} := by
  obtain ⟨c, cs, rfl⟩ := List.exists_cons_of_ne_nil hne
  have hset : {d | d ∈ c :: cs} = {d | d ∈ cs} ∪ {c} := by
    ext d
    simp
  exact ⟨_, rfl, hset ▸ (around_ofCell c).foldl cs⟩

end GridArea

/-- The slot covers the smallest rectangle around cells: all of them, and no cell that a rectangle
around them could leave out. Along each axis it begins at the least index and ends at the greatest. -/
structure GridSlot.Frames (s : GridSlot) (cells : Set Cell) : Prop where
  covers : ∀ c ∈ cells, s.Covers c
  smallest : ∀ t : GridSlot, (∀ c ∈ cells, t.Covers c) → ∀ c, s.Covers c → t.Covers c
  start_least : ∀ axis, IsLeast ((·.index axis) '' cells) (s.start axis)
  last_greatest : ∀ axis, ∃ last, IsGreatest ((·.index axis) '' cells) last ∧
    s.start axis + s.span axis = last + 1

theorem GridSlot.frames_of_bounds {s : GridSlot} {cells : Set Cell} {a : GridArea}
    (h : a.Around cells) (hs : ∀ axis : Grid.Axis, s.start axis = (axis.bounds a).1 ∧
      s.start axis + s.span axis = (axis.bounds a).2) : s.Frames cells := by
  have hleast : ∀ axis, IsLeast ((·.index axis) '' cells) (s.start axis) := by
    intro axis
    rw [(hs axis).1]
    exact (h axis).1
  have hgreatest : ∀ axis, ∃ last, IsGreatest ((·.index axis) '' cells) last ∧
      s.start axis + s.span axis = last + 1 := by
    intro axis
    rw [(hs axis).2]
    exact (h axis).2
  refine ⟨fun c hc axis => ?_, fun t ht c hc axis => ?_, hleast, hgreatest⟩
  · obtain ⟨last, hlast, hend⟩ := hgreatest axis
    have hle : c.index axis ≤ last := hlast.2 ⟨c, hc, rfl⟩
    exact ⟨(hleast axis).2 ⟨c, hc, rfl⟩, by omega⟩
  · -- Another rectangle around the cells reaches to those at the two ends of the axis.
    obtain ⟨first, hfirst, hstart⟩ := (hleast axis).1
    obtain ⟨last, ⟨⟨final, hfinal, rfl⟩, _⟩, hend⟩ := hgreatest axis
    have hbefore := (ht first hfirst axis).1
    have hbehind := (ht final hfinal axis).2
    have hcell := hc axis
    dsimp only at hstart hend
    omega

namespace Grid
open LayoutKind (Step Operation Structured)

def Named (areas : List (List String)) (name : String) (c : Cell) : Prop :=
  ∃ row, areas[c.row]? = some row ∧ row[c.column]? = some name

section
variable {areas : List (List String)} {name : String} {c : Cell}

theorem mem_cellsNamed_iff : c ∈ cellsNamed areas name ↔ Named areas name c := by
  simp only [cellsNamed, List.mem_flatMap, List.mem_filterMap, Prod.exists,
    List.mem_zipIdx_iff_getElem?, Named]
  constructor
  · rintro ⟨row, i, hrow, cell, j, hcell, h⟩
    split_ifs at h with hname
    cases h
    exact ⟨row, hrow, hname ▸ hcell⟩
  · rintro ⟨row, hrow, hcell⟩
    exact ⟨row, c.row, hrow, name, c.column, hcell, if_pos rfl⟩

theorem length_le_width {row : List String} (h : row ∈ areas) : row.length ≤ width areas := by
  have hmem : row.length ∈ areas.map List.length := List.mem_map_of_mem h
  rw [width, List.foldl_max]
  cases hmax : (areas.map List.length).max? with
  | none => rw [List.max?_eq_none_iff.mp hmax] at hmem; cases hmem
  | some m => exact ((List.max?_le_iff hmax).mp le_rfl _ hmem).trans (Nat.le_max_right 0 m)

theorem Named.index_lt (h : Named areas name c) : c.row < areas.length ∧ c.column < width areas := by
  obtain ⟨row, hrow, hcell⟩ := h
  refine ⟨(List.getElem?_eq_some_iff.mp hrow).1, ?_⟩
  exact (List.getElem?_eq_some_iff.mp hcell).1.trans_le (length_le_width (List.mem_of_getElem? hrow))

end

theorem isBlank_of_named {style : Style} {name : String} {c : Cell}
    (h : Named (areasOfStyle style) name c) {x : Char} (hx : x ∈ name.toList) :
    Text.isBlank x = false := by
  obtain ⟨row, hrow, hname⟩ := h
  have hrow := List.mem_of_getElem? hrow
  have hname := List.mem_of_getElem? hname
  unfold areasOfStyle at hrow
  split at hrow
  · obtain ⟨text, -, rfl⟩ := List.mem_map.mp (List.mem_of_mem_filter hrow)
    obtain ⟨word, hword, rfl⟩ := List.mem_map.mp hname
    rw [String.toList_ofList] at hx
    exact Text.isBlank_of_mem_words hword hx
  · cases hrow

structure LeavesTracks (style : Style) : Prop where
  rows_eq : style.get .gridTemplateRows = none
  columns_eq : style.get .gridTemplateColumns = none
  both_eq : style.get .gridTemplate = none

theorem LeavesTracks.trackCount_eq {style : Style} (h : LeavesTracks style) (u : CssUnits)
    (config : Config) :
    (ofStyle u config style).trackCount .row = (areasOfStyle style).length ∧
      (ofStyle u config style).trackCount .column = width (areasOfStyle style) := by
  have hrows : (ofStyle u config style).rows =
      List.replicate (areasOfStyle style).length (.fr 1) := by
    simp only [ofStyle, tracks, h.rows_eq, h.both_eq]
    rfl
  have hcolumns : (ofStyle u config style).columns =
      List.replicate (width (areasOfStyle style)) (.fr 1) := by
    simp only [ofStyle, tracks, h.columns_eq, h.both_eq]
    rfl
  exact ⟨(congrArg List.length hrows).trans List.length_replicate,
    (congrArg List.length hcolumns).trans List.length_replicate⟩

theorem between_area {g : Grid} {name : String} {a : GridArea} (ha : g.area? name = some a)
    {axis : Axis} (hlt : (axis.bounds a).1 < (axis.bounds a).2)
    (hle : (axis.bounds a).2 ≤ g.trackCount axis) :
    g.between axis (.named name, .auto) =
      ⟨some (axis.bounds a).1, (axis.bounds a).2 - (axis.bounds a).1⟩ := by
  have hlines : g.expandNames axis (.named name, .auto) =
      (lineBefore (axis.bounds a).1, lineBefore (axis.bounds a).2) := by
    simp only [expandNames, linesOf?, ha, Option.map_some, Option.getD_some]
  rw [between, hlines]
  generalize (axis.bounds a).1 = first at hlt ⊢
  generalize (axis.bounds a).2 = last at hlt hle ⊢
  have hresolve := AxisPlacement.resolve_lines_of_lt (Nat.zero_lt_of_lt (hlt.trans_le hle))
    (s := (first + 1 : Nat)) (e := (last + 1 : Nat)) (by omega) (by omega) (by omega)
  refine hresolve.trans ?_
  congr 2 <;> omega

theorem ofText_eq_named {s : List Char} {name : String} (h : GridLine.ofText s = .named name) :
    name = String.ofList (Text.trim s) ∧ '/' ∉ Text.trim s := by
  have hchar : GridLine.isNameChar '/' = false := by decide +kernel
  simp only [GridLine.ofText] at h
  split at h
  · cases h
  split at h
  · cases h
  split at h
  · cases h
  split at h
  · unfold GridLine.ofInt at h
    split_ifs at h
  split at h
  · rename_i hall
    cases h
    exact ⟨rfl, fun hmem => absurd (List.all_eq_true.mp hall _ hmem) (hchar ▸ Bool.false_ne_true)⟩
  · cases h

theorem listOfValue_named {name : String} (hread : ∃ w, GridLine.ofText name.toList = .named w)
    (hblank : ∀ x ∈ name.toList, Text.isBlank x = false) :
    GridLine.listOfValue (.text name) = [.named name] := by
  obtain ⟨w, hw⟩ := hread
  obtain ⟨rfl, hslash⟩ := ofText_eq_named hw
  rw [Text.trim_eq_self hblank] at hw hslash
  have hkeeps : ∀ x ∈ name.toList, decide (x = '/') = false :=
    fun x hx => decide_eq_false fun h => hslash (h ▸ hx)
  rw [GridLine.listOfValue, Text.split_eq_singleton hkeeps, List.map_singleton, hw,
    String.ofList_toList]

def ComesFrom (g : Grid) (style : Style) : Prop :=
  ∃ u config cursor, g = { ofStyle u config style with cursor := cursor }

namespace ComesFrom
variable {g : Grid} {style : Style} (h : g.ComesFrom style)
include h

theorem areas_eq : g.areas = areasOfStyle style := by
  obtain ⟨u, config, cursor, rfl⟩ := h
  rfl

theorem index_lt (htracks : LeavesTracks style) {name : String} {c : Cell}
    (hc : Named (areasOfStyle style) name c) (axis : Axis) : c.index axis < g.trackCount axis := by
  obtain ⟨u, config, cursor, rfl⟩ := h
  obtain ⟨hrows, hcolumns⟩ := htracks.trackCount_eq u config
  cases axis with
  | row => exact hc.index_lt.1.trans_eq hrows.symm
  | column => exact hc.index_lt.2.trans_eq hcolumns.symm

theorem placement_eq (htracks : LeavesTracks style) {name : String} {c : Cell}
    (hc : Named (areasOfStyle style) name c) (hread : ∃ w, GridLine.ofText name.toList = .named w)
    {child : Style} (hlines : LeavesLines child) (harea : child.get .gridArea = some (.text name)) :
    ∃ a : GridArea, a.Around {d | Named (areasOfStyle style) name d} ∧ ∀ axis : Axis,
      (axis.bounds a).1 < (axis.bounds a).2 ∧ g.placement axis child =
        ⟨some (axis.bounds a).1, (axis.bounds a).2 - (axis.bounds a).1⟩ := by
  have hcells : {d | d ∈ cellsNamed g.areas name} = {d | Named (areasOfStyle style) name d} := by
    ext d
    rw [h.areas_eq]
    exact mem_cellsNamed_iff
  have hne : cellsNamed g.areas name ≠ [] :=
    List.ne_nil_of_mem (h.areas_eq ▸ mem_cellsNamed_iff.mpr hc)
  obtain ⟨a, ha, haround⟩ := GridArea.exists_ofCells? hne
  rw [hcells] at haround
  refine ⟨a, haround, fun axis => ?_⟩
  obtain ⟨hfirst, last, ⟨⟨d, hd, rfl⟩, hlast⟩, hend⟩ := haround axis
  have hlt : (axis.bounds a).1 < (axis.bounds a).2 := by
    rw [hend]
    exact Nat.lt_succ_of_le (hlast hfirst.1)
  have hle : (axis.bounds a).2 ≤ g.trackCount axis := by
    rw [hend]
    exact h.index_lt htracks hd axis
  have hsides : axis.sides child = (.named name, .auto) := by
    rw [hlines.sides_eq harea, listOfValue_named hread fun x hx => isBlank_of_named hc hx]
    rfl
  refine ⟨hlt, ?_⟩
  show g.between axis (axis.sides child) = _
  rw [hsides]
  exact between_area ha hlt hle

end ComesFrom

def styleAfter (style : Style) (s : Step) : Style :=
  match s.operation with
  | .update old changed => old.merge changed
  | _ => style

theorem ComesFrom.next {g : Grid} {style : Style} (h : g.ComesFrom style) (c : Container) (s : Step) :
    (g.next c s).ComesFrom (styleAfter style s) := by
  obtain ⟨cursor, hnext⟩ := exists_next g c s
  obtain ⟨u, config, _, rfl⟩ := h
  rw [hnext]
  obtain ⟨ctx, op⟩ := s
  cases op with
  | update old changed => exact ⟨ctx.units, ctx.config, cursor, rfl⟩
  | _ => exact ⟨u, config, cursor, rfl⟩

theorem ComesFrom.run {c : Container} {g : Grid} (hg : c.layout = .grid g) {style : Style}
    (h : g.ComesFrom style) (steps : List Step) :
    ∃ g', (LayoutKind.grid.run c steps).layout = .grid g' ∧
      g'.ComesFrom (steps.foldl styleAfter style) := by
  induction steps generalizing c g style with
  | nil => exact ⟨g, hg, h⟩
  | cons s steps ih => exact ih (layout_outcome hg s) (h.next c s)

section
variable {g : Grid} {style : Style} {cells : Set Cell} {a : GridArea} (haround : a.Around cells)
  (hplaced : ∀ axis : Axis, (axis.bounds a).1 < (axis.bounds a).2 ∧ g.placement axis style =
    ⟨some (axis.bounds a).1, (axis.bounds a).2 - (axis.bounds a).1⟩)
include haround hplaced

theorem frames_slotFor (u : CssUnits) : (g.slotFor u style).1.Frames cells := by
  refine GridSlot.frames_of_bounds haround fun axis => ?_
  obtain ⟨hlt, hplacement⟩ := hplaced axis
  have hstart : (g.placement axis style).start = some (axis.bounds a).1 := by rw [hplacement]
  rw [span_slotFor, start_slotFor_of_given hstart u, hplacement]
  exact ⟨rfl, Nat.add_sub_cancel' hlt.le⟩

theorem frames_moveSlot (u : CssUnits) (s : GridSlot) : (g.moveSlot u style s).Frames cells := by
  refine GridSlot.frames_of_bounds haround fun axis => ?_
  obtain ⟨hlt, hplacement⟩ := hplaced axis
  rw [span_moveSlot, start_moveSlot, hplacement]
  exact ⟨rfl, Nat.add_sub_cancel' hlt.le⟩

end

/-- Let a grid container have come, by any operations, to a style that leaves the tracks to its named
areas. Then a child that is appended or given another style, and that only asks for an area by a name
that occurs there, covers the smallest rectangle around all cells of the name. -/
theorem run_frames_named (ctx : Context) (widget : WidgetId) (style : Style) (steps : List Step)
    {name : String} :
    let c := LayoutKind.grid.run (LayoutKind.grid.create ctx widget style) steps
    let given := steps.foldl styleAfter style
    let cells := {d | Named (areasOfStyle given) name d}
    LeavesTracks given → cells.Nonempty → (∃ w, GridLine.ofText name.toList = .named w) →
      (∀ ctx' child childStyle, ¬c.has child → LeavesLines childStyle →
        childStyle.get .gridArea = some (.text name) → ∃ slot,
          slot? (LayoutKind.grid.outcome c ⟨ctx', .append child childStyle⟩).container child =
            some slot ∧ slot.Frames cells) ∧
      ∀ ctx' child changed node, c.child? child = some node → LeavesLines (node.style.merge changed) →
        (node.style.merge changed).get .gridArea = some (.text name) → ∃ slot,
          slot? (LayoutKind.grid.outcome c ⟨ctx', .updateChild child changed⟩).container child =
            some slot ∧ slot.Frames cells := by
  intro c given cells htracks hcells hread
  have hcreate : Structured .grid .grid (LayoutKind.grid.create ctx widget style) :=
    LayoutKind.structured_create .grid ctx widget style
  have hs : Structured .grid .grid c := hcreate.run (p := .grid) rfl steps
  have hfresh : (ofStyle ctx.units ctx.config style).ComesFrom style :=
    ⟨ctx.units, ctx.config, ⟨0, 0⟩, rfl⟩
  obtain ⟨g, hg, hgiven⟩ := ComesFrom.run (c := LayoutKind.grid.create ctx widget style) rfl hfresh steps
  obtain ⟨d, hd⟩ := hcells
  refine ⟨fun ctx' child childStyle hnew hlines harea => ?_,
    fun ctx' child changed node hnode hlines harea => ?_⟩
  · obtain ⟨a, haround, hplaced⟩ := hgiven.placement_eq htracks hd hread hlines harea
    exact ⟨_, slot?_append hs hg ctx' hnew childStyle, frames_slotFor haround hplaced ctx'.units⟩
  · obtain ⟨a, haround, hplaced⟩ := hgiven.placement_eq htracks hd hread hlines harea
    obtain ⟨old, hold⟩ := exists_slot hs hnode
    exact ⟨_, slot?_updateChild hg ctx' hnode hold changed,
      frames_moveSlot haround hplaced ctx'.units old⟩

open Overlay (unmeasured) in
theorem run_frames_named_ragged :
    let named := Style.empty.set .gridTemplateAreas (.text "'a b b' 'c b'")
    let area := Style.empty.set .gridArea (.text "b")
    let steps : List Step :=
      [⟨unmeasured, .update .empty named⟩, ⟨unmeasured, .append ⟨2⟩ .empty⟩]
    let c := LayoutKind.grid.run (LayoutKind.grid.create unmeasured ⟨1⟩ .empty) steps
    let given := steps.foldl styleAfter .empty
    let cells := {d | Named (areasOfStyle given) "b" d}
    LeavesTracks given ∧ cells.Nonempty ∧ (∃ w, GridLine.ofText "b".toList = .named w) ∧
      ¬c.has ⟨3⟩ ∧ LeavesLines area ∧ area.get .gridArea = some (.text "b") ∧
      (∃ slot, slot? (LayoutKind.grid.outcome c ⟨unmeasured, .append ⟨3⟩ area⟩).container ⟨3⟩ =
          some slot ∧ slot.Frames cells ∧ slot.row = 0 ∧ slot.column = 1 ∧ slot.rowSpan = 2 ∧
          slot.columnSpan = 2) ∧
      ∃ node, c.child? ⟨2⟩ = some node ∧ LeavesLines (node.style.merge area) ∧
        (node.style.merge area).get .gridArea = some (.text "b") ∧ ∃ slot,
          slot? (LayoutKind.grid.outcome c ⟨unmeasured, .updateChild ⟨2⟩ area⟩).container ⟨2⟩ =
            some slot ∧ slot.Frames cells := by
  intro named area steps c given cells
  have htracks : LeavesTracks given := ⟨rfl, rfl, rfl⟩
  have hcells : cells.Nonempty := ⟨⟨0, 1⟩, mem_cellsNamed_iff.mp (by decide +kernel)⟩
  have hread : ∃ w, GridLine.ofText "b".toList = .named w := ⟨"b", by decide +kernel⟩
  have hnew : ¬c.has ⟨3⟩ := by decide +kernel
  have hlines : LeavesLines area := fun axis => by cases axis <;> exact ⟨rfl, rfl, rfl⟩
  have hnode : ∃ node, c.child? ⟨2⟩ = some node ∧ node.style = .empty := by
    let before := LayoutKind.grid.run (LayoutKind.grid.create unmeasured ⟨1⟩ .empty)
      [⟨unmeasured, .update .empty named⟩]
    have hbefore : Structured .grid .grid before :=
      (LayoutKind.structured_create .grid unmeasured ⟨1⟩ .empty).run (p := .grid) rfl _
    have hfirst : ¬before.has ⟨2⟩ := by decide +kernel
    exact ⟨_, child?_append hbefore rfl unmeasured hfirst .empty, rfl⟩
  obtain ⟨node, hnode, hstyle⟩ := hnode
  have hmerged : LeavesLines (node.style.merge area) := by
    rw [hstyle]
    exact fun axis => by cases axis <;> exact ⟨rfl, rfl, rfl⟩
  obtain ⟨happend, hupdate⟩ :=
    run_frames_named unmeasured ⟨1⟩ .empty steps htracks hcells hread
  obtain ⟨slot, hslot, hframes⟩ := happend unmeasured ⟨3⟩ area hnew hlines rfl
  have hcomputed : slot? (LayoutKind.grid.outcome c ⟨unmeasured, .append ⟨3⟩ area⟩).container ⟨3⟩ =
      some ⟨0, 1, 2, 2, .filling⟩ := by decide +kernel
  refine ⟨htracks, hcells, hread, hnew, hlines, rfl, ⟨slot, hslot, hframes, ?_⟩, node, hnode, hmerged,
    rfl, hupdate unmeasured ⟨2⟩ area node hnode hmerged rfl⟩
  obtain rfl := Option.some.inj (hslot.symm.trans hcomputed)
  exact ⟨rfl, rfl, rfl, rfl⟩

end Grid

end PanelLayout
