import PanelLayout.Proofs.Grid.Flow

/-!
How far grid children reach along the flow. A child is kept inside the tracks before the index that
it leaves open is known. So it ends inside them when it gives that index or leaves both to the flow,
and else only as far as there is room from the index that is taken for it.
-/
namespace PanelLayout.Grid
open LayoutKind (Step Structured)

variable {g : Grid} {axis : Axis} {style : Style}

theorem start_slotFor_of_given {s : Nat} (hs : (g.placement axis style).start = some s)
    (u : CssUnits) : (g.slotFor u style).1.start axis = s := by
  rw [GridSlot.start, cell_slotFor, cellFor]
  cases axis with
  | row =>
    rw [hs]
    cases (g.placement .column style).start <;> rfl
  | column =>
    rw [hs]
    cases (g.placement .row style).start <;> rfl

theorem start_slotFor_of_half (hs : (g.placement axis style).start = none)
    (hother : (g.placement axis.other style).start ≠ none) (u : CssUnits) :
    (g.slotFor u style).1.start axis = g.cursor.index axis := by
  obtain ⟨o, ho⟩ := Option.ne_none_iff_exists'.mp hother
  rw [GridSlot.start, cell_slotFor, cellFor]
  cases axis with
  | row =>
    change (g.placement .column style).start = some o at ho
    rw [hs, ho]
    rfl
  | column =>
    change (g.placement .row style).start = some o at ho
    rw [hs, ho]
    rfl

theorem start_moveSlot (u : CssUnits) (g : Grid) (axis : Axis) (style : Style) (s : GridSlot) :
    (g.moveSlot u style s).start axis = (g.placement axis style).start.getD (s.start axis) := by
  cases axis <;> rfl

theorem span_moveSlot (u : CssUnits) (g : Grid) (axis : Axis) (style : Style) (s : GridSlot) :
    (g.moveSlot u style s).span axis = (g.placement axis style).span := by
  cases axis <;> rfl

theorem flows_of_start_eq_none (hs : (g.placement axis style).start = none)
    (hother : (g.placement axis.other style).start = none) : g.Flows style := by
  intro axis'
  cases axis <;> cases axis' <;> assumption

theorem end_slotFor_le_iff (hpos : 0 < g.trackCount g.flow.axis)
    (hcount : g.trackCount g.flow.axis < 0xFFFFFFFF) (u : CssUnits) (style : Style) :
    (g.slotFor u style).1.start g.flow.axis + (g.slotFor u style).1.span g.flow.axis ≤
        g.trackCount g.flow.axis ↔
      (g.placement g.flow.axis style).start ≠ none ∨
        (g.placement g.flow.axis.other style).start = none ∨
        g.cursor.index g.flow.axis + (g.placement g.flow.axis style).span ≤
          g.trackCount g.flow.axis := by
  cases hs : (g.placement g.flow.axis style).start with
  | some s =>
    rw [start_slotFor_of_given hs u, span_slotFor]
    exact iff_of_true (end_placement_le hpos hs) (.inl (Option.some_ne_none s))
  | none =>
    by_cases hother : (g.placement g.flow.axis.other style).start = none
    · have hflows := flows_of_start_eq_none hs hother
      exact iff_of_true (end_slotFor_le_of_flows hflows hpos hcount u) (.inr (.inl hother))
    · rw [start_slotFor_of_half hs hother u, span_slotFor]
      exact ⟨fun h => .inr (.inr h), fun h => (h.resolve_left (absurd rfl)).resolve_left hother⟩

theorem end_moveSlot_le_iff (hpos : 0 < g.trackCount axis) (u : CssUnits) (style : Style)
    (s : GridSlot) :
    (g.moveSlot u style s).start axis + (g.moveSlot u style s).span axis ≤ g.trackCount axis ↔
      (g.placement axis style).start ≠ none ∨
        s.start axis + (g.placement axis style).span ≤ g.trackCount axis := by
  rw [start_moveSlot, span_moveSlot]
  cases hs : (g.placement axis style).start with
  | some t => exact iff_of_true (end_placement_le hpos hs) (.inl (Option.some_ne_none t))
  | none => exact ⟨.inr, fun h => h.resolve_left (absurd rfl)⟩

theorem exists_slot {c : Container} (hs : Structured .grid .grid c) {child : WidgetId} {node : Child}
    (hnode : c.child? child = some node) : ∃ s, node.slot = .grid s := by
  have hmem : node ∈ c.children := List.mem_of_find?_eq_some hnode
  have hkind := hs.sound.slot_eq node.tag (List.mem_map_of_mem hmem)
  rw [Container.frame, hs.panel_eq] at hkind
  cases hslot : node.slot with
  | grid s => exact ⟨s, rfl⟩
  | _ => rw [Child.tag, hslot] at hkind; cases hkind

theorem slot?_updateChild {c : Container} (hg : c.layout = .grid g) (ctx : Context)
    {child : WidgetId} {node : Child} {s : GridSlot} (hnode : c.child? child = some node)
    (hslot : node.slot = .grid s) (changed : Style) :
    slot? (LayoutKind.grid.outcome c ⟨ctx, .updateChild child changed⟩).container child =
      some (g.moveSlot ctx.units (node.style.merge changed) s) := by
  rw [LayoutKind.outcome, LayoutKind.apply, LayoutKind.updateChild, updateChild_eq hg]
  show ((c.restyle child changed (g.move ctx.units)).child? child).bind _ = _
  rw [Container.child?_restyle, hnode, Option.map_some, hslot]
  rfl

/-! While the tracks and the flow stay, the flow stands inside the tracks. -/

def StandsInside (g : Grid) : Prop := g.cursor.index g.flow.axis < max (g.trackCount g.flow.axis) 1

theorem standsInside_next {c : Container} {g : Grid} (hs : Structured .grid .grid c)
    (hg : c.layout = .grid g) {s : Step} {steps : List Step} (hsteady : g.Steady (s :: steps))
    (h : g.StandsInside) : (g.next c s).StandsInside := by
  rcases rests_or_flows hs hg hsteady with hrests | ⟨u, style, hflows, -, hnext⟩
  · rw [StandsInside, hrests.flow_eq, hrests.cursor_eq, hrests.count_eq]
    exact h
  · rw [hnext, (slotFor_of_flows hflows u).2]
    show (g.flow.cellAt _).index g.flow.axis < max (g.trackCount g.flow.axis) 1
    rw [(g.flow.index_cellAt _).2]
    exact advance_place_lt (Nat.lt_of_lt_of_le Nat.one_pos (Nat.le_max_right _ 1)) ..

theorem standsInside_run {c : Container} {g : Grid} (hs : Structured .grid .grid c)
    (hg : c.layout = .grid g) {steps : List Step} (hsteady : g.Steady steps) (h : g.StandsInside) :
    ∃ g', (LayoutKind.grid.run c steps).layout = .grid g' ∧ g'.StandsInside := by
  induction steps generalizing c g with
  | nil => exact ⟨g, hg, h⟩
  | cons s steps ih =>
    exact ih (hs.outcome (p := .grid) rfl .grid s) (layout_outcome hg s) (hsteady.next c)
      (standsInside_next hs hg hsteady h)

/-- After any run, and with fewer tracks than sums are cut at, a child that is appended or given another
style covers at least one track along the flow and at most all of them. It ends inside them exactly if
it gives its index along the flow, or is new and leaves both to the flow, or else does not need more
room than there is from the index that is taken for it: where the flow stands for a new child, and
where it was for another one. While the tracks and the flow have been the same from the start, there
is room for one track where the flow stands. -/
theorem run_ends_inside_iff (ctx : Context) (widget : WidgetId) (style : Style)
    (steps : List Step) :
    let c := LayoutKind.grid.run (LayoutKind.grid.create ctx widget style) steps
    ∃ g, c.layout = .grid g ∧
      (0 < g.trackCount g.flow.axis → g.trackCount g.flow.axis < 0xFFFFFFFF →
        ((ofStyle ctx.units ctx.config style).Steady steps →
          g.cursor.index g.flow.axis + 1 ≤ g.trackCount g.flow.axis) ∧
        (∀ ctx' child childStyle, ¬c.has child → ∃ slot,
          slot? (LayoutKind.grid.outcome c ⟨ctx', .append child childStyle⟩).container child =
            some slot ∧
          slot.span g.flow.axis = (g.placement g.flow.axis childStyle).span ∧
          1 ≤ slot.span g.flow.axis ∧ slot.span g.flow.axis ≤ g.trackCount g.flow.axis ∧
          (slot.start g.flow.axis + slot.span g.flow.axis ≤ g.trackCount g.flow.axis ↔
            (g.placement g.flow.axis childStyle).start ≠ none ∨
              (g.placement g.flow.axis.other childStyle).start = none ∨
              g.cursor.index g.flow.axis + slot.span g.flow.axis ≤ g.trackCount g.flow.axis)) ∧
        ∀ ctx' child changed node, c.child? child = some node → ∃ old slot,
          node.slot = .grid old ∧
          slot? (LayoutKind.grid.outcome c ⟨ctx', .updateChild child changed⟩).container child =
            some slot ∧
          slot.span g.flow.axis = (g.placement g.flow.axis (node.style.merge changed)).span ∧
          1 ≤ slot.span g.flow.axis ∧ slot.span g.flow.axis ≤ g.trackCount g.flow.axis ∧
          (slot.start g.flow.axis + slot.span g.flow.axis ≤ g.trackCount g.flow.axis ↔
            (g.placement g.flow.axis (node.style.merge changed)).start ≠ none ∨
              old.start g.flow.axis + slot.span g.flow.axis ≤ g.trackCount g.flow.axis)) := by
  intro c
  have hcreate : Structured .grid .grid (LayoutKind.grid.create ctx widget style) :=
    LayoutKind.structured_create .grid ctx widget style
  have hs : Structured .grid .grid c := hcreate.run (p := .grid) rfl steps
  obtain ⟨g, hg⟩ := Container.exists_grid hs.kind_eq
  refine ⟨g, hg, fun hpos hcount => ⟨fun hsteady => ?_, fun ctx' child childStyle hnew => ?_,
    fun ctx' child changed node hnode => ?_⟩⟩
  · have hstart : (ofStyle ctx.units ctx.config style).StandsInside := by
      have hcursor : (ofStyle ctx.units ctx.config style).cursor.index
          (ofStyle ctx.units ctx.config style).flow.axis = 0 := by
        cases (ofStyle ctx.units ctx.config style).flow <;> rfl
      rw [StandsInside, hcursor]
      exact Nat.lt_of_lt_of_le Nat.one_pos (Nat.le_max_right _ 1)
    obtain ⟨g', hg', hinside⟩ := standsInside_run hcreate rfl hsteady hstart
    obtain rfl : g = g' := Layout.grid.inj (hg.symm.trans hg')
    rwa [StandsInside, max_eq_left hpos] at hinside
  · have hend := end_slotFor_le_iff hpos hcount ctx'.units childStyle
    have hspan := span_slotFor ctx'.units g childStyle g.flow.axis
    refine ⟨_, slot?_append hs hg ctx' hnew childStyle, hspan, ?_, ?_, ?_⟩ <;> rw [hspan]
    · exact one_le_span_placement ..
    · exact span_placement_le hpos childStyle
    · rwa [hspan] at hend
  · obtain ⟨old, hold⟩ := exists_slot hs hnode
    have hend := end_moveSlot_le_iff hpos ctx'.units (node.style.merge changed) old
    have hspan := span_moveSlot ctx'.units g g.flow.axis (node.style.merge changed) old
    refine ⟨old, _, hold, slot?_updateChild hg ctx' hnode hold changed, hspan, ?_, ?_, ?_⟩ <;>
      rw [hspan]
    · exact one_le_span_placement ..
    · exact span_placement_le hpos _
    · rwa [hspan] at hend

open Overlay (unmeasured) in
theorem run_ends_inside_iff_half_given :
    let wide := Style.empty.set .gridTemplateColumns (.text "1fr 1fr 1fr")
    let low := (Style.empty.set .gridRow (.number 2)).set .gridColumn (.text "span 2")
    let last := Style.empty.set .gridColumn (.number 3)
    let double := Style.empty.set .gridColumn (.text "span 2")
    let steps : List Step :=
      [⟨unmeasured, .append ⟨2⟩ .empty⟩, ⟨unmeasured, .append ⟨3⟩ last⟩]
    let c := LayoutKind.grid.run (LayoutKind.grid.create unmeasured ⟨1⟩ wide) steps
    let g := { ofStyle unmeasured.units unmeasured.config wide with cursor := ⟨0, 1⟩ }
    c.layout = .grid g ∧ 0 < g.trackCount g.flow.axis ∧ g.trackCount g.flow.axis < 0xFFFFFFFF ∧
      (ofStyle unmeasured.units unmeasured.config wide).Steady steps ∧ ¬c.has ⟨4⟩ ∧
      c.child? ⟨3⟩ = some ⟨⟨3⟩, last, .grid (g.slotFor unmeasured.units last).1, 1⟩ ∧
      g.cursor.index g.flow.axis + 1 ≤ g.trackCount g.flow.axis ∧
      (∃ slot, slot? (LayoutKind.grid.outcome c ⟨unmeasured, .append ⟨4⟩ low⟩).container ⟨4⟩ =
          some slot ∧
        slot.start g.flow.axis + slot.span g.flow.axis ≤ g.trackCount g.flow.axis) ∧
      ∃ slot, slot? (LayoutKind.grid.outcome c ⟨unmeasured, .updateChild ⟨3⟩ double⟩).container ⟨3⟩ =
          some slot ∧
        ¬slot.start g.flow.axis + slot.span g.flow.axis ≤ g.trackCount g.flow.axis := by
  intro wide low last double steps c g
  obtain ⟨g', hg', hends⟩ := run_ends_inside_iff unmeasured ⟨1⟩ wide steps
  have hg : c.layout = .grid g := by decide +kernel
  obtain rfl : g = g' := Layout.grid.inj (hg.symm.trans hg')
  have hpos : 0 < g.trackCount g.flow.axis := by decide +kernel
  have hcount : g.trackCount g.flow.axis < 0xFFFFFFFF := by decide +kernel
  have hsteady : (ofStyle unmeasured.units unmeasured.config wide).Steady steps :=
    ⟨by simp, by simp, trivial⟩
  have hnew : ¬c.has ⟨4⟩ := by decide +kernel
  have hnode : c.child? ⟨3⟩ = some ⟨⟨3⟩, last, .grid (g.slotFor unmeasured.units last).1, 1⟩ := by
    let before := LayoutKind.grid.run (LayoutKind.grid.create unmeasured ⟨1⟩ wide)
      [⟨unmeasured, .append ⟨2⟩ .empty⟩]
    have hbefore : Structured .grid .grid before :=
      (LayoutKind.structured_create .grid unmeasured ⟨1⟩ wide).run (p := .grid) rfl _
    have hlayout : before.layout = .grid g := by decide +kernel
    exact child?_append hbefore hlayout unmeasured (by decide +kernel) last
  obtain ⟨hroom, happend, hupdate⟩ := hends hpos hcount
  refine ⟨hg, hpos, hcount, hsteady, hnew, hnode, hroom hsteady, ?_, ?_⟩
  · obtain ⟨slot, hslot, hspan, -, -, hinside⟩ := happend unmeasured ⟨4⟩ low hnew
    have hlow : g.cursor.index g.flow.axis + (g.placement g.flow.axis low).span ≤
        g.trackCount g.flow.axis := by decide +kernel
    exact ⟨slot, hslot, hinside.mpr (.inr (.inr (hspan ▸ hlow)))⟩
  · obtain ⟨old, slot, hold, hslot, hspan, -, -, hinside⟩ :=
      hupdate unmeasured ⟨3⟩ double _ hnode
    obtain rfl := Slot.grid.inj hold
    have hstart : (g.placement g.flow.axis (last.merge double)).start = none := by decide +kernel
    have hlong : ¬(g.slotFor unmeasured.units last).1.start g.flow.axis +
        (g.placement g.flow.axis (last.merge double)).span ≤ g.trackCount g.flow.axis := by
      decide +kernel
    exact ⟨slot, hslot, fun h => (hinside.mp h).elim (absurd hstart) (hspan ▸ hlong)⟩

open Overlay (unmeasured) in
/-- In three columns that stay as they are, a child that asks for the second row and three columns is
put into the column of the flow, and a child that is made three columns wide keeps its column. Both
end behind the last column. -/
theorem exists_ends_outside :
    let wide := Style.empty.set .gridTemplateColumns (.text "1fr 1fr 1fr")
    let low := (Style.empty.set .gridRow (.number 2)).set .gridColumn (.text "span 3")
    let triple := Style.empty.set .gridColumn (.text "span 3")
    let steps : List Step := [⟨unmeasured, .append ⟨2⟩ .empty⟩, ⟨unmeasured, .append ⟨3⟩ low⟩,
      ⟨unmeasured, .append ⟨4⟩ .empty⟩, ⟨unmeasured, .updateChild ⟨4⟩ triple⟩]
    let g := ofStyle unmeasured.units unmeasured.config wide
    let c := LayoutKind.grid.run (LayoutKind.grid.create unmeasured ⟨1⟩ wide) steps
    g.Steady steps ∧ g.flow = .row ∧ g.trackCount .column = 3 ∧
      ∀ child ∈ [⟨3⟩, ⟨4⟩], ∃ slot, slot? c child = some slot ∧
        slot.start .column = 1 ∧ slot.span .column = 3 ∧
        ¬slot.start .column + slot.span .column ≤ g.trackCount .column := by
  intro wide low triple steps g c
  have hthird : slot? c ⟨3⟩ = some ⟨1, 1, 1, 3, .filling⟩ := by decide +kernel
  have hfourth : slot? c ⟨4⟩ = some ⟨0, 1, 1, 3, .filling⟩ := by decide +kernel
  have hcount : g.trackCount .column = 3 := by decide +kernel
  refine ⟨⟨by simp, by simp, by simp, by simp, trivial⟩, by decide +kernel, hcount, fun child h => ?_⟩
  rw [hcount]
  rcases List.mem_pair.mp h with rfl | rfl
  · exact ⟨_, hthird, rfl, rfl, by decide⟩
  · exact ⟨_, hfourth, rfl, rfl, by decide⟩

end PanelLayout.Grid
