import PanelLayout.Proofs.Grid.Extent
import Mathlib.Data.List.Chain

/-!
Cells that grid children share. A child that gives one index takes the other from where the flow
stands, and the flow does not go on behind it. So it keeps clear of the children that the flow has
put somewhere only while it lies on the right side of the flow.
-/
namespace PanelLayout.Grid
open LayoutKind (Step Structured)

def Gathers (steps : List Step) : Prop :=
  ∀ s ∈ steps, ∀ child, s.operation ≠ .remove child ∧
    ∀ changed, s.operation ≠ .updateChild child changed

def Arrival.Single (a : Arrival) : Prop := ∀ axis, a.slot.span axis = 1

def Arrival.cells? (a : Arrival) : Option (Nat × Nat × Nat × Nat) := (Slot.grid a.slot).cells?

variable {c : Container} {g : Grid} {s : Step} {steps : List Step}

theorem arrival?_cases (hs : Structured .grid .grid c) (hg : c.layout = .grid g) (s : Step) :
    arrival? c s = none ∨ ∃ u style, arrival? c s = some (.of u g style) := by
  obtain ⟨ctx, op⟩ := s
  cases op with
  | append child style =>
    by_cases hhas : c.has child
    · exact .inl (arrival?_of_has ctx hhas style)
    · exact .inr ⟨ctx.units, style, arrival?_append hs hg ctx hhas style⟩
  | _ => exact .inl (arrival?_of_not_append hg (by simp))

theorem exists_of_mem_arrivals (hs : Structured .grid .grid c) {a : Arrival}
    (ha : a ∈ arrivals c steps) : ∃ u g style, a = .of u g style := by
  induction steps generalizing c with
  | nil => exact absurd ha List.not_mem_nil
  | cons s steps ih =>
    rcases List.mem_append.mp ha with ha | ha
    · obtain ⟨g, hg⟩ := Container.exists_grid hs.kind_eq
      have harrival := Option.mem_toList.mp ha
      rcases arrival?_cases hs hg s with hnone | ⟨u, style, hsome⟩
      · rw [hnone] at harrival
        cases harrival
      · rw [hsome] at harrival
        exact ⟨u, g, style, (Option.some.inj harrival).symm⟩
    · exact ih (hs.outcome (p := .grid) rfl .grid s) ha

theorem start_eq_getD {a : Arrival} {u : CssUnits} {style : Style} (ha : a = .of u g style)
    (hflows : ¬a.Flows) (axis : Axis) :
    a.slot.start axis = (a.asked axis).start.getD (a.cursor.index axis) := by
  subst ha
  show (g.slotFor u style).1.start axis = (g.placement axis style).start.getD (g.cursor.index axis)
  cases hs : (g.placement axis style).start with
  | some i => exact start_slotFor_of_given hs u
  | none =>
    refine start_slotFor_of_half hs (fun hother => hflows ?_) u
    exact flows_of_start_eq_none hs hother

theorem cell_eq_of_index {c d : Cell} (h : ∀ axis, c.index axis = d.index axis) : c = d := by
  obtain ⟨row, column⟩ := c
  obtain rfl : row = d.row := h .row
  obtain rfl : column = d.column := h .column
  rfl

/-! The children of a container in which children only gather are the ones that came. -/

theorem cells?_outcome (hs : Structured .grid .grid c) (hg : c.layout = .grid g)
    (hgathers : Gathers (s :: steps)) :
    (LayoutKind.grid.outcome c s).container.children.map (fun node => node.slot.cells?) =
      c.children.map (fun node => node.slot.cells?) ++
        (arrival? c s).toList.map Arrival.cells? := by
  have hstays := hgathers s List.mem_cons_self
  obtain ⟨ctx, op⟩ := s
  cases op with
  | append child style =>
    by_cases hhas : c.has child
    · rw [arrival?_of_has ctx hhas style, LayoutKind.outcome, LayoutKind.apply, LayoutKind.append,
        append_eq hg, if_pos hhas]
      exact (List.append_nil _).symm
    · rw [arrival?_append hs hg ctx hhas style, LayoutKind.outcome, LayoutKind.apply,
        LayoutKind.append, append_eq hg, if_neg hhas, putSlot_newSlot hs]
      exact List.map_append
  | updateChild child changed => exact absurd rfl ((hstays child).2 changed)
  | remove child => exact absurd rfl (hstays child).1
  | update old changed =>
    have hcells := congrArg (List.map Prod.snd) (cells?_update hs.kind_eq ctx old changed)
    rw [List.map_map, List.map_map] at hcells
    rw [arrival?_of_not_append hg (by simp)]
    exact hcells.trans (List.append_nil _).symm
  | resume ticket =>
    rw [arrival?_of_not_append hg (by simp), LayoutKind.outcome, LayoutKind.apply,
      LayoutKind.resume_eq hs.kind_eq (by decide)]
    exact (List.append_nil _).symm

theorem cells?_run (hs : Structured .grid .grid c) (hgathers : Gathers steps) :
    (LayoutKind.grid.run c steps).children.map (fun node => node.slot.cells?) =
      c.children.map (fun node => node.slot.cells?) ++ (arrivals c steps).map Arrival.cells? := by
  induction steps generalizing c with
  | nil => exact (List.append_nil _).symm
  | cons s steps ih =>
    obtain ⟨g, hg⟩ := Container.exists_grid hs.kind_eq
    have hrest : Gathers steps := fun t ht => hgathers t (List.mem_cons_of_mem s ht)
    show (LayoutKind.grid.run (LayoutKind.grid.outcome c s).container steps).children.map _ = _
    rw [ih (hs.outcome (p := .grid) rfl .grid s) hrest, cells?_outcome hs hg hgathers, arrivals,
      List.map_append, List.append_assoc]

/-! The flow stands still behind a child that gives an index. -/

theorem arrivals_isChain (hs : Structured .grid .grid c) (hg : c.layout = .grid g)
    (hsteady : g.Steady steps) :
    (∀ a ∈ (arrivals c steps).head?, a.cursor = g.cursor) ∧
      (arrivals c steps).IsChain fun a b => ¬a.Flows → b.cursor = a.cursor := by
  induction steps generalizing c g with
  | nil => exact ⟨fun a ha => absurd ha (Option.not_mem_none a), .nil⟩
  | cons s steps ih =>
    obtain ⟨hhead, hchain⟩ := ih (hs.outcome (p := .grid) rfl .grid s) (layout_outcome hg s)
      (hsteady.next c)
    rw [arrivals]
    rcases rests_or_flows hs hg hsteady with hrests | ⟨u, style, hflows, harrival, -⟩
    · -- The next child finds the cursor where this one found it.
      rw [hrests.cursor_eq] at hhead
      cases harrival : arrival? c s with
      | none => exact ⟨hhead, hchain⟩
      | some a =>
        have ha := (hrests.arrival a harrival).1
        refine ⟨?_, List.isChain_cons.mpr ⟨fun b hb _ => (hhead b hb).trans ha.symm, hchain⟩⟩
        rintro b ⟨⟩
        exact ha
    · rw [harrival]
      refine ⟨?_, List.isChain_cons.mpr ⟨fun b _ hnot => absurd hflows hnot, hchain⟩⟩
      rintro a ⟨⟩
      rfl

/-- While children only gather in a grid whose tracks and flow stay, every child has the cells that it
was given when it came. One that gives an index has its other index from where the flow stood, and
the flow still stands there for the next child, so that two neighbours that ask for the same get the
same cell. A child of one cell that was put by the flow, or before where the flow stood, has no cell in
common with a later child that was put by the flow, or not before where the flow stood then. The
numbers of tracks and of children are below the greatest number of 32 bits. -/
theorem run_keeps_apart (ctx : Context) (widget : WidgetId) (style : Style) (steps : List Step) :
    let g := ofStyle ctx.units ctx.config style
    let c := LayoutKind.grid.create ctx widget style
    g.Steady steps → Gathers steps → g.trackCount g.flow.axis ≤ 0xFFFFFFFF →
      (arrivals c steps).length < 0xFFFFFFFF →
      (LayoutKind.grid.run c steps).children.map (fun node => node.slot.cells?) =
          (arrivals c steps).map Arrival.cells? ∧
        (∀ a ∈ arrivals c steps, ¬a.Flows →
          ∀ axis, a.slot.start axis = (a.asked axis).start.getD (a.cursor.index axis)) ∧
        ((arrivals c steps).IsChain fun a b =>
          ¬a.Flows → b.cursor = a.cursor ∧ (b.asked = a.asked → b.slot.cell = a.slot.cell)) ∧
        (arrivals c steps).Pairwise fun a b => a.Single →
          (a.Flows ∨ g.flow.position a.slot.cell < g.flow.position a.cursor) →
          (b.Flows ∨ g.flow.position b.cursor ≤ g.flow.position b.slot.cell) →
          a.slot.Apart b.slot := by
  intro g c hsteady hgathers hcount hlength
  have hs : Structured .grid .grid c := LayoutKind.structured_create .grid ctx widget style
  have hbegun : g.flow.begun g.cursor = 0 := by
    show g.flow.begun ⟨0, 0⟩ = 0
    cases g.flow <;> rfl
  have hstart : ∀ a ∈ arrivals c steps, ¬a.Flows →
      ∀ axis, a.slot.start axis = (a.asked axis).start.getD (a.cursor.index axis) := by
    intro a ha
    obtain ⟨u, g', style', heq⟩ := exists_of_mem_arrivals hs ha
    exact start_eq_getD heq
  obtain ⟨hall, hpairs⟩ := run_advances hs rfl hsteady hcount (by rw [hbegun]; omega)
  refine ⟨cells?_run hs hgathers, hstart, ?_, hpairs.imp_of_mem ?_⟩
  · refine (arrivals_isChain hs rfl hsteady).2.imp_of_mem_imp fun a b ha hb hab hflows => ?_
    refine ⟨hab hflows, fun hasked => cell_eq_of_index fun axis => ?_⟩
    have hflows' : ¬b.Flows := by rwa [Arrival.Flows, hasked]
    have hequal := hstart b hb hflows' axis
    rw [hasked, hab hflows] at hequal
    exact hequal.trans (hstart a ha hflows axis).symm
  · intro a b ha hb hab hsingle hclear hlater
    have hbehind : g.flow.Behind a.slot b.cursor := by
      rcases hclear with hflows | hbefore
      · exact hab.2 hflows
      · exact (AutoFlow.behind_of_position_lt hbefore (hsingle _)).of_le hab.1
    have hle : g.flow.position b.cursor ≤ g.flow.position b.slot.cell :=
      hlater.elim (fun hflows => ((hall b hb).2 hflows).cursor_le) id
    exact (hbehind.of_le hle).apart (hsingle _)

open Overlay (unmeasured) in
theorem run_keeps_apart_ahead :
    let wide := Style.empty.set .gridTemplateColumns (.text "1fr 1fr 1fr")
    let third := Style.empty.set .gridColumn (.number 3)
    let low := Style.empty.set .gridRow (.number 2)
    let steps : List Step := [⟨unmeasured, .append ⟨2⟩ .empty⟩, ⟨unmeasured, .append ⟨3⟩ third⟩,
      ⟨unmeasured, .update wide (Style.empty.set .gap (.number 4))⟩,
      ⟨unmeasured, .append ⟨4⟩ low⟩, ⟨unmeasured, .append ⟨5⟩ .empty⟩]
    let g := ofStyle unmeasured.units unmeasured.config wide
    let c := LayoutKind.grid.create unmeasured ⟨1⟩ wide
    g.Steady steps ∧ Gathers steps ∧ g.trackCount g.flow.axis ≤ 0xFFFFFFFF ∧
      (arrivals c steps).length < 0xFFFFFFFF ∧
      (arrivals c steps).map Arrival.cells? =
        [some (0, 0, 1, 1), some (0, 2, 1, 1), some (1, 1, 1, 1), some (0, 1, 1, 1)] ∧
      (LayoutKind.grid.run c steps).children.map (fun node => node.slot.cells?) =
          (arrivals c steps).map Arrival.cells? ∧
        (∀ a ∈ arrivals c steps, ¬a.Flows →
          ∀ axis, a.slot.start axis = (a.asked axis).start.getD (a.cursor.index axis)) ∧
        ((arrivals c steps).IsChain fun a b =>
          ¬a.Flows → b.cursor = a.cursor ∧ (b.asked = a.asked → b.slot.cell = a.slot.cell)) ∧
        (arrivals c steps).Pairwise fun a b => a.Single →
          (a.Flows ∨ g.flow.position a.slot.cell < g.flow.position a.cursor) →
          (b.Flows ∨ g.flow.position b.cursor ≤ g.flow.position b.slot.cell) →
          a.slot.Apart b.slot := by
  intro wide third low steps g c
  have hsteady : g.Steady steps := by
    have hsame : (ofStyle unmeasured.units unmeasured.config
        (wide.merge (Style.empty.set .gap (.number 4)))).sameTracks g := by decide +kernel
    refine ⟨by simp, by simp, ?_, by simp, by simp, trivial⟩
    rintro _ _ ⟨⟩
    exact ⟨sameTracks_iff.mp hsame, by decide +kernel⟩
  have hgathers : Gathers steps := by simp [Gathers, steps]
  have hcount : g.trackCount g.flow.axis ≤ 0xFFFFFFFF := by decide +kernel
  have hlength : (arrivals c steps).length < 0xFFFFFFFF := by decide +kernel
  exact ⟨hsteady, hgathers, hcount, hlength, by decide +kernel,
    run_keeps_apart unmeasured ⟨1⟩ wide steps hsteady hgathers hcount hlength⟩

open Overlay (unmeasured) in
/-- Two children that give the first row, one behind the other, and a child behind them that gives
neither index are all in the first cell. -/
theorem half_given_share_cell :
    let wide := Style.empty.set .gridTemplateColumns (.text "1fr 1fr 1fr")
    let first := Style.empty.set .gridRow (.number 1)
    let steps : List Step := [⟨unmeasured, .append ⟨2⟩ first⟩, ⟨unmeasured, .append ⟨3⟩ first⟩,
      ⟨unmeasured, .append ⟨4⟩ .empty⟩]
    let g := ofStyle unmeasured.units unmeasured.config wide
    let c := LayoutKind.grid.create unmeasured ⟨1⟩ wide
    g.Steady steps ∧ Gathers steps ∧ g.trackCount .column = 3 ∧
      (g.placement .row first).start = some 0 ∧ (g.placement .column first).start = none ∧
      g.Flows .empty ∧
      (LayoutKind.grid.run c steps).children.map (fun node => (node.widget, node.slot.cells?)) =
        [(⟨2⟩, some (0, 0, 1, 1)), (⟨3⟩, some (0, 0, 1, 1)), (⟨4⟩, some (0, 0, 1, 1))] := by
  intro wide first steps g c
  have hflows : g.Flows .empty := by
    intro axis
    cases axis <;> decide +kernel
  exact ⟨⟨by simp, by simp, by simp, trivial⟩, by simp [Gathers, steps], by decide +kernel,
    by decide +kernel, by decide +kernel, hflows, by decide +kernel⟩

end PanelLayout.Grid
