import PanelLayout.Proofs.Container.History

/-!
Canvas and uniform grid containers do not depend on their past: the panel, the layout and the slots
follow from the styles that are there now, so a container is as if made anew from what is left.
-/
namespace PanelLayout

def LayoutKind.appendAll (k : LayoutKind) (ctx : Context) :
    Container → List (WidgetId × Style) → Except LayoutError Container
  | c, [] => .ok c
  | c, (child, style) :: rest => do
    let out ← k.append ctx c child style
    k.appendAll ctx out.container rest

/-- How a container is laid out by the styles alone: its panel and layout by its own style, the slot
of a child by both styles. -/
structure Scheme where
  panel : Style → Panel
  layout : Style → Layout
  slot : Style → Style → Slot

def Canvas.scheme (u : CssUnits) : Scheme where
  panel _ := .canvas
  layout style := .canvas (ofStyle u style)
  slot style child := .canvas ((ofStyle u style).slot u child)

def UniformGrid.scheme (u : CssUnits) : Scheme where
  panel style := .uniformGrid (panel u style)
  layout _ := .uniformGrid
  slot _ child := .uniformGrid (slot u child)

structure Scheme.Fits (sch : Scheme) (style : Style) (c : Container) : Prop where
  panel_eq : c.panel = sch.panel style
  layout_eq : c.layout = sch.layout style
  slot_eq : ∀ child ∈ c.children, child.slot = sch.slot style child.style
  distinct : c.Distinct

theorem Scheme.Fits.restyle_eq {sch : Scheme} {style : Style} {c : Container}
    (h : sch.Fits style c) {place : Style → Slot → Slot}
    (hplace : ∀ child old, place child (sch.slot style old) = sch.slot style child)
    (w : WidgetId) (changed : Style) :
    c.restyle w changed place = c.restyle w changed fun child _ => sch.slot style child := by
  refine Container.restyle_congr (fun node hnode child => ?_) w changed
  rw [h.slot_eq node hnode]
  exact hplace child node.style

structure Scheme.Governs (sch : Scheme) (k : LayoutKind) (u : CssUnits) : Prop where
  kind_layout : ∀ style, (sch.layout style).kind = k
  ne_overlay : k ≠ .overlay
  create_eq : ∀ ctx : Context, ctx.units = u → ∀ w style,
    k.create ctx w style = .new w (sch.panel style) (sch.layout style)
  update_eq : ∀ ctx : Context, ctx.units = u → ∀ c style, sch.Fits style c → ∀ changed,
    k.update ctx c style changed = .ok (c.refit (sch.panel (style.merge changed))
      (sch.layout (style.merge changed)) fun child _ => sch.slot (style.merge changed) child).unscheduled
  append_eq : ∀ ctx : Context, ctx.units = u → ∀ c style, sch.Fits style c → ∀ w child,
    k.append ctx c w child =
      (c.insert w child false fun _ => sch.slot style child).map Container.unscheduled
  updateChild_eq : ∀ ctx : Context, ctx.units = u → ∀ c style, sch.Fits style c → ∀ w changed,
    k.updateChild ctx c w changed =
      .ok (c.restyle w changed fun child _ => sch.slot style child).unscheduled

theorem Canvas.scheme_governs (u : CssUnits) : (scheme u).Governs .canvas u where
  kind_layout _ := rfl
  ne_overlay := nofun
  create_eq := by
    rintro ctx rfl w style
    rfl
  update_eq := by
    rintro ctx rfl c style h changed
    have hslots : ∀ node ∈ c.children,
        (ofStyle ctx.units (style.merge changed)).place ctx.units node.style node.slot =
          (scheme ctx.units).slot (style.merge changed) node.style := by
      intro node hnode
      rw [h.slot_eq node hnode]
      rfl
    rw [LayoutKind.update, Canvas.update_eq h.layout_eq, h.panel_eq]
    exact congrArg (fun c => Except.ok (Container.unscheduled c)) (Container.refit_congr hslots _ _)
  append_eq := by
    rintro ctx rfl c style h w child
    rw [LayoutKind.append, Canvas.append_eq h.layout_eq, Container.insert_back, h.panel_eq]
    rfl
  updateChild_eq := by
    rintro ctx rfl c style h w changed
    rw [LayoutKind.updateChild, Canvas.updateChild_eq h.layout_eq, h.restyle_eq fun _ _ => rfl]

theorem UniformGrid.scheme_governs (u : CssUnits) : (scheme u).Governs .uniformGrid u where
  kind_layout _ := rfl
  ne_overlay := nofun
  create_eq := by
    rintro ctx rfl w style
    rfl
  update_eq := by
    rintro ctx rfl c style h changed
    rw [LayoutKind.update, UniformGrid.update_eq h.layout_eq, Container.refit_self]
    · rw [h.layout_eq]
      rfl
    · exact fun child hchild => (h.slot_eq child hchild).symm
  append_eq := by
    rintro ctx rfl c style h w child
    rw [LayoutKind.append, UniformGrid.append_eq h.layout_eq, Container.insert_back, h.panel_eq]
    rfl
  updateChild_eq := by
    rintro ctx rfl c style h w changed
    rw [LayoutKind.updateChild, UniformGrid.updateChild_eq h.layout_eq, h.restyle_eq fun _ _ => rfl]

namespace Scheme
variable {sch : Scheme} {style : Style} {c : Container}

theorem Fits.push (h : sch.Fits style c) {w : WidgetId} (hw : c.has w = false) (child : Style) :
    sch.Fits style (c.push w child (sch.slot style child)) := by
  have hslots : c.AllSlots fun old slot => slot = sch.slot style old := h.slot_eq
  exact ⟨h.panel_eq, h.layout_eq, hslots.push w rfl, h.distinct.push hw _ _⟩

theorem Fits.restyle (h : sch.Fits style c) (w : WidgetId) (changed : Style) :
    sch.Fits style (c.restyle w changed fun child _ => sch.slot style child) := by
  have hslots : c.AllSlots fun old slot => slot = sch.slot style old := h.slot_eq
  exact ⟨h.panel_eq, h.layout_eq, hslots.restyle w changed fun _ _ _ => rfl, h.distinct.restyle w _ _⟩

theorem Fits.remove (h : sch.Fits style c) (w : WidgetId) : sch.Fits style (c.remove w) :=
  ⟨h.panel_eq, h.layout_eq, fun node hnode => h.slot_eq node (List.mem_of_mem_filter hnode),
    h.distinct.remove w⟩

theorem Fits.refit (h : sch.Fits style c) (style' : Style) :
    sch.Fits style' (c.refit (sch.panel style') (sch.layout style') fun child _ =>
      sch.slot style' child) := by
  refine ⟨rfl, rfl, fun node hnode => ?_, ?_⟩
  · obtain ⟨old, _, rfl⟩ := List.mem_map.mp hnode
    rfl
  · rw [Container.Distinct, Container.styles_refit]
    exact h.distinct

theorem Fits.entries_eq (h : sch.Fits style c) :
    c.entries = c.styles.map fun p => (p.1, p.2, sch.slot style p.2) := by
  simp only [Container.entries, Container.styles, List.map_map]
  refine List.map_congr_left fun child hchild => ?_
  rw [h.slot_eq child hchild]
  rfl

variable {k : LayoutKind} {u : CssUnits}

theorem Governs.create (g : sch.Governs k u) {ctx : Context} (hu : ctx.units = u)
    (w : WidgetId) (style : Style) :
    sch.Fits style (k.create ctx w style) ∧ (k.create ctx w style).styles = [] := by
  rw [g.create_eq ctx hu]
  exact ⟨⟨rfl, rfl, fun _ hnode => absurd hnode List.not_mem_nil, List.nodup_nil⟩, rfl⟩

theorem Governs.kind_eq (g : sch.Governs k u) (h : sch.Fits style c) : c.kind = k := by
  rw [Container.kind, h.layout_eq]
  exact g.kind_layout style

theorem Governs.step (g : sch.Governs k u) (h : sch.Fits style c) {s : LayoutKind.Step}
    (hu : s.context.units = u) (hold : s.operation.Continues style) :
    sch.Fits (s.operation.onStyle style) (k.outcome c s).container ∧
      (k.outcome c s).container.styles = s.operation.onStyles c.styles := by
  obtain ⟨ctx, op⟩ := s
  cases op with
  | append w child =>
    simp only [LayoutKind.outcome, LayoutKind.apply, g.append_eq ctx hu c style h,
      Container.insert_back, LayoutKind.Operation.onStyles, ← Container.has_iff]
    split_ifs with hw
    · exact ⟨h, rfl⟩
    · exact ⟨h.push (Bool.eq_false_iff.mpr hw) child, c.styles_push w child _⟩
  | updateChild w changed =>
    simp only [LayoutKind.outcome, LayoutKind.apply, g.updateChild_eq ctx hu c style h]
    exact ⟨h.restyle w changed, (c.styles_restyle w changed _).trans
      (LayoutKind.onStyles_updateChild c.styles w changed).symm⟩
  | remove w =>
    simp only [LayoutKind.outcome, LayoutKind.apply, LayoutKind.remove_eq (g.kind_eq h) g.ne_overlay]
    exact ⟨h.remove w, (c.styles_remove w).trans (LayoutKind.onStyles_remove c.styles w).symm⟩
  | update old changed =>
    obtain rfl : old = style := hold
    simp only [LayoutKind.outcome, LayoutKind.apply, g.update_eq ctx hu c old h]
    exact ⟨h.refit _, (c.styles_refit _ _ _).trans List.filterMap_some.symm⟩
  | resume ticket =>
    simp only [LayoutKind.outcome, LayoutKind.apply,
      LayoutKind.resume_eq (g.kind_eq h) g.ne_overlay]
    exact ⟨h, List.filterMap_some.symm⟩

theorem Governs.run (g : sch.Governs k u) (h : sch.Fits style c) {steps : List LayoutKind.Step}
    (hu : ∀ s ∈ steps, s.context.units = u)
    (hold : LayoutKind.Accumulated style (steps.map LayoutKind.Step.operation)) :
    sch.Fits (LayoutKind.finalStyle style (steps.map LayoutKind.Step.operation)) (k.run c steps) ∧
      (k.run c steps).styles =
        (steps.map LayoutKind.Step.operation).foldl LayoutKind.Operation.onStyles c.styles := by
  induction steps generalizing c style with
  | nil => exact ⟨h, rfl⟩
  | cons s steps ih =>
    obtain ⟨hus, husteps⟩ := List.forall_mem_cons.mp hu
    obtain ⟨hfits, hstyles⟩ := g.step h hus hold.1
    obtain ⟨hfits', hstyles'⟩ := ih hfits husteps hold.2
    refine ⟨hfits', hstyles'.trans ?_⟩
    rw [hstyles]
    rfl

theorem Governs.appendAll (g : sch.Governs k u) {ctx : Context} (hu : ctx.units = u)
    (h : sch.Fits style c) (l : List (WidgetId × Style))
    (hl : ((c.styles ++ l).map Prod.fst).Nodup) :
    ∃ fresh, k.appendAll ctx c l = .ok fresh ∧ sch.Fits style fresh ∧
      fresh.styles = c.styles ++ l := by
  induction l generalizing c with
  | nil => exact ⟨c, rfl, h, (List.append_nil c.styles).symm⟩
  | cons p l ih =>
    have hhas : ¬c.has p.1 := by
      rw [Container.has_iff]
      intro hmem
      rw [List.map_append, List.nodup_append] at hl
      exact hl.2.2 p.1 hmem p.1 (by simp) rfl
    have happend : k.append ctx c p.1 p.2 =
        .ok (c.push p.1 p.2 (sch.slot style p.2)).unscheduled := by
      rw [g.append_eq ctx hu c style h, Container.insert_back, if_neg hhas]
      rfl
    have hstyles : (c.push p.1 p.2 (sch.slot style p.2)).styles ++ l = c.styles ++ p :: l := by
      rw [Container.styles_push, List.append_assoc]
      rfl
    have hpush := h.push (Bool.eq_false_iff.mpr hhas) p.2
    obtain ⟨fresh, hfresh, hfits, hfreshStyles⟩ := ih hpush (hstyles ▸ hl)
    refine ⟨fresh, ?_, hfits, hfreshStyles.trans hstyles⟩
    rw [LayoutKind.appendAll, happend]
    exact hfresh

theorem Fits.eq_of_styles (h : sch.Fits style c) {c' : Container} (h' : sch.Fits style c')
    (hstyles : c.styles = c'.styles) :
    c.panel = c'.panel ∧ c.layout = c'.layout ∧ c.entries = c'.entries := by
  refine ⟨h.panel_eq.trans h'.panel_eq.symm, h.layout_eq.trans h'.layout_eq.symm, ?_⟩
  rw [h.entries_eq, h'.entries_eq, hstyles]

end Scheme

theorem LayoutKind.exists_scheme {k : LayoutKind} (hk : k = .canvas ∨ k = .uniformGrid)
    (u : CssUnits) : ∃ sch : Scheme, sch.Governs k u := by
  rcases hk with rfl | rfl
  · exact ⟨_, Canvas.scheme_governs u⟩
  · exact ⟨_, UniformGrid.scheme_governs u⟩

/-- A canvas or a uniform grid after any operations has the panel, the layout and the children, with
their order, styles and slots, of a container that is made with its final style and gets the
children that are left, with their final styles. -/
theorem LayoutKind.run_rebuilds {k : LayoutKind} (hk : k = .canvas ∨ k = .uniformGrid)
    (ctx ctx' : Context) (widget : WidgetId) (style : Style) (steps : List Step)
    (hctx : ctx'.units = ctx.units) (hunits : ∀ s ∈ steps, s.context.units = ctx.units)
    (hold : Accumulated style (steps.map Step.operation)) :
    ∃ fresh,
      k.appendAll ctx' (k.create ctx' widget (finalStyle style (steps.map Step.operation)))
        (survivors [] (steps.map Step.operation)) = .ok fresh ∧
      (k.run (k.create ctx widget style) steps).panel = fresh.panel ∧
      (k.run (k.create ctx widget style) steps).layout = fresh.layout ∧
      (k.run (k.create ctx widget style) steps).entries = fresh.entries := by
  obtain ⟨sch, g⟩ := exists_scheme hk ctx.units
  obtain ⟨hcreate, hnone⟩ := g.create rfl widget style
  obtain ⟨hrun, hstyles⟩ := g.run hcreate hunits hold
  rw [hnone, foldl_onStyles, List.filterMap_nil, List.nil_append, List.map_nil] at hstyles
  obtain ⟨hcreate', hnone'⟩ :=
    g.create hctx widget (finalStyle style (steps.map Step.operation))
  have hdistinct : (([] ++ survivors [] (steps.map Step.operation)).map Prod.fst).Nodup := by
    rw [List.nil_append, ← hstyles]
    exact hrun.distinct
  obtain ⟨fresh, hfresh, hfits, hfreshStyles⟩ := g.appendAll hctx hcreate' _ (hnone' ▸ hdistinct)
  rw [hnone', List.nil_append, ← hstyles] at hfreshStyles
  exact ⟨fresh, hfresh, hrun.eq_of_styles hfits hfreshStyles.symm⟩

open Overlay (unmeasured pinned) in
theorem LayoutKind.run_rebuilds_reappended :
    let steps : List Step := [⟨unmeasured, .append ⟨2⟩ .empty⟩, ⟨unmeasured, .update .empty pinned⟩,
      ⟨unmeasured, .append ⟨3⟩ .empty⟩, ⟨unmeasured, .remove ⟨2⟩⟩, ⟨unmeasured, .append ⟨2⟩ .empty⟩,
      ⟨unmeasured, .updateChild ⟨2⟩ pinned⟩]
    (∀ s ∈ steps, s.context.units = unmeasured.units) ∧
      Accumulated .empty (steps.map Step.operation) ∧
      ∃ fresh,
        canvas.appendAll unmeasured (canvas.create unmeasured ⟨1⟩ (Style.empty.merge pinned))
          [(⟨3⟩, .empty), (⟨2⟩, Style.empty.merge pinned)] = .ok fresh ∧
        (canvas.run (canvas.create unmeasured ⟨1⟩ .empty) steps).panel = fresh.panel ∧
        (canvas.run (canvas.create unmeasured ⟨1⟩ .empty) steps).layout = fresh.layout ∧
        (canvas.run (canvas.create unmeasured ⟨1⟩ .empty) steps).entries = fresh.entries := by
  intro steps
  have hunits : ∀ s ∈ steps, s.context.units = unmeasured.units := by simp [steps]
  have hold : Accumulated .empty (steps.map Step.operation) :=
    ⟨trivial, rfl, trivial, trivial, trivial, trivial, trivial⟩
  exact ⟨hunits, hold, run_rebuilds (.inl rfl) unmeasured unmeasured ⟨1⟩ .empty steps rfl hunits hold⟩

end PanelLayout
