import PanelLayout.Proofs.Container.Run
import PanelLayout.Proofs.Overlay.Renewal

/-!
Updates of containers of all kinds. An update writes the panel and the slots anew from the style it
gives the container, so the last one wins, and to repeat one changes nothing but the generations of
an overlay.
-/
namespace PanelLayout

theorem Flex.onPanel_onPanel (f f' : Flex) (p : Panel) :
    f'.onPanel (f.onPanel p) = f'.onPanel p := by
  cases p <;> rfl

theorem Canvas.place_place (u : CssUnits) (c c' : Canvas) (style : Style) (s : Slot) :
    c'.place u style (c.place u style s) = c'.place u style s := by
  cases s <;> rfl

/-! A number that equals any number is one, so tracks that equal other ones equal themselves. -/

open Float.Model in
theorem compare_self_of_compare {a b : UnpackedFloat} (h : a.compare b = some .eq) :
    a.compare a = some .eq := by
  cases a with
  | notANumber =>
    have hnone : UnpackedFloat.notANumber.compare b = none := by cases b <;> rfl
    rw [hnone] at h
    cases h
  | infinity s => cases s <;> rfl
  | zero s => rfl
  | finite s m e hm =>
    have hsame : (compare e e).then (compare m m) = .eq := by simp
    cases s
    · exact congrArg (fun order => some order.swap) hsame
    · exact congrArg some hsame

theorem Single.beq_self_of_beq {x y : Float32} (h : (x == y) = true) : (x == x) = true := by
  have hxy : x.toModel.unpack.compare y.toModel.unpack = some .eq := eq_of_beq h
  have hxx := compare_self_of_compare hxy
  show (x.toModel.unpack.compare x.toModel.unpack == some .eq) = true
  rw [hxx]
  rfl

theorem Track.same_self_of_same {a b : Track} (h : a.same b) : a.same a := by
  simp only [same, Bool.and_eq_true, decide_eq_true_eq] at h ⊢
  exact ⟨trivial, Single.beq_self_of_beq h.2⟩

theorem Track.sameList_self_of_sameList {as bs : List Track} (h : sameList as bs) :
    sameList as as := by
  induction as generalizing bs with
  | nil => rfl
  | cons a as ih =>
    cases bs with
    | nil => simp [sameList] at h
    | cons b bs =>
      simp only [sameList, Bool.and_eq_true] at h ⊢
      exact ⟨same_self_of_same h.1, ih h.2⟩

namespace Grid

theorem sameTracks_self_of_sameTracks {a b : Grid} (h : a.sameTracks b) : a.sameTracks a := by
  simp only [sameTracks, Bool.and_eq_true] at h ⊢
  exact ⟨Track.sameList_self_of_sameList h.1, Track.sameList_self_of_sameList h.2⟩

theorem exists_renew (ctx : Context) (g : Grid) (style : Style) :
    ∃ cursor, g.renew ctx style = { ofStyle ctx.units ctx.config style with cursor := cursor } := by
  unfold renew
  dsimp only
  split_ifs
  · exact ⟨_, rfl⟩
  · exact ⟨_, rfl⟩

theorem panel_renew (ctx : Context) (g : Grid) (style : Style) :
    (g.renew ctx style).panel = (ofStyle ctx.units ctx.config style).panel := by
  obtain ⟨cursor, h⟩ := exists_renew ctx g style
  rw [h]
  rfl

theorem reseat_renew (ctx : Context) (g : Grid) (style : Style) :
    (g.renew ctx style).reseat ctx.units = (ofStyle ctx.units ctx.config style).reseat ctx.units := by
  obtain ⟨cursor, h⟩ := exists_renew ctx g style
  rw [h]
  rfl

theorem renew_renew (ctx : Context) (g : Grid) (style : Style) :
    (g.renew ctx style).renew ctx style = g.renew ctx style := by
  by_cases h : (ofStyle ctx.units ctx.config style).sameTracks g
  · have hself := sameTracks_self_of_sameTracks h
    have hfirst : g.renew ctx style =
        { ofStyle ctx.units ctx.config style with cursor := g.cursor } := if_pos h
    rw [hfirst]
    exact if_pos hself
  · have hfirst : g.renew ctx style = ofStyle ctx.units ctx.config style := if_neg h
    rw [hfirst, renew]
    split_ifs <;> rfl

theorem reseat_reseat (u : CssUnits) (g g' : Grid) (style : Style) (s : Slot) :
    g'.reseat u style (g.reseat u style s) = g'.reseat u style s := by
  cases s <;> rfl

end Grid

namespace LayoutKind

theorem update_update_of_ne {k : LayoutKind} {c : Container} (hk : c.kind = k)
    (hne : k ≠ .overlay) (ctx : Context) (old₁ changed₁ old₂ changed₂ : Style) :
    ∃ first both second, k.update ctx c old₁ changed₁ = .ok first ∧
      k.update ctx first.container old₂ changed₂ = .ok both ∧
      k.update ctx c old₂ changed₂ = .ok second ∧
      both.container.panel = second.container.panel ∧
      both.container.children = second.container.children ∧
      (old₁.merge changed₁ = old₂.merge changed₂ → both.container = first.container) := by
  cases k with
  | flex =>
    obtain ⟨f, hc⟩ := Container.exists_flex hk
    refine ⟨_, _, _, Flex.update_eq hc ctx old₁ changed₁, Flex.update_eq rfl ctx old₂ changed₂,
      Flex.update_eq hc ctx old₂ changed₂, ?_, rfl, fun hsame => ?_⟩
    · exact Flex.onPanel_onPanel _ _ c.panel
    · simp only [Container.unscheduled, hsame, Flex.onPanel_onPanel]
  | grid =>
    obtain ⟨g, hc⟩ := Container.exists_grid hk
    refine ⟨_, _, _, Grid.update_eq hc ctx old₁ changed₁, Grid.update_eq rfl ctx old₂ changed₂,
      Grid.update_eq hc ctx old₂ changed₂, ?_, ?_, fun hsame => ?_⟩
    · simp only [Container.unscheduled, Container.refit, Grid.panel_renew]
    · simp only [Grid.reseat_renew]
      exact c.children_refit_refit _ _ _ _ (Grid.reseat_reseat ctx.units _ _)
    · rw [hsame, Grid.renew_renew]
      exact c.refit_refit _ _ _ _ (Grid.reseat_reseat ctx.units _ _)
  | canvas =>
    obtain ⟨canvas, hc⟩ := Container.exists_canvas hk
    refine ⟨_, _, _, Canvas.update_eq hc ctx old₁ changed₁, Canvas.update_eq rfl ctx old₂ changed₂,
      Canvas.update_eq hc ctx old₂ changed₂, rfl, ?_, fun hsame => ?_⟩
    · exact c.children_refit_refit _ _ _ _ (Canvas.place_place ctx.units _ _)
    · rw [hsame]
      exact c.refit_refit _ _ _ _ (Canvas.place_place ctx.units _ _)
  | overlay => exact absurd rfl hne
  | uniformGrid =>
    have hc := Container.layout_uniformGrid hk
    refine ⟨_, _, _, UniformGrid.update_eq hc ctx old₁ changed₁,
      UniformGrid.update_eq hc ctx old₂ changed₂, UniformGrid.update_eq hc ctx old₂ changed₂, rfl,
      rfl, fun hsame => ?_⟩
    simp only [Container.unscheduled, hsame]

/-- From every state of a run the second of two updates leaves the panel and the children as it does
alone. If both give the container the same style, the second one changes nothing, but that the
tracked children of an overlay get new generations. -/
theorem run_update_update (k : LayoutKind) (ctx₀ : Context) (widget : WidgetId) (style : Style)
    (steps : List Step) (ctx : Context) (old₁ changed₁ old₂ changed₂ : Style) :
    ∃ first both second,
      k.update ctx (k.run (k.create ctx₀ widget style) steps) old₁ changed₁ = .ok first ∧
      k.update ctx first.container old₂ changed₂ = .ok both ∧
      k.update ctx (k.run (k.create ctx₀ widget style) steps) old₂ changed₂ = .ok second ∧
      both.container.panel = second.container.panel ∧
      both.container.children = second.container.children ∧
      (old₁.merge changed₁ = old₂.merge changed₂ →
        (k ≠ .overlay → both.container = first.container) ∧
        (k = .overlay → ∃ o o', first.container.layout = .overlay o ∧
          both.container = { first.container with layout := .overlay o' } ∧
          o'.progress = o.progress)) := by
  by_cases ho : k = .overlay
  · subst ho
    have hrun := overlay_run (create .overlay ctx₀ widget style) steps
    obtain ⟨o, hkept, _⟩ := Overlay.stable_numbered.run
      (Overlay.kept_create ctx₀ widget style) Overlay.numbered_initial (steps.map Step.onOverlay)
    obtain ⟨first, both, second, o₁, o₂, hfirst, hboth, hsecond, hlayout, hc, hc', hprogress⟩ :=
      hkept.toRests.update_update ctx old₁ changed₁ old₂ changed₂
    rw [hrun]
    refine ⟨first, both, second, hfirst, hboth, hsecond, ?_, ?_, fun _ => ⟨fun h => absurd rfl h,
      fun _ => ⟨o₁, o₂, hlayout, hc, hprogress⟩⟩⟩
    · rw [hc, hc']
    · rw [hc, hc']
  · obtain ⟨first, both, second, hfirst, hboth, hsecond, hpanel, hchildren, hsame⟩ :=
      update_update_of_ne (kind_run k ctx₀ widget style steps) ho ctx old₁ changed₁ old₂ changed₂
    exact ⟨first, both, second, hfirst, hboth, hsecond, hpanel, hchildren,
      fun h => ⟨fun _ => hsame h, fun h => absurd h ho⟩⟩

theorem run_update_update_repeated :
    let changed := Style.empty.set .gap (.text "4px")
    let pinned := Style.empty.set .left (.number 5)
    let steps : List Step := [⟨Overlay.unmeasured, .append ⟨2⟩ pinned⟩]
    (∃ first both,
      grid.update Overlay.unmeasured (grid.run (grid.create Overlay.unmeasured ⟨1⟩ .empty) steps)
        .empty changed = .ok first ∧
      grid.update Overlay.unmeasured first.container .empty changed = .ok both ∧
      both.container = first.container) ∧
    ∃ first both o o',
      overlay.update Overlay.unmeasured
        (overlay.run (overlay.create Overlay.unmeasured ⟨1⟩ .empty) steps) .empty changed =
          .ok first ∧
      overlay.update Overlay.unmeasured first.container .empty changed = .ok both ∧
      first.container.layout = .overlay o ∧
      both.container = { first.container with layout := .overlay o' } ∧
      o'.progress = o.progress := by
  intro changed pinned steps
  obtain ⟨first, both, -, hfirst, hboth, -, -, -, hsame⟩ :=
    run_update_update grid Overlay.unmeasured ⟨1⟩ .empty steps Overlay.unmeasured .empty changed
      .empty changed
  obtain ⟨first', both', -, hfirst', hboth', -, -, -, hsame'⟩ :=
    run_update_update overlay Overlay.unmeasured ⟨1⟩ .empty steps Overlay.unmeasured .empty changed
      .empty changed
  obtain ⟨o, o', hlayout, hcontainer, hprogress⟩ := (hsame' rfl).2 rfl
  exact ⟨⟨first, both, hfirst, hboth, (hsame rfl).1 (by decide)⟩,
    first', both', o, o', hfirst', hboth', hlayout, hcontainer, hprogress⟩

end LayoutKind

end PanelLayout
