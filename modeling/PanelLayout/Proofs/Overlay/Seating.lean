import Mathlib.Logic.Function.Basic
import PanelLayout.Proofs.Overlay.Bookkeeping

/-!
The slots of overlay containers. Beside a run stands what its checks have read of each child since
the child got its style. In every state of a run a flowing child lies as its style says, and an
absolute one as the last good of these readings says, wherever it has lain before.
-/
namespace PanelLayout.Overlay

inductive Note where
  | styled (child : WidgetId)
  | checked (child : WidgetId) (parent own : Size)

abbrev Readings := WidgetId → List (Size × Size)

def noted (r : Readings) : Note → Readings
  | .styled child => Function.update r child []
  | .checked child parent own => Function.update r child (r child ++ [(parent, own)])

def checkNote (ctx : Context) (widget child : WidgetId) : Note :=
  .checked child (ctx.sizeOf widget) (ctx.sizeOf child)

def styleNotes (ctx : Context) (widget child : WidgetId) (style : Style) : List Note :=
  .styled child :: if isAbsolute style then [checkNote ctx widget child] else []

def isGood (reading : Size × Size) : Bool := reading.1.isPositive && reading.2.isPositive

def seatAfter (u : CssUnits) (style : Style) (l : List (Size × Size)) : Seat :=
  match l.reverse.find? isGood with
  | some (parent, own) => absoluteSeat u style parent own
  | none => initialSeat

def slotAfter (u : CssUnits) (style : Style) (l : List (Size × Size)) : Slot :=
  .overlay (if isAbsolute style then seatAfter u style l else flowingSeat u style)

theorem seatAfter_snoc (u : CssUnits) (style : Style) (l : List (Size × Size))
    (parent own : Size) :
    seatAfter u style (l ++ [(parent, own)]) =
      if isGood (parent, own) then absoluteSeat u style parent own else seatAfter u style l := by
  rw [seatAfter, List.reverse_append, List.reverse_singleton, List.singleton_append,
    List.find?_cons]
  cases isGood (parent, own) <;> rfl

theorem slotAfter_bad (u : CssUnits) (style : Style) (l : List (Size × Size)) {parent own : Size}
    (h : isGood (parent, own) = false) :
    slotAfter u style (l ++ [(parent, own)]) = slotAfter u style l := by
  rw [slotAfter, slotAfter, seatAfter_snoc, h, if_neg Bool.false_ne_true]

theorem slotAfter_good (u : CssUnits) {style : Style} (habs : isAbsolute style)
    (l : List (Size × Size)) {parent own : Size} (h : isGood (parent, own)) :
    slotAfter u style (l ++ [(parent, own)]) = .overlay (absoluteSeat u style parent own) := by
  rw [slotAfter, seatAfter_snoc, if_pos habs, if_pos h]

theorem placeInitial_slotAfter (u : CssUnits) (style style' : Style) (l : List (Size × Size)) :
    placeInitial u style' (slotAfter u style l) = slotAfter u style' [] := rfl

theorem placeAbsolute_slotAfter (u : CssUnits) (parent own : Size) (style : Style)
    (l : List (Size × Size)) :
    placeAbsolute u parent own style (slotAfter u style l) =
      .overlay (absoluteSeat u style parent own) := rfl

theorem noted_checked_self (r : Readings) (ctx : Context) (widget child : WidgetId) :
    noted r (checkNote ctx widget child) child =
      r child ++ [(ctx.sizeOf widget, ctx.sizeOf child)] := Function.update_self ..

theorem noted_checked_of_ne (r : Readings) (ctx : Context) (widget : WidgetId)
    {child w : WidgetId} (h : w ≠ child) : noted r (checkNote ctx widget child) w = r w :=
  Function.update_of_ne h ..

theorem noted_styled_self (r : Readings) (child : WidgetId) : noted r (.styled child) child = [] :=
  Function.update_self ..

theorem noted_styled_of_ne (r : Readings) {child w : WidgetId} (h : w ≠ child) :
    noted r (.styled child) w = r w :=
  Function.update_of_ne h ..

def Good (r : Readings) (child : WidgetId) : Prop :=
  ∃ parent own, (r child).getLast? = some (parent, own) ∧ isGood (parent, own)

def Seated (u : CssUnits) (c : Container) (r : Readings) : Prop :=
  ∀ node ∈ c.children, node.slot = slotAfter u node.style (r node.widget)

structure Shows (u : CssUnits) (b : Board) (r : Readings) : Prop where
  panel_eq : b.container.panel = .overlay
  seated : Seated u b.container r
  good : ∀ t ∈ b.overlay.tracked, t.phase = .applied → Good r t.child

def OnlyAbsolute (c : Container) (w : WidgetId) : Prop :=
  ∀ style, (w, style) ∈ c.styles → isAbsolute style

theorem onlyAbsolute_of_mem {c : Container} (hd : c.Distinct) {w : WidgetId} {style : Style}
    (hmem : (w, style) ∈ c.styles) (habs : isAbsolute style) : OnlyAbsolute c w :=
  fun _ h => hd.style_unique hmem h ▸ habs

section Seated
variable {u : CssUnits} {c : Container} {r : Readings}

theorem Seated.push (h : Seated u c r) (hpanel : c.panel = .overlay) {w : WidgetId}
    (hw : c.has w = false) (style : Style) :
    Seated u (c.push w style (placeInitial u style c.panel.newSlot)) (noted r (.styled w)) := by
  intro node hnode
  rcases List.mem_append.mp hnode with hnode | hnode
  · have hne : node.widget ≠ w :=
      Container.has_eq_false.mp hw _ (Container.mem_styles.mpr ⟨node, hnode, rfl, rfl⟩)
    rw [noted_styled_of_ne r hne]
    exact h node hnode
  · rw [List.mem_singleton.mp hnode, noted_styled_self, hpanel]
    rfl

theorem Seated.restyle (h : Seated u c r) (w : WidgetId) (changed : Style) :
    Seated u (c.restyle w changed (placeInitial u)) (noted r (.styled w)) := by
  intro node hnode
  obtain ⟨old, hold, rfl⟩ := List.mem_map.mp hnode
  split_ifs with hw
  · subst hw
    dsimp only
    rw [noted_styled_self, h old hold, placeInitial_slotAfter]
  · rw [noted_styled_of_ne r hw]
    exact h old hold

theorem Seated.remove (h : Seated u c r) (w : WidgetId) : Seated u (c.remove w) r :=
  fun node hnode => h node (List.mem_of_mem_filter hnode)

theorem Seated.check_bad (h : Seated u c r) {ctx : Context} {child : WidgetId}
    (hbad : isGood (ctx.sizeOf c.widget, ctx.sizeOf child) = false) :
    Seated u c (noted r (checkNote ctx c.widget child)) := by
  intro node hnode
  by_cases hw : node.widget = child
  · subst hw
    rw [noted_checked_self, slotAfter_bad u node.style _ hbad]
    exact h node hnode
  · rw [noted_checked_of_ne r ctx c.widget hw]
    exact h node hnode

theorem Seated.check_good {ctx : Context} (h : Seated ctx.units c r) {child : WidgetId}
    (habs : OnlyAbsolute c child)
    (hgood : isGood (ctx.sizeOf c.widget, ctx.sizeOf child)) :
    Seated ctx.units (seatAbsolute ctx c child) (noted r (checkNote ctx c.widget child)) := by
  intro node hnode
  obtain ⟨old, hold, rfl⟩ := List.mem_map.mp hnode
  split_ifs with hw
  · subst hw
    have hstyle : isAbsolute old.style :=
      habs old.style (Container.mem_styles.mpr ⟨old, hold, rfl, rfl⟩)
    dsimp only
    rw [noted_checked_self, slotAfter_good ctx.units hstyle _ hgood, h old hold,
      placeAbsolute_slotAfter]
  · rw [noted_checked_of_ne r ctx c.widget hw]
    exact h old hold

end Seated

section Shows
variable {ctx : Context} {b : Board} {r : Readings}

theorem Shows.attempt (h : Shows ctx.units b r) (hs : b.overlay.Sorted) {t : Tracked}
    (ht : t ∈ b.overlay.tracked) (habs : OnlyAbsolute b.container t.child) :
    Shows ctx.units (attempt ctx b t.child).1
      (noted r (checkNote ctx b.container.widget t.child)) := by
  have hgood : ∀ v ∈ (b.overlay.put (checked ctx b.container t)).tracked, v.phase = .applied →
      Good (noted r (checkNote ctx b.container.widget t.child)) v.child := by
    intro v hv hp
    rcases hs.mem_put.mp hv with rfl | ⟨hv, hne⟩
    · refine ⟨ctx.sizeOf b.container.widget, ctx.sizeOf t.child, ?_, ?_⟩
      · rw [checked, Tracked.check_child, noted_checked_self, List.getLast?_concat]
      · by_contra hbad
        have hready : isReady ctx b.container t.child = false := Bool.eq_false_iff.mpr hbad
        simp only [checked, Tracked.check, hready, Bool.false_eq_true, if_false] at hp
        split_ifs at hp
    · have hother : v.child ≠ t.child := hne
      obtain ⟨parent, own, hlast, hreading⟩ := h.good v hv hp
      refine ⟨parent, own, ?_, hreading⟩
      rw [noted_checked_of_ne r ctx _ hother]
      exact hlast
  rw [attempt_eq ctx hs ht]
  by_cases hready : isReady ctx b.container t.child
  · rw [if_pos hready]
    exact ⟨h.panel_eq, h.seated.check_good habs hready, hgood⟩
  · rw [if_neg hready]
    exact ⟨h.panel_eq, h.seated.check_bad (Bool.eq_false_iff.mpr hready), hgood⟩

theorem Shows.attemptAll (h : Shows ctx.units b r) (hs : b.overlay.Sorted)
    {children : List WidgetId} (ht : ∀ w ∈ children, b.overlay.Tracks w)
    (habs : ∀ w ∈ children, OnlyAbsolute b.container w) :
    Shows ctx.units (attemptAll ctx b children).1
      ((children.map (checkNote ctx b.container.widget)).foldl noted r) := by
  induction children generalizing b r with
  | nil => exact h
  | cons child children ih =>
    obtain ⟨t, hmem, rfl⟩ := ht child List.mem_cons_self
    have hfirst := h.attempt hs hmem (habs t.child List.mem_cons_self)
    have ht' : ∀ w ∈ children, (Overlay.attempt ctx b t.child).1.overlay.Tracks w := by
      intro w hw
      exact (attempt_tracks ctx hs t.child).mpr (ht w (List.mem_cons_of_mem _ hw))
    have habs' : ∀ w ∈ children, OnlyAbsolute (Overlay.attempt ctx b t.child).1.container w := by
      intro w hw style hmem
      rw [attempt_styles] at hmem
      exact habs w (List.mem_cons_of_mem _ hw) style hmem
    have hrest := ih hfirst (attempt_sorted ctx hs t.child) ht' habs'
    rw [attempt_widget] at hrest
    exact hrest

theorem Shows.track {child : WidgetId} {node : Child} (hpanel : b.container.panel = .overlay)
    (hseated : Seated ctx.units b.container (noted r (.styled child)))
    (hgood : ∀ t ∈ b.overlay.tracked, t.phase = .applied → Good r t.child)
    (hs : b.overlay.Sorted) (hd : b.container.Distinct)
    (hnode : b.container.child? child = some node) :
    Shows ctx.units (track ctx b child).1
      ((styleNotes ctx b.container.widget child node.style).foldl noted r) := by
  -- The notes concern the child alone, and its old entry does not stay.
  have hothers : ∀ t ∈ b.overlay.tracked, t.child ≠ child → t.phase = .applied →
      Good (noted r (.styled child)) t.child := by
    intro t ht hne hp
    obtain ⟨parent, own, hlast, hreading⟩ := hgood t ht hp
    refine ⟨parent, own, ?_, hreading⟩
    rw [noted_styled_of_ne r hne]
    exact hlast
  rw [Overlay.track, hnode, styleNotes]
  dsimp only
  split_ifs with habs
  · have ht : (⟨child, .notScheduled, b.overlay.generation + 1, 0⟩ : Tracked) ∈
        (b.restart child).overlay.tracked := hs.mem_restart.mpr (.inl rfl)
    have hrestarted : Shows ctx.units (b.restart child) (noted r (.styled child)) := by
      refine ⟨hpanel, hseated, fun t ht hp => ?_⟩
      rcases hs.mem_restart.mp ht with rfl | ⟨ht, hne⟩
      · cases hp
      · exact hothers t ht hne hp
    exact hrestarted.attempt (hs.restart child) ht
      (onlyAbsolute_of_mem hd (Container.mem_styles_of_child? hnode) habs)
  · refine ⟨hpanel, hseated, fun t ht hp => ?_⟩
    obtain ⟨ht, hne⟩ := mem_forget.mp ht
    exact hothers t ht hne hp

end Shows

theorem Shows.finish {u : CssUnits} {b : Board} {r : Readings} (h : Shows u b r)
    (l : List Scheduled) : Shows u ⟨(b.finish l).container, b.overlay⟩ r :=
  ⟨h.panel_eq, h.seated, h.good⟩

theorem Shows.foldl_restart {u : CssUnits} {c : Container} {o : Overlay} {r : Readings}
    (h : Shows u ⟨c, o⟩ r) (hs : o.Sorted) (children : List WidgetId) :
    Shows u ⟨c, children.foldl Overlay.restart o⟩ r := by
  induction children generalizing o with
  | nil => exact h
  | cons child children ih =>
    refine ih (o := o.restart child) ⟨h.panel_eq, h.seated, fun t ht hp => ?_⟩ (hs.restart child)
    rcases hs.mem_restart.mp ht with rfl | ⟨ht, _⟩
    · cases hp
    · exact h.good t ht hp

def measured : Context := ⟨.standard, .standard, fun _ => ⟨10, 10⟩⟩

end PanelLayout.Overlay
