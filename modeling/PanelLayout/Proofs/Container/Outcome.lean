import PanelLayout.Proofs.Container.InPlace

/-!
Every operation that is carried out in place comes to its outcome. One that is refused has left its
container and the queue as they were, however late the refusal comes.
-/
namespace PanelLayout
open InPlace

namespace InPlace
variable {α β : Type} (s : Site α)

theorem run_current : (current : InPlace α α).run s = .ok s.subject s := rfl

theorem run_require_ok (b : β) : (require (α := α) (.ok b)).run s = .ok b s := rfl

end InPlace

/-- Where an operation with a given result ends. -/
def Site.after (s : Site Container) : Except LayoutError Outcome →
    EStateM.Result LayoutError (Site Container) Unit
  | .ok out => .ok () ⟨out.container, s.queue ++ out.scheduled⟩
  | .error e => .error e s

theorem Site.after_unscheduled (s : Site Container) (c : Container) :
    s.after (.ok c.unscheduled) = .ok () ⟨c, s.queue⟩ := by
  simp only [after, Container.unscheduled, List.append_nil]

theorem Site.run_require_unscheduled (s : Site Container) (x : Except LayoutError Unit) :
    (require x).run s = s.after (x.map fun _ => s.subject.unscheduled) := by
  cases x with
  | error e => rfl
  | ok _ => exact (s.after_unscheduled s.subject).symm

/-- Where a check passes both ways go on, and where it does not both end. -/
theorem Site.after_require {α : Type} (s : Site Container)
    {check : Container → Except LayoutError α} {rest : α → InPlace Container Unit}
    {result : α → Except LayoutError Outcome}
    (h : ∀ a, check s.subject = .ok a → (rest a).run s = s.after (result a)) :
    (do let a ← require (check (← current)); rest a).run s =
      s.after (check s.subject >>= result) := by
  simp only [EStateM.run_bind, run_current]
  cases hcheck : check s.subject with
  | error e => rfl
  | ok a => exact h a hcheck

namespace Container

theorem merged_placed (c : Container) (child : WidgetId) (changed : Style)
    (f : Style → Slot → Slot) :
    (c.merged child changed).placed child f = c.restyle child changed f := by
  simp only [merged, placed, restyle, modify, List.map_map]
  congr 1
  refine List.map_congr_left fun node _ => ?_
  by_cases h : node.widget = child <;> simp [h]

theorem placed_placed (c : Container) (child : WidgetId) (f g : Style → Slot → Slot) :
    (c.placed child f).placed child g =
      c.placed child fun style slot => g style (f style slot) := by
  simp only [placed, modify, List.map_map]
  congr 1
  refine List.map_congr_left fun node _ => ?_
  by_cases h : node.widget = child <;> simp [h]

/-- A new child may get its slot after it has been added. -/
theorem insert_placed (c : Container) (child : WidgetId) (style : Style) (atFront : Bool)
    (f : Style → Slot → Slot) :
    (c.insert child style atFront id).map (·.placed child f) =
      c.insert child style atFront (f style) := by
  unfold insert
  by_cases h : c.has child
  · rw [if_pos h, if_pos h]
    rfl
  · have hrest : (c.placed child f).children = c.children :=
      congrArg children (modify_of_child?_eq_none (Option.not_isSome_iff_eq_none.mp h) _)
    simp only [placed, modify] at hrest
    rw [if_neg h, if_neg h]
    cases atFront
    all_goals simp [Except.map, placed, modify, hrest]

end Container

namespace InPlace
variable (s : Site Container)

theorem run_addChild (child : WidgetId) (style : Style) (atFront : Bool) :
    (addChild child style atFront).run s =
      s.after ((s.subject.insert child style atFront id).map Container.unscheduled) := by
  rw [addChild, EStateM.run_bind, run_current]
  cases h : s.subject.insert child style atFront id with
  | error e =>
    dsimp only
    rw [h]
    rfl
  | ok c =>
    dsimp only
    rw [h]
    exact (s.after_unscheduled c).symm

theorem run_addChild_placeChild (child : WidgetId) (style : Style) (atFront : Bool)
    (f : Style → Slot → Slot) :
    (do addChild child style atFront; placeChild child f).run s =
      s.after ((s.subject.insert child style atFront (f style)).map Container.unscheduled) := by
  rw [EStateM.run_bind, run_addChild, ← Container.insert_placed]
  cases s.subject.insert child style atFront id with
  | error e => rfl
  | ok c =>
    simp only [Except.map, Site.after_unscheduled]
    rfl

theorem run_mergeChild_placeChild (child : WidgetId) (changed : Style)
    (f : Style → Slot → Slot) :
    (do mergeChild child changed; placeChild child f).run s =
      s.after (.ok (s.subject.restyle child changed f).unscheduled) := by
  rw [← Container.merged_placed, s.after_unscheduled]
  rfl

theorem placeChild_placeChild (child : WidgetId) (f g : Style → Slot → Slot) :
    (do placeChild child f; placeChild child g) =
      placeChild child fun style slot => g style (f style slot) := by
  funext s
  show EStateM.Result.ok () (Site.mk ((s.subject.placed child f).placed child g) s.queue) = _
  rw [Container.placed_placed]
  rfl

end InPlace

namespace Flex
variable (ctx : Context) (s : Site Container)

theorem run_updateInPlace (old changed : Style) :
    (updateInPlace ctx old changed).run s = s.after (update ctx s.subject old changed) :=
  s.after_require fun _ _ => (s.after_unscheduled _).symm

theorem run_appendInPlace (child : WidgetId) (style : Style) :
    (appendInPlace ctx child style).run s = s.after (append ctx s.subject child style) := by
  rw [append]
  refine s.after_require fun f _ => ?_
  exact run_addChild_placeChild s child style _ _

theorem run_updateChildInPlace (child : WidgetId) (changed : Style) :
    (updateChildInPlace ctx child changed).run s =
      s.after (updateChild ctx s.subject child changed) :=
  s.after_require fun _ _ => run_mergeChild_placeChild s child changed _

end Flex

namespace Canvas
variable (ctx : Context) (s : Site Container)

theorem run_updateInPlace (old changed : Style) :
    (updateInPlace ctx old changed).run s = s.after (update ctx s.subject old changed) :=
  s.after_require fun _ _ => (s.after_unscheduled _).symm

theorem run_appendInPlace (child : WidgetId) (style : Style) :
    (appendInPlace ctx child style).run s = s.after (append ctx s.subject child style) :=
  s.after_require fun _ _ => run_addChild_placeChild s child style _ _

theorem run_updateChildInPlace (child : WidgetId) (changed : Style) :
    (updateChildInPlace ctx child changed).run s =
      s.after (updateChild ctx s.subject child changed) :=
  s.after_require fun _ _ => run_mergeChild_placeChild s child changed _

end Canvas

namespace UniformGrid
variable (ctx : Context) (s : Site Container)

theorem run_updateInPlace (old changed : Style) :
    (updateInPlace ctx old changed).run s = s.after (update ctx s.subject old changed) :=
  s.after_require fun _ _ => (s.after_unscheduled _).symm

theorem run_appendInPlace (child : WidgetId) (style : Style) :
    (appendInPlace ctx child style).run s = s.after (append ctx s.subject child style) :=
  s.after_require fun _ _ => run_addChild_placeChild s child style _ _

theorem run_updateChildInPlace (child : WidgetId) (changed : Style) :
    (updateChildInPlace ctx child changed).run s =
      s.after (updateChild ctx s.subject child changed) :=
  s.after_require fun _ _ => run_mergeChild_placeChild s child changed _

end UniformGrid

namespace Grid
variable (ctx : Context) (s : Site Container)

/-- A seat does not depend on the one before it. -/
theorem reseat_enter (u : CssUnits) (g : Grid) (style : Style) (cell : Cell)
    (rowSpan columnSpan : Nat) (slot : Slot) :
    g.reseat u style (enter cell rowSpan columnSpan slot) =
      putSlot ⟨cell.row, cell.column, rowSpan, columnSpan, g.seat u style
        ⟨cell.row, cell.column, rowSpan, columnSpan, .filling⟩⟩ slot := by
  cases slot <;> rfl

theorem reseat_shift (u : CssUnits) (g : Grid) (style : Style) (slot : Slot) :
    g.reseat u style (g.shift style slot) = g.move u style slot := by
  cases slot <;> rfl

theorem run_updateInPlace (old changed : Style) :
    (updateInPlace ctx old changed).run s = s.after (update ctx s.subject old changed) :=
  s.after_require fun _ _ => (s.after_unscheduled _).symm

theorem run_appendInPlace (child : WidgetId) (style : Style) :
    (appendInPlace ctx child style).run s = s.after (append ctx s.subject child style) := by
  rw [append, appendInPlace, EStateM.run_bind, run_current]
  by_cases hhas : s.subject.has child
  · simp [hhas]
    rfl
  · dsimp only
    rw [if_neg hhas, if_neg hhas]
    refine s.after_require fun g _ => ?_
    simp only [placeChild_placeChild, reseat_enter]
    -- The flow has moved on by now, but the child is new, so no refusal can follow.
    have hinsert : ∀ layout place, Container.insert { s.subject with layout } child style false place =
        .ok (Container.push { s.subject with layout } child style (place s.subject.panel.newSlot)) :=
      fun _ _ => if_neg hhas
    rw [hinsert]
    refine (run_addChild_placeChild ⟨_, s.queue⟩ child style false _).trans ?_
    rw [hinsert]
    rfl

theorem run_updateChildInPlace (child : WidgetId) (changed : Style) :
    (updateChildInPlace ctx child changed).run s =
      s.after (updateChild ctx s.subject child changed) := by
  refine s.after_require fun g _ => ?_
  rw [placeChild_placeChild]
  simp only [reseat_shift]
  exact run_mergeChild_placeChild s child changed _

end Grid

namespace Overlay
variable (ctx : Context)

def Board.site (b : Board) (queue : List Scheduled) : Site Container :=
  ⟨{ b.container with layout := .overlay b.overlay }, queue⟩

theorem run_attemptInPlace (b : Board) (queue : List Scheduled) (child : WidgetId) :
    (attemptInPlace ctx child).run (b.site queue) =
      .ok () ((attempt ctx b child).1.site (queue ++ (attempt ctx b child).2)) := by
  have hbook : (b.site queue).subject.layout.overlay? = .ok b.overlay := rfl
  simp only [attemptInPlace, attempt, EStateM.run_bind, run_current, hbook, run_require_ok]
  cases b.overlay.find? child with
  | none => simp
  | some t =>
    have hready : isReady ctx (b.site queue).subject child = isReady ctx b.container child := rfl
    simp only [hready]
    generalize t.check ctx.config.attemptLimit (isReady ctx b.container child) = t
    split_ifs
    · rfl
    · rfl
    · rw [List.append_nil]
      rfl
    · rw [List.append_nil]
      rfl

theorem run_restartAll (b : Board) (queue : List Scheduled) (children : List WidgetId) :
    (children.forM restartInPlace).run (b.site queue) =
      .ok () ((children.foldl Board.restart b).site queue) := by
  induction children generalizing b with
  | nil => rfl
  | cons child children ih => exact ih (b.restart child)

theorem run_attemptAll (b : Board) (queue : List Scheduled) (children : List WidgetId) :
    (children.forM (attemptInPlace ctx)).run (b.site queue) =
      .ok () ((attemptAll ctx b children).1.site (queue ++ (attemptAll ctx b children).2)) := by
  induction children generalizing b queue with
  | nil =>
    rw [attemptAll, List.append_nil]
    rfl
  | cons child children ih =>
    show (do attemptInPlace ctx child; children.forM (attemptInPlace ctx)).run (b.site queue) = _
    rw [EStateM.run_bind, run_attemptInPlace]
    refine (ih _ _).trans ?_
    rw [attemptAll, List.append_assoc]

/-- The style of a child is the same before and after it is placed. -/
theorem run_trackInPlace (c : Container) (o : Overlay) (queue : List Scheduled) (child : WidgetId) :
    (trackInPlace ctx child).run (Board.site ⟨c, o⟩ queue) =
      .ok () ((track ctx ⟨c.placed child (placeInitial ctx.units), o⟩ child).1.site
        (queue ++ (track ctx ⟨c.placed child (placeInitial ctx.units), o⟩ child).2)) := by
  have hplaced : (c.placed child (placeInitial ctx.units)).child? child =
      (c.child? child).map fun node =>
        { node with slot := placeInitial ctx.units node.style node.slot } :=
    c.child?_modify child fun _ => rfl
  have hsame : (Board.site ⟨c, o⟩ queue).subject.child? child = c.child? child := rfl
  rw [trackInPlace, track, EStateM.run_bind, run_current, hplaced]
  dsimp only
  rw [hsame]
  cases hchild : c.child? child with
  | none =>
    rw [Container.placed, Container.modify_of_child?_eq_none hchild]
    dsimp only [Option.map]
    rw [List.append_nil]
    rfl
  | some node =>
    dsimp only [Option.map]
    split_ifs
    · exact run_attemptInPlace ctx
        (Board.restart ⟨c.placed child (placeInitial ctx.units), o⟩ child) queue child
    · rw [List.append_nil]
      rfl

section
variable {c : Container} {o : Overlay} (queue : List Scheduled)

theorem site_eq (hc : c.layout = .overlay o) : Board.site ⟨c, o⟩ queue = ⟨c, queue⟩ := by
  rw [Board.site, ← hc]

/-- What comes after the bookkeeping has been looked up. -/
theorem after_board {rest : Overlay → InPlace Container Unit}
    {result : Board → Except LayoutError Outcome}
    (h : ∀ o, c.layout = .overlay o →
      (rest o).run ⟨c, queue⟩ = Site.after ⟨c, queue⟩ (result ⟨c, o⟩)) :
    (do let o ← require (← current).layout.overlay?; rest o : InPlace Container Unit).run
        ⟨c, queue⟩ =
      Site.after ⟨c, queue⟩ (Board.ofContainer? c >>= result) := by
  simp only [EStateM.run_bind, run_current, Board.ofContainer?]
  cases hc : c.layout with
  | overlay o => exact h o hc
  | _ => rfl

theorem run_updateInPlace (c : Container) (old changed : Style) :
    (updateInPlace ctx).run ⟨c, queue⟩ = Site.after ⟨c, queue⟩ (update ctx c old changed) := by
  refine after_board queue fun o hc => ?_
  rw [← site_eq queue hc, EStateM.run_bind, run_restartAll]
  exact run_attemptAll ctx _ queue _

theorem run_appendInPlace (c : Container) (child : WidgetId) (style : Style) :
    (appendInPlace ctx child style).run ⟨c, queue⟩ =
      Site.after ⟨c, queue⟩ (append ctx c child style) := by
  refine after_board queue fun o hc => ?_
  rw [← Container.insert_placed, EStateM.run_bind, run_addChild]
  by_cases hhas : c.has child
  · rw [Container.insert_back, if_pos hhas]
    rfl
  · have hlayout : (c.push child style c.panel.newSlot).layout = .overlay o := hc
    rw [Container.insert_back, if_neg hhas]
    simp only [Except.map, Site.after_unscheduled, id_eq]
    rw [← site_eq queue hlayout]
    exact run_trackInPlace ctx (c.push child style c.panel.newSlot) o queue child

theorem run_updateChildInPlace (c : Container) (child : WidgetId) (changed : Style) :
    (updateChildInPlace ctx child changed).run ⟨c, queue⟩ =
      Site.after ⟨c, queue⟩ (updateChild ctx c child changed) := by
  refine after_board queue fun o hc => ?_
  rw [← site_eq queue hc, ← Container.merged_placed]
  exact run_trackInPlace ctx (c.merged child changed) o queue child

theorem run_removeInPlace (c : Container) (child : WidgetId) :
    (removeInPlace child).run ⟨c, queue⟩ = Site.after ⟨c, queue⟩ (remove c child) :=
  after_board queue fun _ _ => (Site.after_unscheduled ..).symm

theorem run_resumeInPlace (c : Container) (ticket : Ticket) :
    (resumeInPlace ctx ticket).run ⟨c, queue⟩ = Site.after ⟨c, queue⟩ (resume ctx c ticket) := by
  refine after_board queue fun o hc => ?_
  rw [EStateM.run_bind, run_current]
  dsimp only
  split_ifs
  · rw [← site_eq queue hc]
    exact run_attemptInPlace ctx ⟨c, o⟩ queue ticket.child
  · exact (Site.after_unscheduled ⟨c, queue⟩ c).symm

end

end Overlay

namespace LayoutKind
variable (s : Site Container)

theorem run_removeInPlace (k : LayoutKind) (child : WidgetId) :
    (k.removeInPlace child).run s = s.after (k.remove s.subject child) := by
  cases k with
  | overlay => exact Overlay.run_removeInPlace s.queue s.subject child
  | _ =>
    simp only [removeInPlace, remove]
    exact s.after_require fun _ _ => (s.after_unscheduled _).symm

theorem run_resumeInPlace (k : LayoutKind) (ctx : Context) (ticket : Ticket) :
    (k.resumeInPlace ctx ticket).run s = s.after (k.resume ctx s.subject ticket) := by
  cases k with
  | overlay => exact Overlay.run_resumeInPlace ctx s.queue s.subject ticket
  | _ =>
    simp only [resumeInPlace, resume]
    exact s.run_require_unscheduled _

/-- An operation in place ends with its outcome, or where it has begun if it is refused. -/
theorem run_perform (k : LayoutKind) (ctx : Context) (op : Operation) :
    (k.perform ctx op).run s = s.after (k.apply ctx s.subject op) := by
  cases op with
  | append child style =>
    cases k with
    | flex => exact Flex.run_appendInPlace ctx s child style
    | grid => exact Grid.run_appendInPlace ctx s child style
    | canvas => exact Canvas.run_appendInPlace ctx s child style
    | overlay => exact Overlay.run_appendInPlace ctx s.queue s.subject child style
    | uniformGrid => exact UniformGrid.run_appendInPlace ctx s child style
  | updateChild child changed =>
    cases k with
    | flex => exact Flex.run_updateChildInPlace ctx s child changed
    | grid => exact Grid.run_updateChildInPlace ctx s child changed
    | canvas => exact Canvas.run_updateChildInPlace ctx s child changed
    | overlay => exact Overlay.run_updateChildInPlace ctx s.queue s.subject child changed
    | uniformGrid => exact UniformGrid.run_updateChildInPlace ctx s child changed
  | remove child => exact k.run_removeInPlace s child
  | update old changed =>
    cases k with
    | flex => exact Flex.run_updateInPlace ctx s old changed
    | grid => exact Grid.run_updateInPlace ctx s old changed
    | canvas => exact Canvas.run_updateInPlace ctx s old changed
    | overlay => exact Overlay.run_updateInPlace ctx s.queue s.subject old changed
    | uniformGrid => exact UniformGrid.run_updateInPlace ctx s old changed
  | resume ticket => exact k.run_resumeInPlace s ctx ticket

end LayoutKind

namespace Decorated

def after (s : Site Decorated) : Except LayoutError DecoratedOutcome →
    EStateM.Result LayoutError (Site Decorated) Unit
  | .ok out => .ok () ⟨out.container, s.queue ++ out.scheduled⟩
  | .error e => .error e s

theorem run_inside (k : LayoutKind) (ctx : Context) (op : LayoutKind.Operation)
    (s : Site Decorated) :
    (inside (k.perform ctx op)).run s =
      after s ((k.apply ctx s.subject.layout op).map s.subject.take) := by
  show inside (k.perform ctx op) s = _
  rw [inside, LayoutKind.run_perform]
  cases k.apply ctx s.subject.layout op <;> rfl

theorem run_perform (ctx : Context) (op : LayoutKind.Operation) (s : Site Decorated) :
    (perform ctx op).run s = after s (s.subject.apply ctx op) := by
  have hinside := run_inside s.subject.kind ctx op s
  rw [perform, EStateM.run_bind, run_current]
  dsimp only
  rw [EStateM.run_bind, hinside]
  cases op with
  | append child style =>
    simp only [apply, append, LayoutKind.apply]
    cases s.subject.kind.append ctx s.subject.layout child style <;> rfl
  | updateChild child changed =>
    simp only [apply, updateChild, LayoutKind.apply]
    cases h : s.subject.kind.updateChild ctx s.subject.layout child changed with
    | error e => rfl
    | ok o =>
      have hlayout : (s.subject.take o).container.layout = o.container := rfl
      show (followInPlace ctx (.updateChild child changed)).run _ = _
      rw [followInPlace, EStateM.run_bind, run_current]
      dsimp only [bind, Except.bind]
      rw [hlayout]
      cases o.container.child? child <;> rfl
  | remove child =>
    simp only [apply, remove, LayoutKind.apply]
    cases s.subject.kind.remove s.subject.layout child <;> rfl
  | update old changed =>
    simp only [apply, update, LayoutKind.apply]
    cases s.subject.kind.update ctx s.subject.layout old changed <;> rfl
  | resume ticket =>
    simp only [apply, resume, LayoutKind.apply]
    cases s.subject.kind.resume ctx s.subject.layout ticket <;> rfl

end Decorated

end PanelLayout
