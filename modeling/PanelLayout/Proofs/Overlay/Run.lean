import PanelLayout.Overlay.Container
import PanelLayout.Proofs.Overlay.Table

/-!
Runs of operations on an overlay container. On the table of tracked children an edit restarts,
forgets and checks single entries, and checks none but entries that it has restarted; a delivered
ticket checks the waiting entry it belongs to, or changes nothing. Whatever these moves keep, every
run keeps. Generations are natural numbers here; a counter of 64 bits gives out the same ones as
long as there are fewer than 2 ^ 64 restarts.
-/
namespace PanelLayout.Overlay

inductive Edit where
  | append (child : WidgetId) (style : Style)
  | updateChild (child : WidgetId) (changed : Style)
  | remove (child : WidgetId)
  | update (old changed : Style)

def Edit.apply (ctx : Context) (c : Container) : Edit → Except LayoutError Outcome
  | append child style => Overlay.append ctx c child style
  | updateChild child changed => Overlay.updateChild ctx c child changed
  | remove child => Overlay.remove c child
  | update old changed => Overlay.update ctx c old changed

inductive Operation where
  | edit (e : Edit)
  | resume (ticket : Ticket)

def Operation.apply (ctx : Context) (c : Container) : Operation → Except LayoutError Outcome
  | edit e => e.apply ctx c
  | resume ticket => Overlay.resume ctx c ticket

/-- What a container becomes by an operation with the given result. A refused operation changes
nothing. -/
def outcomeOf (c : Container) : Except LayoutError Outcome → Outcome
  | .ok out => out
  | .error _ => c.unscheduled

structure Step where
  context : Context
  operation : Operation

def Step.outcome (s : Step) (c : Container) : Outcome :=
  outcomeOf c (s.operation.apply s.context c)

def run : Container → List Step → Container
  | c, [] => c
  | c, s :: steps => run (s.outcome c).container steps

theorem run_append (c : Container) (xs ys : List Step) : run c (xs ++ ys) = run (run c xs) ys := by
  induction xs generalizing c with
  | nil => rfl
  | cons s xs ih => simpa only [List.cons_append, run] using ih (s.outcome c).container

theorem run_induction {P : Container → Prop} {A : Step → Prop}
    (hstep : ∀ c s, A s → P c → P (s.outcome c).container) {c : Container} (hc : P c)
    {steps : List Step} (h : ∀ s ∈ steps, A s) : P (run c steps) := by
  induction steps generalizing c with
  | nil => exact hc
  | cons s steps ih =>
    obtain ⟨hs, hrest⟩ := List.forall_mem_cons.mp h
    exact ih (hstep c s hs hc) hrest

def unmeasured : Context := ⟨.standard, .standard, fun _ => .zero⟩

def pinned : Style := Style.empty.set .left (.number 0)

/-! The operations, on a container whose bookkeeping is known. -/

section Equations
variable {c : Container} {o : Overlay}

theorem ofContainer?_eq (hc : c.layout = .overlay o) : Board.ofContainer? c = .ok ⟨c, o⟩ := by
  rw [Board.ofContainer?, hc]
  rfl

theorem append_eq (hc : c.layout = .overlay o) (ctx : Context) (child : WidgetId) (style : Style) :
    append ctx c child style =
      (c.insert child style false (placeInitial ctx.units style)).map fun c' =>
        (track ctx ⟨c', o⟩ child).1.finish (track ctx ⟨c', o⟩ child).2 := by
  rw [append, ofContainer?_eq hc]
  cases c.insert child style false (placeInitial ctx.units style) <;> rfl

theorem updateChild_eq (hc : c.layout = .overlay o) (ctx : Context) (child : WidgetId)
    (changed : Style) :
    updateChild ctx c child changed =
      .ok ((track ctx ⟨c.restyle child changed (placeInitial ctx.units), o⟩ child).1.finish
        (track ctx ⟨c.restyle child changed (placeInitial ctx.units), o⟩ child).2) := by
  rw [updateChild, ofContainer?_eq hc]
  rfl

theorem remove_eq (hc : c.layout = .overlay o) (child : WidgetId) :
    remove c child = .ok (Board.finish ⟨c.remove child, o.forget child⟩ []) := by
  rw [remove, ofContainer?_eq hc]
  rfl

theorem foldl_restart (b : Board) (children : List WidgetId) :
    children.foldl Board.restart b = ⟨b.container, children.foldl Overlay.restart b.overlay⟩ := by
  induction children generalizing b with
  | nil => rfl
  | cons child children ih => exact ih (b.restart child)

def restartAll (o : Overlay) : Overlay := (o.tracked.map Tracked.child).foldl Overlay.restart o

theorem update_eq (hc : c.layout = .overlay o) (ctx : Context) (old changed : Style) :
    update ctx c old changed =
      .ok ((attemptAll ctx ⟨c, o.restartAll⟩ (o.tracked.map Tracked.child)).1.finish
        (attemptAll ctx ⟨c, o.restartAll⟩ (o.tracked.map Tracked.child)).2) := by
  rw [update, ofContainer?_eq hc]
  simp only [bind, Except.bind, foldl_restart]
  rfl

theorem resume_eq (hc : c.layout = .overlay o) (ctx : Context) (ticket : Ticket) :
    resume ctx c ticket =
      .ok (if ticket.container = c.widget ∧ o.isCurrent ticket then
        (attempt ctx ⟨c, o⟩ ticket.child).1.finish (attempt ctx ⟨c, o⟩ ticket.child).2
      else c.unscheduled) := by
  rw [resume, ofContainer?_eq hc]
  simp only [bind, Except.bind]
  split_ifs <;> rfl

end Equations

end PanelLayout.Overlay
