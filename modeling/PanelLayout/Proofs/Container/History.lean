import PanelLayout.Proofs.Container.Run

/-!
What a list of operations leaves of a container, told from the operations alone: its final style,
and the children that no later operation has removed, with all the changes that they have got.
-/
namespace PanelLayout

namespace LayoutKind

namespace Operation

def onStyle (style : Style) : Operation → Style
  | update _ changed => style.merge changed
  | _ => style

def onChild (p : WidgetId × Style) : Operation → Option (WidgetId × Style)
  | updateChild child changed => some (if p.1 = child then (p.1, p.2.merge changed) else p)
  | remove child => if p.1 = child then none else some p
  | _ => some p

/-- An update gives as the old style the one that the container has. -/
def Continues (style : Style) : Operation → Prop
  | update old _ => old = style
  | _ => True

end Operation

def finalStyle : Style → List Operation → Style :=
  List.foldl Operation.onStyle

def fate (ops : List Operation) (p : WidgetId × Style) : Option (WidgetId × Style) :=
  ops.foldlM Operation.onChild p

/-- Every update continues the style that has accumulated. -/
def Accumulated : Style → List Operation → Prop
  | _, [] => True
  | style, op :: ops => op.Continues style ∧ Accumulated (op.onStyle style) ops

/-- The children that are left, each in the place of its latest append, with the changes that follow
it. An append of a child that is present is refused and does not count. -/
def survivors : List WidgetId → List Operation → List (WidgetId × Style)
  | _, [] => []
  | present, .append child style :: ops =>
    if child ∈ present then survivors present ops
    else (fate ops (child, style)).toList ++ survivors (present ++ [child]) ops
  | present, .remove child :: ops => survivors (present.filter (· ≠ child)) ops
  | present, _ :: ops => survivors present ops

def Operation.onStyles (l : List (WidgetId × Style)) : Operation → List (WidgetId × Style)
  | append child style => if child ∈ l.map Prod.fst then l else l ++ [(child, style)]
  | op => l.filterMap op.onChild

theorem onStyles_updateChild (l : List (WidgetId × Style)) (child : WidgetId) (changed : Style) :
    (Operation.updateChild child changed).onStyles l =
      l.map fun p => if p.1 = child then (p.1, p.2.merge changed) else p :=
  congrFun List.filterMap_eq_map l

theorem onStyles_remove (l : List (WidgetId × Style)) (child : WidgetId) :
    (Operation.remove child).onStyles l = l.filter fun p => p.1 ≠ child := by
  rw [← List.filterMap_eq_filter]
  refine List.filterMap_congr fun p _ => ?_
  by_cases hp : p.1 = child <;> simp [Operation.onChild, Option.guard, hp]

theorem map_fst_updateChild (l : List (WidgetId × Style)) (child : WidgetId) (changed : Style) :
    ((Operation.updateChild child changed).onStyles l).map Prod.fst = l.map Prod.fst := by
  rw [onStyles_updateChild, List.map_map]
  refine List.map_congr_left fun p _ => ?_
  by_cases hp : p.1 = child <;> simp [hp]

theorem map_fst_remove (l : List (WidgetId × Style)) (child : WidgetId) :
    ((Operation.remove child).onStyles l).map Prod.fst =
      (l.map Prod.fst).filter (· ≠ child) := by
  rw [onStyles_remove, List.filter_map]
  rfl

/-- After operations, one after another, there is what they leave of the children that were there,
and then what is left of those that they have appended. -/
theorem foldl_onStyles (l : List (WidgetId × Style)) (ops : List Operation) :
    ops.foldl Operation.onStyles l = l.filterMap (fate ops) ++ survivors (l.map Prod.fst) ops := by
  -- For every list, since an append leaves a longer one to the operations after it.
  induction ops generalizing l with
  | nil =>
    show l = l.filterMap some ++ []
    rw [List.filterMap_some, List.append_nil]
  | cons op ops ih =>
    have hfate : ∀ (op : Operation) (l : List (WidgetId × Style)),
        (l.filterMap op.onChild).filterMap (fate ops) = l.filterMap (fate (op :: ops)) := by
      intro op l
      rw [List.filterMap_filterMap]
      rfl
    rw [List.foldl_cons, ih]
    cases op with
    | append child style =>
      rw [Operation.onStyles, survivors]
      split_ifs
      · rfl
      · rw [List.filterMap_append, List.map_append, List.append_assoc]
        rfl
    | updateChild child changed =>
      rw [map_fst_updateChild, Operation.onStyles, hfate, survivors]
      all_goals simp
    | remove child =>
      rw [map_fst_remove, Operation.onStyles, hfate, survivors]
      all_goals simp
    | update old changed =>
      have hsame : Operation.onStyles l (.update old changed) = l := List.filterMap_some
      rw [hsame]
      rfl
    | resume ticket =>
      have hsame : Operation.onStyles l (.resume ticket) = l := List.filterMap_some
      rw [hsame]
      rfl

theorem survivors_eq_foldl (ops : List Operation) :
    survivors [] ops = ops.foldl Operation.onStyles [] := by
  rw [foldl_onStyles]
  rfl

theorem survivors_concat (ops : List Operation) (op : Operation) :
    survivors [] (ops ++ [op]) = op.onStyles (survivors [] ops) := by
  rw [survivors_eq_foldl, List.foldl_append, survivors_eq_foldl]
  rfl

end LayoutKind

end PanelLayout
