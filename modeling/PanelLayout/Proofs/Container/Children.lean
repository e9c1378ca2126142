import PanelLayout.Container.Basic
import Mathlib.Data.List.Nodup

/-! The children of a container with their styles, under the changes that operations make. -/
namespace PanelLayout

namespace Child
variable {f : Child → Child}

def changeIf (w : WidgetId) (f : Child → Child) (child : Child) : Child :=
  if child.widget = w then f child else child

theorem changeIf_self (f : Child → Child) (child : Child) :
    child.changeIf child.widget f = f child := if_pos rfl

theorem map_changeIf_self (f : Child → Child) (before after : List Child) (child : Child) :
    (before ++ child :: after).map (changeIf child.widget f) =
      before.map (changeIf child.widget f) ++ f child :: after.map (changeIf child.widget f) := by
  rw [List.map_append, List.map_cons, changeIf_self]

theorem widget_changeIf (w : WidgetId) (hf : ∀ child, (f child).widget = child.widget)
    (child : Child) : (child.changeIf w f).widget = child.widget := by
  unfold changeIf
  split_ifs
  · exact hf child
  · rfl

theorem sequence_changeIf (w : WidgetId) (hf : ∀ child, (f child).sequence = child.sequence)
    (child : Child) : (child.changeIf w f).sequence = child.sequence := by
  unfold changeIf
  split_ifs
  · exact hf child
  · rfl

/-- What is known of a child by its widget is known after a change that leaves the widget. -/
theorem comp_changeIf (w : WidgetId) (hf : ∀ child, (f child).widget = child.widget)
    (p : WidgetId → Bool) :
    (fun child => p child.widget) ∘ changeIf w f = fun child => p child.widget := by
  funext child
  exact congrArg p (widget_changeIf w hf child)

end Child

namespace Container

def styles (c : Container) : List (WidgetId × Style) :=
  c.children.map fun child => (child.widget, child.style)

def entries (c : Container) : List (WidgetId × Style × Slot) :=
  c.children.map fun child => (child.widget, child.style, child.slot)

def Distinct (c : Container) : Prop := (c.styles.map Prod.fst).Nodup

theorem mem_styles {c : Container} {w : WidgetId} {style : Style} :
    (w, style) ∈ c.styles ↔ ∃ child ∈ c.children, child.widget = w ∧ child.style = style := by
  simp [styles]

theorem child?_eq_none {c : Container} {w : WidgetId} :
    c.child? w = none ↔ ∀ p ∈ c.styles, p.1 ≠ w := by
  simp [child?, styles]

theorem has_eq_false {c : Container} {w : WidgetId} :
    c.has w = false ↔ ∀ p ∈ c.styles, p.1 ≠ w := by
  rw [has, Option.isSome_eq_false_iff, Option.isNone_iff_eq_none, child?_eq_none]

theorem has_iff {c : Container} {w : WidgetId} : c.has w ↔ w ∈ c.styles.map Prod.fst := by
  simp [has, child?, styles]

theorem child?_widget {c : Container} {w : WidgetId} {child : Child} (h : c.child? w = some child) :
    child.widget = w := by
  simpa using List.find?_some h

theorem mem_styles_of_child? {c : Container} {w : WidgetId} {child : Child}
    (h : c.child? w = some child) : (w, child.style) ∈ c.styles :=
  mem_styles.mpr ⟨child, List.mem_of_find?_eq_some h, child?_widget h, rfl⟩

theorem Distinct.style_unique {c : Container} (h : c.Distinct) {w : WidgetId} {s s' : Style}
    (hs : (w, s) ∈ c.styles) (hs' : (w, s') ∈ c.styles) : s = s' :=
  congrArg Prod.snd (List.inj_on_of_nodup_map h hs hs' rfl)

def push (c : Container) (w : WidgetId) (style : Style) (slot : Slot) : Container :=
  { c with
    children := c.children ++ [⟨w, style, slot, c.nextSequence⟩]
    nextSequence := c.nextSequence + 1 }

theorem insert_back (c : Container) (w : WidgetId) (style : Style) (place : Slot → Slot) :
    c.insert w style false place =
      if c.has w then .error (.duplicateChild w)
      else .ok (c.push w style (place c.panel.newSlot)) := rfl

theorem styles_push (c : Container) (w : WidgetId) (style : Style) (slot : Slot) :
    (c.push w style slot).styles = c.styles ++ [(w, style)] := by
  simp [styles, push]

theorem child?_push {c : Container} {w : WidgetId} (hw : c.has w = false) (style : Style)
    (slot : Slot) : (c.push w style slot).child? w = some ⟨w, style, slot, c.nextSequence⟩ := by
  have hnone : c.children.find? (fun child => child.widget = w) = none :=
    child?_eq_none.mpr (has_eq_false.mp hw)
  simp [child?, push, List.find?_append, hnone]

theorem Distinct.push {c : Container} (h : c.Distinct) {w : WidgetId} (hw : c.has w = false)
    (style : Style) (slot : Slot) : (c.push w style slot).Distinct := by
  rw [Distinct, styles_push, List.map_append, List.map_singleton]
  refine List.nodup_append.mpr ⟨h, List.nodup_singleton _, fun a ha b hb => ?_⟩
  obtain ⟨p, hp, rfl⟩ := List.mem_map.mp ha
  rw [List.mem_singleton.mp hb]
  exact has_eq_false.mp hw p hp

theorem styles_restyle (c : Container) (w : WidgetId) (changed : Style)
    (place : Style → Slot → Slot) :
    (c.restyle w changed place).styles =
      c.styles.map fun p => if p.1 = w then (p.1, p.2.merge changed) else p := by
  simp only [styles, restyle, modify, List.map_map]
  refine List.map_congr_left fun child _ => ?_
  by_cases h : child.widget = w <;> simp [h]

theorem styles_remove (c : Container) (w : WidgetId) :
    (c.remove w).styles = c.styles.filter fun p => p.1 ≠ w := by
  simp only [styles, remove, List.filter_map]
  rfl

theorem map_fst_restyle (c : Container) (w : WidgetId) (changed : Style)
    (place : Style → Slot → Slot) :
    (c.restyle w changed place).styles.map Prod.fst = c.styles.map Prod.fst := by
  rw [styles_restyle, List.map_map]
  refine List.map_congr_left fun p _ => ?_
  by_cases h : p.1 = w <;> simp [h]

theorem child?_modify (c : Container) (w : WidgetId) {f : Child → Child}
    (hf : ∀ child, (f child).widget = child.widget) :
    (c.modify w f).child? w = (c.child? w).map f := by
  show (c.children.map (Child.changeIf w f)).find? _ = _
  rw [List.find?_map, Child.comp_changeIf w hf fun v => decide (v = w)]
  refine Option.map_congr fun child hchild => ?_
  rw [Child.changeIf, if_pos (child?_widget (c := c) hchild)]

theorem child?_restyle (c : Container) (w : WidgetId) (changed : Style)
    (place : Style → Slot → Slot) :
    (c.restyle w changed place).child? w = (c.child? w).map fun child =>
      { child with
        style := child.style.merge changed
        slot := place (child.style.merge changed) child.slot } :=
  c.child?_modify w fun _ => rfl

theorem modify_of_child?_eq_none {c : Container} {w : WidgetId} (h : c.child? w = none)
    (f : Child → Child) : c.modify w f = c := by
  have hother : ∀ child ∈ c.children, child.widget ≠ w := by
    intro child hchild
    exact child?_eq_none.mp h _ (mem_styles.mpr ⟨child, hchild, rfl, rfl⟩)
  simp only [modify]
  congr 1
  exact (List.map_congr_left fun child hchild => if_neg (hother child hchild)).trans (List.map_id' _)

theorem child?_restyle_eq_none {c : Container} {w : WidgetId} {changed : Style}
    {place : Style → Slot → Slot} :
    (c.restyle w changed place).child? w = none ↔ ∀ p ∈ c.styles, p.1 ≠ w := by
  -- A change of style leaves the widgets, and only they matter here.
  have hfst : ∀ c : Container, (∀ p ∈ c.styles, p.1 ≠ w) ↔ ∀ v ∈ c.styles.map Prod.fst, v ≠ w := by
    intro c
    simp
  rw [child?_eq_none, hfst, map_fst_restyle, ← hfst]

theorem Distinct.remove {c : Container} (h : c.Distinct) (w : WidgetId) :
    (c.remove w).Distinct := by
  rw [Distinct, styles_remove]
  exact h.sublist (List.filter_sublist.map _)

theorem Distinct.restyle {c : Container} (h : c.Distinct) (w : WidgetId) (changed : Style)
    (place : Style → Slot → Slot) : (c.restyle w changed place).Distinct := by
  rw [Distinct, map_fst_restyle]
  exact h

theorem modify_comm (c : Container) {w w' : WidgetId} (hne : w ≠ w') {f g : Child → Child}
    (hf : ∀ child, (f child).widget = child.widget) (hg : ∀ child, (g child).widget = child.widget) :
    (c.modify w f).modify w' g = (c.modify w' g).modify w f := by
  simp only [modify, List.map_map]
  congr 1
  refine List.map_congr_left fun child _ => ?_
  simp only [Function.comp_apply]
  by_cases h : child.widget = w
  · have h' : child.widget ≠ w' := fun h' => hne (h.symm.trans h')
    simp only [h, hf, hne, if_true, if_false]
  · by_cases h' : child.widget = w' <;> simp [h, h', hg, hne.symm]

theorem modify_idem (c : Container) {w : WidgetId} {f : Child → Child}
    (hf : ∀ child, (f child).widget = child.widget) (hff : ∀ child, f (f child) = f child) :
    (c.modify w f).modify w f = c.modify w f := by
  simp only [modify, List.map_map]
  congr 1
  refine List.map_congr_left fun child _ => ?_
  simp only [Function.comp_apply]
  by_cases h : child.widget = w <;> simp [h, hf, hff]

def refit (c : Container) (panel : Panel) (layout : Layout) (place : Style → Slot → Slot) :
    Container :=
  { c.replace place with panel := panel, layout := layout }

theorem styles_refit (c : Container) (panel : Panel) (layout : Layout)
    (place : Style → Slot → Slot) : (c.refit panel layout place).styles = c.styles := by
  simp only [styles, refit, replace, List.map_map]
  rfl

theorem children_refit_refit (c : Container) (panel panel' : Panel) (layout layout' : Layout)
    {place again : Style → Slot → Slot}
    (h : ∀ style slot, again style (place style slot) = again style slot) :
    ((c.refit panel layout place).refit panel' layout' again).children =
      (c.refit panel' layout' again).children := by
  simp only [refit, replace, List.map_map]
  refine List.map_congr_left fun child _ => ?_
  simp only [Function.comp_apply, h]

theorem refit_refit (c : Container) (panel panel' : Panel) (layout layout' : Layout)
    {place again : Style → Slot → Slot}
    (h : ∀ style slot, again style (place style slot) = again style slot) :
    (c.refit panel layout place).refit panel' layout' again = c.refit panel' layout' again := by
  have hchildren := c.children_refit_refit panel panel' layout layout' h
  exact congrArg (fun children => { c with panel := panel', layout := layout', children }) hchildren

def AllSlots (P : Style → Slot → Prop) (c : Container) : Prop :=
  ∀ child ∈ c.children, P child.style child.slot

section AllSlots
variable {c : Container} {P Q : Style → Slot → Prop}

theorem AllSlots.push (h : c.AllSlots P) (w : WidgetId) {style : Style} {slot : Slot}
    (hnew : P style slot) : (c.push w style slot).AllSlots P := by
  intro child hchild
  rcases List.mem_append.mp hchild with hold | hlast
  · exact h child hold
  · obtain rfl := List.mem_singleton.mp hlast
    exact hnew

theorem AllSlots.restyle (h : c.AllSlots P) (w : WidgetId) (changed : Style)
    {place : Style → Slot → Slot}
    (hplace : ∀ old slot, P old slot → P (old.merge changed) (place (old.merge changed) slot)) :
    (c.restyle w changed place).AllSlots P := by
  intro child hchild
  obtain ⟨old, hold, rfl⟩ := List.mem_map.mp hchild
  split_ifs
  · exact hplace old.style old.slot (h old hold)
  · exact h old hold

theorem AllSlots.remove (h : c.AllSlots P) (w : WidgetId) : (c.remove w).AllSlots P :=
  fun child hchild => h child (List.mem_of_mem_filter hchild)

theorem AllSlots.refit (h : c.AllSlots P) (panel : Panel) (layout : Layout)
    {place : Style → Slot → Slot} (hplace : ∀ style slot, P style slot → Q style (place style slot)) :
    (c.refit panel layout place).AllSlots Q := by
  intro child hchild
  obtain ⟨old, hold, rfl⟩ := List.mem_map.mp hchild
  exact hplace old.style old.slot (h old hold)

end AllSlots

theorem restyle_congr {c : Container} {place place' : Style → Slot → Slot}
    (h : ∀ child ∈ c.children, ∀ style, place style child.slot = place' style child.slot)
    (w : WidgetId) (changed : Style) : c.restyle w changed place = c.restyle w changed place' := by
  simp only [restyle, modify]
  congr 1
  refine List.map_congr_left fun child hchild => ?_
  split_ifs
  · rw [h child hchild]
  · rfl

theorem refit_congr {c : Container} {place place' : Style → Slot → Slot}
    (h : ∀ child ∈ c.children, place child.style child.slot = place' child.style child.slot)
    (panel : Panel) (layout : Layout) : c.refit panel layout place = c.refit panel layout place' := by
  have hchildren : (c.replace place).children = (c.replace place').children :=
    List.map_congr_left fun child hchild => by rw [h child hchild]
  exact congrArg (fun children => { c with panel := panel, layout := layout, children }) hchildren

theorem refit_self {c : Container} {place : Style → Slot → Slot}
    (h : ∀ child ∈ c.children, place child.style child.slot = child.slot)
    (panel : Panel) (layout : Layout) :
    c.refit panel layout place = { c with panel := panel, layout := layout } := by
  have hchildren : (c.replace place).children = c.children :=
    (List.map_congr_left fun child hchild => by rw [h child hchild]).trans (List.map_id' _)
  exact congrArg (fun children => { c with panel := panel, layout := layout, children }) hchildren

end Container

end PanelLayout
