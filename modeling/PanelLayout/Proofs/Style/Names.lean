import PanelLayout.Style.Basic
import Mathlib.Data.List.Nodup

/-!
Styles through the names of their properties. What is read under the names tells a style, and to set a
value under a name is to lay a style with that one value over the old one. So merging, setting, reading
and the test for emptiness go together, also along a history of changes.
-/
namespace PanelLayout

namespace Property

theorem nodup_map_name : (all.map name).Nodup := by decide +kernel

theorem nodup_all : all.Nodup := nodup_map_name.of_map name

theorem name_injective {p q : Property} (h : p.name = q.name) : p = q :=
  List.inj_on_of_nodup_map nodup_map_name (mem_all p) (mem_all q) h

theorem ofName?_eq_some_iff {name : String} {p : Property} :
    ofName? name = some p ↔ p.name = name := by
  constructor
  · intro h
    simpa using List.find?_some h
  · rintro rfl
    cases hfound : ofName? p.name with
    | none => exact absurd (decide_eq_true rfl) (List.find?_eq_none.mp hfound p (mem_all p))
    | some q =>
      have hname : q.name = p.name := by simpa using List.find?_some hfound
      rw [name_injective hname]

theorem isSome_ofName?_iff {name : String} :
    (ofName? name).isSome ↔ name ∈ all.map Property.name := by
  rw [Option.isSome_iff_exists, List.mem_map]
  refine exists_congr fun p => ?_
  rw [ofName?_eq_some_iff]
  exact (and_iff_right (mem_all p)).symm

end Property

namespace Style
variable (s : Style) (name : String) (v : Value)

/-! Reading. -/

theorem getNamed?_name (p : Property) : s.getNamed? p.name = s.get p := by
  rw [getNamed?, Property.ofName?_eq_some_iff.mpr rfl, Option.bind_some]

theorem eq_of_getNamed? {a b : Style} (h : ∀ name, a.getNamed? name = b.getNamed? name) : a = b := by
  ext1
  funext p
  rw [← getNamed?_name, h, getNamed?_name]

theorem getNamed?_empty : empty.getNamed? name = none := by
  rw [getNamed?]
  cases Property.ofName? name <;> rfl

theorem isEmpty_iff : s.isEmpty ↔ ∀ name, s.getNamed? name = none := by
  rw [isEmpty, List.all_eq_true]
  constructor
  · intro h name
    rw [getNamed?, Option.bind_eq_none_iff]
    exact fun p _ => Option.isNone_iff_eq_none.mp (h p (Property.mem_all p))
  · intro h p _
    rw [← getNamed?_name, h]
    rfl

/-! Styles over styles. -/

theorem getNamed?_merge (old changed : Style) :
    (old.merge changed).getNamed? name = (changed.getNamed? name).or (old.getNamed? name) := by
  simp only [getNamed?]
  cases Property.ofName? name <;> rfl

theorem empty_merge : empty.merge s = s :=
  eq_of_getNamed? fun name => by rw [getNamed?_merge, getNamed?_empty, Option.or_none]

theorem merge_empty : s.merge empty = s :=
  eq_of_getNamed? fun name => by rw [getNamed?_merge, getNamed?_empty, Option.none_or]

theorem merge_self : s.merge s = s :=
  eq_of_getNamed? fun name => by rw [getNamed?_merge, Option.or_self]

theorem merge_assoc (a b c : Style) : (a.merge b).merge c = a.merge (b.merge c) :=
  eq_of_getNamed? fun name => by simp only [getNamed?_merge, Option.or_assoc]

theorem getNamed?_foldl_merge (changes : List Style) : (changes.foldl merge s).getNamed? name =
    (changes.reverse.findSome? fun changed => changed.getNamed? name).or (s.getNamed? name) := by
  induction changes generalizing s with
  | nil => rfl
  | cons changed changes ih =>
    rw [List.foldl_cons, ih, getNamed?_merge, List.reverse_cons, List.findSome?_append,
      List.findSome?_singleton, Option.or_assoc]

/-! Setting. -/

def ofNamed : Style := ⟨fun p => if p.name = name then some v else none⟩

@[simp]
theorem get_ofNamed (p : Property) :
    (ofNamed name v).get p = if p.name = name then some v else none := rfl

variable {name}

theorem ofNamed_of_unknown (h : name ∉ Property.all.map Property.name) : ofNamed name v = empty := by
  ext1
  funext p
  rw [get_ofNamed, get_empty, if_neg]
  rintro rfl
  exact h (List.mem_map_of_mem (Property.mem_all p))

theorem getNamed?_ofNamed_self (h : name ∈ Property.all.map Property.name) :
    (ofNamed name v).getNamed? name = some v := by
  obtain ⟨p, -, rfl⟩ := List.mem_map.mp h
  rw [getNamed?_name, get_ofNamed, if_pos rfl]

theorem getNamed?_ofNamed_of_ne {other : String} (h : other ≠ name) :
    (ofNamed name v).getNamed? other = none := by
  rw [getNamed?, Option.bind_eq_none_iff]
  intro p hp
  rw [get_ofNamed, Property.ofName?_eq_some_iff.mp hp, if_neg h]

variable (name)

theorem isSome_setNamed?_iff :
    (s.setNamed? name v).isSome ↔ name ∈ Property.all.map Property.name := by
  rw [setNamed?, Option.isSome_map, Property.isSome_ofName?_iff]

theorem getD_setNamed?_eq_merge : (s.setNamed? name v).getD s = s.merge (ofNamed name v) := by
  by_cases h : name ∈ Property.all.map Property.name
  · obtain ⟨p, -, rfl⟩ := List.mem_map.mp h
    rw [setNamed?, Property.ofName?_eq_some_iff.mpr rfl, Option.map_some, Option.getD_some]
    ext1
    funext q
    rw [get_set, get_merge, get_ofNamed]
    by_cases hq : q = p
    · rw [if_pos hq, if_pos (congrArg Property.name hq), Option.some_or]
    · have hname : q.name ≠ p.name := fun h => hq (Property.name_injective h)
      rw [if_neg hq, if_neg hname, Option.none_or]
  · have hnone : Property.ofName? name = none :=
      Option.not_isSome_iff_eq_none.mp fun hsome => h (Property.isSome_ofName?_iff.mp hsome)
    rw [setNamed?, hnone, ofNamed_of_unknown v h, merge_empty]
    rfl

/-- Merging is associative, the empty style changes nothing on either side, nor does a style over itself,
and under each name the changed value wins, or the last one of a history. Exactly the names of properties
can be set: such a name then has the value and every other name what it had before, and nothing changes
else. A style is empty exactly if it has no value under any name. -/
theorem merge_set_by_name (a b c : Style) (name : String) (v : Value) :
    ((a.merge b).merge c = a.merge (b.merge c) ∧ empty.merge a = a ∧ a.merge empty = a ∧
      a.merge a = a) ∧
    (a.merge b).getNamed? name = (b.getNamed? name).or (a.getNamed? name) ∧
    (∀ changes : List Style, (changes.foldl merge a).getNamed? name =
      (changes.reverse.findSome? fun changed => changed.getNamed? name).or (a.getNamed? name)) ∧
    ((a.setNamed? name v).isSome ↔ name ∈ Property.all.map Property.name) ∧
    (name ∈ Property.all.map Property.name → ∃ s, a.setNamed? name v = some s ∧
      s.getNamed? name = some v ∧ ∀ other, other ≠ name → s.getNamed? other = a.getNamed? other) ∧
    (name ∉ Property.all.map Property.name → (a.setNamed? name v).getD a = a) ∧
    (a.isEmpty ↔ ∀ other, a.getNamed? other = none) := by
  refine ⟨⟨merge_assoc a b c, empty_merge a, merge_empty a, merge_self a⟩, getNamed?_merge name a b,
    getNamed?_foldl_merge a name, isSome_setNamed?_iff a name v, fun hname => ?_, fun hname => ?_,
    isEmpty_iff a⟩
  · obtain ⟨s, hs⟩ := Option.isSome_iff_exists.mp ((a.isSome_setNamed?_iff name v).mpr hname)
    have heq : s = a.merge (ofNamed name v) := by
      rw [← getD_setNamed?_eq_merge, hs, Option.getD_some]
    refine ⟨s, hs, ?_, fun other hother => ?_⟩
    · rw [heq, getNamed?_merge, getNamed?_ofNamed_self v hname, Option.some_or]
    · rw [heq, getNamed?_merge, getNamed?_ofNamed_of_ne v hother, Option.none_or]
  · rw [getD_setNamed?_eq_merge, ofNamed_of_unknown v hname, merge_empty]

theorem merge_set_by_name_gap :
    let a := (empty.set .display (.text "flex")).set .gap (.text "4px")
    let b := empty.set .gap (.text "8px")
    "gap" ∈ Property.all.map Property.name ∧ "row-gap" ∉ Property.all.map Property.name ∧
    (a.merge b).getNamed? "gap" = some (.text "8px") ∧
    (∃ s, a.setNamed? "gap" (.number 2) = some s ∧ s.getNamed? "gap" = some (.number 2) ∧
      s.getNamed? "display" = some (.text "flex")) ∧
    (a.setNamed? "row-gap" (.number 2)).getD a = a := by
  intro a b
  have hknown : "gap" ∈ Property.all.map Property.name := by decide +kernel
  have hunknown : "row-gap" ∉ Property.all.map Property.name := by decide +kernel
  obtain ⟨-, hmerge, -, -, hset, -, -⟩ := merge_set_by_name a b empty "gap" (.number 2)
  obtain ⟨-, -, -, -, -, hkept, -⟩ := merge_set_by_name a b empty "row-gap" (.number 2)
  obtain ⟨s, hs, hgap, hother⟩ := hset hknown
  have hdisplay : a.getNamed? "display" = some (.text "flex") := by decide +kernel
  refine ⟨hknown, hunknown, hmerge.trans (by decide +kernel), ⟨s, hs, hgap, ?_⟩, hkept hunknown⟩
  rw [hother "display" (by decide), hdisplay]

end Style

end PanelLayout
