import PanelLayout.Proofs.Json.Render
import PanelLayout.Proofs.Style.Names
import PanelLayout.Style.Json

/-!
Styles as JSON texts. A style is read as it was written but for numbers that are not finite, which
JSON cannot express: a property that holds one is unset then, and a margin with one makes the text
unreadable.
-/
namespace PanelLayout

theorem mapM_eq_some_map {α β : Type} {f : α → Option β} {g : α → β} {as : List α}
    (h : ∀ a ∈ as, f a = some (g a)) : as.mapM f = some (as.map g) := by
  induction as with
  | nil => rfl
  | cons a as ih =>
    obtain ⟨ha, has⟩ := List.forall_mem_cons.mp h
    rw [List.mapM_cons, ha, ih has]
    rfl

theorem mapM_eq_none {α β : Type} {f : α → Option β} {a : α} {as : List α} (ha : a ∈ as)
    (h : f a = none) : as.mapM f = none := by
  induction as with
  | nil => exact absurd ha List.not_mem_nil
  | cons b as ih =>
    rw [List.mapM_cons]
    rcases List.mem_cons.mp ha with rfl | ha
    · rw [h]
      rfl
    · rw [ih ha]
      cases f b <;> rfl

namespace Json

theorem written_ofSingle (x : Float32) : (ofSingle x).Written := by
  unfold ofSingle
  split_ifs
  · exact Single.plain_fractionNumeral x
  · trivial

end Json

namespace Margin

def sides (m : Margin) : List Float32 := [m.left, m.top, m.right, m.bottom]

end Margin

namespace Value

theorem written_toJson (v : Value) : v.toJson.Written := by
  cases v with
  | number x => exact Json.written_ofSingle x
  | text s => exact rfl
  | spacing m =>
    refine Json.writtenMembers_iff.mpr fun member hmember => ?_
    simp only [List.map_cons, List.map_nil, List.mem_cons, List.not_mem_nil, or_false] at hmember
    rcases hmember with rfl | rfl | rfl | rfl <;> exact ⟨rfl, Json.written_ofSingle _⟩

end Value

namespace Style

def members (s : Style) : List (Option String × Json) :=
  s.entries.map fun (p, v) => (some p.name, v.toJson)

theorem toJson_eq (s : Style) : s.toJson = .object s.members := by
  rw [toJson, Json.record, List.map_map]
  rfl

theorem filter_members (s : Style) (q : Property) {ps : List Property} (hps : ps.Nodup) :
    ((ps.filterMap fun p => (s.get p).map fun v => (p, v)).map fun (p, v) =>
        (some p.name, v.toJson)).filter (fun m => m.1 = some q.name) =
      if q ∈ ps then ((s.get q).map fun v => (some q.name, v.toJson)).toList else [] := by
  induction ps with
  | nil => rfl
  | cons p ps ih =>
    obtain ⟨hp, hps⟩ := List.nodup_cons.mp hps
    have hrest := ih hps
    by_cases hpq : p = q
    · subst hpq
      rw [if_neg hp] at hrest
      cases hget : s.get p with
      | none => simp [hget, hrest]
      | some v => simp [hget, hrest]
    · have hname : p.name ≠ q.name := fun h => hpq (Property.name_injective h)
      cases hget : s.get p with
      | none => simp [hget, hrest, Ne.symm hpq]
      | some v => simp [hget, hrest, Ne.symm hpq, hname]

theorem member?_members (s : Style) (p : Property) :
    Json.member? s.members p.name = some ((s.get p).map Value.toJson) := by
  have hfilter := s.filter_members p Property.nodup_all
  rw [if_pos (Property.mem_all p)] at hfilter
  rw [Json.member?, members, entries, hfilter]
  cases s.get p <;> rfl

theorem fields?_toJson (s : Style) : s.toJson.fields? (Property.all.map Property.name) =
    some (Property.all.map fun p => (s.get p).map Value.toJson) := by
  have hkeys : s.members.all (fun m => m.1.isSome) = true := by
    rw [members, List.all_map]
    exact List.all_eq_true.mpr fun _ _ => rfl
  rw [toJson_eq, Json.fields?, if_pos hkeys, List.mapM_map]
  exact mapM_eq_some_map fun p _ => member?_members s p

theorem get_foldl_set (f : Property → Option Value) (ps : List Property) (s : Style) (q : Property) :
    ((ps.zip (ps.map f)).foldl (fun s (p, v) => (v.map (s.set p)).getD s) s).get q =
      if q ∈ ps then (f q).or (s.get q) else s.get q := by
  induction ps generalizing s with
  | nil => rfl
  | cons p ps ih =>
    rw [List.map_cons, List.zip_cons_cons, List.foldl_cons, ih]
    have hset : ((((f p).map (s.set p)).getD s)).get q =
        if q = p then (f p).or (s.get q) else s.get q := by
      cases f p <;> by_cases h : q = p <;> simp [h]
    rw [hset]
    by_cases hq : q = p
    · subst hq
      cases f q <;> simp
    · simp [hq]

theorem ofValues_map (f : Property → Option Value) : ofValues (Property.all.map f) = ⟨f⟩ := by
  ext q : 2
  rw [ofValues, get_foldl_set, if_pos (Property.mem_all q)]
  exact Option.or_none

theorem written_toJson (s : Style) : s.toJson.Written := by
  rw [toJson_eq]
  refine Json.writtenMembers_iff.mpr fun m hm => ?_
  obtain ⟨⟨p, v⟩, -, rfl⟩ := List.mem_map.mp hm
  exact ⟨rfl, v.written_toJson⟩

theorem ofJsonText?_toJsonText_eq (s : Style) : ofJsonText? s.toJsonText =
    ((Property.all.mapM fun p => slotOfJson? (Json.isUsable (Json.maxDepth - 1))
      ((s.get p).map Value.toJson))).map ofValues := by
  rw [ofJsonText?, toJsonText, Json.ofText?_render s.written_toJson, Option.bind_some, ofJsonWith?,
    fields?_toJson, Option.bind_some, List.mapM_map]
  rfl

end Style

end PanelLayout
