import PanelLayout.Text.Fold
import Mathlib.Data.List.Basic
import Mathlib.Data.List.TakeWhile

/-! Texts that are put together from pieces: what trimming them and cutting them up gives. -/
namespace PanelLayout.Text

section
variable {p : Char → Bool}

theorem head?_dropWhile (p : Char → Bool) (s : List Char) :
    ∀ c ∈ (s.dropWhile p).head?, p c = false := by
  intro c hc
  have hnot := List.head?_dropWhile_not p s
  rw [Option.mem_def] at hc
  rwa [hc] at hnot

theorem dropWhile_eq_self {s : List Char} (h : ∀ c ∈ s.head?, p c = false) : s.dropWhile p = s := by
  cases s with
  | nil => rfl
  | cons c s => exact List.dropWhile_cons_of_neg (Bool.eq_false_iff.mp (h c rfl))

theorem dropWhile_append_eq {a s : List Char} (ha : ∀ c ∈ a, p c = true)
    (hs : ∀ c ∈ s.head?, p c = false) : (a ++ s).dropWhile p = s := by
  rw [List.dropWhile_append_of_pos ha, dropWhile_eq_self hs]

theorem exists_cut (p : Char → Bool) (s : List Char) :
    ∃ w r, s = w ++ r ∧ (∀ c ∈ w, p c = true) ∧ ∀ c ∈ r.head?, p c = false :=
  ⟨s.takeWhile p, s.dropWhile p, List.takeWhile_append_dropWhile.symm,
    fun _ hc => List.mem_takeWhile_imp hc, head?_dropWhile p s⟩

end

section
variable {c : Char}

theorem trim_cons (hc : isBlank c = true) (s : List Char) : trim (c :: s) = trim s := by
  rw [trim, List.dropWhile_cons_of_pos hc, trim]

theorem trimEnd_concat (hc : isBlank c = true) (s : List Char) : trimEnd (s ++ [c]) = trimEnd s := by
  rw [trimEnd, List.reverse_append, List.reverse_singleton, List.singleton_append,
    List.dropWhile_cons_of_pos hc, trimEnd]

theorem trim_concat (hc : isBlank c = true) (s : List Char) : trim (s ++ [c]) = trim s := by
  rw [trim, trim, List.dropWhile_append]
  split_ifs with h
  · rw [List.isEmpty_iff.mp h, List.dropWhile_cons_of_pos hc]
    rfl
  · exact trimEnd_concat hc _

theorem trim_eq_self_of_ends {s : List Char} (hhead : ∀ c ∈ s.head?, isBlank c = false)
    (hlast : ∀ c ∈ s.getLast?, isBlank c = false) : trim s = s := by
  rw [trim, dropWhile_eq_self hhead, trimEnd, dropWhile_eq_self (by simpa using hlast),
    List.reverse_reverse]

theorem trim_eq_self {s : List Char} (h : ∀ c ∈ s, isBlank c = false) : trim s = s :=
  trim_eq_self_of_ends (fun c hc => h c (List.mem_of_mem_head? hc))
    fun c hc => h c (List.mem_of_mem_getLast? hc)

end

section
variable {p : Char → Bool}

theorem split_eq_splitOnP (p : Char → Bool) (s : List Char) : split p s = s.splitOnP p := by
  induction s with
  | nil => rfl
  | cons c s ih =>
    rw [split, ih, List.splitOnP_cons_eq_if_modifyHead]
    obtain ⟨w, ws, hs⟩ := List.exists_cons_of_ne_nil (List.splitOnP_ne_nil p s)
    rw [hs]
    rfl

theorem split_append {a : List Char} (ha : ∀ c ∈ a, p c = false) {x : Char} (hx : p x = true)
    (b : List Char) : split p (a ++ x :: b) = a :: split p b := by
  rw [split_eq_splitOnP, split_eq_splitOnP, List.splitOnP_append_cons_of_forall_mem ha x hx]

theorem split_eq_singleton {a : List Char} (ha : ∀ c ∈ a, p c = false) : split p a = [a] := by
  rw [split_eq_splitOnP, List.splitOnP_eq_singleton ha]

theorem of_mem_split {s w : List Char} (hw : w ∈ split p s) {c : Char} (hc : c ∈ w) :
    p c = false := by
  rw [split_eq_splitOnP] at hw
  induction s generalizing w with
  | nil =>
    obtain rfl := List.mem_singleton.mp hw
    cases hc
  | cons d s ih =>
    rw [List.splitOnP_cons_eq_if_modifyHead] at hw
    obtain ⟨v, vs, hs⟩ := List.exists_cons_of_ne_nil (List.splitOnP_ne_nil p s)
    rw [hs] at hw ih
    split_ifs at hw with hd
    · rcases List.mem_cons.mp hw with rfl | hw
      · cases hc
      · exact ih hw hc
    · rcases List.mem_cons.mp hw with rfl | hw
      · rcases List.mem_cons.mp hc with rfl | hc
        · exact Bool.eq_false_iff.mpr hd
        · exact ih List.mem_cons_self hc
      · exact ih (List.mem_cons_of_mem v hw) hc

theorem exists_mem_split {s : List Char} {c : Char} (hc : c ∈ s) (hp : p c = false) :
    ∃ w ∈ split p s, c ∈ w := by
  rw [split_eq_splitOnP]
  induction s with
  | nil => exact absurd hc List.not_mem_nil
  | cons d s ih =>
    rw [List.splitOnP_cons_eq_if_modifyHead]
    obtain ⟨v, vs, hs⟩ := List.exists_cons_of_ne_nil (List.splitOnP_ne_nil p s)
    rw [hs] at ih ⊢
    split_ifs with hd
    · have hrest : c ∈ s := (List.mem_cons.mp hc).resolve_left fun hcd => by simp [← hcd, hp] at hd
      obtain ⟨w, hw, hcw⟩ := ih hrest
      exact ⟨w, List.mem_cons_of_mem [] hw, hcw⟩
    · rcases List.mem_cons.mp hc with rfl | hrest
      · exact ⟨c :: v, List.mem_cons_self, List.mem_cons_self⟩
      · obtain ⟨w, hw, hcw⟩ := ih hrest
        rcases List.mem_cons.mp hw with rfl | hw
        · exact ⟨d :: w, List.mem_cons_self, List.mem_cons_of_mem d hcw⟩
        · exact ⟨w, List.mem_cons_of_mem _ hw, hcw⟩

theorem exists_mem_fields {s : List Char} {c : Char} (hc : c ∈ s) (hp : p c = false) :
    ∃ w ∈ fields p s, c ∈ w := by
  obtain ⟨w, hw, hcw⟩ := exists_mem_split hc hp
  have hne : w.isEmpty = false := List.isEmpty_eq_false_iff.mpr (List.ne_nil_of_mem hcw)
  refine ⟨w, List.mem_filter.mpr ⟨hw, ?_⟩, hcw⟩
  rw [hne]
  rfl

theorem fields_congr {q : Char → Bool} {s : List Char} (h : ∀ c ∈ s, p c = q c) :
    fields p s = fields q s := by
  have hsplit : split p s = split q s := by
    induction s with
    | nil => rfl
    | cons c s ih =>
      obtain ⟨hc, hrest⟩ := List.forall_mem_cons.mp h
      rw [split, split, hc, ih hrest]
  rw [fields, hsplit, fields]

theorem split_append_cons {c : Char} (hc : p c = true) (a b : List Char) :
    split p (a ++ c :: b) = split p a ++ split p b := by
  rw [split_eq_splitOnP, List.splitOnP_append_cons a b hc, ← split_eq_splitOnP, ← split_eq_splitOnP]

theorem fields_append_cons {c : Char} (hc : p c = true) (a b : List Char) :
    fields p (a ++ c :: b) = fields p a ++ fields p b := by
  rw [fields, split_append_cons hc, List.filter_append]
  rfl

theorem fields_cons {c : Char} (hc : p c = true) (s : List Char) : fields p (c :: s) = fields p s :=
  fields_append_cons hc [] s

theorem fields_append_of_pos {gap : List Char} (hgap : ∀ c ∈ gap, p c = true) (s : List Char) :
    fields p (gap ++ s) = fields p s := by
  induction gap with
  | nil => rfl
  | cons c gap ih =>
    obtain ⟨hc, hrest⟩ := List.forall_mem_cons.mp hgap
    rw [List.cons_append, fields_cons hc, ih hrest]

theorem fields_dropWhile (p : Char → Bool) (s : List Char) :
    fields p (s.dropWhile p) = fields p s := by
  conv_rhs => rw [← List.takeWhile_append_dropWhile (p := p) (l := s)]
  exact (fields_append_of_pos (fun c hc => List.mem_takeWhile_imp hc) _).symm

theorem fields_eq_singleton {s : List Char} (hne : s ≠ []) (hs : ∀ c ∈ s, p c = false) :
    fields p s = [s] := by
  obtain ⟨c, r, rfl⟩ := List.exists_cons_of_ne_nil hne
  rw [fields, split_eq_singleton hs]
  rfl

theorem fields_append {a r : List Char} (hne : a ≠ []) (ha : ∀ c ∈ a, p c = false)
    (hr : ∀ c ∈ r.head?, p c = true) : fields p (a ++ r) = a :: fields p r := by
  cases r with
  | nil =>
    rw [List.append_nil, fields_eq_singleton hne ha]
    rfl
  | cons c r =>
    rw [fields_append_cons (hr c rfl), fields_cons (hr c rfl), fields_eq_singleton hne ha]
    rfl

theorem isBlank_of_mem_words {s w : List Char} (hw : w ∈ words s) {c : Char} (hc : c ∈ w) :
    isBlank c = false :=
  of_mem_split (List.mem_of_mem_filter hw) hc

end

section
variable {x : Char} {a : List Char}

theorem splitOnce_append (ha : x ∉ a) (b : List Char) :
    splitOnce x (a ++ x :: b) = some (a, b) := by
  have hne : ∀ c ∈ a, decide (c ≠ x) = true := fun c hc => decide_eq_true fun h => ha (h ▸ hc)
  rw [splitOnce, List.dropWhile_append_of_pos hne, List.takeWhile_append_of_pos hne]
  simp

theorem splitOnce_eq_none (ha : x ∉ a) : splitOnce x a = none := by
  have hne : a.dropWhile (· ≠ x) = [] :=
    List.dropWhile_eq_nil_iff.mpr fun c hc => decide_eq_true fun h => ha (h ▸ hc)
  rw [splitOnce, hne]

end

end PanelLayout.Text
