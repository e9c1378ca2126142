import PanelLayout.Proofs.Length.Scan
import PanelLayout.Proofs.Text.Words

/-!
Lists of lengths. A length ends where a blank follows it, so a list of texts that are lengths each, with
blanks between them, is read as the lengths of the texts.
-/
namespace PanelLayout

namespace Text

def IsGap (s : List Char) : Prop := s ≠ [] ∧ ∀ c ∈ s, isSpacing c = true

instance : DecidablePred IsGap := fun s =>
  decidable_of_iff (s ≠ [] ∧ s.all isSpacing = true) (and_congr_right fun _ => List.all_eq_true)

inductive Spaced : List (List Char) → List Char → Prop
  | single (a : List Char) : Spaced [a] a
  | cons (a : List Char) {gap : List Char} (hgap : IsGap gap) {ts : List (List Char)} {s : List Char}
      (h : Spaced ts s) : Spaced (a :: ts) (a ++ gap ++ s)

def EndsPart (r : List Char) : Prop := ∀ c ∈ r.head?, isSpacing c = true

theorem IsGap.endsPart {gap : List Char} (h : IsGap gap) (s : List Char) : EndsPart (gap ++ s) := by
  obtain ⟨c, gap, rfl⟩ := List.exists_cons_of_ne_nil h.1
  rintro d ⟨⟩
  exact h.2 c List.mem_cons_self

theorem dropWord?_append {w r : List Char} (hr : ∀ c ∈ r.head?, c.toLower ∉ w) (s : List Char) :
    dropWord? w (s ++ r) = (dropWord? w s).map (· ++ r) := by
  induction w generalizing s with
  | nil => rfl
  | cons a w ih =>
    have hrest : ∀ c ∈ r.head?, c.toLower ∉ w := fun c hc hw => hr c hc (List.mem_cons_of_mem a hw)
    cases s with
    | nil =>
      cases r with
      | nil => rfl
      | cons c r => exact if_neg fun h : c.toLower = a => hr c rfl (h ▸ List.mem_cons_self)
    | cons c s =>
      simp only [List.cons_append, dropWord?, ih hrest]
      split_ifs <;> rfl

theorem dropFirstWord?_append {α : Type} {table : List (String × α)} {r : List Char}
    (hr : ∀ entry ∈ table, ∀ c ∈ r.head?, c.toLower ∉ entry.1.toList) (s : List Char) :
    dropFirstWord? table (s ++ r) =
      (dropFirstWord? table s).map (Prod.map id (· ++ r)) := by
  induction table with
  | nil => rfl
  | cons entry table ih =>
    have hfirst := dropWord?_append (hr entry List.mem_cons_self) s
    have hrest := ih fun e he => hr e (List.mem_cons_of_mem entry he)
    simp only [dropFirstWord?] at hrest ⊢
    rw [List.findSome?_cons, List.findSome?_cons, hfirst, hrest]
    cases dropWord? entry.1.toList s <;> rfl

theorem isSpacing_cases {c : Char} (h : isSpacing c = true) :
    isBlank c = true ∧ c.isDigit = false ∧ c ≠ '.' ∧ c.toLower ∉ "auto".toList ∧
      ∀ entry ∈ LengthUnit.table, c.toLower ∉ entry.1.toList := by
  have hall : ∀ c ∈ [' ', '\t', '\r', '\n'], isBlank c = true ∧ c.isDigit = false ∧ c ≠ '.' ∧
      c.toLower ∉ "auto".toList ∧ ∀ entry ∈ LengthUnit.table, c.toLower ∉ entry.1.toList := by
    rw [← List.forall_iff_forall_mem]
    decide
  exact hall c (by simpa [isSpacing, or_assoc] using h)

theorem isSpacing_eq_false {c : Char} (h : isBlank c = false) : isSpacing c = false :=
  Bool.eq_false_iff.mpr fun hspacing =>
    Bool.false_ne_true (h.symm.trans (isSpacing_cases hspacing).1)

theorem spaced_fields {s : List Char} (hne : s ≠ []) (hhead : ∀ c ∈ s.head?, isSpacing c = false)
    (hlast : ∀ c ∈ s.getLast?, isSpacing c = false) : Spaced (fields isSpacing s) s := by
  induction hn : s.length using Nat.strong_induction_on generalizing s with
  | _ n ih =>
    obtain ⟨w, r, rfl, hw, hr⟩ := exists_cut (!isSpacing ·) s
    replace hw : ∀ c ∈ w, isSpacing c = false := fun c hc => by simpa using hw c hc
    replace hr : EndsPart r := fun c hc => by simpa using hr c hc
    have hw_ne : w ≠ [] := by
      rintro rfl
      obtain ⟨c, t, rfl⟩ := List.exists_cons_of_ne_nil hne
      exact Bool.false_ne_true ((hhead c rfl).symm.trans (hr c rfl))
    rw [fields_append hw_ne hw hr]
    obtain ⟨gap, t, rfl, hgap, ht⟩ := exists_cut isSpacing r
    rw [fields_append_of_pos hgap]
    rcases List.eq_nil_or_concat' gap with rfl | ⟨_, d, rfl⟩
    · -- the word goes on to the end of the text
      cases t with
      | nil =>
        rw [List.nil_append, List.append_nil]
        exact .single w
      | cons c t => exact absurd (hr c rfl) (Bool.eq_false_iff.mp (ht c rfl))
    · have ht_ne : t ≠ [] := by
        rintro rfl
        have hspacing := hgap d (List.mem_append_right _ List.mem_cons_self)
        refine absurd hspacing (Bool.eq_false_iff.mp (hlast d ?_))
        simp
      rw [← List.append_assoc] at hn hlast ⊢
      rw [List.getLast?_append_of_ne_nil _ ht_ne] at hlast
      refine .cons w ⟨by simp, hgap⟩ (ih t.length ?_ ht_ne ht hlast rfl)
      rw [← hn, List.length_append, List.length_append, List.length_append, List.length_singleton]
      omega

end Text

namespace Length
open Text (EndsPart IsGap Spaced)

theorem scan_append {r : List Char} (hr : EndsPart r) {s : List Char} (hs : s ≠ []) :
    scan (s ++ r) = (scan s).map (Prod.map id (· ++ r)) := by
  have hauto := Text.dropWord?_append (fun c hc => (Text.isSpacing_cases (hr c hc)).2.2.2.1) s
  have hunit : ∀ t, LengthUnit.scan (t ++ r) = (LengthUnit.scan t).map (Prod.map id (· ++ r)) :=
    Text.dropFirstWord?_append fun entry hentry c hc =>
      (Text.isSpacing_cases (hr c hc)).2.2.2.2 entry hentry
  have hnumber : scanNumber (s ++ r) = (scanNumber s).map (Prod.map id (· ++ r)) := by
    have hdigit : ∀ c ∈ r.head?, c.isDigit = false ∧ c ≠ '.' := fun c hc =>
      ⟨(Text.isSpacing_cases (hr c hc)).2.1, (Text.isSpacing_cases (hr c hc)).2.2.1⟩
    rw [scanNumber, Numeral.scanPlain_append hdigit hs, scanNumber, Option.map_map, Option.map_map]
    rfl
  have hamount : scanAmount (s ++ r) = (scanAmount s).map (Prod.map id (· ++ r)) := by
    rw [scanAmount, hnumber, scanAmount, Option.map_map, Option.map_map]
    refine Option.map_congr fun number _ => ?_
    obtain ⟨x, t⟩ := number
    simp only [Function.comp_apply, Prod.map_apply, hunit]
    cases LengthUnit.scan t <;> rfl
  rw [scan, hauto, hamount, scan]
  cases Text.dropWord? "auto".toList s <;> rfl

structure IsWritten (s : List Char) : Prop where
  trim_eq : Text.trim s = s
  readable : (ofText? s).isSome = true

namespace IsWritten
variable {s : List Char} (h : IsWritten s)
include h

theorem ne_nil : s ≠ [] := by
  rintro rfl
  exact absurd h.readable (by decide)

theorem exists_scan : ∃ l, ofText? s = some l ∧ scan s = some (l, []) := by
  obtain ⟨l, hl⟩ := Option.isSome_iff_exists.mp h.readable
  refine ⟨l, hl, ?_⟩
  rwa [ofText?, complete?_eq_some_iff, h.trim_eq] at hl

end IsWritten

theorem scanMore_gap {gap : List Char} (hgap : IsGap gap) {s r : List Char} {l : Length}
    (hs : ∀ c ∈ s.head?, Text.isSpacing c = false) (hscan : scan s = some (l, r)) :
    scanMore (gap ++ s) = (l :: (scanMore r).1, (scanMore r).2) := by
  obtain ⟨c, gap, rfl⟩ := List.exists_cons_of_ne_nil hgap.1
  have hdrop : (gap ++ s).dropWhile Text.isSpacing = s :=
    Text.dropWhile_append_eq (fun d hd => hgap.2 d (List.mem_cons_of_mem c hd)) hs
  rw [List.cons_append, scanMore, if_pos (hgap.2 c List.mem_cons_self)]
  split
  · rename_i hnone
    rw [hdrop, hscan] at hnone
    cases hnone
  · rename_i k t hsome
    rw [hdrop, hscan] at hsome
    cases hsome
    rfl

section
variable {ts : List (List Char)} {s : List Char} (hwritten : ∀ t ∈ ts, IsWritten t)
  (hspaced : Spaced ts s)
include hwritten hspaced

theorem isBlank_ends_of_spaced :
    s ≠ [] ∧ (∀ c ∈ s.head?, Text.isBlank c = false) ∧ ∀ c ∈ s.getLast?, Text.isBlank c = false := by
  induction hspaced with
  | single a =>
    have ha := hwritten a List.mem_cons_self
    exact ⟨ha.ne_nil, ha.trim_eq ▸ Text.head?_trim a, ha.trim_eq ▸ Text.getLast?_trim a⟩
  | @cons a gap hgap ts s h ih =>
    have ha := hwritten a List.mem_cons_self
    obtain ⟨hne, -, hlast⟩ := ih fun t ht => hwritten t (List.mem_cons_of_mem a ht)
    refine ⟨List.append_ne_nil_of_right_ne_nil _ hne, ?_, ?_⟩
    · rw [List.append_assoc, List.head?_append_of_ne_nil _ ha.ne_nil]
      exact ha.trim_eq ▸ Text.head?_trim a
    · rwa [List.getLast?_append_of_ne_nil _ hne]

theorem exists_scan_of_spaced :
    ∃ l ls r, ts.map ofText? = some l :: ls.map some ∧ scan s = some (l, r) ∧ scanMore r = (ls, []) := by
  induction hspaced with
  | single a =>
    obtain ⟨l, hl, hscan⟩ := (hwritten a List.mem_cons_self).exists_scan
    refine ⟨l, [], [], by rw [List.map_singleton, hl]; rfl, hscan, by rw [scanMore]⟩
  | @cons a gap hgap ts s h ih =>
    have hrest : ∀ t ∈ ts, IsWritten t := fun t ht => hwritten t (List.mem_cons_of_mem a ht)
    have ha := hwritten a List.mem_cons_self
    obtain ⟨l, hl, hscan⟩ := ha.exists_scan
    obtain ⟨k, ks, r, hks, hk, hmore⟩ := ih hrest
    refine ⟨l, k :: ks, gap ++ s, by rw [List.map_cons, hl, hks]; rfl, ?_, ?_⟩
    · rw [List.append_assoc, scan_append (hgap.endsPart s) ha.ne_nil, hscan]
      rfl
    · have hhead : ∀ c ∈ s.head?, Text.isSpacing c = false := by
        intro c hc
        refine Bool.eq_false_iff.mpr fun hspacing => ?_
        have hblank := (isBlank_ends_of_spaced hrest h).2.1 c hc
        exact Bool.false_ne_true (hblank.symm.trans (Text.isSpacing_cases hspacing).1)
      rw [scanMore_gap hgap hhead hk, hmore]

theorem complete?_scanList_of_spaced :
    ∃ ls, ts.map ofText? = ls.map some ∧ complete? scanList s = some ls := by
  obtain ⟨l, ls, r, hls, hscan, hmore⟩ := exists_scan_of_spaced hwritten hspaced
  obtain ⟨-, hhead, hlast⟩ := isBlank_ends_of_spaced hwritten hspaced
  refine ⟨l :: ls, hls, ?_⟩
  rw [complete?_eq_some_iff, Text.trim_eq_self_of_ends hhead hlast, scanList, hscan]
  simp only [Option.map_some, hmore]

end

end Length

end PanelLayout
