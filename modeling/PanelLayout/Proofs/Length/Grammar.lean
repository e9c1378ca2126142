import PanelLayout.Proofs.Length.List
import Mathlib.Data.List.Forall2

/-!
The grammar of lengths. A text is read as a length exactly when it is spelled as one, and as a list of
lengths exactly when each of its words is; the amount is what the reader of numbers makes of the digits.
-/
namespace PanelLayout

def IsDigits (s : List Char) : Prop := s ≠ [] ∧ ∀ c ∈ s, c.isDigit = true

inductive IsDecimal : List Char → Prop
  | whole {ds : List Char} (hds : IsDigits ds) : IsDecimal ds
  | pointed {ds es : List Char} (hds : IsDigits ds) (hes : IsDigits es) : IsDecimal (ds ++ '.' :: es)
  | fraction {es : List Char} (hes : IsDigits es) : IsDecimal ('.' :: es)

def IsSignedDecimal (s : List Char) : Prop :=
  ∃ sign ∈ [[], ['+'], ['-']], ∃ t, IsDecimal t ∧ s = sign ++ t

def LengthUnit.spelling : LengthUnit → String
  | px => "px"
  | pt => "pt"
  | em => "em"
  | rem => "rem"
  | vw => "vw"
  | vh => "vh"
  | percent => "%"
  | fr => "fr"

inductive Length.Spells : List Char → Length → Prop
  | auto {s : List Char} (hs : Text.isWord "auto" s = true) : Spells s .auto
  | bare {s : List Char} (hs : IsSignedDecimal s) {x : Float32} (hx : Single.ofText? s = some x) :
      Spells s (.amount x .px)
  | unit {s : List Char} (hs : IsSignedDecimal s) {x : Float32} (hx : Single.ofText? s = some x)
      {unit : LengthUnit} {u : List Char} (hu : Text.isWord unit.spelling u = true) :
      Spells (s ++ u) (.amount x unit)

/-! Numbers. -/

namespace Numeral

def ofParts (negative : Bool) (ds es : List Char) : Numeral :=
  ⟨negative, ds.map digitValue, es.map digitValue, none⟩

def pointText (es : List Char) : List Char := if es.isEmpty then [] else '.' :: es

theorem head?_pointText (es : List Char) : ∀ c ∈ (pointText es).head?, c.isDigit = false := by
  intro c hc
  cases es with
  | nil => cases hc
  | cons e es =>
    obtain rfl := Option.some.inj hc
    rfl

theorem scanFraction_pointText {es : List Char} (hes : ∀ c ∈ es, c.isDigit = true) :
    scanFraction (pointText es) = (es.map digitValue, []) := by
  cases es with
  | nil => rfl
  | cons e es =>
    have hdigits := scanDigits_of_isDigit hes (r := []) (by simp)
    rw [List.append_nil] at hdigits
    simp only [pointText, List.isEmpty_cons, Bool.false_eq_true, if_false, scanFraction, hdigits]
    rfl

theorem scanSign_append {sign : List Char} (hsign : sign ∈ [[], ['+'], ['-']]) {t : List Char}
    (ht : ∀ c ∈ t.head?, c ≠ '+' ∧ c ≠ '-') :
    scanSign (sign ++ t) = (decide (sign = ['-']), t) := by
  simp only [List.mem_cons, List.not_mem_nil, or_false] at hsign
  rcases hsign with rfl | rfl | rfl
  · cases t with
    | nil => rfl
    | cons c t =>
      obtain ⟨hplus, hminus⟩ := ht c rfl
      simp [scanSign, hplus, hminus]
  · rfl
  · rfl

section
variable {sign ds es : List Char} (hsign : sign ∈ [[], ['+'], ['-']])
  (hds : ∀ c ∈ ds, c.isDigit = true) (hes : ∀ c ∈ es, c.isDigit = true)
include hsign hds hes

theorem scanSign_parts :
    scanSign (sign ++ (ds ++ pointText es)) = (decide (sign = ['-']), ds ++ pointText es) := by
  refine scanSign_append hsign fun c hc => ?_
  have hclass : c.isDigit = true ∨ c = '.' := by
    rcases List.mem_append.mp (List.mem_of_head? hc) with hc | hc
    · exact .inl (hds c hc)
    · unfold pointText at hc
      split_ifs at hc
      · cases hc
      · exact (List.mem_cons.mp hc).symm.imp (hes c) id
  constructor <;> rintro rfl <;> exact absurd hclass (by decide)

theorem scanPlain_parts (hne : ¬(ds = [] ∧ es = [])) :
    scanPlain (sign ++ (ds ++ pointText es)) = some (ofParts (decide (sign = ['-'])) ds es, []) ∧
      ofText? (sign ++ (ds ++ pointText es)) = some (ofParts (decide (sign = ['-'])) ds es) := by
  have hdigits := scanDigits_of_isDigit hds (head?_pointText es)
  have hempty : ((ds.map digitValue).isEmpty && (es.map digitValue).isEmpty) = false := by
    simp only [List.isEmpty_map, Bool.and_eq_false_iff, List.isEmpty_eq_false_iff]
    exact not_and_or.mp hne
  constructor
  · simp only [scanPlain, scanSign_parts hsign hds hes, hdigits, scanFraction_pointText hes, hempty,
      Bool.false_eq_true, if_false]
    rfl
  · have hlast := scanDigits_of_isDigit hes (r := []) (by simp)
    rw [List.append_nil] at hlast
    simp only [ofText?, scanSign_parts hsign hds hes, hdigits]
    cases es with
    | nil =>
      rw [List.map_nil] at hempty
      exact if_neg (Bool.eq_false_iff.mp hempty)
    | cons e es =>
      simp only [pointText, List.isEmpty_cons, Bool.false_eq_true, if_false, hlast, hempty]
      rfl

end

theorem exists_sign (s : List Char) :
    ∃ sign ∈ [[], ['+'], ['-']], s = sign ++ (scanSign s).2 ∧
      (scanSign s).1 = decide (sign = ['-']) := by
  unfold scanSign
  split
  · exact ⟨['+'], by simp, rfl, rfl⟩
  · exact ⟨['-'], by simp, rfl, rfl⟩
  · exact ⟨[], by simp, rfl, rfl⟩

theorem exists_digits (s : List Char) :
    ∃ ds : List Char, (∀ c ∈ ds, c.isDigit = true) ∧ s = ds ++ (scanDigits s).2 ∧
      (scanDigits s).1 = ds.map digitValue :=
  ⟨s.takeWhile Char.isDigit, fun _ hc => List.mem_takeWhile_imp hc,
    List.takeWhile_append_dropWhile.symm, rfl⟩

theorem exists_fraction (s : List Char) :
    ∃ es : List Char, (∀ c ∈ es, c.isDigit = true) ∧ s = pointText es ++ (scanFraction s).2 ∧
      (scanFraction s).1 = es.map digitValue := by
  unfold scanFraction
  split
  · rename_i t
    obtain ⟨es, hes, ht, hvalue⟩ := exists_digits t
    split
    · exact ⟨[], by simp, rfl, rfl⟩
    · rename_i values rest hne hscan
      rw [hscan] at ht hvalue
      have hes_ne : es ≠ [] := by
        rintro rfl
        exact hne hvalue
      refine ⟨es, hes, ?_, hvalue⟩
      rw [pointText, if_neg (by simpa using hes_ne), List.cons_append, ← ht]
  · exact ⟨[], by simp, rfl, rfl⟩

theorem exists_parts_of_scanPlain {s r : List Char} {n : Numeral} (h : scanPlain s = some (n, r)) :
    ∃ sign ∈ [[], ['+'], ['-']], ∃ ds es : List Char, (∀ c ∈ ds, c.isDigit = true) ∧
      (∀ c ∈ es, c.isDigit = true) ∧ ¬(ds = [] ∧ es = []) ∧
      s = sign ++ (ds ++ pointText es) ++ r ∧ n = ofParts (decide (sign = ['-'])) ds es := by
  obtain ⟨sign, hmem, hs, hnegative⟩ := exists_sign s
  obtain ⟨ds, hds, hrest, hwhole⟩ := exists_digits (scanSign s).2
  obtain ⟨es, hes, hlast, hpart⟩ := exists_fraction (scanDigits (scanSign s).2).2
  simp only [scanPlain] at h
  split_ifs at h with hempty
  cases h
  refine ⟨sign, hmem, ds, es, hds, hes, ?_, ?_, ?_⟩
  · rintro ⟨rfl, rfl⟩
    simp [hwhole, hpart] at hempty
  · rw [List.append_assoc, List.append_assoc, ← hlast, ← hrest, ← hs]
  · rw [hnegative, hwhole, hpart]
    rfl

end Numeral

theorem isDecimal_iff {s : List Char} :
    IsDecimal s ↔ ∃ ds es : List Char, (∀ c ∈ ds, c.isDigit = true) ∧
      (∀ c ∈ es, c.isDigit = true) ∧ ¬(ds = [] ∧ es = []) ∧ s = ds ++ Numeral.pointText es := by
  constructor
  · rintro (⟨⟨hne, hds⟩⟩ | ⟨⟨hne, hds⟩, ⟨hne', hes⟩⟩ | ⟨⟨hne, hes⟩⟩)
    · exact ⟨s, [], hds, by simp, fun h => hne h.1, (List.append_nil s).symm⟩
    · exact ⟨_, _, hds, hes, fun h => hne h.1, by simp [Numeral.pointText, hne']⟩
    · exact ⟨[], _, by simp, hes, fun h => hne h.2, by simp [Numeral.pointText, hne]⟩
  · rintro ⟨ds, es, hds, hes, hne, rfl⟩
    cases es with
    | nil =>
      rw [Numeral.pointText, List.isEmpty_nil, if_pos rfl, List.append_nil]
      exact .whole ⟨fun h => hne ⟨h, rfl⟩, hds⟩
    | cons e es =>
      have hfraction : IsDigits (e :: es) := ⟨List.cons_ne_nil e es, hes⟩
      cases ds with
      | nil => exact .fraction hfraction
      | cons d ds => exact .pointed ⟨List.cons_ne_nil d ds, hds⟩ hfraction

namespace IsSignedDecimal
variable {s : List Char} (h : IsSignedDecimal s)
include h

theorem exists_numeral :
    ∃ n, Numeral.scanPlain s = some (n, []) ∧ Single.ofText? s = some (Single.ofNumeral n) := by
  obtain ⟨sign, hsign, t, ht, rfl⟩ := h
  obtain ⟨ds, es, hds, hes, hne, rfl⟩ := isDecimal_iff.mp ht
  obtain ⟨hscan, hread⟩ := Numeral.scanPlain_parts hsign hds hes hne
  exact ⟨_, hscan, by rw [Single.ofText?, hread]; rfl⟩

theorem isSome_ofText? : (Single.ofText? s).isSome = true := by
  obtain ⟨n, -, hread⟩ := h.exists_numeral
  rw [hread]
  rfl

theorem isNumber {x : Float32} (hx : Single.ofText? s = some x) : IsNumber s x := by
  obtain ⟨n, hscan, hread⟩ := h.exists_numeral
  rw [hread] at hx
  rw [IsNumber, scanNumber, hscan, ← Option.some.inj hx]
  rfl

end IsSignedDecimal

theorem exists_of_scanNumber {s r : List Char} {x : Float32} (h : scanNumber s = some (x, r)) :
    ∃ t, s = t ++ r ∧ IsSignedDecimal t ∧ Single.ofText? t = some x := by
  obtain ⟨⟨n, rest⟩, hplain, hx⟩ := Option.map_eq_some_iff.mp h
  cases hx
  obtain ⟨sign, hsign, ds, es, hds, hes, hne, rfl, rfl⟩ := Numeral.exists_parts_of_scanPlain hplain
  refine ⟨_, rfl, ⟨sign, hsign, _, isDecimal_iff.mpr ⟨ds, es, hds, hes, hne, rfl⟩, rfl⟩, ?_⟩
  rw [Single.ofText?, (Numeral.scanPlain_parts hsign hds hes hne).2]
  rfl

theorem LengthUnit.scan_of_isWord {unit : LengthUnit} {u : List Char}
    (hu : Text.isWord unit.spelling u = true) : scan u = some (unit, []) := by
  have hspelling : ∀ unit : LengthUnit, scan unit.spelling.toList = some (unit, []) := by
    intro unit
    cases unit <;> decide
  have hfold := Text.dropFirstWord?_fold table u
  rw [Text.fold_eq_of_isWord hu] at hfold
  obtain ⟨⟨found, rest⟩, hscan, heq⟩ := Option.map_eq_some_iff.mp (hfold.symm.trans (hspelling unit))
  obtain ⟨rfl, hrest⟩ := Prod.mk.inj heq
  rw [scan, hscan, Text.eq_nil_of_fold_eq_nil hrest]
  rfl

theorem LengthUnit.exists_of_scan {s r : List Char} {unit : LengthUnit}
    (h : scan s = some (unit, r)) : ∃ u, s = u ++ r ∧ Text.isWord unit.spelling u = true := by
  have htable : ∀ entry ∈ table, entry.2.spelling = entry.1 := by decide
  obtain ⟨entry, hentry, h⟩ := List.exists_of_findSome?_eq_some h
  obtain ⟨rest, hdrop, heq⟩ := Option.map_eq_some_iff.mp h
  cases heq
  obtain ⟨u, rfl, hu⟩ := Text.eq_append_of_dropWord? hdrop
  exact ⟨u, rfl, Text.isWord_of_fold_eq (hu.trans (congrArg String.toList (htable entry hentry).symm))⟩

theorem LengthUnit.starts_no_number {unit : LengthUnit} {u : List Char}
    (hu : Text.isWord unit.spelling u = true) {c : Char} (hc : c ∈ u) :
    c.isDigit = false ∧ c ≠ '.' := by
  have hspelling : unit.spelling.toList.Forall (· ∉ Numeral.alphabet) := by
    cases unit <;> decide
  have hother : c ∉ Numeral.alphabet := by
    intro hmem
    refine List.forall_iff_forall_mem.mp hspelling _ (Text.mem_of_isWord hu hc) ?_
    rwa [Numeral.toLower_of_mem_alphabet hmem]
  refine ⟨Bool.eq_false_iff.mpr fun h => hother (Numeral.mem_alphabet_of_isDigit h), ?_⟩
  rintro rfl
  exact hother (by decide)

namespace Length
open Text (EndsPart)

theorem exists_of_scan {s r : List Char} {l : Length} (h : scan s = some (l, r)) :
    ∃ a, s = a ++ r ∧ Spells a l := by
  rw [scan] at h
  split at h
  · rename_i rest hdrop
    cases h
    obtain ⟨a, rfl, ha⟩ := Text.eq_append_of_dropWord? hdrop
    exact ⟨a, rfl, .auto (Text.isWord_of_fold_eq ha)⟩
  · obtain ⟨⟨x, rest⟩, hnumber, hl⟩ := Option.map_eq_some_iff.mp h
    obtain ⟨t, rfl, ht, hx⟩ := exists_of_scanNumber hnumber
    dsimp only at hl
    split at hl
    · rename_i unit rest' hunit
      cases hl
      obtain ⟨u, rfl, hu⟩ := LengthUnit.exists_of_scan hunit
      exact ⟨t ++ u, (List.append_assoc t u r).symm, .unit ht hx hu⟩
    · cases hl
      exact ⟨t, rfl, .bare ht hx⟩

theorem isBlank_of_isWord {word : String} {s : List Char} (h : Text.isWord word s = true)
    (hword : word.toList.Forall (Text.isBlank · = false)) {c : Char} (hc : c ∈ s) :
    Text.isBlank c = false := by
  rw [← Text.isBlank_toLower]
  exact List.forall_iff_forall_mem.mp hword _ (Text.mem_of_isWord h hc)

namespace Spells
variable {s : List Char} {l : Length} (h : Spells s l)
include h

theorem scan_eq : scan s = some (l, []) := by
  cases h with
  | auto hs =>
    have hdrop := Text.dropWord?_fold "auto".toList s
    rw [Text.fold_eq_of_isWord hs] at hdrop
    obtain ⟨rest, hrest, heq⟩ := Option.map_eq_some_iff.mp hdrop.symm
    rw [scan, hrest, Text.eq_nil_of_fold_eq_nil heq]
  | bare hs hx =>
    have hscan := scan_number_append (hs.isNumber hx) (r := []) (by simp)
    rwa [List.append_nil] at hscan
  | unit hs hx hu =>
    rw [scan_number_append (hs.isNumber hx) fun _ hc =>
      LengthUnit.starts_no_number hu (List.mem_of_mem_head? hc), LengthUnit.scan_of_isWord hu]

theorem isBlank_eq {c : Char} (hc : c ∈ s) : Text.isBlank c = false := by
  cases h with
  | auto hs => exact isBlank_of_isWord hs (by decide) hc
  | bare hs hx => exact (hs.isNumber hx).isBlank_eq hc
  | @unit _ hs _ hx unit u hu =>
    rcases List.mem_append.mp hc with hc | hc
    · exact (hs.isNumber hx).isBlank_eq hc
    · exact isBlank_of_isWord hu (by cases unit <;> decide) hc

theorem ne_nil : s ≠ [] := by
  rintro rfl
  cases h.scan_eq

theorem trim_eq : Text.trim s = s := Text.trim_eq_self fun _ hc => h.isBlank_eq hc

theorem isSpacing_eq {c : Char} (hc : c ∈ s) : Text.isSpacing c = false :=
  Text.isSpacing_eq_false (h.isBlank_eq hc)

end Spells

theorem scan_eq_iff {s : List Char} {l : Length} : scan s = some (l, []) ↔ Spells s l := by
  refine ⟨fun h => ?_, Spells.scan_eq⟩
  obtain ⟨a, rfl, ha⟩ := exists_of_scan h
  rwa [List.append_nil]

theorem ofText?_eq_some_iff {s : List Char} {l : Length} :
    ofText? s = some l ↔ Spells (Text.trim s) l := by
  rw [ofText?, complete?_eq_some_iff, scan_eq_iff]

/-! Lists. -/

theorem Spells.ofText?_eq {s : List Char} {l : Length} (h : Spells s l) : ofText? s = some l :=
  ofText?_eq_some_iff.mpr (h.trim_eq.symm ▸ h)

theorem Spells.isWritten {s : List Char} {l : Length} (h : Spells s l) : IsWritten s :=
  ⟨h.trim_eq, by rw [h.ofText?_eq]; rfl⟩

theorem forall₂_of_scanMore {s : List Char} {ls : List Length} (h : scanMore s = (ls, [])) :
    EndsPart s ∧ List.Forall₂ Spells (Text.fields Text.isSpacing s) ls := by
  fun_induction scanMore s generalizing ls with
  | case1 =>
    cases h
    exact ⟨by simp [EndsPart], .nil⟩
  | case2 => cases h
  | case3 c cs hc l r hscan ks rest hmore ih =>
    obtain ⟨rfl, rfl⟩ := Prod.mk.inj h
    obtain ⟨hends, hrest⟩ := ih hmore
    obtain ⟨a, ha, hspells⟩ := exists_of_scan hscan
    refine ⟨by simp [EndsPart, hc], ?_⟩
    rw [Text.fields_cons hc, ← Text.fields_dropWhile, ha,
      Text.fields_append hspells.ne_nil (fun _ => hspells.isSpacing_eq) hends]
    exact .cons hspells hrest
  | case4 => cases h

theorem complete_scanList_iff {s : List Char} {ls : List Length} :
    complete scanList s = .ok ls ↔
      Text.trim s ≠ [] ∧ List.Forall₂ Spells (Text.fields Text.isSpacing (Text.trim s)) ls := by
  rw [complete_eq_ok_iff]
  constructor
  · intro h
    obtain ⟨⟨l, r⟩, hscan, heq⟩ := Option.map_eq_some_iff.mp h
    obtain ⟨rfl, hrest⟩ := Prod.mk.inj heq
    obtain ⟨a, ha, hspells⟩ := exists_of_scan hscan
    obtain ⟨hends, hmore⟩ := forall₂_of_scanMore (Prod.ext rfl hrest : scanMore r = (_, []))
    rw [ha, Text.fields_append hspells.ne_nil (fun _ => hspells.isSpacing_eq) hends]
    exact ⟨List.append_ne_nil_of_left_ne_nil hspells.ne_nil r, .cons hspells hmore⟩
  · rintro ⟨hne, hspells⟩
    have hspaced := Text.spaced_fields hne (fun c hc => Text.isSpacing_eq_false (Text.head?_trim s c hc))
      fun c hc => Text.isSpacing_eq_false (Text.getLast?_trim s c hc)
    have hboth : List.Forall₂ (fun t l => IsWritten t ∧ ofText? t = some l)
        (Text.fields Text.isSpacing (Text.trim s)) ls :=
      hspells.imp fun _ _ h => ⟨h.isWritten, h.ofText?_eq⟩
    obtain ⟨hwritten, hlengths⟩ := (List.forall₂_and_left _ _).mp hboth
    have hmap : (Text.fields Text.isSpacing (Text.trim s)).map ofText? = ls.map some := by
      rw [← List.forall₂_eq_eq_eq, List.forall₂_map_left_iff, List.forall₂_map_right_iff]
      exact hlengths
    obtain ⟨ks, hks, hread⟩ := complete?_scanList_of_spaced hwritten hspaced
    obtain rfl : ls = ks := List.map_injective_iff.mpr (fun _ _ => Option.some.inj) (hmap.symm.trans hks)
    rwa [complete?_eq_some_iff, Text.trim_trim] at hread

/-- A text is a length exactly when it is spelled as one without the blanks around it, and a list of
lengths exactly when the words between its blanks are; every number in a spelling can be read. -/
theorem complete_iff_spells (s : List Char) :
    (∀ l, complete scan s = .ok l ↔ Spells (Text.trim s) l) ∧
    (∀ ls, complete scanList s = .ok ls ↔
      Text.trim s ≠ [] ∧
        List.Forall₂ Spells (Text.fields Text.isSpacing (Text.trim s)) ls) ∧
    ∀ n, IsSignedDecimal n → (Single.ofText? n).isSome = true :=
  ⟨fun _ => complete_eq_ok_iff.trans scan_eq_iff, fun _ => complete_scanList_iff,
    fun _ hn => hn.isSome_ofText?⟩

theorem complete_iff_spells_signed :
    IsSignedDecimal "-.5".toList ∧ (Single.ofText? "-.5".toList).isSome = true ∧
      complete scan " -.5ReM ".toList = .ok (.amount (-0.5) .rem) := by
  obtain ⟨hlength, -, hnumber⟩ := complete_iff_spells " -.5ReM ".toList
  have hdigits : IsDigits ['5'] := ⟨List.cons_ne_nil _ _, List.forall_mem_singleton.mpr rfl⟩
  have hsigned : IsSignedDecimal "-.5".toList :=
    ⟨['-'], by simp, ['.', '5'], .fraction hdigits, rfl⟩
  have hamount : Single.ofText? "-.5".toList = some (-0.5) := by decide +kernel
  have htrim : Text.trim " -.5ReM ".toList = "-.5".toList ++ "ReM".toList := by decide +kernel
  refine ⟨hsigned, hnumber _ hsigned, (hlength _).mpr ?_⟩
  rw [htrim]
  exact .unit hsigned hamount (by decide)

example : ofText? "5.".toList = none ∧ ofText? "1e3".toList = none ∧
    ofText? " +.5ReM ".toList = some (.amount 0.5 .rem) := by decide +kernel

end Length

end PanelLayout
