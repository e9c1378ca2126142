import PanelLayout.Length.Scan
import PanelLayout.Proofs.Number.Plain
import PanelLayout.Proofs.Text.Pieces

/-!
What the scanners of numbers and lengths take off a text that goes on. A number ends where no digit
and no point follows, so a unit behind it is left over, and the two are read as one length.
-/
namespace PanelLayout

theorem digitChar_digitValue {c : Char} (h : c.isDigit = true) : digitChar (digitValue c) = c := by
  simp only [Char.isDigit, Bool.and_eq_true, decide_eq_true_eq] at h
  have hge : 48 ≤ c.toNat := h.1
  show Char.ofNat (48 + (c.toNat - 48)) = c
  rw [Nat.add_sub_cancel' hge, Char.ofNat_toNat]

namespace Numeral

def alphabet : List Char := "0123456789+-.".toList

theorem mem_alphabet_of_isDigit {c : Char} (h : c.isDigit = true) : c ∈ alphabet := by
  have hdigits : ∀ d < 10, digitChar d ∈ alphabet := by decide
  rw [← digitChar_digitValue h]
  exact hdigits _ (digitValue_lt h)

theorem toLower_of_mem_alphabet {c : Char} (h : c ∈ alphabet) : c.toLower = c := by
  have halphabet : alphabet.Forall fun c => c.toLower = c := by decide
  exact List.forall_iff_forall_mem.mp halphabet c h

theorem toLower_of_isDigit {c : Char} (h : c.isDigit = true) : c.toLower = c :=
  toLower_of_mem_alphabet (mem_alphabet_of_isDigit h)

theorem mem_scanSign {s : List Char} {c : Char} (h : c ∈ s) :
    c ∈ alphabet ∨ c ∈ (scanSign s).2 := by
  unfold scanSign
  split
  · rcases List.mem_cons.mp h with rfl | h
    · exact .inl (by decide)
    · exact .inr h
  · rcases List.mem_cons.mp h with rfl | h
    · exact .inl (by decide)
    · exact .inr h
  · exact .inr h

theorem mem_scanDigits {s : List Char} {c : Char} (h : c ∈ s) :
    c ∈ alphabet ∨ c ∈ (scanDigits s).2 := by
  rw [← List.takeWhile_append_dropWhile (p := Char.isDigit) (l := s)] at h
  refine (List.mem_append.mp h).imp (fun hc => ?_) id
  exact mem_alphabet_of_isDigit (List.mem_takeWhile_imp hc)

theorem mem_scanFraction {s : List Char} {c : Char} (h : c ∈ s) :
    c ∈ alphabet ∨ c ∈ (scanFraction s).2 := by
  unfold scanFraction
  split
  · rename_i r
    split
    · exact .inr h
    · rename_i ds rest hdigits
      rcases List.mem_cons.mp h with rfl | h
      · exact .inl (by decide)
      · have hrest := mem_scanDigits h
        rwa [hdigits] at hrest
  · exact .inr h

theorem mem_scanPlain {s r : List Char} {n : Numeral} (h : scanPlain s = some (n, r)) {c : Char}
    (hc : c ∈ s) : c ∈ alphabet ∨ c ∈ r := by
  simp only [scanPlain] at h
  split_ifs at h
  cases h
  rcases mem_scanSign hc with hc | hc
  · exact .inl hc
  · rcases mem_scanDigits hc with hc | hc
    · exact .inl hc
    · exact mem_scanFraction hc

section
variable {r : List Char} (hr : ∀ c ∈ r.head?, c.isDigit = false ∧ c ≠ '.')
include hr

theorem scanDigits_append_rest (s : List Char) :
    scanDigits (s ++ r) = ((scanDigits s).1, (scanDigits s).2 ++ r) := by
  have hrest : r.takeWhile Char.isDigit = [] ∧ r.dropWhile Char.isDigit = r := by
    cases r with
    | nil => exact ⟨rfl, rfl⟩
    | cons c r => simp [(hr c rfl).1]
  have htake : (s ++ r).takeWhile Char.isDigit = s.takeWhile Char.isDigit := by
    rw [List.takeWhile_append, hrest.1]
    split_ifs with h
    · rw [List.append_nil]
      exact ((List.takeWhile_prefix _).eq_of_length h).symm
    · rfl
  have hdrop : (s ++ r).dropWhile Char.isDigit = s.dropWhile Char.isDigit ++ r := by
    rw [List.dropWhile_append, hrest.2]
    split_ifs with h
    · rw [List.isEmpty_iff.mp h, List.nil_append]
    · rfl
  rw [scanDigits, htake, hdrop, scanDigits]

theorem scanFraction_append (s : List Char) :
    scanFraction (s ++ r) = ((scanFraction s).1, (scanFraction s).2 ++ r) := by
  have hother : ∀ {t : List Char}, (∀ u, t ≠ '.' :: u) → scanFraction t = ([], t) := by
    intro t ht
    unfold scanFraction
    split
    · exact absurd rfl (ht _)
    · rfl
  cases s with
  | nil =>
    have hpoint : ∀ u, r ≠ '.' :: u := by
      rintro u rfl
      exact (hr '.' rfl).2 rfl
    exact hother hpoint
  | cons c s =>
    by_cases hc : c = '.'
    · subst hc
      simp only [List.cons_append, scanFraction, scanDigits_append_rest hr s]
      generalize scanDigits s = digits
      obtain ⟨ds, rest⟩ := digits
      cases ds <;> rfl
    · have hne : ∀ t u, c :: t ≠ '.' :: u := fun t u h => hc (List.cons.inj h).1
      rw [List.cons_append, hother (hne _), hother (hne _)]
      rfl

theorem scanPlain_append {s : List Char} (hs : s ≠ []) :
    scanPlain (s ++ r) = (scanPlain s).map fun (n, rest) => (n, rest ++ r) := by
  have hsign : scanSign (s ++ r) = ((scanSign s).1, (scanSign s).2 ++ r) := by
    obtain ⟨c, s, rfl⟩ := List.exists_cons_of_ne_nil hs
    by_cases hplus : c = '+'
    · subst hplus
      rfl
    · by_cases hminus : c = '-'
      · subst hminus
        rfl
      · simp [scanSign, hplus, hminus]
  simp only [scanPlain, hsign, scanDigits_append_rest hr, scanFraction_append hr]
  split_ifs <;> rfl

end

end Numeral

def IsNumber (s : List Char) (x : Float32) : Prop := scanNumber s = some (x, [])

namespace IsNumber
variable {s : List Char} {x : Float32} (h : IsNumber s x)
include h

theorem ne_nil : s ≠ [] := by
  rintro rfl
  cases h

theorem mem_alphabet {c : Char} (hc : c ∈ s) : c ∈ Numeral.alphabet := by
  obtain ⟨⟨n, r⟩, hplain, hx⟩ := Option.map_eq_some_iff.mp h
  cases hx
  exact (Numeral.mem_scanPlain hplain hc).resolve_right List.not_mem_nil

theorem isBlank_eq {c : Char} (hc : c ∈ s) : Text.isBlank c = false := by
  have halphabet : ∀ c ∈ Numeral.alphabet, Text.isBlank c = false := by
    rw [← List.forall_iff_forall_mem]
    decide
  exact halphabet c (h.mem_alphabet hc)

theorem scanNumber_append {r : List Char} (hr : ∀ c ∈ r.head?, c.isDigit = false ∧ c ≠ '.') :
    scanNumber (s ++ r) = some (x, r) := by
  obtain ⟨⟨n, rest⟩, hplain, hx⟩ := Option.map_eq_some_iff.mp h
  cases hx
  rw [scanNumber, Numeral.scanPlain_append hr h.ne_nil, hplain]
  rfl

end IsNumber

namespace Length

theorem complete_eq_ok_iff {α : Type} {scan : List Char → Option (α × List Char)} {s : List Char}
    {a : α} : complete scan s = .ok a ↔ scan (Text.trim s) = some (a, []) := by
  unfold complete
  cases hscan : scan (Text.trim s) with
  | none => simp
  | some found =>
    obtain ⟨b, rest⟩ := found
    cases rest <;> simp

theorem complete?_eq_some_iff {α : Type} {scan : List Char → Option (α × List Char)} {s : List Char}
    {a : α} : complete? scan s = some a ↔ scan (Text.trim s) = some (a, []) := by
  rw [← complete_eq_ok_iff, complete?]
  cases complete scan s <;> simp [Except.toOption]

theorem scan_number_append {s r : List Char} {x : Float32} (h : IsNumber s x)
    (hr : ∀ c ∈ r.head?, c.isDigit = false ∧ c ≠ '.') :
    scan (s ++ r) =
      match LengthUnit.scan r with
      | some (unit, rest) => some (.amount x unit, rest)
      | none => some (.amount x .px, r) := by
  have hauto : Text.dropWord? "auto".toList (s ++ r) = none := by
    obtain ⟨c, t, rfl⟩ := List.exists_cons_of_ne_nil h.ne_nil
    have hc := h.mem_alphabet List.mem_cons_self
    refine if_neg ?_
    rw [Numeral.toLower_of_mem_alphabet hc]
    rintro rfl
    exact absurd hc (by decide)
  rw [scan, hauto, scanAmount, h.scanNumber_append hr]
  simp only [Option.map_some]
  cases LengthUnit.scan r <;> rfl

theorem ofText?_unit {s : List Char} {x : Float32} (h : IsNumber s x) {word : String}
    {unit : LengthUnit} (hunit : (word, unit) ∈ LengthUnit.table) :
    ofText? (s ++ word.toList) = some (.amount x unit) := by
  have htable : ∀ entry ∈ LengthUnit.table,
      LengthUnit.scan entry.1.toList = some (entry.2, []) ∧
      (entry.1.toList.head?.all fun c => c.isDigit = false ∧ c ≠ '.') ∧
      entry.1.toList.Forall (Text.isBlank · = false) := by decide
  obtain ⟨hscan, hfirst, hblank⟩ := htable _ hunit
  rw [List.forall_iff_forall_mem] at hblank
  have hhead : ∀ c ∈ word.toList.head?, c.isDigit = false ∧ c ≠ '.' := fun c hc =>
    of_decide_eq_true ((Option.all_eq_true _ _).mp hfirst c hc)
  have htrim : Text.trim (s ++ word.toList) = s ++ word.toList := by
    refine Text.trim_eq_self fun c hc => ?_
    rcases List.mem_append.mp hc with hc | hc
    · exact h.isBlank_eq hc
    · exact hblank c hc
  rw [ofText?, complete?_eq_some_iff, htrim, scan_number_append h hhead, hscan]

end Length

end PanelLayout
