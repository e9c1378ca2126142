import PanelLayout.Json.Printer
import PanelLayout.Json.Token
import Mathlib.Data.List.Basic
import Mathlib.Data.List.TakeWhile

/-! Plain numerals, which a JSON text may hold as they are, and why every number is written as one. -/
namespace PanelLayout

theorem digitValue_digitChar {d : Nat} (h : d < 10) : digitValue (digitChar d) = d := by
  revert d
  decide

theorem isDigit_digitChar {d : Nat} (h : d < 10) : (digitChar d).isDigit = true := by
  revert d
  decide

theorem digitValue_lt {c : Char} (h : c.isDigit = true) : digitValue c < 10 := by
  simp only [Char.isDigit, Bool.and_eq_true, decide_eq_true_eq] at h
  have hle : c.toNat ≤ 57 := h.2
  show c.toNat - 48 < 10
  omega

namespace Numeral

/-- Digits below ten on both sides of the point, no leading zero before another digit, and no
exponent. -/
structure Plain (n : Numeral) : Prop where
  whole_lt : ∀ d ∈ n.whole, d < 10
  fraction_lt : ∀ d ∈ n.fraction, d < 10
  whole_ne : n.whole ≠ []
  leading : ∀ d ds, n.whole ≠ 0 :: d :: ds
  exponent_eq : n.exponent = none

theorem isDigit_of_mem_digitText {ds : List Nat} (hds : ∀ d ∈ ds, d < 10) {c : Char}
    (hc : c ∈ digitText ds) : c.isDigit = true := by
  obtain ⟨d, hd, rfl⟩ := List.mem_map.mp hc
  exact isDigit_digitChar (hds d hd)

/-- Digits that nothing goes on with are read as their values. -/
theorem scanDigits_of_isDigit {cs r : List Char} (hcs : ∀ c ∈ cs, c.isDigit = true)
    (hr : ∀ c ∈ r.head?, c.isDigit = false) : scanDigits (cs ++ r) = (cs.map digitValue, r) := by
  have hrest : r.takeWhile Char.isDigit = [] ∧ r.dropWhile Char.isDigit = r := by
    cases r with
    | nil => exact ⟨rfl, rfl⟩
    | cons c r => simp [hr c rfl]
  rw [scanDigits, List.takeWhile_append_of_pos hcs, List.dropWhile_append_of_pos hcs, hrest.1,
    hrest.2, List.append_nil]

theorem scanDigits_append {ds : List Nat} (hds : ∀ d ∈ ds, d < 10) {r : List Char}
    (hr : ∀ c ∈ r.head?, c.isDigit = false) : scanDigits (digitText ds ++ r) = (ds, r) := by
  have hvalues : (digitText ds).map digitValue = ds := by
    rw [digitText, List.map_map]
    exact (List.map_congr_left fun d hd => digitValue_digitChar (hds d hd)).trans (List.map_id' ds)
  rw [scanDigits_of_isDigit (fun c hc => isDigit_of_mem_digitText hds hc) hr, hvalues]

def signText (n : Numeral) : List Char := if n.negative then ['-'] else []

def fractionText (n : Numeral) : List Char :=
  if n.fraction.isEmpty then [] else '.' :: digitText n.fraction

theorem Plain.text_eq {n : Numeral} (h : n.Plain) :
    n.text = n.signText ++ (digitText n.whole ++ n.fractionText) := by
  rw [text, h.exponent_eq, List.append_nil, List.append_assoc, signText, fractionText]

theorem Plain.scanFraction_eq {n : Numeral} (h : n.Plain) :
    scanFraction n.fractionText = (n.fraction, []) := by
  have hscan := scanDigits_append h.fraction_lt (r := []) (by simp)
  rw [List.append_nil] at hscan
  unfold fractionText
  cases hfraction : n.fraction with
  | nil => rfl
  | cons d ds =>
    rw [hfraction] at hscan
    simp only [List.isEmpty_cons, Bool.false_eq_true, if_false, scanFraction, hscan]

/-- A plain numeral is read as it was written. -/
theorem Plain.ofJson?_text {n : Numeral} (h : n.Plain) : ofJson? n.text = some n := by
  have hdigits : scanDigits (digitText n.whole ++ n.fractionText) = (n.whole, n.fractionText) := by
    refine scanDigits_append h.whole_lt fun c hc => ?_
    unfold fractionText at hc
    split_ifs at hc
    · cases hc
    · obtain rfl := Option.some.inj hc
      rfl
  unfold ofJson?
  rw [h.text_eq, signText]
  cases hnegative : n.negative
  case' true => simp only [if_true, List.cons_append, List.nil_append, hdigits, h.scanFraction_eq]
  case' false =>
    -- The first digit is not taken for a sign.
    obtain ⟨d, ds, hwhole⟩ := List.exists_cons_of_ne_nil h.whole_ne
    have hne : digitChar d ≠ '-' := by
      intro heq
      have hdigit := isDigit_digitChar (h.whole_lt d (hwhole ▸ List.mem_cons_self))
      rw [heq] at hdigit
      cases hdigit
    have hcons : digitText n.whole ++ n.fractionText =
        digitChar d :: (digitText ds ++ n.fractionText) := by rw [hwhole]; rfl
    rw [hcons] at hdigits ⊢
    simp only [Bool.false_eq_true, if_false, List.nil_append, List.cons.injEq, hne, false_and,
      imp_self, implies_true, hdigits, h.scanFraction_eq]
  all_goals
    split
    · exact absurd ‹n.whole = []› h.whole_ne
    · exact absurd ‹n.whole = _› (h.leading _ _)
    · rw [tail?, Option.map_some, ← hnegative, ← h.exponent_eq]

theorem Plain.isNumeralChar {n : Numeral} (h : n.Plain) {c : Char} (hc : c ∈ n.text) :
    Json.isNumeralChar c = true := by
  have hdigit : ∀ {ds}, (∀ d ∈ ds, d < 10) → c ∈ digitText ds → Json.isNumeralChar c = true := by
    intro ds hds hmem
    simp [Json.isNumeralChar, isDigit_of_mem_digitText hds hmem]
  rw [h.text_eq, signText, fractionText, List.mem_append, List.mem_append] at hc
  rcases hc with hc | hc | hc
  · split_ifs at hc
    · obtain rfl := List.mem_singleton.mp hc
      rfl
    · cases hc
  · exact hdigit h.whole_lt hc
  · split_ifs at hc
    · cases hc
    · rcases List.mem_cons.mp hc with rfl | hc
      · rfl
      · exact hdigit h.fraction_lt hc

theorem Plain.exists_text_eq_cons {n : Numeral} (h : n.Plain) :
    ∃ c cs, n.text = c :: cs ∧ Json.isSpace c = false ∧ c.isAlpha = false := by
  obtain ⟨d, ds, hwhole⟩ := List.exists_cons_of_ne_nil h.whole_ne
  have hdigit : ∀ d < 10, Json.isSpace (digitChar d) = false ∧ (digitChar d).isAlpha = false := by
    decide
  rw [h.text_eq, signText, hwhole]
  cases n.negative with
  | true => exact ⟨'-', _, rfl, rfl, rfl⟩
  | false => exact ⟨digitChar d, _, rfl, hdigit d (h.whole_lt d (hwhole ▸ List.mem_cons_self))⟩

end Numeral

/-! The digits of a number have no leading zero, so that its positions make a plain numeral. -/

theorem digitsOf_lt {n d : Nat} (h : d ∈ digitsOf n) : d < 10 := by
  obtain ⟨c, hc, rfl⟩ := List.mem_map.mp h
  exact digitValue_lt (Nat.isDigit_of_mem_toDigits (by decide) (by decide) hc)

theorem digitsOf_ne_nil (n : Nat) : digitsOf n ≠ [] :=
  fun h => Nat.toDigits_ne_nil (List.map_eq_nil_iff.mp h)

theorem digitsOf_of_lt {n : Nat} (h : n < 10) : digitsOf n = [n] := by
  rw [digitsOf, Nat.toDigits_of_lt_base h]
  revert n
  decide

theorem head?_digitsOf {n : Nat} (h : 0 < n) : ∀ d ∈ (digitsOf n).head?, 0 < d := by
  induction n using Nat.strong_induction_on with
  | _ n ih =>
    by_cases hlt : n < 10
    · rw [digitsOf_of_lt hlt]
      rintro d ⟨⟩
      exact h
    · have hle : 10 ≤ n := Nat.le_of_not_lt hlt
      have hsplit : digitsOf n = digitsOf (n / 10) ++ [digitValue (n % 10).digitChar] := by
        rw [digitsOf, Nat.toDigits_of_base_le (by decide) hle, List.map_append]
        rfl
      rw [hsplit, List.head?_append_of_ne_nil _ (digitsOf_ne_nil _)]
      exact ih (n / 10) (by omega) (by omega)

theorem digitsOf_ne_leading (n d : Nat) (ds : List Nat) : digitsOf n ≠ 0 :: d :: ds := by
  intro h
  rcases Nat.eq_zero_or_pos n with rfl | hpos
  · rw [digitsOf_of_lt (by decide)] at h
    cases h
  · exact absurd (head?_digitsOf hpos 0 (by rw [h]; rfl)) (Nat.lt_irrefl 0)

namespace Single

theorem plain_positional (negative : Bool) {n : Nat} {k : Int} (h : 0 < n ∨ k ≤ 0) :
    (positional negative (digitsOf n) k).Plain := by
  have hzeros : ∀ m, ∀ d ∈ List.replicate m 0, d < 10 := by
    intro m d hd
    rw [List.eq_of_mem_replicate hd]
    decide
  unfold positional
  dsimp only
  split_ifs with hk hplaces
  · refine ⟨fun d hd => ?_, by simp, by simp [digitsOf_ne_nil], fun d ds hwhole => ?_, rfl⟩
    · rcases List.mem_append.mp hd with hd | hd
      · exact digitsOf_lt hd
      · exact hzeros _ d hd
    · rcases h with hpos | hneg
      · have hhead : (digitsOf n).head? = some 0 := by
          rw [← List.head?_append_of_ne_nil _ (digitsOf_ne_nil n)]
          exact congrArg List.head? hwhole
        exact absurd (head?_digitsOf hpos 0 hhead) (Nat.lt_irrefl 0)
      · obtain rfl : k = 0 := Int.le_antisymm hneg hk
        exact digitsOf_ne_leading n d ds ((List.append_nil _).symm.trans hwhole)
  · refine ⟨fun d hd => digitsOf_lt (List.mem_of_mem_take hd),
      fun d hd => digitsOf_lt (List.mem_of_mem_drop hd), fun hnil => ?_, fun d ds hwhole => ?_, rfl⟩
    · have hlength := congrArg List.length hnil
      rw [List.length_take, List.length_nil] at hlength
      omega
    · have hdigits := List.take_append_drop ((digitsOf n).length - (-k).toNat) (digitsOf n)
      have htake : (digitsOf n).take ((digitsOf n).length - (-k).toNat) = 0 :: d :: ds := hwhole
      rw [htake] at hdigits
      exact digitsOf_ne_leading n d _ hdigits.symm
  · refine ⟨by simp, fun d hd => ?_, by simp, by simp, rfl⟩
    rcases List.mem_append.mp hd with hd | hd
    · exact hzeros _ d hd
    · exact digitsOf_lt hd

/-- Of two neighbours only one that is inside is taken. -/
theorem inside_of_taken {inside : Nat → Bool} {nearer : Prop} [Decidable nearer] {q d : Nat}
    {k k' : Int}
    (h : (if inside q = true ∧ nearer then some (q, k)
      else if inside (q + 1) = true then some (q + 1, k) else none) = some (d, k')) :
    inside d = true := by
  split_ifs at h with hq hq
  · cases h
    exact hq.1
  · cases h
    exact hq

theorem candidateAt_pos {m d : Nat} {e k k' : Int} (hm : 0 < m)
    (h : candidateAt m e k = some (d, k')) : 0 < d := by
  unfold candidateAt at h
  extract_lets unit num den below value low high inside q at h
  have hbelow : below ≤ 2 := by
    show (if _ then 1 else 2) ≤ 2
    split_ifs <;> decide
  have hnum : 0 < num := Nat.mul_pos (Nat.pow_pos (by decide)) (Nat.pow_pos (by decide))
  have hlow : 0 < low := Nat.mul_pos (by omega) hnum
  have hinside : (if m % 2 = 0 then decide (low ≤ d * den ∧ d * den ≤ high)
      else decide (low < d * den ∧ d * den < high)) = true := inside_of_taken h
  rcases Nat.eq_zero_or_pos d with rfl | hd
  · rw [Nat.zero_mul] at hinside
    split_ifs at hinside
    · exact absurd (of_decide_eq_true hinside).1 (Nat.not_le_of_lt hlow)
    · exact absurd (of_decide_eq_true hinside).1 (Nat.not_lt_zero low)
  · exact hd

theorem shortestDecimal_pos {m : Nat} (hm : 0 < m) (e : Int) :
    0 < (shortestDecimal m e).1 ∨ (shortestDecimal m e).2 = 0 := by
  unfold shortestDecimal
  dsimp only
  cases hfound : (List.range 16).findSome? fun i =>
      candidateAt m e (((m.log2 + e + 1) * 30103) / 100000 + 1 - (i : Nat)) with
  | none => exact .inr rfl
  | some decimal =>
    obtain ⟨i, -, hi⟩ := List.exists_of_findSome?_eq_some hfound
    exact .inl (candidateAt_pos hm hi)

theorem plain_numeral (x : Float32) : (numeral x).Plain := by
  unfold numeral
  dsimp only
  split_ifs with hm
  · exact plain_positional _ (.inr (Int.le_refl 0))
  · exact plain_positional _ ((shortestDecimal_pos (Nat.pos_of_ne_zero hm) _).imp id Int.le_of_eq)

/-- The numeral of a number in a JSON text is a plain one. -/
theorem plain_fractionNumeral (x : Float32) : (fractionNumeral x).Plain := by
  have h := plain_numeral x
  unfold fractionNumeral
  dsimp only
  split_ifs
  · exact ⟨h.whole_lt, by simp, h.whole_ne, h.leading, h.exponent_eq⟩
  · exact h

end Single

end PanelLayout
