import PanelLayout.Proofs.Length.Grammar

/-!
Which numbers are lengths. The reader of numbers takes exponents, points without a digit behind them
and words, the reader of lengths only signed decimals; a text that both take is a signed decimal.
-/
namespace PanelLayout

namespace Single

def alphabet : List Char := "0123456789+-.einftya".toList

theorem toLower_mem_alphabet {c : Char} (h : c ∈ Numeral.alphabet) : c.toLower ∈ alphabet := by
  have hall : Numeral.alphabet.Forall (· ∈ alphabet) := by decide
  rw [Numeral.toLower_of_mem_alphabet h]
  exact List.forall_iff_forall_mem.mp hall c h

theorem mem_of_tail? {s : List Char} {e : Option Int} (h : Numeral.tail? s = some e) {c : Char}
    (hc : c ∈ s) : c.toLower ∈ alphabet := by
  cases s with
  | nil => exact absurd hc List.not_mem_nil
  | cons d s =>
    rw [Numeral.tail?] at h
    split_ifs at h with hd
    rcases List.mem_cons.mp hc with rfl | hc
    · rw [hd]
      decide
    · refine toLower_mem_alphabet ?_
      obtain ⟨i, hi, -⟩ := Option.map_eq_some_iff.mp h
      simp only [Numeral.exponent?] at hi
      refine (Numeral.mem_scanSign hc).elim id fun hc => (Numeral.mem_scanDigits hc).elim id fun hc => ?_
      split at hi
      · cases hi
      · rename_i hdigits
        rw [hdigits] at hc
        exact absurd hc List.not_mem_nil
      · cases hi

theorem mem_of_numeral {s : List Char} {n : Numeral} (h : Numeral.ofText? s = some n) {c : Char}
    (hc : c ∈ s) : c.toLower ∈ alphabet := by
  rcases Numeral.mem_scanSign hc with hc | hc
  · exact toLower_mem_alphabet hc
  rcases Numeral.mem_scanDigits hc with hc | hc
  · exact toLower_mem_alphabet hc
  simp only [Numeral.ofText?] at h
  split_ifs at h with hdigits
  obtain ⟨e, he, -⟩ := Option.map_eq_some_iff.mp h
  revert he hc
  generalize (Numeral.scanDigits (Numeral.scanSign s).2).2 = r
  intro hc he
  split at he
  · rcases List.mem_cons.mp hc with rfl | hc
    · decide
    · rcases Numeral.mem_scanDigits hc with hc | hc
      · exact toLower_mem_alphabet hc
      · exact mem_of_tail? he hc
  · exact mem_of_tail? he hc

theorem exists_of_ofWord? {s : List Char} {x : Float32} (h : ofWord? s = some x) :
    ∃ word ∈ ["inf", "infinity", "nan"], Text.isWord word (Numeral.scanSign s).2 = true ∧
      (x = nan ∧ word = "nan" ∨ (x = infinity ∨ x = -infinity) ∧ word ≠ "nan") := by
  have hword : ∀ {word : String}, String.ofList ((Numeral.scanSign s).2.map Char.toLower) = word →
      Text.isWord word (Numeral.scanSign s).2 = true := by
    intro word heq
    exact Text.isWord_of_fold_eq (by rw [← heq, String.toList_ofList]; rfl)
  have hinfinity : ∀ {y : Float32},
      some (if (Numeral.scanSign s).1 = true then -infinity else infinity) = some y →
        y = infinity ∨ y = -infinity := by
    rintro y ⟨⟩
    split_ifs
    · exact .inr rfl
    · exact .inl rfl
  simp only [ofWord?] at h
  split at h
  · exact ⟨"inf", by simp, hword ‹_›, .inr ⟨hinfinity h, by decide⟩⟩
  · exact ⟨"infinity", by simp, hword ‹_›, .inr ⟨hinfinity h, by decide⟩⟩
  · exact ⟨"nan", by simp, hword ‹_›, .inl ⟨(Option.some.inj h).symm, rfl⟩⟩
  · cases h

theorem mem_of_ofWord? {s : List Char} {x : Float32} (h : ofWord? s = some x) {c : Char}
    (hc : c ∈ s) : c.toLower ∈ alphabet := by
  have hletters : ["inf", "infinity", "nan"].Forall (·.toList.Forall (· ∈ alphabet)) := by decide
  rcases Numeral.mem_scanSign hc with hc | hc
  · exact toLower_mem_alphabet hc
  · obtain ⟨word, hmem, hword, -⟩ := exists_of_ofWord? h
    have hword := Text.mem_of_isWord hword hc
    exact List.forall_iff_forall_mem.mp (List.forall_iff_forall_mem.mp hletters word hmem) _ hword

theorem mem_of_ofText? {s : List Char} {x : Float32} (h : ofText? s = some x) {c : Char}
    (hc : c ∈ s) : c.toLower ∈ alphabet := by
  rw [ofText?] at h
  cases hnumeral : Numeral.ofText? s with
  | some n => exact mem_of_numeral hnumeral hc
  | none =>
    rw [hnumeral] at h
    exact mem_of_ofWord? h hc

theorem trim_eq_of_ofText? {s : List Char} {x : Float32} (h : ofText? s = some x) :
    Text.trim s = s := by
  have hvisible : alphabet.Forall (Text.isBlank · = false) := by decide
  refine Text.trim_eq_self fun c hc => ?_
  rw [← Text.isBlank_toLower]
  exact List.forall_iff_forall_mem.mp hvisible _ (mem_of_ofText? h hc)

end Single

theorem LengthUnit.not_forall_mem_alphabet (unit : LengthUnit) :
    ¬unit.spelling.toList.Forall (· ∈ Single.alphabet) := by
  cases unit <;> decide

namespace Length

theorem not_number_of_isWord {word : String} {s t : List Char} (hs : Text.isWord word s = true)
    (hword : ¬word.toList.Forall (· ∈ Single.alphabet)) : Single.ofText? (t ++ s) = none := by
  refine Option.eq_none_iff_forall_ne_some.mpr fun x hx => hword ?_
  rw [← Text.fold_eq_of_isWord hs, List.forall_iff_forall_mem]
  intro c hc
  obtain ⟨d, hd, rfl⟩ := List.mem_map.mp hc
  exact Single.mem_of_ofText? hx (List.mem_append_right t hd)

theorem Spells.of_number {s : List Char} {l : Length} (h : Spells s l) {x : Float32}
    (hx : Single.ofText? s = some x) : IsSignedDecimal s ∧ l = px x := by
  cases h with
  | auto hs =>
    have hnone := not_number_of_isWord hs (t := []) (by decide)
    rw [List.nil_append, hx] at hnone
    cases hnone
  | bare hs hy =>
    rw [hy] at hx
    exact ⟨hs, congrArg px (Option.some.inj hx)⟩
  | @unit _ hs _ hy unit u hu =>
    rw [not_number_of_isWord hu unit.not_forall_mem_alphabet] at hx
    cases hx

theorem complete?_trim {α : Type} (scan : List Char → Option (α × List Char)) (s : List Char) :
    complete? scan (Text.trim s) = complete? scan s := by
  rw [complete?, complete?, complete, complete, Text.trim_trim]

theorem ofText?_trim (s : List Char) : ofText? (Text.trim s) = ofText? s := complete?_trim scan s

theorem ofText?_of_number {s : List Char} {x : Float32} (hx : Single.ofText? (Text.trim s) = some x) :
    (IsSignedDecimal (Text.trim s) → ofText? s = some (px x)) ∧
    (¬IsSignedDecimal (Text.trim s) → ofText? s = none) := by
  refine ⟨fun hs => ofText?_eq_some_iff.mpr (.bare hs hx), fun hs => ?_⟩
  refine Option.eq_none_iff_forall_ne_some.mpr fun l hl => hs ?_
  exact ((ofText?_eq_some_iff.mp hl).of_number hx).1

end Length

end PanelLayout
