import PanelLayout.Canvas.Basic
import PanelLayout.Proofs.Number.NotANumber

/-!
The pivots of canvas slots. Each coordinate is a fraction, whatever the style of the child says, unless
what it is read from is no number: neither a number that is none nor the word for it is held between
zero and one.
-/
namespace PanelLayout
open Single (IsFraction spellsNaN)

theorem IsSignedDecimal.isNaN_eq {s : List Char} (h : IsSignedDecimal s) {x : Float32}
    (hx : Single.ofText? s = some x) : x.isNaN = false := by
  obtain ⟨n, -, hread⟩ := h.exists_numeral
  rw [← Option.some.inj (hread.symm.trans hx)]
  exact Single.isNaN_ofNumeral n

structure FractionUnless (lost : Bool) (p : Float32) : Prop where
  isNaN_eq : p.isNaN = lost
  isFraction_iff : IsFraction p ↔ lost = false

theorem FractionUnless.of_isFraction {p : Float32} (h : IsFraction p) : FractionUnless false p :=
  ⟨h.isNaN_eq, fun _ => rfl, fun _ => h⟩

theorem Length.isNaN_of_percent {s : List Char} {x : Float32}
    (h : ofText? s = some (.amount x .percent)) : x.isNaN = false ∧ spellsNaN s = false := by
  have hspells := ofText?_eq_some_iff.mp h
  have hamount : ∀ {t : List Char}, Spells t (.amount x .percent) → x.isNaN = false := by
    intro t ht
    cases ht with
    | unit hs hx hu => exact hs.isNaN_eq hx
  constructor
  · exact hamount hspells
  -- A number that is also a length counts pixels, and this one counts percents.
  · refine Bool.eq_false_iff.mpr fun hword => ?_
    have hread := Single.ofText?_of_spellsNaN hword
    rw [Single.trim_eq_of_ofText? hread] at hspells
    cases (hspells.of_number hread).2

theorem FractionUnless.clampUnit (x : Float32) : FractionUnless x.isNaN (Single.clampUnit x) := by
  refine ⟨?_, Single.isFraction_clampUnit_iff⟩
  cases hx : x.isNaN with
  | true => rw [Single.clampUnit_of_isNaN hx, hx]
  | false => exact (Single.isFraction_clampUnit hx).isNaN_eq

namespace Canvas

theorem pivotToken?_cases (token : List Char) :
    (spellsNaN token = false ∧ ∃ p, pivotToken? token = some p ∧ IsFraction p) ∨
      pivotToken? token =
        match Length.ofText? token with
        | some (.amount x .percent) => some (Single.clampUnit (x / 100))
        | _ => (Single.ofText? token).map Single.clampUnit := by
  have hnamed : ∀ {word : String}, String.ofList token = word → spellsNaN word.toList = false →
      spellsNaN token = false := by
    intro word heq hword
    rwa [← heq, String.toList_ofList] at hword
  unfold pivotToken?
  split
  · exact .inl ⟨hnamed ‹_› (by decide), 0, rfl, by decide⟩
  · exact .inl ⟨hnamed ‹_› (by decide), 0, rfl, by decide⟩
  · exact .inl ⟨hnamed ‹_› (by decide), 0, rfl, by decide⟩
  · exact .inl ⟨hnamed ‹_› (by decide), 0.5, rfl, by decide⟩
  · exact .inl ⟨hnamed ‹_› (by decide), 0.5, rfl, by decide⟩
  · exact .inl ⟨hnamed ‹_› (by decide), 1, rfl, by decide⟩
  · exact .inl ⟨hnamed ‹_› (by decide), 1, rfl, by decide⟩
  · exact .inl ⟨hnamed ‹_› (by decide), 1, rfl, by decide⟩
  · exact .inr rfl

theorem fraction_of_token (token : List Char) :
    FractionUnless (spellsNaN token) ((pivotToken? token).getD 0) := by
  rcases pivotToken?_cases token with ⟨hspells, p, hp, hfraction⟩ | htoken
  · rw [hspells, hp]
    exact .of_isFraction hfraction
  rw [htoken]
  split
  · rename_i x hlength
    obtain ⟨hnumber, hspells⟩ := Length.isNaN_of_percent hlength
    rw [hspells, ← hnumber, ← Single.isNaN_div_hundred x]
    exact FractionUnless.clampUnit (x / 100)
  · cases hx : Single.ofText? token with
    | none =>
      have hspells : spellsNaN token = false := by
        refine Bool.eq_false_iff.mpr fun h => ?_
        rw [Single.ofText?_of_spellsNaN h] at hx
        cases hx
      rw [hspells]
      exact .of_isFraction Single.isFraction_zero
    | some x =>
      rw [← Single.isNaN_of_ofText? hx]
      exact FractionUnless.clampUnit x

def pivotOfTokens : List (List Char) → Point
  | [] => ⟨0, 0⟩
  | [token] => ⟨(pivotToken? token).getD 0, (pivotToken? token).getD 0⟩
  | x :: y :: _ => ⟨(pivotToken? x).getD 0, (pivotToken? y).getD 0⟩

theorem pivotOfValue_eq {v : Value} (hv : ∀ x, v ≠ .number x) :
    pivotOfValue v = pivotOfTokens (Text.words v.keyword.toList) := by
  unfold pivotOfValue
  split
  · exact absurd rfl (hv _)
  · split <;> simp only [*, pivotOfTokens]

def lostTokens : List (List Char) → Bool × Bool
  | [] => (false, false)
  | [token] => (spellsNaN token, spellsNaN token)
  | x :: y :: _ => (spellsNaN x, spellsNaN y)

/-- Which coordinates the value of a pivot loses. Of a margin the first two sides count. -/
def lostBy : Value → Bool × Bool
  | .number x => (x.isNaN, x.isNaN)
  | .text s => lostTokens (Text.words s.toList)
  | .spacing m => (m.top.isNaN, m.right.isNaN)

theorem lostTokens_fold (tokens : List (List Char)) :
    lostTokens (tokens.map Text.fold) = lostTokens tokens := by
  rcases tokens with _ | ⟨x, _ | ⟨y, rest⟩⟩
  · rfl
  · simp only [List.map_cons, List.map_nil, lostTokens, Single.spellsNaN_fold]
  · simp only [List.map_cons, lostTokens, Single.spellsNaN_fold]

theorem words_display_spacing (m : Margin) : Text.words (Value.spacing m).display.toList =
    [(Single.text m.top).toList, (Single.text m.right).toList, (Single.text m.bottom).toList,
      (Single.text m.left).toList] := by
  have hblank : Text.isBlank ' ' = true := rfl
  have hdisplay : (Value.spacing m).display.toList = (Single.text m.top).toList ++
      ' ' :: ((Single.text m.right).toList ++ ' ' :: ((Single.text m.bottom).toList ++
        ' ' :: (Single.text m.left).toList)) := by
    simp [Value.display, String.intercalate_cons_cons, String.intercalate_singleton]
  rw [hdisplay, Text.words_append_cons hblank, Text.words_append_cons hblank,
    Text.words_append_cons hblank, Single.words_text, Single.words_text, Single.words_text,
    Single.words_text]
  rfl

theorem lostBy_eq {v : Value} (hv : ∀ x, v ≠ .number x) :
    lostBy v = lostTokens (Text.words v.keyword.toList) := by
  cases v with
  | number x => exact absurd rfl (hv x)
  -- The keyword is in lower case, which makes no other token the word for no number.
  | text s =>
    have hwords : Text.words (Value.text s).keyword.toList = (Text.words s.toList).map Text.fold := by
      rw [Value.keyword, String.toList_ofList, Text.words_keyword]
    rw [hwords, lostTokens_fold]
    rfl
  | spacing m =>
    have hwords := words_display_spacing m
    show _ = lostTokens (Text.words (Value.spacing m).display.toList)
    rw [hwords, lostTokens, Single.spellsNaN_text, Single.spellsNaN_text]
    rfl

theorem fraction_of_tokens (tokens : List (List Char)) :
    FractionUnless (lostTokens tokens).1 (pivotOfTokens tokens).x ∧
      FractionUnless (lostTokens tokens).2 (pivotOfTokens tokens).y := by
  rcases tokens with _ | ⟨x, _ | ⟨y, rest⟩⟩
  · exact ⟨.of_isFraction Single.isFraction_zero, .of_isFraction Single.isFraction_zero⟩
  · exact ⟨fraction_of_token x, fraction_of_token x⟩
  · exact ⟨fraction_of_token x, fraction_of_token y⟩

theorem fraction_of_value (v : Value) :
    FractionUnless (lostBy v).1 (pivotOfValue v).x ∧ FractionUnless (lostBy v).2 (pivotOfValue v).y := by
  by_cases hv : ∃ x, v = .number x
  · obtain ⟨x, rfl⟩ := hv
    exact ⟨.clampUnit x, .clampUnit x⟩
  · have hv : ∀ x, v ≠ .number x := not_exists.mp hv
    rw [lostBy_eq hv, pivotOfValue_eq hv]
    exact fraction_of_tokens _

/-- Both coordinates of the pivot of a child are fractions, unless the value that it is read from loses
them. -/
theorem slot_pivot (u : CssUnits) (canvas : Canvas) (style : Style) :
    let p := (canvas.slot u style).pivot
    let lost := (((style.get .anchorAlign).or (style.get .anchorPivot)).map lostBy).getD (false, false)
    (p.x.isNaN = lost.1 ∧ (IsFraction p.x ↔ lost.1 = false)) ∧
      p.y.isNaN = lost.2 ∧ (IsFraction p.y ↔ lost.2 = false) := by
  intro p lost
  have hpivot : p = pivot style := by
    simp only [p, slot]
    split_ifs <;> rfl
  have hboth : FractionUnless lost.1 p.x ∧ FractionUnless lost.2 p.y := by
    rw [hpivot]
    simp only [pivot, lost]
    cases (style.get .anchorAlign).or (style.get .anchorPivot) with
    | none => exact ⟨.of_isFraction Single.isFraction_zero, .of_isFraction Single.isFraction_zero⟩
    | some v => exact fraction_of_value v
  exact ⟨⟨hboth.1.isNaN_eq, hboth.1.isFraction_iff⟩, hboth.2.isNaN_eq, hboth.2.isFraction_iff⟩

example : lostBy (.text "50% -NaN") = (false, true) ∧ pivotOfValue (.text "50% 3") = ⟨0.5, 1⟩ := by
  decide +kernel

/-- Not every pivot is made of fractions: the word for no number loses both coordinates. -/
theorem not_forall_isFraction_pivot :
    ¬∀ (u : CssUnits) (canvas : Canvas) (style : Style),
      IsFraction (canvas.slot u style).pivot.x ∧ IsFraction (canvas.slot u style).pivot.y := by
  intro h
  have hfraction := (h .standard ⟨⟨0, 0⟩, none⟩ (Style.empty.set .anchorPivot (.text "nan"))).1
  have hnan : ((slot .standard ⟨⟨0, 0⟩, none⟩
      (Style.empty.set .anchorPivot (.text "nan"))).pivot.x).isNaN = true := by decide +kernel
  rw [hfraction.isNaN_eq] at hnan
  cases hnan

end Canvas

end PanelLayout
