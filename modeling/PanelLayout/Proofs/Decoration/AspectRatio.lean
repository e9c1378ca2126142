import PanelLayout.Decoration.Wrapper
import PanelLayout.Proofs.Length.Grammar
import PanelLayout.Proofs.Number.NotANumber

/-!
The ratio of width to height. A box of fixed size and a child of a canvas read it from a style alike and
want it above zero; the canvas also wants it finite, so that the two differ where it is infinite.
-/
namespace PanelLayout

/-- The texts of a ratio, without blanks around them: a number, or two with a slash and any blanks
between them. -/
inductive SpellsRatio : List Char → Float32 → Prop
  | number {s : List Char} (hs : IsSignedDecimal s) {x : Float32} (hx : Single.ofText? s = some x) :
      SpellsRatio s x
  | quotient {s : List Char} (hs : IsSignedDecimal s) {x : Float32} (hx : Single.ofText? s = some x)
      {before after : List Char} (hbefore : ∀ c ∈ before, Text.isSpacing c = true)
      (hafter : ∀ c ∈ after, Text.isSpacing c = true)
      {t : List Char} (ht : IsSignedDecimal t) {y : Float32} (hy : Single.ofText? t = some y) :
      SpellsRatio (s ++ (before ++ '/' :: (after ++ t))) (if y != 0 then x / y else 0)

theorem IsNumber.dropWhile_isSpacing {s : List Char} {x : Float32} (h : IsNumber s x) :
    s.dropWhile Text.isSpacing = s :=
  Text.dropWhile_eq_self fun _ hc =>
    Text.isSpacing_eq_false (h.isBlank_eq (List.mem_of_mem_head? hc))

theorem SpellsRatio.scanRatio_eq {s : List Char} {r : Float32} (h : SpellsRatio s r) :
    scanRatio s = some (r, []) := by
  cases h with
  | number hs hx =>
    have hscan : scanNumber s = some (r, []) := hs.isNumber hx
    rw [scanRatio, hscan]
    rfl
  | @quotient s hs x hx before after hbefore hafter t ht y hy =>
    have hnumber := ht.isNumber hy
    have hends : ∀ c ∈ (before ++ '/' :: (after ++ t)).head?, c.isDigit = false ∧ c ≠ '.' := by
      intro c hc
      cases before with
      | nil =>
        cases hc
        decide
      | cons b before =>
        cases hc
        have hcases := Text.isSpacing_cases (hbefore c List.mem_cons_self)
        exact ⟨hcases.2.1, hcases.2.2.1⟩
    have hslash : (before ++ '/' :: (after ++ t)).dropWhile Text.isSpacing = '/' :: (after ++ t) :=
      Text.dropWhile_append_eq hbefore (by rintro c ⟨⟩; rfl)
    have hdenominator : scanNumber ((after ++ t).dropWhile Text.isSpacing) = some (y, []) := by
      rw [List.dropWhile_append_of_pos hafter, hnumber.dropWhile_isSpacing]
      exact hnumber
    rw [scanRatio, (hs.isNumber hx).scanNumber_append hends, Option.map_some]
    simp only [hslash, hdenominator]

theorem spellsRatio_of_scanRatio {s : List Char} {r : Float32} (h : scanRatio s = some (r, [])) :
    SpellsRatio s r := by
  obtain ⟨⟨x, rest⟩, hnumber, hr⟩ := Option.map_eq_some_iff.mp h
  obtain ⟨n, rfl, hn, hx⟩ := exists_of_scanNumber hnumber
  obtain ⟨before, tail, rfl, hbefore, htail⟩ := Text.exists_cut Text.isSpacing rest
  dsimp only at hr
  rw [Text.dropWhile_append_eq hbefore htail] at hr
  split at hr
  · rename_i t
    obtain ⟨after, digits, rfl, hafter, hdigits⟩ := Text.exists_cut Text.isSpacing t
    rw [Text.dropWhile_append_eq hafter hdigits] at hr
    split at hr
    · rename_i y rest hdenominator
      obtain ⟨rfl, rfl⟩ := Prod.mk.inj hr
      obtain ⟨d, rfl, hd, hy⟩ := exists_of_scanNumber hdenominator
      rw [List.append_nil]
      exact .quotient hn hx hbefore hafter hd hy
    · simp at hr
  · obtain ⟨rfl, hrest⟩ := Prod.mk.inj hr
    rw [hrest, List.append_nil]
    exact .number hn hx

theorem scanRatio_eq_iff {s : List Char} {r : Float32} :
    scanRatio s = some (r, []) ↔ SpellsRatio s r :=
  ⟨spellsRatio_of_scanRatio, SpellsRatio.scanRatio_eq⟩

/-- A number is a ratio as it stands, a text is what it spells between blanks, and a margin is none. -/
def Value.HasRatio : Value → Float32 → Prop
  | .number x, r => x = r
  | .text s, r => SpellsRatio (Text.trim s.toList) r
  | .spacing _, _ => False

theorem Value.ratio?_eq_some_iff {v : Value} {r : Float32} : v.ratio? = some r ↔ v.HasRatio r := by
  cases v with
  | number x => exact Option.some_inj
  | text s => exact Length.complete?_eq_some_iff.trans scanRatio_eq_iff
  | spacing m => exact iff_of_false (Option.some_ne_none r).symm id

theorem Canvas.aspectRatio?_eq (v : Value) :
    aspectRatio? v = v.ratio?.filter fun r => r.isFinite && 0 < r := by
  cases v with
  | text s => rw [aspectRatio?, Length.complete?_trim, Value.ratio?]
  | _ => rfl

theorem Canvas.aspectRatio?_eq_some_iff {v : Value} {r : Float32} :
    aspectRatio? v = some r ↔ v.HasRatio r ∧ 0 < r ∧ r.isFinite = true := by
  rw [aspectRatio?_eq, Option.filter_eq_some_iff, Value.ratio?_eq_some_iff, Bool.and_eq_true,
    decide_eq_true_eq, and_comm (a := r.isFinite = true)]

namespace SizeBox
variable (u : CssUnits) (style : Style) (b : SizeBox)

theorem ratio_configure_eq_some_iff {r : Float32} :
    (configure u style b).ratio = some r ↔ (∃ v ∈ style.get .aspectRatio, v.HasRatio r) ∧ 0 < r := by
  show ((style.get .aspectRatio).bind Value.ratio?).filter _ = some r ↔ _
  rw [Option.filter_eq_some_iff, Option.bind_eq_some_iff, decide_eq_true_eq]
  simp only [Value.ratio?_eq_some_iff, Option.mem_def]

theorem canvas_eq_some_iff {r : Float32} :
    (style.get .aspectRatio).bind Canvas.aspectRatio? = some r ↔
      (configure u style b).ratio = some r ∧ r.isFinite = true := by
  simp only [ratio_configure_eq_some_iff, Option.bind_eq_some_iff, Canvas.aspectRatio?_eq_some_iff,
    Option.mem_def]
  constructor
  · rintro ⟨v, hv, hratio, hpos, hfinite⟩
    exact ⟨⟨⟨v, hv, hratio⟩, hpos⟩, hfinite⟩
  · rintro ⟨⟨⟨v, hv, hratio⟩, hpos⟩, hfinite⟩
    exact ⟨v, hv, hratio, hpos, hfinite⟩

/-- A box and a child of a canvas that have the same style want the same ratio above zero, whether it is
given by a number or by a text, unless this ratio is infinite: a box keeps it, and a canvas does not. -/
theorem ratio_eq_canvas_iff :
    let box := (configure u style b).ratio
    let canvas := (style.get .aspectRatio).bind Canvas.aspectRatio?
    (∀ r, box = some r ↔ (∃ v ∈ style.get .aspectRatio, v.HasRatio r) ∧ 0 < r) ∧
      (∀ r, canvas = some r ↔ box = some r ∧ r.isFinite = true) ∧
      (box = canvas ↔ ¬∃ v ∈ style.get .aspectRatio, v.HasRatio Single.infinity) := by
  intro box canvas
  have hbox : ∀ r, box = some r ↔ (∃ v ∈ style.get .aspectRatio, v.HasRatio r) ∧ 0 < r :=
    fun r => ratio_configure_eq_some_iff u style b
  have hcanvas : ∀ r, canvas = some r ↔ box = some r ∧ r.isFinite = true :=
    fun r => canvas_eq_some_iff u style b
  refine ⟨hbox, hcanvas, ?_, ?_⟩
  · intro hsame hinfinite
    have hkept := (hbox Single.infinity).mpr ⟨hinfinite, Single.zero_lt_infinity⟩
    have hfinite := ((hcanvas Single.infinity).mp (hsame.symm.trans hkept)).2
    rw [Single.isFinite_infinity] at hfinite
    cases hfinite
  · intro hnot
    refine Option.ext fun r => (hcanvas r).trans (and_iff_left_of_imp fun hr => ?_) |>.symm
    obtain ⟨hratio, hpos⟩ := (hbox r).mp hr
    by_contra hinfinite
    obtain rfl := Single.eq_infinity_of_pos hpos (Bool.eq_false_iff.mpr hinfinite)
    exact hnot hratio

example : Canvas.aspectRatio? (.text "16 / 9") = some (16 / 9) ∧
    Canvas.aspectRatio? (.text "1/-.0") = none := by decide +kernel

/-- A box and a canvas do not want the same of every ratio: one with too many digits is infinite. -/
theorem not_forall_ratio_eq_canvas :
    ¬∀ (u : CssUnits) (style : Style) (b : SizeBox) (v : Value), style.get .aspectRatio = some v →
      (configure u style b).ratio = Canvas.aspectRatio? v := by
  intro h
  let v : Value := .text "1000000000000000000000000000000000000000"
  have hsame := h .standard (Style.empty.set .aspectRatio v) .initial v rfl
  have hbox : (configure .standard (Style.empty.set .aspectRatio v) .initial).ratio =
      some Single.infinity := by decide +kernel
  have hcanvas : Canvas.aspectRatio? v = none := by decide +kernel
  rw [hbox, hcanvas] at hsame
  cases hsame

end SizeBox

end PanelLayout
