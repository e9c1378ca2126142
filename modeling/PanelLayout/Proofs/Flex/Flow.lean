import PanelLayout.Flex.Basic
import PanelLayout.Proofs.Style.Hiding
import PanelLayout.Proofs.Text.Words

/-!
The shorthand for the direction and the wrapping of a flex container. It says the same as the properties
of the two, but for the reversed wrapping, which is no wrapping in the shorthand.
-/
namespace PanelLayout

def Text.IsPair (first second : String) (s : List Char) : Prop :=
  ∃ before a between b after, IsBlanks before ∧ isWord first a = true ∧ IsBlanks between ∧
    between ≠ [] ∧ isWord second b = true ∧ IsBlanks after ∧
    s = before ++ (a ++ between ++ b) ++ after

theorem Text.IsPair.words_keyword {first second : String} {s : List Char}
    (h : IsPair first second s) :
    words (keyword s) = words first.toList ++ words second.toList := by
  obtain ⟨before, a, between, b, after, hbefore, ha, hbetween, hne, hb, hafter, rfl⟩ := h
  have hfirst := fold_eq_of_isWord ha
  have hsecond := fold_eq_of_isWord hb
  rw [Text.words_keyword, words_append_blanks _ hafter, words_blanks_append hbefore,
    words_append_blanks_append hbetween hne, List.map_append, ← words_fold, ← words_fold, hfirst,
    hsecond]

inductive FlexDirection where
  | row
  | rowReverse
  | column
  | columnReverse
  deriving DecidableEq, Repr

def FlexDirection.word : FlexDirection → String
  | row => "row"
  | rowReverse => "row-reverse"
  | column => "column"
  | columnReverse => "column-reverse"

inductive FlexWrap where
  | noWrap
  | wrap
  | wrapReverse
  deriving DecidableEq, Repr

def FlexWrap.word : FlexWrap → String
  | noWrap => "nowrap"
  | wrap => "wrap"
  | wrapReverse => "wrap-reverse"

namespace Flex

def longhands (d : FlexDirection) (w : FlexWrap) (s : Style) : Style :=
  ((s.without [.flexFlow]).set .flexDirection (.text d.word)).set .flexWrap (.text w.word)

def IsFlow (d : FlexDirection) (w : FlexWrap) (s : List Char) : Prop :=
  Text.IsPair d.word w.word s ∨ Text.IsPair w.word d.word s

section
variable {d : FlexDirection} {w : FlexWrap} {t : List Char}

theorem IsFlow.words_keyword (h : IsFlow d w t) :
    Text.words (Text.keyword t) = [d.word.toList, w.word.toList] ∨
      Text.words (Text.keyword t) = [w.word.toList, d.word.toList] := by
  have hd : Text.words d.word.toList = [d.word.toList] := by cases d <;> decide
  have hw : Text.words w.word.toList = [w.word.toList] := by cases w <;> decide
  rcases h with h | h
  · exact .inl (by rw [h.words_keyword, hd, hw]; rfl)
  · exact .inr (by rw [h.words_keyword, hd, hw]; rfl)

theorem find?_flow {flow : List (List Char)}
    (h : flow = [d.word.toList, w.word.toList] ∨ flow = [w.word.toList, d.word.toList]) :
    (flow.find? fun t => "row".toList.isPrefixOf t || "column".toList.isPrefixOf t) =
        some d.word.toList ∧
      (flow.find? fun t => "wrap".toList.isSuffixOf t) =
        if w = .wrapReverse then none else some w.word.toList := by
  rcases h with rfl | rfl <;> cases d <;> cases w <;> decide

def flowProperties : List Property := [.flexFlow, .flexDirection, .flexWrap]

theorem longhands_without (d : FlexDirection) (w : FlexWrap) (s : Style) :
    (longhands d w s).without flowProperties = s.without flowProperties := by
  refine (Style.agreeOff_iff.mp fun p hp => ?_).symm
  simp only [flowProperties, List.mem_cons, List.not_mem_nil, or_false, not_or] at hp
  obtain ⟨hflow, hdirection, hwrap⟩ := hp
  simp [longhands, Style.without, hflow, hdirection, hwrap]

theorem gaps_longhands (u : CssUnits) (d : FlexDirection) (w : FlexWrap) (s : Style) :
    u.gaps (longhands d w s) = u.gaps s := by
  have hgaps : ∀ r : Style, u.gaps (r.without flowProperties) = u.gaps r := fun r =>
    CssUnits.gaps_without (by decide) u r (by decide) (by decide) (by decide)
  rw [← hgaps, longhands_without, hgaps]

theorem align?_longhands {p : Property} (hp : p ∉ flowProperties) (d : FlexDirection) (w : FlexWrap)
    (s : Style) : (longhands d w s).align? p = s.align? p := by
  rw [← Style.align?_without hp, longhands_without, Style.align?_without hp]

theorem direction_longhands (s : Style) (flow : List (List Char)) :
    direction (longhands d w s) flow = d.word.toList := by
  have hdirection : (longhands d w s).keyword? .flexDirection = some d.word := by
    show some (Value.keyword (.text d.word)) = _
    cases d <;> decide
  rw [direction, hdirection]
  rfl

theorem wrapping?_longhands (s : Style) (flow : List (List Char)) :
    wrapping? (longhands d w s) flow = some w.word.toList := by
  have hwrap : (longhands d w s).keyword? .flexWrap = some w.word := by
    show some (Value.keyword (.text w.word)) = _
    cases w <;> decide
  rw [wrapping?, hwrap]
  rfl

theorem isWrap_longhands (u : CssUnits) (s : Style) :
    (ofStyle u (longhands d w s)).isWrap = decide (w ≠ .noWrap) := by
  simp only [ofStyle, wrapping?_longhands]
  cases w <;> decide

theorem eq_iff_of_isWrap (f : Flex) (b : Bool) : { f with isWrap := b } = f ↔ b = f.isWrap := by
  constructor
  · intro h
    exact congrArg isWrap h
  · rintro rfl
    rfl

theorem panel_eq_iff_of_isWrap (f : Flex) (b : Bool) :
    panel { f with isWrap := b } = f.panel ↔ b = f.isWrap := by
  constructor
  · obtain ⟨isRow, isReverse, isWrap, gaps, justifyContent, alignItems⟩ := f
    intro h
    cases b <;> cases isWrap <;> cases isRow <;> first | rfl | cases h
  · rintro rfl
    rfl

section
variable {s : Style} {t : String} (hdirection : s.get .flexDirection = none)
  (hwrap : s.get .flexWrap = none) (hflow : s.get .flexFlow = some (.text t))
  (ht : IsFlow d w t.toList)
include hdirection hwrap hflow ht

theorem ofStyle_flow (u : CssUnits) :
    ofStyle u s = { ofStyle u (longhands d w s) with isWrap := w = .wrap } := by
  have hwords : Text.words ((s.keyword? .flexFlow).getD "").toList =
      Text.words (Text.keyword t.toList) := by
    rw [Style.keyword?, hflow, Option.map_some, Option.getD_some, Value.keyword, String.toList_ofList]
  obtain ⟨hfindDirection, hfindWrap⟩ := find?_flow ht.words_keyword
  have hdirection : direction s (Text.words (Text.keyword t.toList)) = d.word.toList := by
    rw [direction, Style.keyword?, hdirection, hfindDirection]
    rfl
  have hwrapping : wrapping? s (Text.words (Text.keyword t.toList)) =
      if w = .wrapReverse then none else some w.word.toList := by
    rw [wrapping?, Style.keyword?, hwrap, hfindWrap]
    rfl
  have hisWrap : (decide ((if w = .wrapReverse then none else some w.word.toList) =
        some "wrap".toList) || decide ((if w = .wrapReverse then none else some w.word.toList) =
          some "wrap-reverse".toList)) = decide (w = .wrap) := by
    cases w <;> decide
  simp only [ofStyle, hwords, hdirection, hwrapping, hisWrap, direction_longhands, gaps_longhands,
    align?_longhands (p := .justifyContent) (by decide), align?_longhands (p := .alignItems) (by decide)]

/-- A style with the shorthand is read as the same style with the two properties, and gets the same
panel, exactly if the wrapping is not reversed. A reversed wrapping is the only difference. -/
theorem ofStyle_flow_eq_iff (u : CssUnits) :
    ofStyle u s = { ofStyle u (longhands d w s) with isWrap := w = .wrap } ∧
      (ofStyle u s = ofStyle u (longhands d w s) ↔ w ≠ .wrapReverse) ∧
      ((ofStyle u s).panel = (ofStyle u (longhands d w s)).panel ↔ w ≠ .wrapReverse) := by
  have hshort := ofStyle_flow hdirection hwrap hflow ht u
  have hsame : decide (w = .wrap) = (ofStyle u (longhands d w s)).isWrap ↔ w ≠ .wrapReverse := by
    rw [isWrap_longhands]
    cases w <;> decide
  refine ⟨hshort, ?_, ?_⟩
  · rw [hshort, eq_iff_of_isWrap, hsame]
  · rw [hshort, panel_eq_iff_of_isWrap, hsame]

end

end

theorem ofStyle_flow_eq_iff_wrapped :
    let s := (Style.empty.set .flexFlow (.text " Wrap \t ROW-reverse\n")).set .gap (.text "4px 8px")
    s.get .flexDirection = none ∧ s.get .flexWrap = none ∧
      s.get .flexFlow = some (.text " Wrap \t ROW-reverse\n") ∧
      IsFlow .rowReverse .wrap " Wrap \t ROW-reverse\n".toList ∧
      ofStyle .standard s = ofStyle .standard (longhands .rowReverse .wrap s) ∧
      (ofStyle .standard s).panel = .wrapBox ⟨.rightToLeft, .horizontal, ⟨8, 4⟩⟩ := by
  intro s
  have hflow : IsFlow .rowReverse .wrap " Wrap \t ROW-reverse\n".toList := by
    refine .inr ⟨" ".toList, "Wrap".toList, " \t ".toList, "ROW-reverse".toList, "\n".toList, ?_⟩
    decide
  have hget : s.get .flexFlow = some (.text " Wrap \t ROW-reverse\n") := rfl
  obtain ⟨-, hstate, hpanel⟩ := ofStyle_flow_eq_iff rfl rfl hget hflow .standard
  refine ⟨rfl, rfl, hget, hflow, hstate.mpr (by decide), ?_⟩
  rw [hpanel.mpr (by decide)]
  decide +kernel

/-- The shorthand for a row that wraps in reverse is read as a row that does not wrap. -/
theorem not_forall_ofStyle_flow_eq :
    ¬∀ (u : CssUnits) (s : Style) (d : FlexDirection) (w : FlexWrap) (t : String),
      s.get .flexDirection = none → s.get .flexWrap = none → s.get .flexFlow = some (.text t) →
      IsFlow d w t.toList → ofStyle u s = ofStyle u (longhands d w s) := by
  intro h
  have hflow : IsFlow .row .wrapReverse "row wrap-reverse".toList := by
    refine .inl ⟨[], "row".toList, [' '], "wrap-reverse".toList, [], ?_⟩
    decide
  have hequal := h .standard (Style.empty.set .flexFlow (.text "row wrap-reverse")) .row .wrapReverse _
    rfl rfl rfl hflow
  exact absurd hequal (by decide +kernel)

end Flex

end PanelLayout
