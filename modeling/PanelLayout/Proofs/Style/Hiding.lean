import PanelLayout.Alignment.Keyword
import PanelLayout.Style.Spacing

/-!
Styles with some properties hidden. A reading that looks at no hidden property does not tell such a
style from the whole one.
-/
namespace PanelLayout

namespace Style

def without (hidden : List Property) (s : Style) : Style :=
  ⟨fun p => if p ∈ hidden then none else s.get p⟩

def AgreeOff (hidden : List Property) (s t : Style) : Prop :=
  ∀ p, p ∉ hidden → s.get p = t.get p

variable {hidden : List Property} {p : Property}

theorem agreeOff_iff {s t : Style} : AgreeOff hidden s t ↔ s.without hidden = t.without hidden := by
  refine ⟨fun h => ?_, fun h p hp => ?_⟩
  · ext1
    funext p
    by_cases hp : p ∈ hidden
    · simp [without, hp]
    · simpa [without, hp] using h p hp
  · have hget : (s.without hidden).get p = (t.without hidden).get p := by rw [h]
    simpa [without, hp] using hget

theorem AgreeOff.trans {s t r : Style} (h : AgreeOff hidden s t) (h' : AgreeOff hidden t r) :
    AgreeOff hidden s r :=
  fun q hq => (h q hq).trans (h' q hq)

theorem agreeOff_set (hp : p ∈ hidden) (s : Style) (v : Value) : AgreeOff hidden s (s.set p v) := by
  intro q hq
  have hne : q ≠ p := fun h => hq (h ▸ hp)
  rw [get_set, if_neg hne]

theorem without_merge (old changed : Style) :
    (old.merge changed).without hidden = (old.without hidden).merge (changed.without hidden) := by
  ext1
  funext p
  by_cases hp : p ∈ hidden <;> simp [without, merge, hp]

theorem get_without (hp : p ∉ hidden) (s : Style) : (s.without hidden).get p = s.get p := if_neg hp

theorem keyword?_without (hp : p ∉ hidden) (s : Style) :
    (s.without hidden).keyword? p = s.keyword? p := by
  rw [keyword?, keyword?, get_without hp]

theorem definite?_without (hp : p ∉ hidden) (s : Style) :
    (s.without hidden).definite? p = s.definite? p := by
  rw [definite?, definite?, get_without hp]

theorem isSet_without (hp : p ∉ hidden) (s : Style) :
    (s.without hidden).isSet p = s.isSet p := by
  rw [isSet, isSet, definite?_without hp]

theorem align?_without (hp : p ∉ hidden) (s : Style) :
    (s.without hidden).align? p = s.align? p := by
  rw [align?, align?, get_without hp]

theorem alignPair_without (hp : p ∉ hidden) (s : Style) :
    (s.without hidden).alignPair p = s.alignPair p := by
  rw [alignPair, alignPair, get_without hp]

end Style

namespace CssUnits
variable {hidden : List Property} (hfont : Property.fontSize ∉ hidden) (u : CssUnits) (s : Style)
include hfont

theorem fontSize_without : u.fontSize (s.without hidden) = u.fontSize s := by
  rw [fontSize, fontSize, Style.get_without hfont]

theorem resolve_without : u.resolve (s.without hidden) = u.resolve s := by
  funext reference l
  unfold resolve
  rw [u.fontSize_without hfont]

theorem pixels_without : u.pixels (s.without hidden) = u.pixels s := by
  funext reference v
  unfold pixels
  rw [u.resolve_without hfont]

theorem pixelList?_without : u.pixelList? (s.without hidden) = u.pixelList? s := by
  funext text
  rw [pixelList?, pixelList?, u.resolve_without hfont]

theorem box_without : u.box (s.without hidden) = u.box s := by
  funext v
  unfold box
  rw [u.pixelList?_without hfont]

theorem definitePixels?_without {p : Property} (hp : p ∉ hidden) (reference : Option Float32) :
    u.definitePixels? (s.without hidden) reference p = u.definitePixels? s reference p := by
  rw [definitePixels?, definitePixels?, Style.definite?_without hp, u.pixels_without hfont]

theorem sides_without {whole atLeft atTop atRight atBottom : Property} (hwhole : whole ∉ hidden)
    (hleft : atLeft ∉ hidden) (htop : atTop ∉ hidden) (hright : atRight ∉ hidden)
    (hbottom : atBottom ∉ hidden) :
    u.sides (s.without hidden) whole atLeft atTop atRight atBottom =
      u.sides s whole atLeft atTop atRight atBottom := by
  simp only [sides, Style.get_without, hwhole, hleft, htop, hright, hbottom, not_false_iff,
    u.pixels_without hfont, u.box_without hfont]

theorem gaps_without (hgap : Property.gap ∉ hidden) (hrow : Property.rowGap ∉ hidden)
    (hcolumn : Property.columnGap ∉ hidden) : u.gaps (s.without hidden) = u.gaps s := by
  have hpair : u.gapPair (s.without hidden) = u.gapPair s := by
    funext v
    unfold gapPair
    rw [u.pixelList?_without hfont, u.pixels_without hfont]
  simp only [gaps, Style.get_without, hgap, hrow, hcolumn, not_false_iff, hpair,
    u.pixels_without hfont]

end CssUnits

end PanelLayout
