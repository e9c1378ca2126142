import PanelLayout.Proofs.Length.List
import PanelLayout.Proofs.Style.Hiding

/-!
Shorthands for the sides of a box and for the gaps. A list of lengths says the same as the properties of
the single sides and gaps that hold these lengths.
-/
namespace PanelLayout

structure Sided (α : Type) where
  top : α
  right : α
  bottom : α
  left : α

namespace Sided

def map {α β : Type} (f : α → β) (s : Sided α) : Sided β :=
  ⟨f s.top, f s.right, f s.bottom, f s.left⟩

/-- The sides that one to four values are for: a side that is left out has the value of the opposite
one, and the right side that of the top. -/
def ofList? {α : Type} : List α → Option (Sided α)
  | [a] => some ⟨a, a, a, a⟩
  | [a, b] => some ⟨a, b, a, b⟩
  | [a, b, c] => some ⟨a, b, c, b⟩
  | [a, b, c, d] => some ⟨a, b, c, d⟩
  | _ => none

theorem ofList?_map {α β : Type} (f : α → β) (as : List α) :
    ofList? (as.map f) = (ofList? as).map (map f) := by
  match as with
  | [] | [_] | [_, _] | [_, _, _] | [_, _, _, _] | _ :: _ :: _ :: _ :: _ :: _ => rfl

def toMargin (s : Sided Float32) : Margin := ⟨s.left, s.top, s.right, s.bottom⟩

end Sided

theorem Margin.ofValues?_eq (xs : List Float32) :
    ofValues? xs = (Sided.ofList? xs).map Sided.toMargin := by
  match xs with
  | [] | [_] | [_, _] | [_, _, _] | [_, _, _, _] | _ :: _ :: _ :: _ :: _ :: _ => rfl

/-! The font size of a style, and with it what its lengths are in pixels, is a property of its own. -/

theorem Style.without_set (p : Property) (v : Value) (s : Style) :
    (s.set p v).without [p] = s.without [p] := by
  refine Style.agreeOff_iff.mp fun q hq => ?_
  exact if_neg fun h => hq (List.mem_singleton.mpr h)

namespace CssUnits
variable (u : CssUnits)

theorem pixels_set {p : Property} (hp : Property.fontSize ∉ [p]) (v : Value) (s : Style) :
    u.pixels (s.set p v) = u.pixels s := by
  rw [← u.pixels_without hp, Style.without_set, u.pixels_without hp]

theorem pixels_text (style : Style) (reference : Option Float32) (t : String) :
    u.pixels style reference (.text t) =
      ((Length.ofText? t.toList).map (u.resolve style reference)).getD 0 := by
  rw [pixels]
  cases Length.ofText? t.toList <;> rfl

theorem pixelList?_of_spaced (style : Style) {texts : List String} {written : String}
    (hwritten : ∀ t ∈ texts, Length.IsWritten t.toList)
    (hspaced : Text.Spaced (texts.map String.toList) written.toList) :
    u.pixelList? style written.toList = some (texts.map fun t => u.pixels style none (.text t)) := by
  have htexts : ∀ t ∈ texts.map String.toList, Length.IsWritten t := by
    intro t ht
    obtain ⟨t, hmem, rfl⟩ := List.mem_map.mp ht
    exact hwritten t hmem
  obtain ⟨ls, hls, hlist⟩ := Length.complete?_scanList_of_spaced htexts hspaced
  have hmap : ls.map (u.resolve style none) = texts.map fun t => u.pixels style none (.text t) := by
    have hpixelsOf := congrArg (List.map fun l => (l.map (u.resolve style none)).getD 0) hls
    rw [List.map_map, List.map_map, List.map_map] at hpixelsOf
    exact hpixelsOf.symm.trans (List.map_congr_left fun t _ => (u.pixels_text style none t).symm)
  rw [pixelList?, hlist, Option.map_some, hmap]

end CssUnits

inductive Box where
  | margin
  | padding

namespace Box

def whole : Box → Property
  | margin => .margin
  | padding => .padding

def sides : Box → Sided Property
  | margin => ⟨.marginTop, .marginRight, .marginBottom, .marginLeft⟩
  | padding => ⟨.paddingTop, .paddingRight, .paddingBottom, .paddingLeft⟩

def read (u : CssUnits) (style : Style) : Box → Margin
  | margin => u.margin style
  | padding => u.padding style

def LeavesSides (b : Box) (s : Style) : Prop :=
  s.get b.sides.top = none ∧ s.get b.sides.right = none ∧ s.get b.sides.bottom = none ∧
    s.get b.sides.left = none

def setSides (b : Box) (texts : Sided String) (s : Style) : Style :=
  (((s.set b.sides.top (.text texts.top)).set b.sides.right (.text texts.right)).set b.sides.bottom
    (.text texts.bottom)).set b.sides.left (.text texts.left)

variable (u : CssUnits) (b : Box) {style : Style}

theorem read_eq (style : Style) :
    b.read u style = u.sides style b.whole b.sides.left b.sides.top b.sides.right b.sides.bottom := by
  cases b <;> rfl

theorem read_setSides (texts : Sided String) (style : Style) :
    b.read u (b.setSides texts style) =
      (texts.map fun t => u.pixels style none (.text t)).toMargin := by
  have hpixels : u.pixels (b.setSides texts style) = u.pixels style := by
    unfold setSides
    cases b <;> simp only [sides] <;> repeat rw [u.pixels_set (by decide)]
  have htop : (b.setSides texts style).get b.sides.top = some (.text texts.top) := by cases b <;> rfl
  have hright : (b.setSides texts style).get b.sides.right = some (.text texts.right) := by
    cases b <;> rfl
  have hbottom : (b.setSides texts style).get b.sides.bottom = some (.text texts.bottom) := by
    cases b <;> rfl
  have hleft : (b.setSides texts style).get b.sides.left = some (.text texts.left) := by
    cases b <;> rfl
  simp only [read_eq, CssUnits.sides, htop, hright, hbottom, hleft, hpixels]
  rfl

theorem read_set_whole (hsides : b.LeavesSides style) {texts : List String} {written : String}
    (hwritten : ∀ t ∈ texts, Length.IsWritten t.toList)
    (hspaced : Text.Spaced (texts.map String.toList) written.toList) {sides : Sided String}
    (hsided : Sided.ofList? texts = some sides) :
    b.read u (style.set b.whole (.text written)) =
      (sides.map fun t => u.pixels style none (.text t)).toMargin := by
  have hwhole : (style.set b.whole (.text written)).get b.whole = some (.text written) := by
    cases b <;> rfl
  obtain ⟨htop, hright, hbottom, hleft⟩ : b.LeavesSides (style.set b.whole (.text written)) := by
    cases b <;> exact hsides
  have hpixels : u.pixels (style.set b.whole (.text written)) = u.pixels style := by
    cases b <;> exact u.pixels_set (by decide) _ _
  have hbox : u.box (style.set b.whole (.text written)) (.text written) =
      (sides.map fun t => u.pixels style none (.text t)).toMargin := by
    rw [CssUnits.box, u.pixelList?_of_spaced _ hwritten hspaced, Option.bind_some,
      Margin.ofValues?_eq, Sided.ofList?_map, hsided, hpixels]
    rfl
  simp only [read_eq, CssUnits.sides, hwhole, htop, hright, hbottom, hleft, hbox]

end Box

def gapTexts? : List String → Option (String × String)
  | [both] => some (both, both)
  | [row, column] => some (row, column)
  | _ => none

namespace CssUnits
variable (u : CssUnits) (style : Style)

theorem gaps_setGaps (row column : String) :
    u.gaps ((style.set .rowGap (.text row)).set .columnGap (.text column)) =
      ⟨u.pixels style none (.text row), u.pixels style none (.text column)⟩ := by
  have hrow : ((style.set .rowGap (.text row)).set .columnGap (.text column)).get .rowGap =
      some (.text row) := rfl
  have hcolumn : ((style.set .rowGap (.text row)).set .columnGap (.text column)).get .columnGap =
      some (.text column) := rfl
  simp only [gaps, hrow, hcolumn]
  rw [u.pixels_set (by decide), u.pixels_set (by decide)]

section
variable {texts : List String} {written : String}
  (hwritten : ∀ t ∈ texts, Length.IsWritten t.toList)
  (hspaced : Text.Spaced (texts.map String.toList) written.toList)
include hwritten hspaced

theorem gaps_set_gap (hrow : style.get .rowGap = none) (hcolumn : style.get .columnGap = none)
    {row column : String} (hgaps : gapTexts? texts = some (row, column)) :
    u.gaps (style.set .gap (.text written)) =
      ⟨u.pixels style none (.text row), u.pixels style none (.text column)⟩ := by
  have hgap : (style.set .gap (.text written)).get .gap = some (.text written) := rfl
  have hnoRow : (style.set .gap (.text written)).get .rowGap = none := hrow
  have hnoColumn : (style.set .gap (.text written)).get .columnGap = none := hcolumn
  have hpair : u.gapPair (style.set .gap (.text written)) (some (.text written)) =
      ⟨u.pixels style none (.text row), u.pixels style none (.text column)⟩ := by
    rw [gapPair, u.pixelList?_of_spaced _ hwritten hspaced, u.pixels_set (by decide)]
    match texts, hgaps with
    | [_], rfl => rfl
    | [_, _], rfl => rfl
  simp only [gaps, hgap, hnoRow, hnoColumn, hpair]

/-- One to four lengths with blanks between them are read as margin and as padding like the texts for the
four sides that they are for, one or two of them as gap like the texts for the two gaps, and every length
as it is read alone. -/
theorem shorthand_written :
    (∀ (b : Box) (sides : Sided String), b.LeavesSides style → Sided.ofList? texts = some sides →
        b.read u (style.set b.whole (.text written)) = b.read u (b.setSides sides style) ∧
          b.read u (b.setSides sides style) =
            (sides.map fun t => u.pixels style none (.text t)).toMargin) ∧
      ∀ row column : String, style.get .rowGap = none → style.get .columnGap = none →
        gapTexts? texts = some (row, column) →
        u.gaps (style.set .gap (.text written)) =
            u.gaps ((style.set .rowGap (.text row)).set .columnGap (.text column)) ∧
          u.gaps ((style.set .rowGap (.text row)).set .columnGap (.text column)) =
            ⟨u.pixels style none (.text row), u.pixels style none (.text column)⟩ := by
  constructor
  · intro b sides hsides hsided
    have hlong := b.read_setSides u sides style
    exact ⟨(b.read_set_whole u hsides hwritten hspaced hsided).trans hlong.symm, hlong⟩
  · intro row column hrow hcolumn hgaps
    have hlong := u.gaps_setGaps style row column
    exact ⟨(u.gaps_set_gap style hwritten hspaced hrow hcolumn hgaps).trans hlong.symm, hlong⟩

end

theorem shorthand_written_pair :
    let style := Style.empty.set .fontSize (.text "20px")
    (∀ t ∈ ["1.5em", "-2.5PX"], Length.IsWritten t.toList) ∧
      Text.Spaced (["1.5em", "-2.5PX"].map String.toList) "1.5em \t-2.5PX".toList ∧
      Box.margin.LeavesSides style ∧
      Sided.ofList? ["1.5em", "-2.5PX"] = some ⟨"1.5em", "-2.5PX", "1.5em", "-2.5PX"⟩ ∧
      standard.margin (style.set .margin (.text "1.5em \t-2.5PX")) = ⟨-2.5, 30, -2.5, 30⟩ ∧
      standard.gaps (style.set .gap (.text "1.5em \t-2.5PX")) = ⟨30, -2.5⟩ := by
  intro style
  have hwritten : ∀ t ∈ ["1.5em", "-2.5PX"], Length.IsWritten t.toList := by
    intro t ht
    simp only [List.mem_cons, List.not_mem_nil, or_false] at ht
    obtain rfl | rfl := ht <;> exact ⟨by decide, by decide +kernel⟩
  have hgap : Text.IsGap [' ', '\t'] := by decide
  have hspaced : Text.Spaced (["1.5em", "-2.5PX"].map String.toList) "1.5em \t-2.5PX".toList :=
    .cons _ hgap (.single _)
  have hsides : Box.margin.LeavesSides style := ⟨rfl, rfl, rfl, rfl⟩
  obtain ⟨hbox, hgaps⟩ := standard.shorthand_written style hwritten hspaced
  have hmargin := (hbox .margin _ hsides rfl).1.trans (hbox .margin _ hsides rfl).2
  have hpair := (hgaps _ _ rfl rfl rfl).1.trans (hgaps _ _ rfl rfl rfl).2
  refine ⟨hwritten, hspaced, hsides, rfl, hmargin.trans ?_, hpair.trans ?_⟩
  · decide +kernel
  · decide +kernel

end CssUnits

end PanelLayout
