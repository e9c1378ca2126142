import PanelLayout.Overlay.Placement
import PanelLayout.Proofs.Style.Hiding

/-!
The axes of an overlay do not mix. How an absolute child lies along one axis does not depend on the insets
and the offset that are for the other one, nor on the extents of the overlay and of the child along it.
-/
namespace PanelLayout

namespace Orientation

def near : Orientation → Property
  | horizontal => .left
  | vertical => .top

def far : Orientation → Property
  | horizontal => .right
  | vertical => .bottom

def offset : Orientation → Property
  | horizontal => .translateX
  | vertical => .translateY

def own (axis : Orientation) : List Property := [axis.near, axis.far, axis.offset]

def across : Orientation → Orientation
  | horizontal => vertical
  | vertical => horizontal

theorem notMem_own_across (axis : Orientation) :
    axis.near ∉ axis.across.own ∧ axis.far ∉ axis.across.own ∧ axis.offset ∉ axis.across.own := by
  cases axis <;> decide

end Orientation

namespace Translation

def along : Orientation → Translation → List Length
  | .horizontal, t => t.x
  | .vertical, t => t.y

theorem along_ofStyle_without {hidden : List Property} (htransform : Property.transform ∉ hidden)
    (htranslate : Property.translate ∉ hidden) {axis : Orientation} (haxis : axis.offset ∉ hidden)
    (s : Style) : (ofStyle (s.without hidden)).along axis = (ofStyle s).along axis := by
  cases axis with
  | horizontal =>
    have hoffset : (s.without hidden).get .translateX = s.get .translateX := Style.get_without haxis s
    simp only [along, ofStyle, append, Style.get_without htransform, Style.get_without htranslate, hoffset]
  | vertical =>
    have hoffset : (s.without hidden).get .translateY = s.get .translateY := Style.get_without haxis s
    simp only [along, ofStyle, append, Style.get_without htransform, Style.get_without htranslate, hoffset]

end Translation

namespace Overlay

theorem isHalf_without {hidden : List Property} {p : Property} (hp : p ∉ hidden) (s : Style) :
    isHalf (s.without hidden) p = isHalf s p := by
  rw [isHalf, isHalf, Style.get_without hp]

def holdAlong (u : CssUnits) (style : Style) (axis : Orientation) (parent own : Float32) :
    Hold × Float32 × Float32 :=
  hold (isHalf style axis.near) (u.definitePixels? style (some parent) axis.near)
    (u.definitePixels? style (some parent) axis.far)
    (Single.sum (((Translation.ofStyle style).along axis).map (u.resolve style (some own))))

/-- The seat of an absolute child is put together from the two axes and the margin. -/
theorem absoluteSeat_eq (u : CssUnits) (style : Style) (parent own : Size) :
    let h := holdAlong u style .horizontal parent.width own.width
    let v := holdAlong u style .vertical parent.height own.height
    absoluteSeat u style parent own =
      ⟨Margin.add ⟨h.2.1, v.2.1, h.2.2, v.2.2⟩ (u.margin style), h.1.horizontal, v.1.vertical⟩ := rfl

section
variable (u : CssUnits) {axis : Orientation} {style style' : Style}
  (h : style.AgreeOff axis.across.own style')
include h

theorem holdAlong_congr (parent own : Float32) :
    holdAlong u style axis parent own = holdAlong u style' axis parent own := by
  obtain ⟨hnear, hfar, hoffset⟩ := axis.notMem_own_across
  have hfont : Property.fontSize ∉ axis.across.own := by cases axis <;> decide
  have htransform : Property.transform ∉ axis.across.own := by cases axis <;> decide
  have htranslate : Property.translate ∉ axis.across.own := by cases axis <;> decide
  have hhidden : ∀ s : Style, holdAlong u (s.without axis.across.own) axis parent own =
      holdAlong u s axis parent own := by
    intro s
    rw [holdAlong, isHalf_without hnear, u.definitePixels?_without hfont s hnear,
      u.definitePixels?_without hfont s hfar, u.resolve_without hfont,
      Translation.along_ofStyle_without htransform htranslate hoffset]
    rfl
  rw [← hhidden style, ← hhidden style', Style.agreeOff_iff.mp h]

theorem margin_congr : u.margin style = u.margin style' := by
  have hhidden : ∀ s : Style, u.margin (s.without axis.across.own) = u.margin s := by
    intro s
    cases axis <;> exact u.sides_without (by decide) s (by decide) (by decide) (by decide) (by decide)
      (by decide)
  rw [← hhidden style, ← hhidden style', Style.agreeOff_iff.mp h]

end

/-- Two absolute children of which the styles differ in `top`, `bottom` and `translateY` only, and the sizes
in the heights only, lie alike from left to right: they have the same alignment and the same padding there.
Likewise from top to bottom, when they differ in `left`, `right`, `translateX` and the widths only. -/
theorem absoluteSeat_independent (u : CssUnits) {style style' : Style} (parent parent' own own' : Size) :
    let seat := absoluteSeat u style parent own
    let seat' := absoluteSeat u style' parent' own'
    (style.AgreeOff [.top, .bottom, .translateY] style' → parent.width = parent'.width →
        own.width = own'.width →
        seat.horizontal = seat'.horizontal ∧ seat.padding.left = seat'.padding.left ∧
          seat.padding.right = seat'.padding.right) ∧
      (style.AgreeOff [.left, .right, .translateX] style' → parent.height = parent'.height →
        own.height = own'.height →
        seat.vertical = seat'.vertical ∧ seat.padding.top = seat'.padding.top ∧
          seat.padding.bottom = seat'.padding.bottom) := by
  intro seat seat'
  constructor
  · intro hstyle hparent hown
    have hagree : style.AgreeOff Orientation.horizontal.across.own style' := hstyle
    have hlie := holdAlong_congr u hagree parent.width own.width
    have hmargin := margin_congr u hagree
    simp only [seat, seat', absoluteSeat_eq, ← hparent, ← hown, hlie, hmargin, Margin.add, and_self]
  · intro hstyle hparent hown
    have hagree : style.AgreeOff Orientation.vertical.across.own style' := hstyle
    have hlie := holdAlong_congr u hagree parent.height own.height
    have hmargin := margin_congr u hagree
    simp only [seat, seat', absoluteSeat_eq, ← hparent, ← hown, hlie, hmargin, Margin.add, and_self]

theorem absoluteSeat_independent_percent :
    let style := ((Style.empty.set .left (.text "10%")).set .marginLeft (.number 3)).set .transform
      (.text "translate(-50%, 25%)")
    let high := ((style.set .top (.text "50%")).set .bottom (.text "20%")).set .translateY (.text "2em")
    let wide := ((style.set .left (.text "50%")).set .right (.number 5)).set .translateX (.number 7)
    (isAbsolute style ∧ isAbsolute high ∧ isAbsolute wide ∧ style.AgreeOff [.top, .bottom, .translateY] high ∧
      style.AgreeOff [.left, .right, .translateX] wide) ∧
      absoluteSeat .standard style ⟨200, 100⟩ ⟨40, 20⟩ = ⟨⟨3, 5, 0, 0⟩, .left, .top⟩ ∧
      (absoluteSeat .standard high ⟨200, 900⟩ ⟨40, 80⟩).padding.left = 3 ∧
      (absoluteSeat .standard wide ⟨900, 100⟩ ⟨80, 20⟩).padding.top = 5 := by
  intro style high wide
  have hhigh : style.AgreeOff [.top, .bottom, .translateY] high :=
    ((Style.agreeOff_set (by decide) _ _).trans (Style.agreeOff_set (by decide) _ _)).trans
      (Style.agreeOff_set (by decide) _ _)
  have hwide : style.AgreeOff [.left, .right, .translateX] wide :=
    ((Style.agreeOff_set (by decide) _ _).trans (Style.agreeOff_set (by decide) _ _)).trans
      (Style.agreeOff_set (by decide) _ _)
  have hseat : absoluteSeat .standard style ⟨200, 100⟩ ⟨40, 20⟩ = ⟨⟨3, 5, 0, 0⟩, .left, .top⟩ := by
    decide +kernel
  have hleft := ((absoluteSeat_independent .standard ⟨200, 100⟩ ⟨200, 900⟩ ⟨40, 20⟩ ⟨40, 80⟩).1
    hhigh rfl rfl).2.1
  have htop := ((absoluteSeat_independent .standard ⟨200, 100⟩ ⟨900, 100⟩ ⟨40, 20⟩ ⟨80, 20⟩).2
    hwide rfl rfl).2.1
  rw [hseat] at hleft htop
  refine ⟨⟨?_, ?_, ?_, hhigh, hwide⟩, hseat, hleft.symm, htop.symm⟩
  · decide +kernel
  · decide +kernel
  · decide +kernel

end Overlay

end PanelLayout
