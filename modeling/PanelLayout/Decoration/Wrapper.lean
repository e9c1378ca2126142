import PanelLayout.Canvas.Basic
import PanelLayout.Style.Spacing

/-!
Wrappers around a container: a background that paints and pads, a box of fixed size, and a box that
scales its content. Each records the seat of its content, which its configuration does not touch.
-/
namespace PanelLayout

structure Background where
  properties : List (Property × Value)
  padding : Margin
  content : Seat

namespace Background

def initial : Background := ⟨[], .zero, .filling⟩

def paintProperties : List Property :=
  [.background, .backgroundColor, .backgroundImage, .border, .borderColor, .borderWidth,
    .borderRadius]

def paint? (style : Style) (p : Property) : Option Value :=
  (style.get p).filter fun v => v.keyword ≠ "none"

def isNeeded (style : Style) : Bool :=
  paintProperties.any fun p => (paint? style p).isSome

def configure (u : CssUnits) (style : Style) (b : Background) : Background :=
  { b with
    properties := paintProperties.filterMap fun p => (paint? style p).map fun v => (p, v)
    padding := u.padding style }

def reset (b : Background) : Background :=
  { initial with content := b.content }

end Background

def Value.ratio? : Value → Option Float32
  | .number x => some x
  | .text s => complete? scanRatio s.toList
  | .spacing _ => none

structure SizeBox where
  width : Option Float32
  height : Option Float32
  minWidth : Option Float32
  minHeight : Option Float32
  maxWidth : Option Float32
  maxHeight : Option Float32
  ratio : Option Float32
  content : Seat

namespace SizeBox

def initial : SizeBox := ⟨none, none, none, none, none, none, none, .filling⟩

def sizeProperties : List Property :=
  [.width, .height, .minWidth, .minHeight, .maxWidth, .maxHeight, .aspectRatio]

def isNeeded (style : Style) : Bool :=
  sizeProperties.any style.isSet

def isPercentage (v : Value) : Bool :=
  match v.text?.bind Length.ofText? with
  | some (.amount _ .percent) => true
  | _ => false

def fixed? (u : CssUnits) (style : Style) (p : Property) : Option Float32 :=
  ((style.definite? p).filter fun v => !isPercentage v).map (u.pixels style none)

def configure (u : CssUnits) (style : Style) (b : SizeBox) : SizeBox :=
  { b with
    width := fixed? u style .width
    height := fixed? u style .height
    minWidth := fixed? u style .minWidth
    minHeight := fixed? u style .minHeight
    maxWidth := fixed? u style .maxWidth
    maxHeight := fixed? u style .maxHeight
    ratio := ((style.get .aspectRatio).bind Value.ratio?).filter fun r => 0 < r }

def reset (b : SizeBox) : SizeBox :=
  { initial with content := b.content }

end SizeBox

structure ScaleBox where
  stretch : Stretch
  scale : Float32
  content : Seat

namespace ScaleBox

def initial : ScaleBox := ⟨.scaleToFit, 1, .filling⟩

def isNeeded (style : Style) : Bool :=
  (style.get .objectFit).isSome

def stretchOf (style : Style) : Stretch :=
  match style.keyword? .objectFit with
  | some "cover" => .scaleToFill
  | some "fill" => .fill
  | some "none" => .none
  | some "scale-down" => .userSpecified
  | _ => .scaleToFit

def configure (style : Style) (b : ScaleBox) : ScaleBox :=
  let stretch := stretchOf style
  { b with
    stretch := stretch
    scale := if stretch = .userSpecified then Canvas.scaleFactor style else 1 }

def reset (b : ScaleBox) : ScaleBox :=
  { initial with content := b.content }

end ScaleBox

end PanelLayout
