import PanelLayout.Container.Slot
import PanelLayout.Length.Units

/-!
Canvas layout: children hang on anchors, named or inherited from the container. A pinned child has a
position and a size, a stretched one has offsets from the edges of its anchors.
-/
namespace PanelLayout

def Anchors.presets : List (String × Anchors) :=
  [("top left", ofBounds 0 0 0 0), ("top center", ofBounds 0.5 0 0.5 0),
    ("top right", ofBounds 1 0 1 0), ("center left", ofBounds 0 0.5 0 0.5),
    ("center", ofBounds 0.5 0.5 0.5 0.5), ("center right", ofBounds 1 0.5 1 0.5),
    ("bottom left", ofBounds 0 1 0 1), ("bottom center", ofBounds 0.5 1 0.5 1),
    ("bottom right", ofBounds 1 1 1 1), ("top fill", ofBounds 0 0 1 0),
    ("center fill", ofBounds 0 0.5 1 0.5), ("bottom fill", ofBounds 0 1 1 1),
    ("fill left", ofBounds 0 0 0 1), ("fill center", ofBounds 0.5 0 0.5 1),
    ("fill right", ofBounds 1 0 1 1), ("fill", ofBounds 0 0 1 1), ("span-all", ofBounds 0 0 1 1),
    ("stretch", ofBounds 0 0 1 1), ("center center", ofBounds 0.5 0.5 0.5 0.5),
    ("middle", ofBounds 0.5 0.5 0.5 0.5), ("stretch-horizontal", ofBounds 0 0.5 1 0.5),
    ("stretch-vertical", ofBounds 0.5 0 0.5 1)]

def Anchors.ofName? (name : List Char) : Option Anchors :=
  let normal := Text.fold ([' '].intercalate (Text.words name))
  let spaced := normal.map fun c => if c = '-' ∨ c = '_' then ' ' else c
  (named? presets (String.ofList normal)).or (named? presets (String.ofList spaced))

def Style.anchors? (s : Style) : Option Anchors :=
  (((s.get .positionAnchor).or (s.get .offsetAnchor)).bind Value.text?).bind Anchors.ofName?

/-- What the children of a canvas refer to: the size of the canvas, and the anchors of children that
name none. -/
structure Canvas where
  reference : Size
  anchors : Option Anchors
  deriving DecidableEq, Repr

namespace Canvas

def ofStyle (u : CssUnits) (style : Style) : Canvas :=
  let extent (p : Property) : Float32 := (u.definitePixels? style none p).getD 0
  ⟨⟨extent .width, extent .height⟩, style.anchors?⟩

def scaleFactor (style : Style) : Float32 :=
  ((style.get .scale).bind Value.factor?).getD 1

def aspectRatio? (v : Value) : Option Float32 :=
  let ratio : Option Float32 :=
    match v with
    | .number x => some x
    | .text s => complete? scanRatio (Text.trim s.toList)
    | .spacing _ => none
  ratio.filter fun r => r.isFinite && 0 < r

def pivotToken? (token : List Char) : Option Float32 :=
  match String.ofList token with
  | "left" | "top" | "start" => some 0
  | "center" | "middle" => some 0.5
  | "right" | "bottom" | "end" => some 1
  | _ =>
    match Length.ofText? token with
    | some (.amount x .percent) => some (Single.clampUnit (x / 100))
    | _ => (Single.ofText? token).map Single.clampUnit

def pivotOfValue : Value → Point
  | .number x => ⟨Single.clampUnit x, Single.clampUnit x⟩
  | v =>
    match Text.words v.keyword.toList with
    | [] => ⟨0, 0⟩
    | [token] => ⟨(pivotToken? token).getD 0, (pivotToken? token).getD 0⟩
    | x :: y :: _ => ⟨(pivotToken? x).getD 0, (pivotToken? y).getD 0⟩

def pivot (style : Style) : Point :=
  match (style.get .anchorAlign).or (style.get .anchorPivot) with
  | some v => pivotOfValue v
  | none => .zero

def zOrder (style : Style) : Int :=
  match ((style.get .zIndex).or (style.get .zOrder)).bind Value.number? with
  | some x =>
    if x.isFinite then Single.truncate Int32.minValue.toInt Int32.maxValue.toInt x else 0
  | none => 0

/-- The size of a pinned child, and whether it is measured instead. A missing side follows from the
ratio, and equals the other side without one. -/
def pinnedSize (width height : Option Float32) (ratio : Option Value) : Point × Bool :=
  let isAuto := ratio.any Value.isAuto
  match width, height with
  | some w, some h => (⟨w, h⟩, false)
  | some w, none =>
    if isAuto then (⟨w, 0⟩, true)
    else
      match ratio.bind aspectRatio? with
      | some r => (⟨w, w / r⟩, false)
      | none => (⟨w, w⟩, false)
  | none, some h =>
    if isAuto then (⟨0, h⟩, true)
    else
      match ratio.bind aspectRatio? with
      | some r => (⟨h * r, h⟩, false)
      | none => (⟨h, h⟩, false)
  | none, none => (.zero, true)

structure Insets where
  left : Option Float32
  top : Option Float32
  right : Option Float32
  bottom : Option Float32

def insets (u : CssUnits) (c : Canvas) (style : Style) : Insets :=
  ⟨u.definitePixels? style (some c.reference.width) .left,
    u.definitePixels? style (some c.reference.height) .top,
    u.definitePixels? style (some c.reference.width) .right,
    u.definitePixels? style (some c.reference.height) .bottom⟩

def stretchedSlot (anchors : Anchors) (i : Insets) (style : Style) : CanvasSlot :=
  { anchors := anchors
    offsets := ⟨i.left.getD 0, i.top.getD 0, i.right.getD 0, i.bottom.getD 0⟩
    position := .zero
    size := .zero
    pivot := pivot style
    autoSize := false
    zOrder := zOrder style }

def pinnedSlot (u : CssUnits) (c : Canvas) (anchors : Anchors) (i : Insets) (style : Style) :
    CanvasSlot :=
  let width := u.definitePixels? style (some c.reference.width) .width
  let height := u.definitePixels? style (some c.reference.height) .height
  let (size, autoSize) := pinnedSize width height (style.get .aspectRatio)
  let scale := scaleFactor style
  { anchors := anchors
    offsets := .zero
    position := ⟨(i.left.or (i.right.map (- ·))).getD 0, (i.top.or (i.bottom.map (- ·))).getD 0⟩
    size := ⟨size.x * scale, size.y * scale⟩
    pivot := pivot style
    autoSize := autoSize
    zOrder := zOrder style }

def slot (u : CssUnits) (c : Canvas) (style : Style) : CanvasSlot :=
  let anchors := (style.anchors?.or c.anchors).getD .topLeft
  let i := c.insets u style
  if anchors.isStretched then stretchedSlot anchors i style else c.pinnedSlot u anchors i style

def place (u : CssUnits) (c : Canvas) (style : Style) : Slot → Slot
  | .canvas _ => .canvas (c.slot u style)
  | s => s

end Canvas

end PanelLayout
