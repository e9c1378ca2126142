import PanelLayout.Container.Slot
import PanelLayout.Style.Spacing
import PanelLayout.Style.Translation

/-!
The seats of overlay children. A flowing child is aligned in the overlay; an absolute one keeps its
insets from the sides, which needs the sizes of the overlay and of the child.
-/
namespace PanelLayout.Overlay

def isAbsolute (style : Style) : Bool :=
  style.keyword? .position = some "absolute" || style.isSet .left || style.isSet .top
    || style.isSet .right || style.isSet .bottom

def isHalf (style : Style) (p : Property) : Bool :=
  match style.get p with
  | some (.text s) => Text.trim s.toList = "50%".toList
  | _ => false

def initialSeat : Seat := ⟨.zero, .left, .top⟩

def flowingSeat (u : CssUnits) (style : Style) : Seat :=
  let own := SelfAlignment.ofStyle style
  ⟨u.margin style, own.horizontal .fill, own.vertical .top⟩

inductive Hold where
  | center
  | both
  | near
  | far
  deriving DecidableEq, Repr

def Hold.horizontal : Hold → HorizontalAlignment
  | center => .center
  | both => .fill
  | near => .left
  | far => .right

def Hold.vertical : Hold → VerticalAlignment
  | center => .center
  | both => .fill
  | near => .top
  | far => .bottom

/-- The hold on one axis, and the padding at the near and at the far side. A child at half of the
extent is centred. An offset moves it away from the near side and towards the far one. -/
def hold (isHalf : Bool) (near far : Option Float32) (offset : Float32) :
    Hold × Float32 × Float32 :=
  if isHalf then (.center, 0, 0)
  else
    match near, far with
    | some n, some f => (.both, n + offset, f - offset)
    | some n, none => (.near, n + offset, 0)
    | none, some f => (.far, 0, f - offset)
    | none, none => (.near, offset, 0)

def absoluteSeat (u : CssUnits) (style : Style) (parent own : Size) : Seat :=
  let offset := (Translation.ofStyle style).resolve u style own
  let (h, left, right) := hold (isHalf style .left)
    (u.definitePixels? style (some parent.width) .left)
    (u.definitePixels? style (some parent.width) .right) offset.x
  let (v, top, bottom) := hold (isHalf style .top)
    (u.definitePixels? style (some parent.height) .top)
    (u.definitePixels? style (some parent.height) .bottom) offset.y
  ⟨Margin.add ⟨left, top, right, bottom⟩ (u.margin style), h.horizontal, v.vertical⟩

end PanelLayout.Overlay
