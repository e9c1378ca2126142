import PanelLayout.Container.Panel
import PanelLayout.Style.Spacing

/-!
Flex layout on stack and wrap panels: what a container style says, the panel it asks for, and the
slot of a child. Gaps are padding of stack children behind the first, and spacing of wrap panels.
-/
namespace PanelLayout

structure Flex where
  isRow : Bool
  isReverse : Bool
  isWrap : Bool
  gaps : Gaps
  justifyContent : Option AlignKeyword
  alignItems : Option AlignKeyword
  deriving DecidableEq, Repr

namespace Flex

def direction (style : Style) (flow : List (List Char)) : List Char :=
  let own := (style.keyword? .flexDirection).map String.toList
  let short := flow.find? fun t => "row".toList.isPrefixOf t || "column".toList.isPrefixOf t
  (own.or short).getD <|
    match style.keyword? .display with
    | some "flex" | some "inline-flex" => "row".toList
    | _ => "column".toList

def wrapping? (style : Style) (flow : List (List Char)) : Option (List Char) :=
  ((style.keyword? .flexWrap).map String.toList).or
    (flow.find? fun t => "wrap".toList.isSuffixOf t)

def ofStyle (u : CssUnits) (style : Style) : Flex :=
  let flow := Text.words ((style.keyword? .flexFlow).getD "").toList
  let direction := direction style flow
  let wrapping := wrapping? style flow
  { isRow := "row".toList.isPrefixOf direction
    isReverse := "-reverse".toList.isSuffixOf direction
    isWrap := wrapping = some "wrap".toList || wrapping = some "wrap-reverse".toList
    gaps := u.gaps style
    justifyContent := style.align? .justifyContent
    alignItems := style.align? .alignItems }

def mainGap (f : Flex) : Float32 :=
  if f.isRow then f.gaps.column else f.gaps.row

def crossGap (f : Flex) : Float32 :=
  if f.isRow then f.gaps.row else f.gaps.column

def flow (f : Flex) : FlowDirection :=
  if f.isRow && f.isReverse then .rightToLeft else .leftToRight

def orientation (f : Flex) : Orientation :=
  if f.isRow then .horizontal else .vertical

def wrapPanel (f : Flex) : WrapPanel :=
  ⟨f.flow, f.orientation, ⟨f.gaps.column, f.gaps.row⟩⟩

def panel (f : Flex) : Panel :=
  if f.isWrap then .wrapBox f.wrapPanel
  else if f.isRow then .horizontalBox f.flow
  else .verticalBox .leftToRight

def onPanel (f : Flex) : Panel → Panel
  | .horizontalBox _ => .horizontalBox f.flow
  | .verticalBox _ => .verticalBox f.flow
  | .wrapBox _ => .wrapBox f.wrapPanel
  | p => p

/-- The share of the free space that a child asks for: its own property, else the first token of the
shorthand, where the automatic one is a full share. -/
def grow (style : Style) : Float32 :=
  match (style.get .flexGrow).bind Value.number? with
  | some x => Single.orZero x
  | none =>
    match style.get .flex with
    | none => 0
    | some v =>
      match v.number? with
      | some x => Single.orZero x
      | none =>
        match Text.words v.keyword.toList with
        | [] => 0
        | token :: _ =>
          if token = "auto".toList then 1
          else
            match Single.ofText? token with
            | some x => Single.orZero x
            | none => 0

def swapEnds : VerticalAlignment → VerticalAlignment
  | .top => .bottom
  | .bottom => .top
  | a => a

def alignment (f : Flex) (style : Style) : HorizontalAlignment × VerticalAlignment :=
  let own := SelfAlignment.ofStyle style
  let main := (own.justify.or f.justifyContent).getD .start
  let cross := (own.align.or f.alignItems).getD .stretch
  if f.isRow then (main.horizontal, cross.vertical)
  else (cross.horizontal, if f.isReverse then swapEnds main.vertical else main.vertical)

/-- Adds the gap on the side that is turned to the child appended before. -/
def addGap (f : Flex) (m : Margin) : Margin :=
  match f.isRow, f.isReverse with
  | true, false => { m with left := m.left + f.mainGap }
  | true, true => { m with right := m.right + f.mainGap }
  | false, false => { m with top := m.top + f.mainGap }
  | false, true => { m with bottom := m.bottom + f.mainGap }

def spacesBetween (f : Flex) : Bool :=
  f.justifyContent = some .spaceBetween

def boxSlot (u : CssUnits) (f : Flex) (isFirst : Bool) (style : Style) : BoxSlot :=
  let (horizontal, vertical) := f.alignment style
  let margin := u.margin style
  ⟨⟨if isFirst then margin else f.addGap margin, horizontal, vertical⟩,
    if 0 < grow style then .fill (grow style)
    else if f.spacesBetween then .fill 1
    else .auto⟩

def wrapSlot (u : CssUnits) (f : Flex) (style : Style) : WrapSlot :=
  let (horizontal, vertical) := f.alignment style
  ⟨⟨u.margin style, horizontal, vertical⟩,
    0 < grow style || f.spacesBetween,
    match style.get (if f.isRow then .minWidth else .minHeight) with
    | some v => u.pixels style none v
    | none => 0⟩

def place (u : CssUnits) (f : Flex) (isFirst : Bool) (style : Style) : Slot → Slot
  | .box _ => .box (f.boxSlot u isFirst style)
  | .wrap _ => .wrap (f.wrapSlot u style)
  | s => s

end Flex

end PanelLayout
