/-!
The properties that a style may hold, in the order of their declaration, with their names.
-/
namespace PanelLayout

inductive Property where
  | display
  | position
  | flexDirection
  | flexWrap
  | flexFlow
  | justifyContent
  | alignItems
  | justifyItems
  | placeItems
  | gap
  | rowGap
  | columnGap
  | flex
  | flexGrow
  | alignSelf
  | justifySelf
  | placeSelf
  | gridTemplate
  | gridTemplateColumns
  | gridTemplateRows
  | gridTemplateAreas
  | gridAutoFlow
  | gridArea
  | gridColumn
  | gridColumnStart
  | gridColumnEnd
  | gridRow
  | gridRowStart
  | gridRowEnd
  | cellPadding
  | minCellWidth
  | minCellHeight
  | left
  | top
  | right
  | bottom
  | width
  | height
  | minWidth
  | minHeight
  | maxWidth
  | maxHeight
  | aspectRatio
  | positionAnchor
  | offsetAnchor
  | anchorAlign
  | anchorPivot
  | zIndex
  | zOrder
  | scale
  | objectFit
  | translate
  | translateX
  | translateY
  | transform
  | margin
  | marginTop
  | marginRight
  | marginBottom
  | marginLeft
  | padding
  | paddingTop
  | paddingRight
  | paddingBottom
  | paddingLeft
  | background
  | backgroundColor
  | backgroundImage
  | border
  | borderColor
  | borderWidth
  | borderRadius
  | fontSize
  deriving DecidableEq, Repr

namespace Property

def all : List Property :=
  [.display, .position, .flexDirection, .flexWrap, .flexFlow, .justifyContent, .alignItems,
    .justifyItems, .placeItems, .gap, .rowGap, .columnGap, .flex, .flexGrow, .alignSelf,
    .justifySelf, .placeSelf, .gridTemplate, .gridTemplateColumns, .gridTemplateRows,
    .gridTemplateAreas, .gridAutoFlow, .gridArea, .gridColumn, .gridColumnStart, .gridColumnEnd,
    .gridRow, .gridRowStart, .gridRowEnd, .cellPadding, .minCellWidth, .minCellHeight, .left, .top,
    .right, .bottom, .width, .height, .minWidth, .minHeight, .maxWidth, .maxHeight, .aspectRatio,
    .positionAnchor, .offsetAnchor, .anchorAlign, .anchorPivot, .zIndex, .zOrder, .scale,
    .objectFit, .translate, .translateX, .translateY, .transform, .margin, .marginTop, .marginRight,
    .marginBottom, .marginLeft, .padding, .paddingTop, .paddingRight, .paddingBottom, .paddingLeft,
    .background, .backgroundColor, .backgroundImage, .border, .borderColor, .borderWidth,
    .borderRadius, .fontSize]

def name : Property → String
  | display => "display"
  | position => "position"
  | flexDirection => "flexDirection"
  | flexWrap => "flexWrap"
  | flexFlow => "flexFlow"
  | justifyContent => "justifyContent"
  | alignItems => "alignItems"
  | justifyItems => "justifyItems"
  | placeItems => "placeItems"
  | gap => "gap"
  | rowGap => "rowGap"
  | columnGap => "columnGap"
  | flex => "flex"
  | flexGrow => "flexGrow"
  | alignSelf => "alignSelf"
  | justifySelf => "justifySelf"
  | placeSelf => "placeSelf"
  | gridTemplate => "gridTemplate"
  | gridTemplateColumns => "gridTemplateColumns"
  | gridTemplateRows => "gridTemplateRows"
  | gridTemplateAreas => "gridTemplateAreas"
  | gridAutoFlow => "gridAutoFlow"
  | gridArea => "gridArea"
  | gridColumn => "gridColumn"
  | gridColumnStart => "gridColumnStart"
  | gridColumnEnd => "gridColumnEnd"
  | gridRow => "gridRow"
  | gridRowStart => "gridRowStart"
  | gridRowEnd => "gridRowEnd"
  | cellPadding => "cellPadding"
  | minCellWidth => "minCellWidth"
  | minCellHeight => "minCellHeight"
  | left => "left"
  | top => "top"
  | right => "right"
  | bottom => "bottom"
  | width => "width"
  | height => "height"
  | minWidth => "minWidth"
  | minHeight => "minHeight"
  | maxWidth => "maxWidth"
  | maxHeight => "maxHeight"
  | aspectRatio => "aspectRatio"
  | positionAnchor => "positionAnchor"
  | offsetAnchor => "offsetAnchor"
  | anchorAlign => "anchorAlign"
  | anchorPivot => "anchorPivot"
  | zIndex => "zIndex"
  | zOrder => "zOrder"
  | scale => "scale"
  | objectFit => "objectFit"
  | translate => "translate"
  | translateX => "translateX"
  | translateY => "translateY"
  | transform => "transform"
  | margin => "margin"
  | marginTop => "marginTop"
  | marginRight => "marginRight"
  | marginBottom => "marginBottom"
  | marginLeft => "marginLeft"
  | padding => "padding"
  | paddingTop => "paddingTop"
  | paddingRight => "paddingRight"
  | paddingBottom => "paddingBottom"
  | paddingLeft => "paddingLeft"
  | background => "background"
  | backgroundColor => "backgroundColor"
  | backgroundImage => "backgroundImage"
  | border => "border"
  | borderColor => "borderColor"
  | borderWidth => "borderWidth"
  | borderRadius => "borderRadius"
  | fontSize => "fontSize"

def ofName? (name : String) : Option Property :=
  all.find? fun p => p.name = name

theorem mem_all (p : Property) : p ∈ all := by
  cases p <;> decide

end Property

end PanelLayout
