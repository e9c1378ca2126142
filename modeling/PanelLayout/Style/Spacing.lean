import PanelLayout.Length.Units

/-! The margins, paddings and gaps that a style asks for. -/
namespace PanelLayout

structure Gaps where
  row : Float32
  column : Float32
  deriving DecidableEq, Repr

namespace CssUnits

def pixelList? (u : CssUnits) (style : Style) (s : List Char) : Option (List Float32) :=
  (complete? Length.scanList s).map (List.map (u.resolve style none))

def box (u : CssUnits) (style : Style) : Value → Margin
  | .spacing m => m
  | .number x => .all x
  | .text s => ((u.pixelList? style s.toList).bind Margin.ofValues?).getD .zero

/-- A box shorthand whose sides are overridden by the properties of single sides. -/
def sides (u : CssUnits) (style : Style) (whole atLeft atTop atRight atBottom : Property) :
    Margin :=
  let base := match style.get whole with
    | some v => u.box style v
    | none => .zero
  let side (p : Property) (default : Float32) : Float32 :=
    match style.get p with
    | some v => u.pixels style none v
    | none => default
  ⟨side atLeft base.left, side atTop base.top, side atRight base.right, side atBottom base.bottom⟩

def margin (u : CssUnits) (style : Style) : Margin :=
  u.sides style .margin .marginLeft .marginTop .marginRight .marginBottom

def padding (u : CssUnits) (style : Style) : Margin :=
  u.sides style .padding .paddingLeft .paddingTop .paddingRight .paddingBottom

/-- The shorthand for both gaps: the row gap and then the column gap, or one for both. -/
def gapPair (u : CssUnits) (style : Style) : Option Value → Gaps
  | none => ⟨0, 0⟩
  | some (.text s) =>
    match u.pixelList? style s.toList with
    | some [both] => ⟨both, both⟩
    | some (row :: column :: _) => ⟨row, column⟩
    | _ => ⟨0, 0⟩
  | some v =>
    let both := u.pixels style none v
    ⟨both, both⟩

def gaps (u : CssUnits) (style : Style) : Gaps :=
  let base := u.gapPair style (style.get .gap)
  let own (p : Property) (default : Float32) : Float32 :=
    match style.get p with
    | some v => u.pixels style none v
    | none => default
  ⟨own .rowGap base.row, own .columnGap base.column⟩

end CssUnits

end PanelLayout
