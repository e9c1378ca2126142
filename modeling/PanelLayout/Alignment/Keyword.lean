import PanelLayout.Geometry.Alignment
import PanelLayout.Style.Basic

/-!
Alignment keywords. Their many spellings are read into a few meanings, which do not depend on the
axis, and are then mapped to the alignments of a panel.
-/
namespace PanelLayout

inductive AlignKeyword where
  | start
  | center
  | finish
  | stretch
  | spaceBetween
  | spaceAround
  | spaceEvenly
  deriving DecidableEq, Repr

namespace AlignKeyword

def table : List (String × AlignKeyword) :=
  [("start", .start), ("center", .center), ("end", .finish), ("stretch", .stretch),
    ("space-between", .spaceBetween), ("space-around", .spaceAround),
    ("space-evenly", .spaceEvenly)]

def spellings : List (String × AlignKeyword) :=
  [("start", .start), ("flex-start", .start), ("self-start", .start), ("left", .start),
    ("top", .start), ("baseline", .start), ("first baseline", .start), ("center", .center),
    ("middle", .center), ("end", .finish), ("flex-end", .finish), ("self-end", .finish),
    ("right", .finish), ("bottom", .finish), ("last baseline", .finish), ("stretch", .stretch),
    ("fill", .stretch), ("normal", .stretch), ("space-between", .spaceBetween),
    ("space-around", .spaceAround), ("space-evenly", .spaceEvenly)]

def dropOverflow (token : List Char) : List Char :=
  match Text.dropWord? "safe ".toList token, Text.dropWord? "unsafe ".toList token with
  | some r, _ => r
  | none, some r => r
  | none, none => token

def ofText? (token : List Char) : Option AlignKeyword :=
  named? spellings (String.ofList (Text.trim (dropOverflow (Text.keyword token))))

/-- Reads the keywords of the block and the inline axis. A single one counts for both. -/
def pairOfText (s : List Char) : Option AlignKeyword × Option AlignKeyword :=
  match Text.words s with
  | [] => (none, none)
  | [token] => (ofText? token, ofText? token)
  | first :: second :: _ => (ofText? first, ofText? second)

def isDistributed : AlignKeyword → Bool
  | spaceBetween | spaceAround | spaceEvenly => true
  | _ => false

def horizontal : AlignKeyword → HorizontalAlignment
  | start => .left
  | center => .center
  | finish => .right
  | stretch | spaceBetween | spaceAround | spaceEvenly => .fill

def vertical : AlignKeyword → VerticalAlignment
  | start => .top
  | center => .center
  | finish => .bottom
  | stretch | spaceBetween | spaceAround | spaceEvenly => .fill

end AlignKeyword

def Value.align? (v : Value) : Option AlignKeyword :=
  v.text?.bind AlignKeyword.ofText?

namespace Style

def align? (s : Style) (p : Property) : Option AlignKeyword :=
  (s.get p).bind Value.align?

def alignPair (s : Style) (p : Property) : Option AlignKeyword × Option AlignKeyword :=
  match (s.get p).bind Value.text? with
  | some text => AlignKeyword.pairOfText text
  | none => (none, none)

end Style

structure SelfAlignment where
  align : Option AlignKeyword
  justify : Option AlignKeyword
  deriving DecidableEq, Repr

namespace SelfAlignment

def isEmpty (a : SelfAlignment) : Bool :=
  a.align.isNone && a.justify.isNone

/-- On each axis the shorthand counts before the property of the axis. -/
def ofStyle (s : Style) : SelfAlignment :=
  let (align, justify) := s.alignPair .placeSelf
  ⟨align.or (s.align? .alignSelf), justify.or (s.align? .justifySelf)⟩

def horizontal (a : SelfAlignment) (default : HorizontalAlignment) : HorizontalAlignment :=
  match a.justify with
  | some k => k.horizontal
  | none => default

def vertical (a : SelfAlignment) (default : VerticalAlignment) : VerticalAlignment :=
  match a.align with
  | some k => k.vertical
  | none => default

end SelfAlignment

end PanelLayout
