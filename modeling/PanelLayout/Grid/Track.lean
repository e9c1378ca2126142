import PanelLayout.Grid.Template
import PanelLayout.Json.Decode
import PanelLayout.Json.Printer
import PanelLayout.Length.Units

/-!
Grid tracks: rows and columns that take a share of the free space, a number of pixels, or the space
of their content.
-/
namespace PanelLayout

inductive TrackKind where
  | fr
  | px
  | auto
  deriving DecidableEq, Repr

namespace TrackKind

def table : List (String × TrackKind) :=
  [("fr", .fr), ("px", .px), ("auto", .auto)]

end TrackKind

structure Track where
  kind : TrackKind
  value : Float32
  deriving DecidableEq, Repr

structure TrackUnits where
  fontSize : Float32
  units : CssUnits
  style : Style

namespace Track

def fr (x : Float32) : Track := ⟨.fr, x⟩

def px (x : Float32) : Track := ⟨.px, x⟩

def auto : Track := ⟨.auto, 0⟩

def isAuto (t : Track) : Bool :=
  t.kind = .auto

def same (a b : Track) : Bool :=
  a.kind = b.kind && a.value == b.value

def sameList : List Track → List Track → Bool
  | [], [] => true
  | a :: as, b :: bs => a.same b && sameList as bs
  | _, _ => false

def ofLength (u : TrackUnits) : Length → Track
  | .auto => auto
  | .amount x .fr => fr x
  | .amount x .px => px x
  | .amount x .em => px (x * u.fontSize)
  | .amount x .percent => fr (x / 100)
  | l => px (u.units.resolve u.style none l)

def isContentWord (token : List Char) : Bool :=
  Text.isWord "auto" token || Text.isWord "min-content" token || Text.isWord "max-content" token

def rangeLimit? (token : List Char) : Option (List Char) :=
  (Template.callOf? "minmax" token).bind fun s => (Template.arguments s).getLast?

theorem length_rangeLimit? {token limit : List Char} (h : rangeLimit? token = some limit) :
    limit.length < token.length := by
  obtain ⟨s, hs, hl⟩ := Option.bind_eq_some_iff.1 h
  exact Nat.lt_of_le_of_lt (Template.length_arguments (List.mem_of_getLast? hl))
    (Template.length_callOf? hs)

/-- The track of a token. A range of sizes counts as its upper limit, and what cannot be read is one
share. -/
def ofToken (u : TrackUnits) (text : List Char) : Track :=
  let token := Text.trim text
  if isContentWord token || (Template.callOf? "fit-content" token).isSome then auto
  else
    match _h : rangeLimit? token with
    | some limit => ofToken u limit
    | none =>
      match Length.ofText? token with
      | some l => ofLength u l
      | none => fr 1
termination_by text.length
decreasing_by exact Nat.lt_of_lt_of_le (length_rangeLimit? _h) (Text.length_trim_le text)

def listOfText (u : TrackUnits) (s : List Char) : List Track :=
  let s := Text.trim s
  if s.isEmpty || Text.isWord "none" s then []
  else (Template.tokens s).map (ofToken u)

def toJson (t : Track) : Json :=
  .record [("type", .text (nameIn TrackKind.table t.kind)), ("value", .ofSingle t.value)]

def ofJson? (j : Json) : Option Track :=
  match j.allFields? ["type", "value"] with
  | some [kind, value] =>
    match kind.named? TrackKind.table, value.single? with
    | some kind, some value => some ⟨kind, value⟩
    | _, _ => none
  | _ => none

/-- Gives automatic tracks the nearest track after them that is not automatic, else the nearest one
before them, else one share. -/
def borrowFrom (before : Option Track) : List Track → List Track
  | [] => []
  | t :: ts =>
    if t.isAuto then
      ((ts.find? fun t => !t.isAuto).or before).getD (fr 1) :: borrowFrom before ts
    else t :: borrowFrom (some t) ts

def hasKind (kind : TrackKind) (ts : List Track) : Bool :=
  ts.any fun t => t.kind = kind

def total? (kind : TrackKind) (ts : List Track) : Option Float32 :=
  if hasKind kind ts then some (Single.sum ((ts.filter fun t => t.kind = kind).map Track.value))
  else none

def fill (shares pixels : Option Float32) (count : Nat) (t : Track) : Float32 :=
  match shares, pixels with
  | some _, none => t.value
  | none, some pixels => if 0 < pixels then t.value / pixels * Single.ofInt count else 1
  | none, none => 1
  | some shares, some pixels =>
    match t.kind with
    | .px => if 0 < pixels then t.value * shares / pixels else 0
    | _ => t.value

/-- The shares of the tracks. Pixel tracks alone become parts of the whole, and beside shares they
are scaled so that they take as much in total as the shares do. -/
def fills (ts : List Track) : List Float32 :=
  let borrowed := borrowFrom none ts
  borrowed.map (fill (total? .fr borrowed) (total? .px borrowed) borrowed.length)

end Track

end PanelLayout
