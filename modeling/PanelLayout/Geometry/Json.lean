import PanelLayout.Geometry.Anchors
import PanelLayout.Geometry.Margin
import PanelLayout.Json.Decode
import PanelLayout.Json.Describe
import PanelLayout.Json.Printer

/-! The JSON forms of sizes, points, anchors, margins and panel modes. -/
namespace PanelLayout

def Size.toJson (s : Size) : Json :=
  .record [("width", .ofSingle s.width), ("height", .ofSingle s.height)]

def Size.ofJson? (j : Json) : Option Size :=
  match (j.allFields? ["width", "height"]).bind (List.mapM Json.single?) with
  | some [width, height] => some ⟨width, height⟩
  | _ => none

def Point.toJson (p : Point) : Json :=
  .record [("x", .ofSingle p.x), ("y", .ofSingle p.y)]

def Point.ofJson? (j : Json) : Option Point :=
  match (j.allFields? ["x", "y"]).bind (List.mapM Json.single?) with
  | some [x, y] => some ⟨x, y⟩
  | _ => none

def Anchors.toJson (a : Anchors) : Json :=
  .record [("minimum", a.minimum.toJson), ("maximum", a.maximum.toJson)]

def Anchors.ofJson? (j : Json) : Option Anchors :=
  match (j.allFields? ["minimum", "maximum"]).bind (List.mapM Point.ofJson?) with
  | some [minimum, maximum] => some ⟨minimum, maximum⟩
  | _ => none

def SizeRule.toJson : SizeRule → Json
  | .auto => .text "Auto"
  | .fill share => .record [("Fill", .ofSingle share)]

def SizeRule.ofJson? : Json → Option SizeRule
  | .object [(some "Fill", j)] => j.single?.map .fill
  | j => j.named? [("Auto", .auto)]

inductive MarginJsonError where
  | shorthand (e : MarginError)
  | notMargin (found : Json)
  | notNumber (found : Json)
  | unusable

def MarginJsonError.message : MarginJsonError → String
  | shorthand e => e.message
  | notMargin found =>
    "invalid type: " ++ found.describe ++ ", expected a number, a string like '2 4 6 8' or a map"
  | notNumber found => "invalid type: " ++ found.describe ++ ", expected f32"
  | unusable => "invalid value"

namespace Margin

def toJson (m : Margin) : Json :=
  .record [("left", .ofSingle m.left), ("top", .ofSingle m.top), ("right", .ofSingle m.right),
    ("bottom", .ofSingle m.bottom)]

def setSide (m : Margin) (key : String) (j : Json) : Except MarginJsonError Margin :=
  let side : Except MarginJsonError Float32 :=
    match j.single? with
    | some x => .ok x
    | none => .error (.notNumber j)
  match key with
  | "top" => side.map fun x => { m with top := x }
  | "right" => side.map fun x => { m with right := x }
  | "bottom" => side.map fun x => { m with bottom := x }
  | "left" => side.map fun x => { m with left := x }
  | _ => .ok m

/-- Reads a margin: a number for all sides, a shorthand, or an object of sides. A side that is not
named is zero, and the last of repeated sides counts. -/
def ofJson : Json → Except MarginJsonError Margin
  | .number n =>
    match (Json.number n).single? with
    | some x => .ok (all x)
    | none => .error .unusable
  | .string (some s) => (ofText s.toList).mapError .shorthand
  | .string none => .error .unusable
  | .object members => members.foldlM (fun m (key, j) =>
      match key with
      | some key => setSide m key j
      | none => .error .unusable) zero
  | j => .error (.notMargin j)

end Margin

end PanelLayout
