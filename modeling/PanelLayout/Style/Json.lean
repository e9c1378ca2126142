import PanelLayout.Geometry.Json
import PanelLayout.Style.Basic

/-! The JSON forms of values and styles. -/
namespace PanelLayout

namespace Value

def toJson : Value → Json
  | number x => .ofSingle x
  | text s => .text s
  | spacing m => m.toJson

def ofJson? : Json → Option Value
  | .string content => content.map .text
  | .object members => (Margin.ofJson (.object members)).toOption.map .spacing
  | j => j.single?.map .number

end Value

namespace Style

def ofValues (values : List (Option Value)) : Style :=
  (Property.all.zip values).foldl (fun s (p, v) => (v.map (s.set p)).getD s) empty

def slotOfJson? (usable : Json → Bool) : Option Json → Option (Option Value)
  | none | some .null => some none
  | some j => if usable j then (Value.ofJson? j).map some else none

/-- Reads a style from an object of properties, or from an array of values in the order of
declaration. Members that are no property are skipped. -/
def ofJsonWith? (usable : Json → Bool) (j : Json) : Option Style :=
  ((j.fields? (Property.all.map Property.name)).bind
    (List.mapM (slotOfJson? usable))).map ofValues

/-- Reads a style from a value that has been read as a whole: object members are sorted, and the
last of repeated ones counts. -/
def ofJson? (j : Json) : Option Style :=
  ofJsonWith? (fun _ => true) j.sorted

/-- Reads a style from a JSON text. A property may occur once, and its value must be usable. -/
def ofJsonText? (s : List Char) : Option Style :=
  (Json.ofText? s).bind (ofJsonWith? (Json.isUsable (Json.maxDepth - 1)))

def toJson (s : Style) : Json :=
  .record (s.entries.map fun (p, v) => (p.name, v.toJson))

def toJsonText (s : Style) : List Char :=
  s.toJson.render

end Style

end PanelLayout
