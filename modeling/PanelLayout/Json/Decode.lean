import PanelLayout.Geometry.Alignment
import PanelLayout.Json.Reader

/-! Reading numbers, names and records out of JSON values. -/
namespace PanelLayout.Json

def single? : Json → Option Float32
  | .number n => (Quantity.ofNumeral? n).map Quantity.toSingle
  | _ => none

def double? : Json → Option Float
  | .number n => (Quantity.ofNumeral? n).map Quantity.toDouble
  | _ => none

def natural? (bound : Nat) : Json → Option Nat
  | .number n =>
    match Quantity.ofNumeral? n with
    | some (.integer i) => if 0 ≤ i ∧ i < bound then some i.toNat else none
    | _ => none
  | _ => none

def text? : Json → Option String
  | .string text => text
  | _ => none

def member? (members : List (Option String × Json)) (key : String) : Option (Option Json) :=
  match members.filter fun m => m.1 = some key with
  | [] => some none
  | [m] => some (some m.2)
  | _ => none

/-- The values of the named fields of a record, in the order of the names. An array holds them by
position and may be too short, but not too long. -/
def fields? (names : List String) : Json → Option (List (Option Json))
  | .object members =>
    if members.all fun m => m.1.isSome then names.mapM (member? members) else none
  | .array items =>
    if items.length ≤ names.length then
      some (items.map some ++ List.replicate (names.length - items.length) none)
    else none
  | _ => none

def allFields? (names : List String) (j : Json) : Option (List Json) :=
  (fields? names j).bind (List.mapM id)

def named? {α : Type} (table : List (String × α)) : Json → Option α
  | .string (some name) => PanelLayout.named? table name
  | .object [(some name, .null)] => PanelLayout.named? table name
  | _ => none

end PanelLayout.Json
