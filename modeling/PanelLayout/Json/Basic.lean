import PanelLayout.Number.Double

/-!
JSON values as they are written: numbers keep their numerals and objects keep the order and the
repetition of their members.
-/
namespace PanelLayout

/-- A JSON value. A string has no text when an escape in it names half of a surrogate pair; such a
string may be skipped but not used. -/
inductive Json where
  | null
  | bool (b : Bool)
  | number (n : Numeral)
  | string (text : Option String)
  | array (items : List Json)
  | object (members : List (Option String × Json))
  deriving Repr

inductive Quantity where
  | integer (i : Int)
  | real (x : Float)

namespace Quantity

def ofNumeral? (n : Numeral) : Option Quantity :=
  let size := n.coefficient
  if n.isInteger ∧ ¬ n.negative ∧ size < UInt64.size then some (integer size)
  else if n.isInteger ∧ n.negative ∧ size ≠ 0 ∧ size ≤ Nat.pow 2 63 then some (integer (-size))
  else (Double.ofNumeral? n).map real

def toSingle : Quantity → Float32
  | integer i => Single.ofInt i
  | real x => Double.narrow x

def toDouble : Quantity → Float
  | integer i => Double.ofInt i
  | real x => x

end Quantity

namespace Json

def record (fields : List (String × Json)) : Json :=
  .object (fields.map fun (key, j) => (some key, j))

def text (s : String) : Json :=
  .string (some s)

def ofInt (i : Int) : Json :=
  .number (.ofInt i)

mutual

/-- True when every number is in range, every string has its text and arrays and objects are nested
at most so deep. -/
def isUsable : Nat → Json → Bool
  | _, .null => true
  | _, .bool _ => true
  | _, .number n => (Quantity.ofNumeral? n).isSome
  | _, .string text => text.isSome
  | depth, .array items => 0 < depth && areUsable (depth - 1) items
  | depth, .object members => 0 < depth && areUsableMembers (depth - 1) members

def areUsable : Nat → List Json → Bool
  | _, [] => true
  | depth, j :: js => isUsable depth j && areUsable depth js

def areUsableMembers : Nat → List (Option String × Json) → Bool
  | _, [] => true
  | depth, (key, j) :: ms => key.isSome && isUsable depth j && areUsableMembers depth ms

end

def maxDepth : Nat := 127

def insertMember (key : Option String) (j : Json) :
    List (Option String × Json) → List (Option String × Json)
  | [] => [(key, j)]
  | (k, v) :: ms =>
    if k = key then (key, j) :: ms
    else if (key.getD "") < (k.getD "") then (key, j) :: (k, v) :: ms
    else (k, v) :: insertMember key j ms

mutual

/-- The value with the members of every object sorted by key, the last of equal keys kept. -/
def sorted : Json → Json
  | .array items => .array (sortedItems items)
  | .object members => .object (sortedMembers members []) 
  | j => j

def sortedItems : List Json → List Json
  | [] => []
  | j :: js => sorted j :: sortedItems js

def sortedMembers : List (Option String × Json) → List (Option String × Json) →
    List (Option String × Json)
  | [], acc => acc
  | (key, j) :: ms, acc => sortedMembers ms (insertMember key (sorted j) acc)

end

end Json

end PanelLayout
