import PanelLayout.Json.Token

/-!
JSON values from tokens. Arrays and objects that are not yet closed lie on a stack, the innermost
first, and each token takes one reading position to the next.
-/
namespace PanelLayout.Json

/-- An array or an object under construction; what was read last is first. A member waits for the
value of its key. -/
inductive Frame where
  | array (items : List Json)
  | object (members : List (Option String × Json))
  | member (members : List (Option String × Json)) (key : Option String)

inductive Reading where
  | value (stack : List Frame)
  | firstItem (stack : List Frame)
  | firstKey (stack : List Frame)
  | key (stack : List Frame)
  | colon (stack : List Frame)
  | continuation (stack : List Frame)
  | complete (j : Json)

def supply (j : Json) : List Frame → Option Reading
  | [] => some (.complete j)
  | .array items :: stack => some (.continuation (.array (j :: items) :: stack))
  | .member members key :: stack => some (.continuation (.object ((key, j) :: members) :: stack))
  | .object _ :: _ => none

def close : List Frame → Option Reading
  | .array items :: stack => supply (.array items.reverse) stack
  | .object members :: stack => supply (.object members.reverse) stack
  | _ => none

def readValue (stack : List Frame) : Token → Option Reading
  | .scalar j => supply j stack
  | .beginArray => some (.firstItem (.array [] :: stack))
  | .beginObject => some (.firstKey (.object [] :: stack))
  | _ => none

def readKey : List Frame → Token → Option Reading
  | .object members :: stack, .scalar (.string key) => some (.colon (.member members key :: stack))
  | _, _ => none

def readToken : Reading → Token → Option Reading
  | .value stack, t => readValue stack t
  | .firstItem stack, .endArray => close stack
  | .firstItem stack, t => readValue stack t
  | .firstKey stack, .endObject => close stack
  | .firstKey stack, t => readKey stack t
  | .key stack, t => readKey stack t
  | .colon stack, .colon => some (.value stack)
  | .colon _, _ => none
  | .continuation stack, t =>
    match stack, t with
    | .array _ :: _, .comma => some (.value stack)
    | .array _ :: _, .endArray => close stack
    | .object _ :: _, .comma => some (.key stack)
    | .object _ :: _, .endObject => close stack
    | _, _ => none
  | .complete _, _ => none

def ofTokens? (tokens : List Token) : Option Json :=
  match tokens.foldlM readToken (.value []) with
  | some (.complete j) => some j
  | _ => none

def ofText? (s : List Char) : Option Json :=
  (tokens? s).bind ofTokens?

end PanelLayout.Json
