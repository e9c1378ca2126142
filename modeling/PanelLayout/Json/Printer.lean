import PanelLayout.Json.Basic
import PanelLayout.Number.Shortest

/-! The text of JSON values, without blanks. -/
namespace PanelLayout

def Single.fractionNumeral (x : Float32) : Numeral :=
  let n := numeral x
  if n.fraction.isEmpty then { n with fraction := [0] } else n

namespace Json

/-- A finite number becomes a numeral with a point; infinities and what is no number become null. -/
def ofSingle (x : Float32) : Json :=
  if x.isFinite then .number (Single.fractionNumeral x) else .null

def hexDigit (n : Nat) : Char :=
  if n < 10 then Char.ofNat ('0'.toNat + n) else Char.ofNat ('a'.toNat + (n - 10))

def escapeChar (c : Char) : List Char :=
  match c with
  | '"' => ['\\', '"']
  | '\\' => ['\\', '\\']
  | '\x08' => ['\\', 'b']
  | '\x0c' => ['\\', 'f']
  | '\n' => ['\\', 'n']
  | '\r' => ['\\', 'r']
  | '\t' => ['\\', 't']
  | c =>
    if c.toNat < 0x20 then
      ['\\', 'u', '0', '0', hexDigit (c.toNat / 16), hexDigit (c.toNat % 16)]
    else [c]

def quoted (s : List Char) : List Char :=
  '"' :: (s.flatMap escapeChar ++ ['"'])

mutual

def render : Json → List Char
  | .null => "null".toList
  | .bool b => (if b then "true" else "false").toList
  | .number n => n.text
  | .string text => quoted (text.getD "").toList
  | .array items => '[' :: (renderItems items ++ [']'])
  | .object members => '\x7b' :: (renderMembers members ++ ['\x7d'])

def renderItems : List Json → List Char
  | [] => []
  | [j] => render j
  | j :: js => render j ++ ',' :: renderItems js

def renderMembers : List (Option String × Json) → List Char
  | [] => []
  | [(key, j)] => quoted (key.getD "").toList ++ ':' :: render j
  | (key, j) :: ms => quoted (key.getD "").toList ++ ':' :: render j ++ ',' :: renderMembers ms

end

end Json

end PanelLayout
