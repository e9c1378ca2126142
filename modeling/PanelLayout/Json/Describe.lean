import PanelLayout.Json.Basic
import PanelLayout.Text.Extender
import PanelLayout.Text.Ignorable
import PanelLayout.Text.Unprintable

/-!
What messages call a JSON value. A string is shown between quotes, with escapes for the characters
that would not be seen on their own.
-/
namespace PanelLayout.Json

def codePointEscape (c : Char) : List Char :=
  ['\\', 'u', '\x7b'] ++ Nat.toDigits 16 c.toNat ++ ['\x7d']

def isHidden (c : Char) : Bool :=
  Text.isUnprintable c || Text.isIgnorable c || (Text.isExtender c && !Text.isSoundMark c)

def messageChar (c : Char) : List Char :=
  match c with
  | '"' => ['\\', '"']
  | '\\' => ['\\', '\\']
  | '\n' => ['\\', 'n']
  | '\r' => ['\\', 'r']
  | '\t' => ['\\', 't']
  | '\x00' => ['\\', '0']
  | c => if isHidden c then codePointEscape c else [c]

def describe : Json → String
  | .null => "null"
  | .bool b => "boolean `" ++ (if b then "true" else "false") ++ "`"
  | .number _ => "number"
  | .string text =>
    "string \"" ++ String.ofList ((text.getD "").toList.flatMap messageChar) ++ "\""
  | .array _ => "sequence"
  | .object _ => "map"

end PanelLayout.Json
