import PanelLayout.Style.Basic

/-!
Inline declarations: `name: value` pieces between semicolons. Names may be written with hyphens or
in camel case; a value that spells a number is stored as a number.
-/
namespace PanelLayout

structure EmptyValue where
  property : String
  deriving DecidableEq, Repr

def EmptyValue.message (e : EmptyValue) : String :=
  "Invalid value for '" ++ e.property ++ "': "

namespace Style

/-- Drops hyphens and puts the letter behind a hyphen into upper case, unless nothing is written
yet. -/
def camelFrom (started upper : Bool) : List Char → List Char
  | [] => []
  | c :: s =>
    if c = '-' then camelFrom started started s
    else (if upper then c.toUpper else c) :: camelFrom true false s

def camelCase (name : List Char) : String :=
  String.ofList (camelFrom false false (Text.trim name))

def valueOfText (s : List Char) : Value :=
  match Single.ofText? s with
  | some x => .number x
  | none => .text (String.ofList s)

def declare (s : Style) (name value : List Char) : Except EmptyValue Style :=
  let name := camelCase name
  let value := Text.trim value
  if value.isEmpty then .error ⟨name⟩
  else .ok ((s.setNamed? name (valueOfText value)).getD s)

def declarePiece (s : Style) (piece : List Char) : Except EmptyValue Style :=
  match Text.splitOnce ':' piece with
  | none => .ok s
  | some (name, value) => s.declare name value

/-- Reads inline declarations from left to right and stops at the first without a value. -/
def ofInline (css : List Char) : Except EmptyValue Style :=
  (Text.split (· = ';') css).foldlM declarePiece empty

end Style

end PanelLayout
