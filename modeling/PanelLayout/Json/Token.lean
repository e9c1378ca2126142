import PanelLayout.Json.Basic

/-!
The tokens of a JSON text. One character is read at a time, by a step from one scanning position to
the next, so that reading a text is a fold over its characters.
-/
namespace PanelLayout.Json

inductive Token where
  | beginArray
  | endArray
  | beginObject
  | endObject
  | colon
  | comma
  | scalar (j : Json)

inductive StringPart where
  | char (c : Char)
  | unit (n : Nat)

/-- The text of a string. Two escaped halves of a surrogate pair that follow each other make one
character; a half alone makes none. -/
def stringText? : List StringPart → Option (List Char)
  | [] => some []
  | .char c :: ps => (stringText? ps).map (c :: ·)
  | .unit n :: ps =>
    if n < 0xD800 ∨ 0xDFFF < n then (stringText? ps).map (Char.ofNat n :: ·)
    else match ps with
      | .unit m :: qs =>
        if n ≤ 0xDBFF ∧ 0xDC00 ≤ m ∧ m ≤ 0xDFFF then
          (stringText? qs).map (Char.ofNat (0x10000 + (n - 0xD800) * 0x400 + (m - 0xDC00)) :: ·)
        else none
      | _ => none

/-- Where the reading of a text stands. Lists hold what was read last first. -/
inductive Scan where
  | between
  | word (letters : List Char)
  | numeral (signs : List Char)
  | string (parts : List StringPart)
  | escape (parts : List StringPart)
  | hex (parts : List StringPart) (digits : List Nat)

def isSpace (c : Char) : Bool :=
  c = ' ' || c = '\t' || c = '\n' || c = '\r'

def isNumeralChar (c : Char) : Bool :=
  c.isDigit || c = '-' || c = '+' || c = '.' || c = 'e' || c = 'E'

def hexValue? (c : Char) : Option Nat :=
  if c.isDigit then some (c.toNat - '0'.toNat)
  else if 'a' ≤ c ∧ c ≤ 'f' then some (c.toNat - 'a'.toNat + 10)
  else if 'A' ≤ c ∧ c ≤ 'F' then some (c.toNat - 'A'.toNat + 10)
  else none

def escaped? : Char → Option Char
  | '"' => some '"'
  | '\\' => some '\\'
  | '/' => some '/'
  | 'b' => some '\x08'
  | 'f' => some '\x0c'
  | 'n' => some '\n'
  | 'r' => some '\r'
  | 't' => some '\t'
  | _ => none

def wordToken? (letters : List Char) : Option Token :=
  match String.ofList letters.reverse with
  | "null" => some (.scalar .null)
  | "true" => some (.scalar (.bool true))
  | "false" => some (.scalar (.bool false))
  | _ => none

def numeralToken? (signs : List Char) : Option Token :=
  (Numeral.ofJson? signs.reverse).map fun n => .scalar (.number n)

def scanBetween (c : Char) : Option (Scan × List Token) :=
  if isSpace c then some (.between, [])
  else if c.isAlpha then some (.word [c], [])
  else if isNumeralChar c then some (.numeral [c], [])
  else match c with
    | '[' => some (.between, [.beginArray])
    | ']' => some (.between, [.endArray])
    | '\x7b' => some (.between, [.beginObject])
    | '\x7d' => some (.between, [.endObject])
    | ':' => some (.between, [.colon])
    | ',' => some (.between, [.comma])
    | '"' => some (.string [], [])
    | _ => none

/-- Reads one character; the answer holds the tokens that it completes. -/
def scanChar : Scan → Char → Option (Scan × List Token)
  | .between, c => scanBetween c
  | .word letters, c =>
    if c.isAlpha then some (.word (c :: letters), [])
    else do
      let token ← wordToken? letters
      let (next, tokens) ← scanBetween c
      some (next, token :: tokens)
  | .numeral signs, c =>
    if isNumeralChar c then some (.numeral (c :: signs), [])
    else do
      let token ← numeralToken? signs
      let (next, tokens) ← scanBetween c
      some (next, token :: tokens)
  | .string parts, c =>
    if c = '"' then
      some (.between, [.scalar (.string ((stringText? parts.reverse).map String.ofList))])
    else if c = '\\' then some (.escape parts, [])
    else if c.toNat < 0x20 then none
    else some (.string (.char c :: parts), [])
  | .escape parts, c =>
    if c = 'u' then some (.hex parts [], [])
    else (escaped? c).map fun d => (.string (.char d :: parts), [])
  | .hex parts digits, c => (hexValue? c).map fun d =>
    match digits with
    | [x, y, z] => (.string (.unit (((z * 16 + y) * 16 + x) * 16 + d) :: parts), [])
    | _ => (.hex parts (d :: digits), [])

def scanEnd : Scan → Option (List Token)
  | .between => some []
  | .word letters => (wordToken? letters).map ([·])
  | .numeral signs => (numeralToken? signs).map ([·])
  | _ => none

def tokensFrom (s : Scan) (done : List Token) : List Char → Option (List Token)
  | [] => (scanEnd s).map fun tokens => done.reverse ++ tokens
  | c :: cs =>
    match scanChar s c with
    | none => none
    | some (next, tokens) => tokensFrom next (tokens.reverse ++ done) cs

def tokens? (s : List Char) : Option (List Token) :=
  tokensFrom .between [] s

end PanelLayout.Json
