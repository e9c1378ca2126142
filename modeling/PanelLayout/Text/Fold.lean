import PanelLayout.Text.Blank

/-! Comparison of texts without regard to the case of ASCII letters. -/
namespace PanelLayout.Text

/-- Puts the ASCII letters into lower case; every other character stays. -/
def fold (s : List Char) : List Char :=
  s.map Char.toLower

def isWord (word : String) (s : List Char) : Bool :=
  fold s = word.toList

/-- Takes a word given in lower case off the front of a text, in any case of its ASCII letters. -/
def dropWord? : List Char → List Char → Option (List Char)
  | [], s => some s
  | _ :: _, [] => none
  | w :: ws, c :: s => if c.toLower = w then dropWord? ws s else none

def keyword (s : List Char) : List Char :=
  fold (trim s)

def dropFirstWord? {α : Type} (table : List (String × α)) (s : List Char) :
    Option (α × List Char) :=
  table.findSome? fun (word, a) => (dropWord? word.toList s).map fun r => (a, r)

end PanelLayout.Text
