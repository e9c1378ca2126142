import PanelLayout.Length.Units

/-!
Translations: the offsets of a transform on both axes, kept as lengths until the size of the element
is known. What cannot be read translates by nothing.
-/
namespace PanelLayout

structure Translation where
  x : List Length
  y : List Length
  deriving DecidableEq, Repr

namespace Translation

def identity : Translation := ⟨[], []⟩

def isIdentity (t : Translation) : Bool :=
  t.x.isEmpty && t.y.isEmpty

def append (s t : Translation) : Translation :=
  ⟨s.x ++ t.x, s.y ++ t.y⟩

/-- The offset in pixels. Percentages refer to the size of the element itself. -/
def resolve (u : CssUnits) (style : Style) (own : Size) (t : Translation) : Point :=
  ⟨Single.sum (t.x.map (u.resolve style (some own.width))),
    Single.sum (t.y.map (u.resolve style (some own.height)))⟩

def arguments? (s : List Char) : Option (List Length) :=
  (Text.fields (fun c => c = ',' || Text.isBlank c) s).mapM Length.ofText?

structure Call where
  name : List Char
  arguments : List Char
  deriving DecidableEq, Repr

def isNameChar (c : Char) : Bool :=
  c.isAlphanum || c = '-'

/-- Takes a call off the front of a text, with the blanks before and after it. The arguments end at
the first closing parenthesis. -/
def Call.scan (text : List Char) : Option (Call × List Char) :=
  let s := text.dropWhile Text.isSpacing
  let name := s.takeWhile isNameChar
  match name, (s.dropWhile isNameChar).dropWhile Text.isSpacing with
  | [], _ => none
  | _, '(' :: r =>
    match Text.splitOnce ')' (r.dropWhile Text.isSpacing) with
    | some (arguments, rest) => some (⟨name, arguments⟩, rest.dropWhile Text.isSpacing)
    | none => none
  | _, _ => none

theorem Call.scan_length {s r : List Char} {c : Call} (h : Call.scan s = some (c, r)) :
    r.length < s.length := by
  simp only [Call.scan] at h
  split at h
  · simp at h
  · rename_i t ht _
    have h₁ := Text.length_dropWhile_le Text.isSpacing s
    have h₂ := Text.length_dropWhile_le isNameChar (s.dropWhile Text.isSpacing)
    have h₃ := Text.length_dropWhile_le Text.isSpacing
      ((s.dropWhile Text.isSpacing).dropWhile isNameChar)
    have h₄ := Text.length_dropWhile_le Text.isSpacing t
    rw [ht, List.length_cons] at h₃
    split at h
    · rename_i a b hab
      cases h
      have h₅ := Text.splitOnce_length hab
      have h₆ := Text.length_dropWhile_le Text.isSpacing b
      omega
    · simp at h
  · simp at h

def calls? (s : List Char) : Option (List Call) :=
  match _h : Call.scan s with
  | none => none
  | some (c, []) => some [c]
  | some (c, r) => (calls? r).map (c :: ·)
termination_by s.length
decreasing_by exact Call.scan_length _h

/-- What a call adds to a translation. A translating function with arguments that are no lengths, or
not as many as it takes, cannot be read; other functions add nothing. -/
def ofCall? (c : Call) : Option Translation :=
  let name := Text.fold c.name
  if !"translate".toList.isPrefixOf name then some identity
  else
    match arguments? c.arguments with
    | none => none
    | some lengths =>
      match String.ofList name, lengths with
      | "translate", [x] => some ⟨[x], []⟩
      | "translate", [x, y] => some ⟨[x], [y]⟩
      | "translate3d", [x, y, _] => some ⟨[x], [y]⟩
      | "translatex", [x] => some ⟨[x], []⟩
      | "translatey", [y] => some ⟨[], [y]⟩
      | "translate", _ | "translate3d", _ | "translatex", _ | "translatey", _ => none
      | _, _ => some identity

def ofCalls? (cs : List Call) : Option Translation :=
  (cs.mapM ofCall?).map (List.foldl append identity)

def ofTransform (s : List Char) : Translation :=
  let s := Text.trim s
  if s.isEmpty || Text.isWord "none" s then identity
  else ((calls? s).bind ofCalls?).getD identity

/-- The translation of one length, or of two or three of which the third is not used. -/
def ofValue : Value → Translation
  | .number x => ⟨[.px x], []⟩
  | .text s =>
    if Text.isWord "none" (Text.trim s.toList) then identity
    else
      match arguments? s.toList with
      | some [x] => ⟨[x], []⟩
      | some [x, y] => ⟨[x], [y]⟩
      | some [x, y, _] => ⟨[x], [y]⟩
      | _ => identity
  | .spacing _ => identity

def lengthOf? : Value → Option Length
  | .number x => some (.px x)
  | .text s => Length.ofText? s.toList
  | .spacing _ => none

def ofStyle (style : Style) : Translation :=
  let transform := match style.get .transform with
    | some v => ofTransform v.display.toList
    | none => identity
  let translate := match style.get .translate with
    | some v => ofValue v
    | none => identity
  (transform.append translate).append
    ⟨((style.get .translateX).bind lengthOf?).toList, ((style.get .translateY).bind lengthOf?).toList⟩

end Translation

end PanelLayout
