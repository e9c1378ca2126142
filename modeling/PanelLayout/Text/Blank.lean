/-!
Blanks: the characters of the Unicode property White_Space, trimming them off and splitting at them.
-/
namespace PanelLayout.Text

def isBlank (c : Char) : Bool :=
  let n := c.toNat
  (9 ≤ n && n ≤ 13) || n = 0x20 || n = 0x85 || n = 0xA0 || n = 0x1680 || (0x2000 ≤ n && n ≤ 0x200A)
    || n = 0x2028 || n = 0x2029 || n = 0x202F || n = 0x205F || n = 0x3000

/-- True for the blanks between the parts of a length, a list or a function: space, tab and line
ends. -/
def isSpacing (c : Char) : Bool :=
  c = ' ' || c = '\t' || c = '\r' || c = '\n'

def trimEnd (s : List Char) : List Char :=
  (s.reverse.dropWhile isBlank).reverse

def trim (s : List Char) : List Char :=
  trimEnd (s.dropWhile isBlank)

/-- Cuts a text at every character of a class; the pieces may be empty, and there is at least one. -/
def split (p : Char → Bool) : List Char → List (List Char)
  | [] => [[]]
  | c :: s =>
    if p c then [] :: split p s
    else match split p s with
      | [] => [[c]]
      | w :: ws => (c :: w) :: ws

def fields (p : Char → Bool) (s : List Char) : List (List Char) :=
  (split p s).filter (fun w => !w.isEmpty)

def words (s : List Char) : List (List Char) :=
  fields isBlank s

def splitOnce (c : Char) (s : List Char) : Option (List Char × List Char) :=
  match s.dropWhile (· ≠ c) with
  | [] => none
  | _ :: r => some (s.takeWhile (· ≠ c), r)

theorem splitOnce_length {c : Char} {s a b : List Char} (h : splitOnce c s = some (a, b)) :
    b.length < s.length := by
  have hs := (List.dropWhile_sublist (l := s) (· ≠ c)).length_le
  simp only [splitOnce] at h
  split at h
  · simp at h
  · rename_i d r hr
    simp only [Option.some.injEq, Prod.mk.injEq] at h
    obtain ⟨-, rfl⟩ := h
    rw [hr] at hs
    exact hs

theorem length_dropWhile_le (p : Char → Bool) (s : List Char) :
    (s.dropWhile p).length ≤ s.length :=
  (List.dropWhile_sublist p).length_le

theorem length_trim_le (s : List Char) : (trim s).length ≤ s.length := by
  have h₁ := length_dropWhile_le isBlank s
  have h₂ := length_dropWhile_le isBlank (s.dropWhile isBlank).reverse
  simp only [List.length_reverse] at h₂
  simp only [trim, trimEnd, List.length_reverse]
  omega

end PanelLayout.Text
