import PanelLayout.Length.Basic
import PanelLayout.Text.Fold

/-!
Reading numbers, lengths, lists of lengths and ratios. A scanner takes the longest such form off the
front of a text and returns what is left; `complete` asks that nothing is left.
-/
namespace PanelLayout

inductive ScanError where
  | unreadable
  | leftover (rest : String)
  deriving DecidableEq, Repr

def ScanError.message? : ScanError → Option String
  | unreadable => none
  | leftover rest =>
    some ("Parse error: Parser did not consume all input. Remainder: '" ++ rest ++ "'")

def complete {α : Type} (scan : List Char → Option (α × List Char)) (s : List Char) :
    Except ScanError α :=
  match scan (Text.trim s) with
  | none => .error .unreadable
  | some (a, []) => .ok a
  | some (_, rest) => .error (.leftover (String.ofList rest))

def complete? {α : Type} (scan : List Char → Option (α × List Char)) (s : List Char) : Option α :=
  (complete scan s).toOption

def scanNumber (s : List Char) : Option (Float32 × List Char) :=
  (Numeral.scanPlain s).map fun (n, r) => (Single.ofNumeral n, r)

def LengthUnit.table : List (String × LengthUnit) :=
  [("px", .px), ("pt", .pt), ("rem", .rem), ("em", .em), ("vw", .vw), ("vh", .vh), ("fr", .fr),
    ("%", .percent)]

def LengthUnit.scan (s : List Char) : Option (LengthUnit × List Char) :=
  Text.dropFirstWord? table s

namespace Length

def scanAmount (s : List Char) : Option (Length × List Char) :=
  (scanNumber s).map fun (x, r) =>
    match LengthUnit.scan r with
    | some (unit, r) => (.amount x unit, r)
    | none => (.amount x .px, r)

def scan (s : List Char) : Option (Length × List Char) :=
  match Text.dropWord? "auto".toList s with
  | some r => some (.auto, r)
  | none => scanAmount s

def ofText? (s : List Char) : Option Length :=
  complete? scan s

end Length

namespace Numeral

theorem scanSign_length (s : List Char) : (scanSign s).2.length ≤ s.length := by
  unfold scanSign
  split <;> simp

theorem scanDigits_length (s : List Char) : (scanDigits s).2.length ≤ s.length :=
  (List.dropWhile_sublist _).length_le

theorem scanFraction_length (s : List Char) : (scanFraction s).2.length ≤ s.length := by
  unfold scanFraction
  split
  · rename_i r
    split
    · simp
    · rename_i h
      have := scanDigits_length r
      simp only [h] at this
      simp only [List.length_cons]
      omega
  · simp

theorem scanPlain_length {s r : List Char} {n : Numeral} (h : scanPlain s = some (n, r)) :
    r.length ≤ s.length := by
  simp only [scanPlain] at h
  split at h
  · simp at h
  · simp only [Option.some.injEq, Prod.mk.injEq] at h
    obtain ⟨-, rfl⟩ := h
    exact Nat.le_trans (scanFraction_length _)
      (Nat.le_trans (scanDigits_length _) (scanSign_length s))

end Numeral

namespace Text

theorem dropWord?_length {w s r : List Char} (h : dropWord? w s = some r) :
    r.length ≤ s.length := by
  induction w generalizing s with
  | nil => simp_all [dropWord?]
  | cons a w ih =>
    cases s with
    | nil => simp [dropWord?] at h
    | cons c s =>
      simp only [dropWord?] at h
      split at h
      · exact Nat.le_trans (ih h) (Nat.le_succ _)
      · simp at h

theorem dropFirstWord?_length {α : Type} {table : List (String × α)} {s r : List Char} {a : α}
    (h : dropFirstWord? table s = some (a, r)) : r.length ≤ s.length := by
  obtain ⟨entry, -, h⟩ := List.exists_of_findSome?_eq_some h
  obtain ⟨t, ht, h⟩ := Option.map_eq_some_iff.1 h
  cases h
  exact dropWord?_length ht

end Text

namespace Length

theorem scan_length {s r : List Char} {l : Length} (h : scan s = some (l, r)) :
    r.length ≤ s.length := by
  simp only [scan] at h
  split at h
  · rename_i t ht
    cases h
    exact Text.dropWord?_length ht
  · obtain ⟨⟨x, t⟩, ht, h⟩ := Option.map_eq_some_iff.1 h
    obtain ⟨⟨n, u⟩, hn, hx⟩ := Option.map_eq_some_iff.1 ht
    cases hx
    have hu := Numeral.scanPlain_length hn
    dsimp only at h
    split at h
    · rename_i unit v hv
      cases h
      exact Nat.le_trans (Text.dropFirstWord?_length hv) hu
    · cases h
      exact hu

def scanMore (s : List Char) : List Length × List Char :=
  match s with
  | [] => ([], [])
  | c :: cs =>
    if Text.isSpacing c then
      match _h : scan (cs.dropWhile Text.isSpacing) with
      | none => ([], c :: cs)
      | some (l, r) =>
        let (ls, rest) := scanMore r
        (l :: ls, rest)
    else ([], c :: cs)
termination_by s.length
decreasing_by
  have h₁ := scan_length _h
  have h₂ := (List.dropWhile_sublist (l := cs) Text.isSpacing).length_le
  simp only [List.length_cons]
  omega

def scanList (s : List Char) : Option (List Length × List Char) :=
  (scan s).map fun (l, r) =>
    let (ls, rest) := scanMore r
    (l :: ls, rest)

end Length

/-- Takes a number, or two with a slash between them. A quotient by zero is zero. -/
def scanRatio (s : List Char) : Option (Float32 × List Char) :=
  (scanNumber s).map fun (x, r) =>
    match r.dropWhile Text.isSpacing with
    | '/' :: t =>
      match scanNumber (t.dropWhile Text.isSpacing) with
      | some (d, rest) => (if d != 0 then x / d else 0, rest)
      | none => (x, r)
    | _ => (x, r)

end PanelLayout
