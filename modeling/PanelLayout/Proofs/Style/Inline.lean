import PanelLayout.Proofs.Style.Names
import PanelLayout.Proofs.Text.Pieces
import PanelLayout.Style.Inline
import Mathlib.Data.List.Induction

/-!
Inline declarations. Of several declarations of a property the last one counts, so that two texts with a
semicolon between them give the second one's style over the first one's. The first declaration without
a value is the error of the whole.
-/
namespace PanelLayout

namespace Style

structure Declaration where
  name : List Char
  value : List Char
  deriving DecidableEq

namespace Declaration

def ofPiece? (piece : List Char) : Option Declaration :=
  (Text.splitOnce ':' piece).map fun (name, value) => ⟨name, value⟩

def isBare (d : Declaration) : Bool := (Text.trim d.value).isEmpty

def valueOf? (p : Property) (d : Declaration) : Option Value :=
  if p.name = camelCase d.name then some (valueOfText (Text.trim d.value)) else none

end Declaration

open Declaration (ofPiece? isBare valueOf?)

def declarations (css : List Char) : List Declaration :=
  (Text.split (· = ';') css).filterMap ofPiece?

def lastValue? (ds : List Declaration) (p : Property) : Option Value := ds.reverse.findSome? (valueOf? p)

def ofDeclarations (ds : List Declaration) : Style := ⟨lastValue? ds⟩

theorem ofDeclarations_append (as bs : List Declaration) :
    ofDeclarations (as ++ bs) = (ofDeclarations as).merge (ofDeclarations bs) := by
  ext1
  funext p
  simp [ofDeclarations, lastValue?, List.findSome?_append]

theorem declarations_append (a b : List Char) :
    declarations (a ++ ';' :: b) = declarations a ++ declarations b := by
  rw [declarations, Text.split_append_cons (decide_eq_true rfl), List.filterMap_append]
  rfl

theorem getD_setNamed? (ds : List Declaration) (d : Declaration) :
    ((ofDeclarations ds).setNamed? (camelCase d.name) (valueOfText (Text.trim d.value))).getD
      (ofDeclarations ds) = ofDeclarations (ds ++ [d]) := by
  have hlast : ofNamed (camelCase d.name) (valueOfText (Text.trim d.value)) = ofDeclarations [d] := by
    ext1
    funext p
    simp [ofDeclarations, lastValue?, valueOf?]
  rw [getD_setNamed?_eq_merge, hlast, ofDeclarations_append]

theorem declarePiece_ofDeclarations (ds : List Declaration) (piece : List Char) :
    declarePiece (ofDeclarations ds) piece =
      match ofPiece? piece with
      | none => .ok (ofDeclarations ds)
      | some d =>
        if d.isBare then .error ⟨camelCase d.name⟩ else .ok (ofDeclarations (ds ++ [d])) := by
  rw [declarePiece, ofPiece?]
  cases Text.splitOnce ':' piece with
  | none => rfl
  | some parts =>
    obtain ⟨name, value⟩ := parts
    simp only [declare, Option.map_some, isBare]
    rw [← getD_setNamed? ds ⟨name, value⟩]
    rfl

/-- The first declaration without a value is the error; without one, all declarations count. -/
theorem foldlM_declarePiece (pieces : List (List Char)) :
    pieces.foldlM declarePiece empty =
      match (pieces.filterMap ofPiece?).find? isBare with
      | some d => .error ⟨camelCase d.name⟩
      | none => .ok (ofDeclarations (pieces.filterMap ofPiece?)) := by
  induction pieces using List.reverseRecOn with
  | nil => rfl
  | append_singleton pieces piece ih =>
    rw [List.foldlM_append, ih, List.filterMap_append, List.find?_append]
    cases (pieces.filterMap ofPiece?).find? isBare with
    | some d => rfl
    | none =>
      show (declarePiece _ piece).bind pure = _
      rw [declarePiece_ofDeclarations, List.filterMap_cons, List.filterMap_nil]
      cases ofPiece? piece with
      | none =>
        simp only [List.append_nil]
        rfl
      | some d =>
        simp only [List.find?_singleton]
        cases d.isBare <;> rfl

theorem ofInline_eq (css : List Char) :
    ofInline css =
      match (declarations css).find? isBare with
      | some d => .error ⟨camelCase d.name⟩
      | none => .ok (ofDeclarations (declarations css)) :=
  foldlM_declarePiece _

theorem ofInline_eq_ok_iff {css : List Char} {s : Style} : ofInline css = .ok s ↔
    (declarations css).find? isBare = none ∧ ofDeclarations (declarations css) = s := by
  rw [ofInline_eq]
  cases (declarations css).find? isBare <;> simp

theorem ofInline_append (a b : List Char) :
    ofInline (a ++ ';' :: b) = (ofInline a).bind fun s => (ofInline b).map s.merge := by
  rw [ofInline_eq, ofInline_eq a, ofInline_eq b, declarations_append, List.find?_append,
    ofDeclarations_append]
  cases (declarations a).find? isBare with
  | some d => rfl
  | none => cases (declarations b).find? isBare <;> rfl

/-- A piece that declares nothing: it has no colon, or a value for a name that is no property. -/
inductive IsIdle : List Char → Prop
  | plain {piece : List Char} (hpiece : ';' ∉ piece) (hcolon : ':' ∉ piece) : IsIdle piece
  | unknown {name value : List Char} (hname : ';' ∉ name) (hcolon : ':' ∉ name) (hvalue : ';' ∉ value)
      (hunknown : ∀ p : Property, p.name ≠ camelCase name) (hgiven : Text.trim value ≠ []) :
      IsIdle (name ++ ':' :: value)

theorem declarations_piece {piece : List Char} (h : ';' ∉ piece) :
    declarations piece = (ofPiece? piece).toList := by
  have hsplit : Text.split (· = ';') piece = [piece] :=
    Text.split_eq_singleton fun c hc => decide_eq_false fun heq => h (heq ▸ hc)
  rw [declarations, hsplit, List.filterMap_cons]
  cases ofPiece? piece <;> rfl

theorem declarations_colon {name value : List Char} (hname : ';' ∉ name) (hcolon : ':' ∉ name)
    (hvalue : ';' ∉ value) : declarations (name ++ ':' :: value) = [⟨name, value⟩] := by
  rw [declarations_piece (by simp [hname, hvalue]), ofPiece?, Text.splitOnce_append hcolon]
  rfl

theorem IsIdle.ofInline_eq {piece : List Char} (h : IsIdle piece) : ofInline piece = .ok empty := by
  rw [Style.ofInline_eq]
  cases h with
  | plain hpiece hcolon =>
    rw [declarations_piece hpiece, ofPiece?, Text.splitOnce_eq_none hcolon]
    rfl
  | @unknown name value hname hcolon hvalue hunknown hgiven =>
    have hbare : isBare ⟨name, value⟩ = false := by simpa [isBare] using hgiven
    rw [declarations_colon hname hcolon hvalue, List.find?_singleton, hbare]
    refine congrArg Except.ok (Style.ext (funext fun p => ?_))
    simp [ofDeclarations, lastValue?, valueOf?, hunknown p]

/-- Text of declarations before other text of them, with a semicolon between: the styles are laid one
over the other, and the first error stays. Hence the last declaration of a property counts, a piece
that declares nothing does not matter, and the first empty value is an error whatever its name is. -/
theorem ofInline_semicolon (a b : List Char) :
    (∀ s t, ofInline a = .ok s → ofInline b = .ok t → ofInline (a ++ ';' :: b) = .ok (s.merge t)) ∧
    (∀ e, ofInline a = .error e → ofInline (a ++ ';' :: b) = .error e) ∧
    (∀ s e, ofInline a = .ok s → ofInline b = .error e → ofInline (a ++ ';' :: b) = .error e) ∧
    (∀ s, ofInline a = .ok s → ∀ p, s.get p = lastValue? (declarations a) p) ∧
    (∀ piece, IsIdle piece → ofInline (a ++ ';' :: piece) = ofInline a ∧
      ofInline (piece ++ ';' :: b) = ofInline b ∧
      ofInline (a ++ ';' :: (piece ++ ';' :: b)) = ofInline (a ++ ';' :: b)) ∧
    ∀ d, (declarations a).find? isBare = some d → ofInline a = .error ⟨camelCase d.name⟩ := by
  refine ⟨?_, ?_, ?_, ?_, ?_, ?_⟩
  · intro s t hs ht
    rw [ofInline_append, hs, ht]
    rfl
  · intro e he
    rw [ofInline_append, he]
    rfl
  · intro s e hs he
    rw [ofInline_append, hs, he]
    rfl
  · intro s hs p
    obtain ⟨-, rfl⟩ := ofInline_eq_ok_iff.mp hs
    rfl
  · intro piece hidle
    have hafter : ∀ c, ofInline (piece ++ ';' :: c) = ofInline c := by
      intro c
      rw [ofInline_append, hidle.ofInline_eq]
      cases ofInline c with
      | error e => rfl
      | ok t => exact congrArg Except.ok (empty_merge t)
    refine ⟨?_, hafter b, ?_⟩
    · rw [ofInline_append, hidle.ofInline_eq]
      cases ofInline a with
      | error e => rfl
      | ok s => exact congrArg Except.ok (merge_empty s)
    · rw [ofInline_append, hafter, ofInline_append]
  · intro d hd
    rw [ofInline_eq, hd]

theorem ofInline_semicolon_repeated :
    (∃ s t, ofInline "gap: 4px; gap: 8px".toList = .ok s ∧ ofInline "display: flex".toList = .ok t ∧
      ofInline ("gap: 4px; gap: 8px".toList ++ ';' :: "display: flex".toList) = .ok (s.merge t) ∧
      s.get .gap = some (.text "8px")) ∧
    IsIdle "fancy: 1".toList ∧
    ofInline ("gap: 4px".toList ++ ';' :: "fancy: 1".toList) = ofInline "gap: 4px".toList ∧
    (declarations "gap: 4px; color: ".toList).find? isBare = some ⟨" color".toList, " ".toList⟩ ∧
    ofInline ("gap: 4px; color: ".toList ++ ';' :: "display: flex".toList) = .error ⟨"color"⟩ ∧
    ofInline ("display: flex".toList ++ ';' :: "gap: 4px; color: ".toList) = .error ⟨"color"⟩ := by
  have hgap : ofInline "gap: 4px; gap: 8px".toList = .ok _ :=
    ofInline_eq_ok_iff.mpr ⟨by decide +kernel, rfl⟩
  have hflex : ofInline "display: flex".toList = .ok _ :=
    ofInline_eq_ok_iff.mpr ⟨by decide +kernel, rfl⟩
  have hname : Property.ofName? (camelCase "fancy".toList) = none := by decide +kernel
  have hunknown : IsIdle ("fancy".toList ++ ':' :: " 1".toList) := by
    refine .unknown (by decide) (by decide) (by decide) (fun p hp => ?_) (by decide)
    rw [Property.ofName?_eq_some_iff.mpr hp] at hname
    cases hname
  have hfind : (declarations "gap: 4px; color: ".toList).find? isBare =
      some ⟨" color".toList, " ".toList⟩ := by
    decide +kernel
  obtain ⟨hmerge, -, -, hlast, -, -⟩ :=
    ofInline_semicolon "gap: 4px; gap: 8px".toList "display: flex".toList
  obtain ⟨-, -, -, -, hidle, -⟩ := ofInline_semicolon "gap: 4px".toList []
  obtain ⟨-, herror, -, -, -, hbare⟩ :=
    ofInline_semicolon "gap: 4px; color: ".toList "display: flex".toList
  obtain ⟨-, -, hlater, -, -, -⟩ :=
    ofInline_semicolon "display: flex".toList "gap: 4px; color: ".toList
  have hcolor := hbare _ hfind
  refine ⟨⟨_, _, hgap, hflex, hmerge _ _ hgap hflex, ?_⟩, hunknown, (hidle _ hunknown).1, hfind,
    herror _ hcolor, hlater _ _ hflex hcolor⟩
  rw [hlast _ hgap]
  decide +kernel

end Style

end PanelLayout
