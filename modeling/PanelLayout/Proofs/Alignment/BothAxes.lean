import PanelLayout.Alignment.Keyword
import PanelLayout.Proofs.Text.Words

/-!
A keyword for both axes of a child. A keyword of one word says the same in the shorthand as in the
properties of the two axes; one of several words is taken apart, and its first word is no keyword.
-/
namespace PanelLayout

theorem Text.eq_append_of_dropWord?_fold {w s r : List Char} (h : dropWord? w (fold s) = some r) :
    fold s = w ++ r := by
  rw [dropWord?_fold] at h
  obtain ⟨rest, hdrop, rfl⟩ := Option.map_eq_some_iff.mp h
  obtain ⟨a, rfl, rfl⟩ := eq_append_of_dropWord? hdrop
  exact List.map_append

theorem Text.first_word_of_dropWord? (word : List Char) {s r w : List Char} {ws : List (List Char)}
    (hword : words word = [word]) (hdrop : dropWord? (word ++ [' ']) (fold s) = some r)
    (hs : words (fold s) = w :: ws) : w = word := by
  have hfold : fold s = word ++ ' ' :: r := by
    rw [eq_append_of_dropWord?_fold hdrop, List.append_assoc, List.singleton_append]
  rw [hfold, words_append_cons rfl, hword] at hs
  exact (List.cons.inj hs).1.symm

theorem mem_of_named?_isSome {α : Type} {table : List (String × α)} {name : String}
    (h : (named? table name).isSome = true) : ∃ entry ∈ table, entry.1 = name := by
  rw [named?, Option.isSome_map, List.find?_isSome] at h
  obtain ⟨entry, hentry, hname⟩ := h
  exact ⟨entry, hentry, of_decide_eq_true hname⟩

namespace AlignKeyword

theorem ofText?_congr {s t : List Char} (h : Text.keyword s = Text.keyword t) :
    ofText? s = ofText? t := by
  rw [ofText?, ofText?, h]

theorem ofText?_trim (s : List Char) : ofText? (Text.trim s) = ofText? s :=
  ofText?_congr (congrArg Text.fold (Text.trim_trim s))

theorem ofText?_fold (s : List Char) : ofText? (Text.fold s) = ofText? s := by
  refine ofText?_congr ?_
  rw [Text.keyword, Text.trim_fold, Text.fold_fold, Text.keyword]

theorem ofText?_first_word {k : List Char} (hk : (ofText? k).isSome = true) {w v : List Char}
    {vs : List (List Char)} (hw : Text.words k = w :: v :: vs) : ofText? w = none := by
  have hwords : Text.words (Text.keyword k) = Text.fold w :: Text.fold v :: vs.map Text.fold := by
    rw [Text.words_keyword, hw]
    rfl
  rw [← ofText?_fold]
  rw [ofText?, dropOverflow] at hk
  split at hk
  · rename_i r _ hdrop
    rw [Text.first_word_of_dropWord? "safe".toList (by decide) hdrop hwords]
    decide
  · rename_i r _ hdrop
    rw [Text.first_word_of_dropWord? "unsafe".toList (by decide) hdrop hwords]
    decide
  · obtain ⟨entry, hentry, hname⟩ := mem_of_named?_isSome hk
    have hspelling : ∀ entry ∈ spellings, 1 < (Text.words entry.1.toList).length →
        ∀ w ∈ (Text.words entry.1.toList).head?, ofText? w = none := by decide
    have hentryWords : Text.words entry.1.toList = Text.words (Text.keyword k) := by
      rw [hname, String.toList_ofList, Text.words_trim]
    refine hspelling entry hentry ?_ _ ?_
    · rw [hentryWords, hwords]
      simp
    · rw [hentryWords, hwords]
      rfl

end AlignKeyword

theorem Value.align?_text (k : String) :
    Value.align? (.text k) = AlignKeyword.ofText? k.toList := by
  rw [align?, text?, Option.bind_some, AlignKeyword.ofText?_trim]

namespace SelfAlignment

def LeavesAlignment (s : Style) : Prop :=
  s.get .placeSelf = none ∧ s.get .alignSelf = none ∧ s.get .justifySelf = none

def inBoth (k : String) (s : Style) : Style :=
  s.set .placeSelf (.text k)

def inEach (k : String) (s : Style) : Style :=
  (s.set .alignSelf (.text k)).set .justifySelf (.text k)

section
variable {s : Style} (hs : LeavesAlignment s) (k : String)
include hs

theorem ofStyle_inEach :
    ofStyle (inEach k s) = ⟨AlignKeyword.ofText? k.toList, AlignKeyword.ofText? k.toList⟩ := by
  have hplace : (inEach k s).get .placeSelf = none := hs.1
  have halign : (inEach k s).get .alignSelf = some (.text k) := rfl
  have hjustify : (inEach k s).get .justifySelf = some (.text k) := rfl
  simp only [ofStyle, Style.alignPair, Style.align?, hplace, halign, hjustify, Option.bind_none,
    Option.bind_some, Option.none_or, Value.align?_text]

theorem ofStyle_inBoth :
    ofStyle (inBoth k s) =
      ⟨(AlignKeyword.pairOfText k.toList).1, (AlignKeyword.pairOfText k.toList).2⟩ := by
  have hplace : (inBoth k s).get .placeSelf = some (.text k) := rfl
  have halign : (inBoth k s).get .alignSelf = none := hs.2.1
  have hjustify : (inBoth k s).get .justifySelf = none := hs.2.2
  have hpair : AlignKeyword.pairOfText (Text.trim k.toList) = AlignKeyword.pairOfText k.toList := by
    rw [AlignKeyword.pairOfText, Text.words_trim, AlignKeyword.pairOfText]
  simp only [ofStyle, Style.alignPair, Style.align?, hplace, halign, hjustify, Option.bind_none,
    Option.bind_some, Option.or_none, Value.text?, hpair]

/-- A keyword aligns a child on both axes when it is given for each of them. Given once for both it does
the same exactly if it is a single word. Otherwise its first word is taken for the one axis, which leaves
that axis to the container. -/
theorem ofStyle_inBoth_eq_iff {keyword : AlignKeyword}
    (hk : AlignKeyword.ofText? k.toList = some keyword) :
    ofStyle (inEach k s) = ⟨some keyword, some keyword⟩ ∧
      (ofStyle (inBoth k s) = ofStyle (inEach k s) ↔
        ∀ c ∈ Text.trim k.toList, Text.isBlank c = false) ∧
      ((∃ c ∈ Text.trim k.toList, Text.isBlank c = true) → (ofStyle (inBoth k s)).align = none) := by
  have heach : ofStyle (inEach k s) = ⟨some keyword, some keyword⟩ := by
    rw [ofStyle_inEach hs, hk]
  have hsingle : (∀ c ∈ Text.trim k.toList, Text.isBlank c = false) →
      ofStyle (inBoth k s) = ⟨some keyword, some keyword⟩ := by
    intro hword
    have hne : Text.trim k.toList ≠ [] := by
      intro hnil
      have hnone : AlignKeyword.ofText? [] = none := by decide
      rw [← AlignKeyword.ofText?_trim, hnil, hnone] at hk
      cases hk
    have hwords : Text.words k.toList = [Text.trim k.toList] := by
      rw [← Text.words_trim, Text.words_eq_singleton hne hword]
    rw [ofStyle_inBoth hs, AlignKeyword.pairOfText, hwords]
    simp only [AlignKeyword.ofText?_trim, hk]
  have hseveral : (∃ c ∈ Text.trim k.toList, Text.isBlank c = true) →
      (ofStyle (inBoth k s)).align = none := by
    rintro ⟨c, hc, hblank⟩
    obtain ⟨w, v, vs, hwords⟩ := Text.exists_words_eq_cons_cons hc hblank
    have hsome : (AlignKeyword.ofText? k.toList).isSome = true := by
      rw [hk]
      rfl
    simp only [ofStyle_inBoth hs, AlignKeyword.pairOfText, hwords]
    exact AlignKeyword.ofText?_first_word hsome hwords
  refine ⟨heach, ⟨fun heq c hc => ?_, fun hword => (hsingle hword).trans heach.symm⟩, hseveral⟩
  refine Bool.eq_false_iff.mpr fun hblank => ?_
  have halign := hseveral ⟨c, hc, hblank⟩
  rw [heq, heach] at halign
  exact absurd halign (Option.some_ne_none keyword)

end

theorem ofStyle_inBoth_eq_iff_one_word :
    LeavesAlignment .empty ∧ AlignKeyword.ofText? "\tSelf-END ".toList = some .finish ∧
      ofStyle (inEach "\tSelf-END " .empty) = ⟨some .finish, some .finish⟩ ∧
      ofStyle (inBoth "\tSelf-END " .empty) = ⟨some .finish, some .finish⟩ := by
  have hs : LeavesAlignment .empty := ⟨rfl, rfl, rfl⟩
  have hk : AlignKeyword.ofText? "\tSelf-END ".toList = some .finish := by decide
  have hword : ∀ c ∈ Text.trim "\tSelf-END ".toList, Text.isBlank c = false := by
    rw [← List.forall_iff_forall_mem]
    decide
  obtain ⟨heach, hiff, -⟩ := ofStyle_inBoth_eq_iff hs "\tSelf-END " hk
  exact ⟨hs, hk, heach, (hiff.mpr hword).trans heach⟩

/-- A keyword with a word for the overflow is a keyword for one axis, but not for both at once. -/
theorem not_forall_ofStyle_inBoth_eq :
    ¬∀ (s : Style) (k : String), LeavesAlignment s →
      (AlignKeyword.ofText? k.toList).isSome = true → ofStyle (inBoth k s) = ofStyle (inEach k s) := by
  intro h
  have hequal := h .empty "safe center" ⟨rfl, rfl, rfl⟩ (by decide)
  exact absurd hequal (by decide)

end SelfAlignment

end PanelLayout
