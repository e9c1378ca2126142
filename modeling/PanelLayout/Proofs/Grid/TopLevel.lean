import PanelLayout.Proofs.Grid.Tokens

/-!
Templates are cut at their blanks. As long as a text closes no parenthesis that it has not opened, its
tokens are all of it but the blanks outside parentheses, and no other cut at blanks gives such tokens.
-/
namespace PanelLayout.Template
open Text (IsBlanks)

/-! Parentheses that are open before a text. -/

namespace OpenedFrom
variable {depth : Nat} {a b s : List Char}

theorem pos_of_close (h : OpenedFrom depth (')' :: s)) : 0 < depth :=
  h [')'] (List.cons_prefix_cons.mpr ⟨rfl, List.nil_prefix⟩)

theorem left (h : OpenedFrom depth (a ++ b)) : OpenedFrom depth a := fun p hp =>
  h p (hp.trans (List.prefix_append a b))

theorem behind (h : OpenedFrom depth (a ++ b)) : OpenedFrom (openBehind depth a) b := by
  induction a generalizing depth with
  | nil => exact h
  | cons c a ih => exact ih h.tail

end OpenedFrom

/-! Texts that are cut. -/

structure IsToken (t : List Char) : Prop where
  ne_nil : t ≠ []
  inside : OnlyInside (Text.isBlank · = true) 0 t

/-- A text is made of tokens with blanks between them. All tokens but the last close their
parentheses. -/
inductive Cut : List (List Char) → List Char → Prop
  | blanks {gap : List Char} (hgap : IsBlanks gap) : Cut [] gap
  | last {gap t : List Char} (hgap : IsBlanks gap) (ht : IsToken t) : Cut [t] (gap ++ t)
  | token {gap t s : List Char} {c : Char} {ts : List (List Char)} (hgap : IsBlanks gap)
      (ht : IsToken t) (hclosed : openBehind 0 t = 0) (hc : Text.isBlank c = true) (h : Cut ts s) :
      Cut (t :: ts) (gap ++ t ++ c :: s)

def dropBlanks (depth : Nat) : List Char → List Char
  | [] => []
  | c :: s =>
    if Text.isBlank c = true ∧ depth = 0 then dropBlanks depth s else c :: dropBlanks (step depth c) s

theorem dropBlanks_blanks_append {gap : List Char} (hgap : IsBlanks gap) (s : List Char) :
    dropBlanks 0 (gap ++ s) = dropBlanks 0 s :=
  Text.apply_blanks_append (fun hc _ => if_pos ⟨hc, rfl⟩) hgap s

theorem dropBlanks_append {depth : Nat} {t : List Char}
    (h : OnlyInside (Text.isBlank · = true) depth t) (s : List Char) :
    dropBlanks depth (t ++ s) = t ++ dropBlanks (openBehind depth t) s := by
  induction t generalizing depth with
  | nil => rfl
  | cons c t ih =>
    have hblank : ¬(Text.isBlank c = true ∧ depth = 0) := fun hc => absurd (h.head hc.1) (by omega)
    rw [List.cons_append, dropBlanks, if_neg hblank, ih h.tail]
    rfl

namespace Cut
variable {ts : List (List Char)} {s : List Char}

theorem cons {c : Char} (hc : Text.isBlank c = true) (h : Cut ts s) : Cut ts (c :: s) := by
  have hmore : ∀ {gap : List Char}, IsBlanks gap → IsBlanks (c :: gap) := fun hgap =>
    List.forall_mem_cons.mpr ⟨hc, hgap⟩
  cases h with
  | blanks hgap => exact .blanks (hmore hgap)
  | last hgap ht => exact .last (hmore hgap) ht
  | token hgap ht hclosed hd h => exact .token (hmore hgap) ht hclosed hd h

theorem isToken (h : Cut ts s) : ∀ t ∈ ts, IsToken t := by
  induction h with
  | blanks => exact fun t ht => absurd ht List.not_mem_nil
  | last _ ht => exact List.forall_mem_singleton.mpr ht
  | token _ ht _ _ _ ih => exact List.forall_mem_cons.mpr ⟨ht, ih⟩

theorem flatten_eq (h : Cut ts s) : ts.flatten = dropBlanks 0 s := by
  induction h with
  | @blanks gap hgap =>
    have hnone := dropBlanks_blanks_append hgap []
    rw [List.append_nil] at hnone
    exact hnone.symm
  | @last gap t hgap ht =>
    have hall := dropBlanks_append ht.inside []
    rw [List.append_nil] at hall
    rw [dropBlanks_blanks_append hgap, hall, List.flatten_singleton]
    exact (List.append_nil t).symm
  | @token gap t s c ts hgap ht hclosed hc _ ih =>
    rw [List.append_assoc, dropBlanks_blanks_append hgap, dropBlanks_append ht.inside, hclosed, List.flatten_cons,
      ih, dropBlanks, if_pos ⟨hc, rfl⟩]

end Cut

/-! What the scan of a template keeps. -/

def Holds (depth : Nat) : Option (List Char) → Prop
  | none => depth = 0
  | some token => IsToken token.reverse ∧ openBehind 0 token.reverse = depth

theorem OnlyInside.concat {p : Char → Prop} {depth : Nat} {t : List Char} {c : Char}
    (h : OnlyInside p depth t) (hc : p c → 0 < openBehind depth t) : OnlyInside p depth (t ++ [c]) := by
  intro r d hr hd
  rcases List.prefix_concat_iff.mp hr with heq | hr
  · obtain ⟨rfl, hlast⟩ := List.append_inj' heq rfl
    obtain rfl : d = c := List.singleton_inj.mp hlast
    exact hc hd
  · exact h r d hr hd

theorem Holds.extend {depth : Nat} {token : Option (List Char)} (h : Holds depth token) {c : Char}
    {s : List Char} (hs : OpenedFrom depth (c :: s)) (hc : ¬(Text.isBlank c = true ∧ depth = 0)) :
    extend token c = some (c :: token.getD []) ∧ Holds (step depth c) (some (c :: token.getD [])) := by
  cases token with
  | none =>
    obtain rfl : depth = 0 := h
    have hclose : c ≠ ')' := by
      rintro rfl
      exact absurd hs.pos_of_close (Nat.lt_irrefl 0)
    have hempty : OnlyInside (Text.isBlank · = true) 0 [] := fun r d hr => by simp at hr
    have hinside := hempty.concat (c := c) fun hblank => absurd ⟨hblank, rfl⟩ hc
    exact ⟨if_neg hclose, ⟨List.cons_ne_nil c [], hinside⟩, rfl⟩
  | some token =>
    obtain ⟨⟨-, hinside⟩, hopen⟩ := h
    have hmore := hinside.concat (c := c) fun hblank => by
      rw [hopen]
      exact Nat.pos_of_ne_zero fun hdepth => hc ⟨hblank, hdepth⟩
    refine ⟨ite_self _, ⟨by simp, ?_⟩, ?_⟩
    · rw [Option.getD_some, List.reverse_cons]
      exact hmore
    · rw [Option.getD_some, List.reverse_cons, openBehind_append, hopen]
      rfl

theorem cut_topLevelFrom {depth : Nat} {token : Option (List Char)} {s : List Char}
    (hs : OpenedFrom depth s) (h : Holds depth token) :
    Cut (topLevelFrom depth token s) ((token.getD []).reverse ++ s) := by
  have hnil : IsBlanks [] := List.forall_mem_nil _
  -- The text in front of the scan is that of the current token, so it grows with it.
  induction s generalizing depth token with
  | nil =>
    cases token with
    | none => exact .blanks hnil
    | some token =>
      rw [List.append_nil]
      exact .last hnil h.1
  | cons c s ih =>
    rw [topLevelFrom_cons]
    split_ifs with hblank
    · obtain ⟨hc, rfl⟩ := hblank
      have hrest : OpenedFrom 0 s := step_of_isBlank hc 0 ▸ hs.tail
      have hnone : Holds 0 none := rfl
      have hcut : Cut (topLevelFrom 0 none s) s := ih hrest hnone
      cases token with
      | none => exact hcut.cons hc
      | some token => exact .token hnil h.1 h.2 hc hcut
    · obtain ⟨htoken, hnext⟩ := h.extend hs hblank
      have hcut := ih hs.tail hnext
      rw [Option.getD_some, List.reverse_cons, List.append_assoc, List.singleton_append] at hcut
      rwa [htoken]

theorem cut_topLevel {s : List Char} (hs : Opened s) : Cut (topLevel s) s := by
  have hnone : Holds 0 none := rfl
  exact cut_topLevelFrom (hs.openedFrom 0) hnone

/-! No other cut. -/

theorem IsToken.topLevel_eq {t : List Char} (h : IsToken t) (ht : OpenedFrom 0 t) : topLevel t = [t] := by
  obtain ⟨c, r, rfl⟩ := List.exists_cons_of_ne_nil h.ne_nil
  have hblank : ¬(Text.isBlank c = true ∧ 0 = 0) := fun hc => absurd (h.inside.head hc.1) (Nat.lt_irrefl 0)
  have hnone : Holds 0 none := rfl
  have hfirst := (hnone.extend ht hblank).1
  rw [topLevel, topLevelFrom_cons, if_neg hblank, hfirst, topLevelFrom_inside h.inside.tail]
  rfl

theorem Cut.topLevel_eq {ts : List (List Char)} {s : List Char} (h : Cut ts s) (hs : OpenedFrom 0 s) :
    topLevel s = ts := by
  have hgaps : ∀ {gap r : List Char}, IsBlanks gap → OpenedFrom 0 (gap ++ r) →
      OpenedFrom 0 r ∧ topLevel (gap ++ r) = topLevel r := by
    intro gap r hgap hr
    refine ⟨?_, Text.apply_blanks_append topLevel_cons hgap r⟩
    have hbehind := hr.behind
    rwa [openBehind_blanks hgap] at hbehind
  induction h with
  | @blanks gap hgap =>
    have hnone := (hgaps (r := []) hgap (by rwa [List.append_nil])).2
    rwa [List.append_nil] at hnone
  | @last gap t hgap ht =>
    obtain ⟨hopened, htop⟩ := hgaps hgap hs
    rw [htop, ht.topLevel_eq hopened]
  | @token gap t s c ts hgap ht hclosed hc _ ih =>
    rw [List.append_assoc] at hs ⊢
    obtain ⟨hopened, htop⟩ := hgaps hgap hs
    have hrest : OpenedFrom 0 s := by
      have htail := (hclosed ▸ hopened.behind : OpenedFrom 0 (c :: s)).tail
      rwa [step_of_isBlank hc] at htail
    rw [htop, topLevel_append hc hclosed, ht.topLevel_eq hopened.left, ih hrest]
    rfl

/-! A parenthesis that is not closed. -/

theorem exists_topLevelFrom_append (depth : Nat) (token : Option (List Char)) (a : List Char) :
    ∃ ts token', ∀ s, topLevelFrom depth token (a ++ s) =
      ts ++ topLevelFrom (openBehind depth a) token' s := by
  induction a generalizing depth token with
  | nil => exact ⟨[], token, fun _ => rfl⟩
  | cons c a ih =>
    by_cases hblank : Text.isBlank c = true ∧ depth = 0
    · obtain ⟨hc, rfl⟩ := hblank
      obtain ⟨ts, token', h⟩ := ih 0 none
      refine ⟨token.toList.map List.reverse ++ ts, token', fun s => ?_⟩
      rw [List.cons_append, topLevelFrom_cons, if_pos ⟨hc, rfl⟩, h, openBehind, step_of_isBlank hc,
        List.append_assoc]
    · obtain ⟨ts, token', h⟩ := ih (step depth c) (extend token c)
      refine ⟨ts, token', fun s => ?_⟩
      rw [List.cons_append, topLevelFrom_cons, if_neg hblank, h, openBehind]

theorem exists_topLevel_unclosed (a : List Char) {b : List Char} (hb : Opened b) :
    ∃ ts t, topLevel (a ++ '(' :: b) = ts ++ [t ++ '(' :: b] := by
  obtain ⟨ts, token, h⟩ := exists_topLevelFrom_append 0 none a
  have hinside : OnlyInside (Text.isBlank · = true) (step (openBehind 0 a) '(') b := by
    intro p c hp _
    have hprefix : p <+: b := (List.prefix_append p [c]).trans hp
    have hcount := hb p hprefix
    have hopen := hb.openBehind_eq hprefix (step (openBehind 0 a) '(')
    have hstep : step (openBehind 0 a) '(' = openBehind 0 a + 1 := rfl
    omega
  refine ⟨ts, (token.getD []).reverse, ?_⟩
  have hopens : extend token '(' = some ('(' :: token.getD []) := rfl
  rw [topLevel, h, topLevelFrom_cons, if_neg fun hc => absurd hc.1 (by decide), hopens, topLevelFrom_inside hinside,
    List.reverse_cons, List.append_assoc, List.singleton_append]

/-- Unless it closes a parenthesis that it has not opened, a text is cut into tokens that are not empty and
have their blanks between parentheses, and that are together all of the text but the blanks outside
parentheses. They stand between blanks, there is no other such cut, and a parenthesis that is not closed
keeps all that follows it in the last token. -/
theorem topLevel_lossless {s : List Char} (hs : Opened s) :
    (∀ t ∈ topLevel s, t ≠ [] ∧ OnlyInside (Text.isBlank · = true) 0 t) ∧
      (topLevel s).flatten = dropBlanks 0 s ∧ (∀ ts, topLevel s = ts ↔ Cut ts s) ∧
      ∀ a b, s = a ++ '(' :: b → Opened b → ∃ ts t, topLevel s = ts ++ [t ++ '(' :: b] := by
  have hcut := cut_topLevel hs
  refine ⟨fun t ht => ?_, hcut.flatten_eq, fun ts => ⟨?_, fun h => ?_⟩, ?_⟩
  · exact ⟨(hcut.isToken t ht).ne_nil, (hcut.isToken t ht).inside⟩
  · rintro rfl
    exact hcut
  · exact h.topLevel_eq (hs.openedFrom 0)
  · rintro a b rfl hb
    exact exists_topLevel_unclosed a hb

theorem topLevel_lossless_unclosed :
    let s := " repeat(2, 1fr)\t x(a b(c d".toList
    Opened s ∧ topLevel s = ["repeat(2, 1fr)".toList, "x(a b(c d".toList] ∧
      (topLevel s).flatten = "repeat(2, 1fr)x(a b(c d".toList ∧
      ∃ ts t, topLevel s = ts ++ [t ++ "(c d".toList] := by
  intro s
  have hs : Opened s := by decide +kernel
  obtain ⟨-, hflatten, -, hunclosed⟩ := topLevel_lossless hs
  have hlast := hunclosed " repeat(2, 1fr)\t x(a b".toList "c d".toList rfl (by decide)
  exact ⟨hs, by decide +kernel, hflatten.trans (by decide +kernel), hlast⟩

example : topLevel ") a)".toList = ["a)".toList] := by decide

end PanelLayout.Template
