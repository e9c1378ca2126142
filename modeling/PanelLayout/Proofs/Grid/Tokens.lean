import PanelLayout.Proofs.Text.Words
import PanelLayout.Proofs.Grid.FontSize
import Mathlib.Data.List.Infix

/-!
Templates that are put together. A blank behind a text in which all parentheses are closed divides a
template in two, whose tokens come one after the other; a repetition has the tokens of what it repeats.
Of all of them there are at most as many as a template may have.
-/
namespace PanelLayout.Template

/-! Parentheses. -/

def Closed (s : List Char) : Prop := ∀ t, t <:+ s → t.count '(' ≤ t.count ')'

/-- Every parenthesis that a text closes it has opened before. -/
def Opened (s : List Char) : Prop := ∀ p, p <+: s → p.count ')' ≤ p.count '('

def Balanced (s : List Char) : Prop := Closed s ∧ Opened s

def CommasInside (s : List Char) : Prop :=
  ∀ p, p ++ [','] <+: s → p.count ')' < p.count '('

instance (s : List Char) : Decidable (Closed s) :=
  decidable_of_iff (∀ t ∈ s.tails, t.count '(' ≤ t.count ')') <|
    forall_congr' fun t => imp_congr_left (List.mem_tails t s)

instance (s : List Char) : Decidable (Opened s) :=
  decidable_of_iff (∀ p ∈ s.inits, p.count ')' ≤ p.count '(') <|
    forall_congr' fun p => imp_congr_left (List.mem_inits p s)

instance (s : List Char) : Decidable (Balanced s) :=
  inferInstanceAs (Decidable (_ ∧ _))

instance (s : List Char) : Decidable (CommasInside s) :=
  decidable_of_iff (∀ q ∈ s.inits, q.getLast? = some ',' →
      q.dropLast.count ')' < q.dropLast.count '(') <| by
    constructor
    · intro h p hp
      have hcount := h (p ++ [',']) ((List.mem_inits _ _).mpr hp) List.getLast?_concat
      rwa [List.dropLast_concat] at hcount
    · intro h q hq hlast
      have hprefix : q.dropLast ++ [','] <+: s := by
        rw [List.dropLast_append_getLast? ',' hlast]
        exact (List.mem_inits q s).mp hq
      exact h q.dropLast hprefix

def step (depth : Nat) (c : Char) : Nat :=
  if c = '(' then depth + 1 else if c = ')' then depth - 1 else depth

def openBehind (depth : Nat) : List Char → Nat
  | [] => depth
  | c :: s => openBehind (step depth c) s

theorem openBehind_append (depth : Nat) (a b : List Char) :
    openBehind depth (a ++ b) = openBehind (openBehind depth a) b := by
  induction a generalizing depth with
  | nil => rfl
  | cons c a ih => exact ih _

theorem openBehind_eq_self {s : List Char} (hs : ∀ c ∈ s, c ≠ '(' ∧ c ≠ ')') (depth : Nat) :
    openBehind depth s = depth := by
  induction s with
  | nil => rfl
  | cons c s ih =>
    obtain ⟨hopen, hclose⟩ := hs c List.mem_cons_self
    rw [openBehind, step, if_neg hopen, if_neg hclose, ih fun d hd => hs d (List.mem_cons_of_mem c hd)]

theorem step_add_count (depth : Nat) (c : Char) :
    step depth c + [c].count ')' = max (depth + [c].count '(') ([c].count ')') := by
  rw [step]
  by_cases hopen : c = '('
  · simp [hopen]
  · by_cases hclose : c = ')'
    · simp [hclose]
      omega
    · simp [hopen, hclose]

theorem count_cons_eq (x c : Char) (s : List Char) :
    (c :: s).count x = [c].count x + s.count x := by
  rw [← List.singleton_append, List.count_append]

theorem Closed.openBehind_eq {s : List Char} (h : Closed s) {depth : Nat}
    (hdepth : depth + s.count '(' ≤ s.count ')') : openBehind depth s = 0 := by
  -- a closing parenthesis too many is lost, so a step keeps only the inequality
  induction s generalizing depth with
  | nil => exact Nat.le_zero.mp hdepth
  | cons c s ih =>
    have hrest : Closed s := fun t ht => h t (ht.trans (List.suffix_cons c s))
    have hs := hrest s List.suffix_rfl
    have hstep := step_add_count depth c
    rw [count_cons_eq '(' c s, count_cons_eq ')' c s] at hdepth
    exact ih hrest (by omega)

def OpenedFrom (depth : Nat) (s : List Char) : Prop :=
  ∀ p, p <+: s → p.count ')' ≤ depth + p.count '('

theorem OpenedFrom.tail {depth : Nat} {c : Char} {s : List Char} (h : OpenedFrom depth (c :: s)) :
    OpenedFrom (step depth c) s := by
  intro p hp
  have hstep := step_add_count depth c
  have hfirst := h [c] (List.cons_prefix_cons.mpr ⟨rfl, List.nil_prefix⟩)
  have hcount := h (c :: p) (List.cons_prefix_cons.mpr ⟨rfl, hp⟩)
  rw [count_cons_eq '(' c p, count_cons_eq ')' c p] at hcount
  omega

theorem OpenedFrom.openBehind_add_count {s : List Char} {depth : Nat} (h : OpenedFrom depth s) :
    openBehind depth s + s.count ')' = depth + s.count '(' := by
  induction s generalizing depth with
  | nil => rfl
  | cons c s ih =>
    have hstep := step_add_count depth c
    have hfirst := h [c] (List.cons_prefix_cons.mpr ⟨rfl, List.nil_prefix⟩)
    have hs := ih h.tail
    rw [openBehind, count_cons_eq '(' c s, count_cons_eq ')' c s]
    omega

def OnlyInside (p : Char → Prop) (depth : Nat) (s : List Char) : Prop :=
  ∀ t c, t ++ [c] <+: s → p c → 0 < openBehind depth t

theorem OnlyInside.head {p : Char → Prop} {depth : Nat} {c : Char} {s : List Char}
    (h : OnlyInside p depth (c :: s)) (hc : p c) : 0 < depth :=
  h [] c (List.cons_prefix_cons.mpr ⟨rfl, List.nil_prefix⟩) hc

theorem OnlyInside.tail {p : Char → Prop} {depth : Nat} {c : Char} {s : List Char}
    (h : OnlyInside p depth (c :: s)) : OnlyInside p (step depth c) s := fun t d ht =>
  h (c :: t) d (List.cons_prefix_cons.mpr ⟨rfl, ht⟩)

/-! Cutting at blanks and at commas. -/

theorem not_parenthesis_of_isBlank {c : Char} (hc : Text.isBlank c = true) : c ≠ '(' ∧ c ≠ ')' := by
  constructor <;> rintro rfl <;> exact absurd hc (by decide)

theorem step_of_isBlank {c : Char} (hc : Text.isBlank c = true) (depth : Nat) : step depth c = depth := by
  obtain ⟨hopen, hclose⟩ := not_parenthesis_of_isBlank hc
  rw [step, if_neg hopen, if_neg hclose]

theorem openBehind_blanks {gap : List Char} (h : Text.IsBlanks gap) (depth : Nat) :
    openBehind depth gap = depth :=
  openBehind_eq_self (fun c hc => not_parenthesis_of_isBlank (h c hc)) depth

def extend (token : Option (List Char)) (c : Char) : Option (List Char) :=
  if c = ')' then token.map (c :: ·) else some (c :: token.getD [])

theorem topLevelFrom_cons (depth : Nat) (token : Option (List Char)) (c : Char) (s : List Char) :
    topLevelFrom depth token (c :: s) =
      if Text.isBlank c = true ∧ depth = 0 then token.toList.map List.reverse ++ topLevelFrom 0 none s
      else topLevelFrom (step depth c) (extend token c) s := by
  rw [topLevelFrom, step, extend]
  by_cases hblank : Text.isBlank c = true ∧ depth = 0
  · obtain ⟨hopen, hclose⟩ := not_parenthesis_of_isBlank hblank.1
    rw [if_neg hopen, if_neg hclose, if_pos hblank, if_pos hblank, hblank.2]
  · rw [if_neg hblank, if_neg hblank]
    by_cases hopen : c = '('
    · subst hopen
      rfl
    · by_cases hclose : c = ')'
      · subst hclose
        rfl
      · simp only [if_neg hopen, if_neg hclose]

theorem topLevelFrom_append {c : Char} (hc : Text.isBlank c = true) {depth : Nat} {a : List Char}
    (ha : openBehind depth a = 0) (token : Option (List Char)) (b : List Char) :
    topLevelFrom depth token (a ++ c :: b) = topLevelFrom depth token a ++ topLevelFrom 0 none b := by
  induction a generalizing depth token with
  | nil =>
    obtain rfl : depth = 0 := ha
    rw [List.nil_append, topLevelFrom_cons, if_pos ⟨hc, rfl⟩, topLevelFrom]
  | cons d a ih =>
    rw [List.cons_append, topLevelFrom_cons, topLevelFrom_cons depth token d a]
    split_ifs with hblank
    · obtain ⟨hd, rfl⟩ := hblank
      rw [openBehind, step_of_isBlank hd] at ha
      rw [ih ha, List.append_assoc]
    · exact ih ha _

theorem topLevelFrom_inside {depth : Nat} {s : List Char}
    (h : OnlyInside (Text.isBlank · = true) depth s) (token : List Char) :
    topLevelFrom depth (some token) s = [token.reverse ++ s] := by
  induction s generalizing depth token with
  | nil => simp [topLevelFrom]
  | cons c s ih =>
    have hblank : ¬(Text.isBlank c = true ∧ depth = 0) := fun hc => absurd (h.head hc.1) (by omega)
    have htoken : extend (some token) c = some (c :: token) := ite_self _
    rw [topLevelFrom_cons, if_neg hblank, htoken, ih h.tail, List.reverse_cons, List.append_assoc,
      List.singleton_append]

theorem commaPieces_append {depth : Nat} {a : List Char} (ha : openBehind depth a = 0)
    (hinside : OnlyInside (· = ',') depth a) (b : List Char) :
    commaPieces depth (a ++ ',' :: b) = a :: commaPieces 0 b := by
  induction a generalizing depth with
  | nil =>
    obtain rfl : depth = 0 := ha
    exact if_pos ⟨rfl, rfl⟩
  | cons c a ih =>
    have hcomma : ¬(c = ',' ∧ depth = 0) := fun hc => absurd (hinside.head hc.1) (by omega)
    have hrest : commaPieces (step depth c) (a ++ ',' :: b) = a :: commaPieces 0 b :=
      ih ha hinside.tail
    rw [step] at hrest
    simp only [List.cons_append, commaPieces, if_neg hcomma, hrest]

theorem commaPieces_inside {depth : Nat} {s : List Char} (h : OnlyInside (· = ',') depth s) :
    commaPieces depth s = [s] := by
  induction s generalizing depth with
  | nil => rfl
  | cons c s ih =>
    have hcomma : ¬(c = ',' ∧ depth = 0) := fun hc => absurd (h.head hc.1) (by omega)
    have hrest : commaPieces (step depth c) s = [s] := ih h.tail
    rw [step] at hrest
    simp only [commaPieces, if_neg hcomma, hrest]

theorem topLevel_append {c : Char} (hc : Text.isBlank c = true) {a : List Char}
    (ha : openBehind 0 a = 0) (b : List Char) : topLevel (a ++ c :: b) = topLevel a ++ topLevel b :=
  topLevelFrom_append hc ha none b

theorem topLevel_cons {c : Char} (hc : Text.isBlank c = true) (s : List Char) :
    topLevel (c :: s) = topLevel s :=
  topLevel_append hc (a := []) rfl s

theorem topLevel_trim {s : List Char} (hs : openBehind 0 s = 0) :
    topLevel (Text.trim s) = topLevel s := by
  obtain ⟨before, after, hbefore, hafter, heq⟩ := Text.exists_eq_append_trim s
  have htrim : openBehind 0 (Text.trim s) = 0 := by
    rw [heq, openBehind_append, openBehind_append, openBehind_blanks hbefore,
      openBehind_blanks hafter] at hs
    exact hs
  conv_rhs => rw [heq]
  rw [List.append_assoc, Text.apply_blanks_append topLevel_cons hbefore,
    Text.apply_append_blanks topLevel_cons rfl (fun hc => topLevel_append hc htrim) hafter]

/-! Repetitions. -/

theorem Opened.append {a : List Char} (ha : ∀ c ∈ a, c ≠ ')') {s : List Char} (h : Opened s) :
    Opened (a ++ s) := by
  induction a with
  | nil => exact h
  | cons c a ih =>
    have hrest := ih fun d hd => ha d (List.mem_cons_of_mem c hd)
    intro p hp
    rcases List.prefix_cons_iff.mp hp with rfl | ⟨t, rfl, ht⟩
    · exact Nat.le_refl _
    · have hcount := hrest t ht
      have hclose : [c].count ')' = 0 := by simp [ha c List.mem_cons_self]
      rw [count_cons_eq '(' c t, count_cons_eq ')' c t]
      omega

theorem Opened.openedFrom {s : List Char} (h : Opened s) (depth : Nat) : OpenedFrom depth s :=
  fun p hp => Nat.le_add_left_of_le (h p hp)

theorem Opened.openBehind_eq {s : List Char} (h : Opened s) {p : List Char} (hp : p <+: s)
    (depth : Nat) : openBehind depth p + p.count ')' = depth + p.count '(' :=
  OpenedFrom.openBehind_add_count fun t ht => h.openedFrom depth t (ht.trans hp)

def repetition (n : Nat) (s : List Char) : List Char :=
  "repeat(".toList ++ ((toString n).toList ++ ", ".toList ++ s) ++ [')']

theorem topLevelFrom_call {name : List Char} (hname : ∀ c ∈ name, IsPlain c)
    (token : Option (List Char)) (s : List Char) :
    topLevelFrom 0 token (name ++ '(' :: s) =
      topLevelFrom 1 (some ('(' :: (name.reverse ++ token.getD []))) s := by
  induction name generalizing token with
  | nil => exact if_pos rfl
  | cons c name ih =>
    rw [List.cons_append, (hname c List.mem_cons_self).topLevelFrom_cons,
      ih fun d hd => hname d (List.mem_cons_of_mem c hd)]
    simp

theorem isDigit_of_mem_toString {n : Nat} {c : Char} (hc : c ∈ (toString n).toList) :
    c.isDigit = true := by
  rw [Nat.toString_eq_repr, Nat.toList_repr] at hc
  exact Nat.isDigit_of_mem_toDigits (by decide) (by decide) hc

theorem scanSign_of_isDigit {c : Char} (hc : c.isDigit = true) (s : List Char) :
    Numeral.scanSign (c :: s) = (false, c :: s) := by
  unfold Numeral.scanSign
  split
  · rename_i heq
    obtain ⟨rfl, -⟩ := List.cons.inj heq
    exact absurd hc (by decide)
  · rename_i heq
    obtain ⟨rfl, -⟩ := List.cons.inj heq
    exact absurd hc (by decide)
  · rfl

theorem natural?_toString {n : Nat} (hn : n < UInt64.size) :
    natural? (toString n).toList = some n := by
  have hdigits : ∀ c ∈ (toString n).toList, c.isDigit = true := fun c => isDigit_of_mem_toString
  have hvalue : ofDigits ((toString n).toList.map digitValue) = n := by
    rw [Nat.toString_eq_repr, Nat.toList_repr, ofDigits, List.foldl_map]
    exact Nat.ofDigitChars_toDigits (by decide) (by decide)
  have hne : (toString n).toList ≠ [] := by
    rw [Nat.toString_eq_repr, Nat.toList_repr]
    exact Nat.toDigits_ne_nil
  obtain ⟨c, s, hs⟩ := List.exists_cons_of_ne_nil hne
  rw [hs] at hdigits hvalue ⊢
  have hscan : Numeral.scanDigits (c :: s) = ((c :: s).map digitValue, []) := by
    rw [Numeral.scanDigits, List.takeWhile_eq_self_iff.mpr hdigits,
      List.dropWhile_eq_nil_iff.mpr hdigits]
  have hsign := scanSign_of_isDigit (hdigits c List.mem_cons_self) s
  simp only [natural?, hsign, hscan, List.map_cons] at hvalue ⊢
  rw [hvalue, if_pos hn]

section
variable {n : Nat} {s : List Char}

theorem callOf?_repetition :
    callOf? "repeat" (repetition n s) = some ((toString n).toList ++ ", ".toList ++ s) := by
  have hname : '(' ∉ "repeat".toList := by decide
  have hcut : Text.splitOnce '(' (repetition n s) =
      some ("repeat".toList, (toString n).toList ++ ", ".toList ++ s ++ [')']) :=
    Text.splitOnce_append hname _
  have hword : Text.isWord "repeat" (Text.trim "repeat".toList) = true := by decide
  simp only [callOf?, hcut, hword, List.getLast?_concat, List.dropLast_concat, and_self, if_true]

theorem topLevel_repetition (hs : Opened s) : topLevel (repetition n s) = [repetition n s] := by
  have hbody : Opened ((toString n).toList ++ ", ".toList ++ s) := by
    refine Opened.append (fun c hc => ?_) hs
    rcases List.mem_append.mp hc with hc | hc
    · rintro rfl
      exact absurd (isDigit_of_mem_toString hc) (by decide)
    · rintro rfl
      exact absurd hc (by decide)
  -- the last parenthesis closes the call, and all before it stands inside
  have hinside : OnlyInside (Text.isBlank · = true) 1
      ((toString n).toList ++ ", ".toList ++ s ++ [')']) := by
    intro p c hp _
    have hprefix : p <+: (toString n).toList ++ ", ".toList ++ s := by
      rcases List.prefix_concat_iff.mp hp with heq | hp
      · rw [(List.append_inj' heq rfl).1]
      · exact (List.prefix_append p [c]).trans hp
    have hcount := hbody p hprefix
    have hopen := hbody.openBehind_eq hprefix 1
    omega
  have hname : ∀ c ∈ "repeat".toList, IsPlain c := by
    rw [← List.forall_iff_forall_mem]
    decide
  have hcall : repetition n s =
      "repeat".toList ++ '(' :: ((toString n).toList ++ ", ".toList ++ s ++ [')']) := rfl
  rw [hcall, topLevel, topLevelFrom_call hname, topLevelFrom_inside hinside]
  rfl

theorem arguments_repetition (hs : OnlyInside (· = ',') 0 s) :
    arguments ((toString n).toList ++ ", ".toList ++ s) = [(toString n).toList, Text.trim s] := by
  have hnot : ∀ x : Char, x.isDigit = false → ∀ c ∈ (toString n).toList, c ≠ x := by
    rintro x hx c hc rfl
    exact Bool.false_ne_true (hx.symm.trans (isDigit_of_mem_toString hc))
  have hnumber : OnlyInside (· = ',') 0 (toString n).toList := by
    intro t c ht hc
    have hmem : c ∈ (toString n).toList := ht.subset (List.mem_append_right t List.mem_cons_self)
    exact absurd hc (hnot ',' rfl c hmem)
  have hclosed : openBehind 0 (toString n).toList = 0 :=
    openBehind_eq_self (fun c hc => ⟨hnot '(' rfl c hc, hnot ')' rfl c hc⟩) 0
  have hpart : OnlyInside (· = ',') 0 (' ' :: s) := by
    intro t c ht hc
    rcases List.prefix_cons_iff.mp ht with hnil | ⟨r, hr, hprefix⟩
    · simp at hnil
    · cases t with
      | nil =>
        obtain ⟨rfl, -⟩ := List.cons.inj hr
        exact absurd hc (by decide)
      | cons d t =>
        obtain ⟨rfl, rfl⟩ := List.cons.inj hr
        exact hs t c hprefix hc
  have hpieces : commaPieces 0 ((toString n).toList ++ ", ".toList ++ s) =
      [(toString n).toList, ' ' :: s] := by
    rw [List.append_assoc]
    exact (commaPieces_append hclosed hnumber (' ' :: s)).trans
      (congrArg _ (commaPieces_inside hpart))
  have htrim : Text.trim (toString n).toList = (toString n).toList :=
    Text.trim_eq_self fun c hc => Text.isBlank_of_isDigit (isDigit_of_mem_toString hc)
  rw [arguments, hpieces, List.map_cons, List.map_singleton, htrim, Text.trim_cons rfl]

theorem expand_repetition (hs : Balanced s) (hcommas : CommasInside s) (hn : 1 ≤ n)
    (hn' : n ≤ maxRepeat) : expand (repetition n s) = (List.replicate n (topLevel s)).flatten := by
  have hinside : OnlyInside (· = ',') 0 s := by
    rintro t c ht rfl
    have hcount := hcommas t ht
    have hopen := hs.2.openBehind_eq ((List.prefix_append t [',']).trans ht) 0
    omega
  have hclosed : openBehind 0 s = 0 := by
    have hcount := hs.1 s List.suffix_rfl
    exact hs.1.openBehind_eq (by omega)
  have hsize : n < UInt64.size := Nat.lt_of_le_of_lt hn' (by decide)
  have hcount : repeatCount (toString n).toList = n := by
    rw [repeatCount, natural?_toString hsize, Option.getD_some, Nat.min_eq_left hn',
      Nat.max_eq_right hn]
  simp only [expand, callOf?_repetition, arguments_repetition hinside, hcount, List.flatMap_cons,
    List.flatMap_nil, List.append_nil, topLevel_trim hclosed]

theorem tokens_repetition (hs : Balanced s) (hcommas : CommasInside s) (hn : 1 ≤ n)
    (hn' : n ≤ maxRepeat) :
    tokens (repetition n s) = ((List.replicate n (topLevel s)).flatten).take maxTokens := by
  rw [tokens, topLevel_repetition hs.2, List.flatMap_singleton, expand_repetition hs hcommas hn hn']

end

/-! The greatest number of tokens. -/

theorem take_append_take {α : Type} (n : Nat) (l r : List α) :
    (l.take n ++ r.take n).take n = (l ++ r).take n := by
  rw [List.take_append, List.take_append, List.take_take, List.take_take, List.length_take]
  congr 2 <;> omega

theorem tokens_append {c : Char} (hc : Text.isBlank c = true) {a : List Char}
    (ha : openBehind 0 a = 0) (b : List Char) :
    tokens (a ++ c :: b) = (tokens a ++ tokens b).take maxTokens := by
  rw [tokens, topLevel_append hc ha, List.flatMap_append, tokens, tokens, take_append_take]

theorem length_tokens_le (s : List Char) : (tokens s).length ≤ maxTokens :=
  List.length_take_le _ _

/-- The tokens of a template that is put together: of two templates, the first of which closes its
parentheses, and of a repetition. No template has more than 10000 of them. -/
theorem tokens_compose :
    (∀ a, Closed a → ∀ c, Text.isBlank c = true → ∀ b,
      tokens (a ++ c :: b) = (tokens a ++ tokens b).take 10000) ∧
    (∀ n s, 1 ≤ n → n ≤ 1000 → Balanced s → CommasInside s →
      tokens (repetition n s) = ((List.replicate n (topLevel s)).flatten).take 10000) ∧
    (∀ s, (tokens s).length ≤ 10000) := by
  refine ⟨fun a ha c hc b => ?_, fun n s hn hn' hs hcommas => ?_, length_tokens_le⟩
  · have hcount := ha a List.suffix_rfl
    exact tokens_append hc (ha.openBehind_eq (by omega)) b
  · exact tokens_repetition hs hcommas hn hn'

theorem tokens_compose_pair :
    Closed "minmax(1px, 2fr)) x".toList ∧ Text.isBlank ' ' = true ∧
      Balanced " a (b, c)  d ".toList ∧ CommasInside " a (b, c)  d ".toList ∧
      tokens "minmax(1px, 2fr)) x repeat(2,  a (b, c)  d )".toList =
        ["minmax(1px, 2fr))", "x", "a", "(b, c)", "d", "a", "(b, c)", "d"].map String.toList := by
  obtain ⟨happend, hrepetition, -⟩ := tokens_compose
  have hclosed : Closed "minmax(1px, 2fr)) x".toList := by decide +kernel
  have hbalanced : Balanced " a (b, c)  d ".toList := by decide +kernel
  have hcommas : CommasInside " a (b, c)  d ".toList := by decide +kernel
  have hfirst := happend _ hclosed ' ' rfl (repetition 2 " a (b, c)  d ".toList)
  rw [hrepetition 2 _ (by decide) (by decide) hbalanced hcommas] at hfirst
  exact ⟨hclosed, rfl, hbalanced, hcommas, hfirst.trans (by decide +kernel)⟩

end PanelLayout.Template
