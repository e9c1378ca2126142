import PanelLayout.Proofs.Text.Pieces

/-!
Words between blanks. Blanks around a text and the case of its letters do not change how it is cut into
words, and a text that keeps a blank when it is trimmed has more than one.
-/
namespace PanelLayout.Text

def IsBlanks (s : List Char) : Prop := ∀ c ∈ s, isBlank c = true

instance : DecidablePred IsBlanks := fun s =>
  decidable_of_iff (s.all isBlank = true) List.all_eq_true

/-! Trimming takes off the blanks at both ends. -/

theorem exists_eq_append_trimEnd (s : List Char) :
    ∃ after, IsBlanks after ∧ s = trimEnd s ++ after := by
  refine ⟨(s.reverse.takeWhile isBlank).reverse,
    fun c hc => List.mem_takeWhile_imp (List.mem_reverse.mp hc), ?_⟩
  rw [trimEnd, ← List.reverse_append, List.takeWhile_append_dropWhile, List.reverse_reverse]

theorem exists_eq_append_trim (s : List Char) :
    ∃ before after, IsBlanks before ∧ IsBlanks after ∧ s = before ++ trim s ++ after := by
  obtain ⟨after, hafter, hs⟩ := exists_eq_append_trimEnd (s.dropWhile isBlank)
  refine ⟨s.takeWhile isBlank, after, fun c hc => List.mem_takeWhile_imp hc, hafter, ?_⟩
  rw [trim, List.append_assoc, ← hs, List.takeWhile_append_dropWhile]

theorem head?_trim (s : List Char) : ∀ c ∈ (trim s).head?, isBlank c = false := by
  intro c hc
  obtain ⟨after, -, hs⟩ := exists_eq_append_trimEnd (s.dropWhile isBlank)
  refine head?_dropWhile isBlank s c ?_
  rw [Option.mem_def] at hc
  rw [hs, List.head?_append, show (trimEnd (s.dropWhile isBlank)).head? = some c from hc]
  rfl

theorem getLast?_trim (s : List Char) : ∀ c ∈ (trim s).getLast?, isBlank c = false := by
  intro c hc
  rw [trim, trimEnd, List.getLast?_reverse] at hc
  exact head?_dropWhile isBlank _ c hc

theorem trim_trim (s : List Char) : trim (trim s) = trim s :=
  trim_eq_self_of_ends (head?_trim s) (getLast?_trim s)

/-! The case of letters does not matter to blanks. -/

theorem isBlank_of_visible {c : Char} (hge : 33 ≤ c.toNat) (hle : c.toNat ≤ 126) :
    isBlank c = false := by
  simp only [isBlank, Bool.or_eq_false_iff, Bool.and_eq_false_iff, decide_eq_false_iff_not]
  omega

theorem isBlank_of_isDigit {c : Char} (h : c.isDigit = true) : isBlank c = false := by
  simp only [Char.isDigit, Bool.and_eq_true, decide_eq_true_eq] at h
  have hge : 48 ≤ c.toNat := h.1
  have hle : c.toNat ≤ 57 := h.2
  exact isBlank_of_visible (by omega) (by omega)

theorem toLower_cases (c : Char) :
    (65 ≤ c.toNat ∧ c.toNat ≤ 90 ∧ c.toLower.toNat = c.toNat + 32) ∨
      ((c.toNat < 65 ∨ 90 < c.toNat) ∧ c.toLower = c) := by
  unfold Char.toLower
  split
  · rename_i hupper
    have hge : 65 ≤ c.toNat := hupper.1
    have hle : c.toNat ≤ 90 := hupper.2
    have hval : (c.val + 32).toNat = (c.toNat + 32) % 2 ^ 32 := UInt32.toNat_add c.val 32
    exact .inl ⟨hge, hle, by rw [Nat.mod_eq_of_lt (by omega)] at hval; exact hval⟩
  · rename_i hother
    have hrange : ¬(65 ≤ c.toNat ∧ c.toNat ≤ 90) := hother
    exact .inr ⟨by omega, rfl⟩

theorem isBlank_toLower (c : Char) : isBlank c.toLower = isBlank c := by
  rcases toLower_cases c with ⟨hge, hle, hlower⟩ | ⟨-, hsame⟩
  · have hupper := isBlank_of_visible (c := c) (by omega) (by omega)
    have hlower := isBlank_of_visible (c := c.toLower) (by omega) (by omega)
    rw [hupper, hlower]
  · rw [hsame]

theorem toLower_toLower (c : Char) : c.toLower.toLower = c.toLower := by
  rcases toLower_cases c with ⟨hge, hle, hlower⟩ | ⟨-, hsame⟩
  · rcases toLower_cases c.toLower with ⟨-, hle', -⟩ | ⟨-, hsame⟩
    · omega
    · exact hsame
  · rw [hsame, hsame]

theorem toLower_eq_iff {c d : Char} (hd : d.toNat < 65) : c.toLower = d ↔ c = d := by
  rcases toLower_cases c with ⟨hge, hle, hlower⟩ | ⟨-, hsame⟩
  · constructor
    · rintro rfl
      omega
    · rintro rfl
      omega
  · rw [hsame]

theorem fold_fold (s : List Char) : fold (fold s) = fold s := by
  rw [fold, fold, List.map_map]
  exact List.map_congr_left fun c _ => toLower_toLower c

theorem trim_fold (s : List Char) : trim (fold s) = fold (trim s) := by
  have hdrop : ∀ r : List Char, (fold r).dropWhile isBlank = fold (r.dropWhile isBlank) := by
    intro r
    rw [fold, List.dropWhile_map]
    exact congrArg (fun p => fold (r.dropWhile p)) (funext isBlank_toLower)
  have hreverse : ∀ r : List Char, (fold r).reverse = fold r.reverse := fun r =>
    (List.map_reverse).symm
  rw [trim, hdrop, trimEnd, hreverse, hdrop, hreverse]
  rfl

/-! Words at the front of a text, in any case of their letters. -/

theorem dropWord?_fold (w s : List Char) : dropWord? w (fold s) = (dropWord? w s).map fold := by
  induction w generalizing s with
  | nil => rfl
  | cons a w ih =>
    cases s with
    | nil => rfl
    | cons c s =>
      show (if c.toLower.toLower = a then dropWord? w (fold s) else none) = _
      rw [toLower_toLower, ih, dropWord?]
      split_ifs <;> rfl

theorem dropFirstWord?_fold {α : Type} (table : List (String × α)) (s : List Char) :
    dropFirstWord? table (fold s) = (dropFirstWord? table s).map (Prod.map id fold) := by
  induction table with
  | nil => rfl
  | cons entry table ih =>
    simp only [dropFirstWord?] at ih ⊢
    rw [List.findSome?_cons, List.findSome?_cons, dropWord?_fold, ih]
    cases dropWord? entry.1.toList s <;> rfl

theorem eq_append_of_dropWord? {w s r : List Char} (h : dropWord? w s = some r) :
    ∃ a, s = a ++ r ∧ fold a = w := by
  induction w generalizing s with
  | nil => exact ⟨[], Option.some.inj h, rfl⟩
  | cons a w ih =>
    cases s with
    | nil => cases h
    | cons c s =>
      rw [dropWord?] at h
      split_ifs at h with hc
      obtain ⟨b, rfl, hb⟩ := ih h
      exact ⟨c :: b, rfl, congrArg₂ List.cons hc hb⟩

theorem fold_eq_of_isWord {word : String} {s : List Char} (h : isWord word s = true) :
    fold s = word.toList :=
  of_decide_eq_true h

theorem getLast?_of_isWord {word : String} {s : List Char} (h : isWord word s = true) :
    s.getLast?.map Char.toLower = word.toList.getLast? := by
  rw [← fold_eq_of_isWord h, fold, List.getLast?_map]

theorem isWord_of_fold_eq {word : String} {s : List Char} (h : fold s = word.toList) :
    isWord word s = true :=
  decide_eq_true h

theorem eq_nil_of_fold_eq_nil {s : List Char} (h : fold s = []) : s = [] :=
  List.map_eq_nil_iff.mp h

theorem mem_of_isWord {word : String} {s : List Char} (h : isWord word s = true) {c : Char}
    (hc : c ∈ s) : c.toLower ∈ word.toList :=
  fold_eq_of_isWord h ▸ List.mem_map_of_mem hc

/-! Words of a text that is put together. -/

theorem apply_blanks_append {β : Type} {f : List Char → β}
    (hcons : ∀ {c}, isBlank c = true → ∀ s, f (c :: s) = f s) {l : List Char} (hl : IsBlanks l)
    (s : List Char) : f (l ++ s) = f s := by
  induction l with
  | nil => rfl
  | cons c l ih =>
    have hrest : IsBlanks l := fun d hd => hl d (List.mem_cons_of_mem c hd)
    rw [List.cons_append, hcons (hl c List.mem_cons_self), ih hrest]

theorem apply_append_blanks {β : Type} {f : List Char → List β}
    (hcons : ∀ {c}, isBlank c = true → ∀ s, f (c :: s) = f s) (hnil : f [] = []) {a : List Char}
    (hsplit : ∀ {c}, isBlank c = true → ∀ b, f (a ++ c :: b) = f a ++ f b) {r : List Char}
    (hr : IsBlanks r) : f (a ++ r) = f a := by
  cases r with
  | nil => rw [List.append_nil]
  | cons c r =>
    have hrest : f (r ++ []) = f [] :=
      apply_blanks_append hcons (fun d hd => hr d (List.mem_cons_of_mem c hd)) []
    rw [List.append_nil, hnil] at hrest
    rw [hsplit (hr c List.mem_cons_self), hrest, List.append_nil]

theorem words_append_cons {c : Char} (hc : isBlank c = true) (a b : List Char) :
    words (a ++ c :: b) = words a ++ words b :=
  fields_append_cons hc a b

theorem words_cons {c : Char} (hc : isBlank c = true) (s : List Char) : words (c :: s) = words s :=
  fields_cons hc s

theorem words_blanks_append {l : List Char} (hl : IsBlanks l) (s : List Char) :
    words (l ++ s) = words s :=
  apply_blanks_append words_cons hl s

theorem words_append_blanks (s : List Char) {r : List Char} (hr : IsBlanks r) :
    words (s ++ r) = words s :=
  apply_append_blanks words_cons rfl (fun hc => words_append_cons hc s) hr

theorem words_append_blanks_append {gap : List Char} (hgap : IsBlanks gap) (hne : gap ≠ [])
    (a b : List Char) : words (a ++ gap ++ b) = words a ++ words b := by
  obtain ⟨c, gap, rfl⟩ := List.exists_cons_of_ne_nil hne
  have hrest : IsBlanks gap := fun d hd => hgap d (List.mem_cons_of_mem c hd)
  rw [List.append_assoc, List.cons_append, words_append_cons (hgap c List.mem_cons_self),
    words_blanks_append hrest]

theorem words_trim (s : List Char) : words (trim s) = words s := by
  obtain ⟨before, after, hbefore, hafter, hs⟩ := exists_eq_append_trim s
  conv_rhs => rw [hs]
  rw [words_append_blanks _ hafter, words_blanks_append hbefore]

theorem words_eq_singleton {s : List Char} (hne : s ≠ []) (hs : ∀ c ∈ s, isBlank c = false) :
    words s = [s] :=
  fields_eq_singleton hne hs

theorem split_fold (s : List Char) : split isBlank (fold s) = (split isBlank s).map fold := by
  induction s with
  | nil => rfl
  | cons c s ih =>
    show split isBlank (c.toLower :: fold s) = _
    rw [split, split, isBlank_toLower, ih]
    split_ifs
    · rfl
    · cases split isBlank s <;> rfl

theorem words_fold (s : List Char) : words (fold s) = (words s).map fold := by
  rw [words, fields, split_fold, List.filter_map]
  congr 2
  funext w
  cases w <;> rfl

theorem words_keyword (s : List Char) : words (keyword s) = (words s).map fold := by
  rw [keyword, words_fold, words_trim]

theorem words_ne_nil {s : List Char} {c : Char} (hc : c ∈ s) (hblank : isBlank c = false) :
    words s ≠ [] := by
  obtain ⟨w, hw, -⟩ := exists_mem_fields hc hblank
  exact List.ne_nil_of_mem hw

theorem exists_words_eq_cons_cons {s : List Char} {c : Char} (hc : c ∈ trim s)
    (hblank : isBlank c = true) : ∃ w v vs, words s = w :: v :: vs := by
  obtain ⟨a, b, hs⟩ := List.append_of_mem hc
  have hhead := head?_trim s
  have hlast := getLast?_trim s
  rw [hs] at hhead hlast
  have ha : words a ≠ [] := by
    cases a with
    | nil => exact absurd hblank (Bool.eq_false_iff.mp (hhead c rfl))
    | cons d a => exact words_ne_nil List.mem_cons_self (hhead d rfl)
  have hb : words b ≠ [] := by
    rcases List.eq_nil_or_concat' b with rfl | ⟨b, d, rfl⟩
    · exact absurd hblank (Bool.eq_false_iff.mp (hlast c List.getLast?_concat))
    · refine words_ne_nil (List.mem_append_right b List.mem_cons_self) (hlast d ?_)
      rw [← List.cons_append, ← List.append_assoc]
      exact List.getLast?_concat
  obtain ⟨w, ws, hws⟩ := List.exists_cons_of_ne_nil ha
  obtain ⟨v, vs, hvs⟩ := List.exists_cons_of_ne_nil (List.append_ne_nil_of_right_ne_nil ws hb)
  refine ⟨w, v, vs, ?_⟩
  rw [← words_trim, hs, words_append_cons hblank, hws, List.cons_append, hvs]

end PanelLayout.Text
