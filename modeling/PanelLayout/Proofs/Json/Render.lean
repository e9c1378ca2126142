import PanelLayout.Json.Reader
import PanelLayout.Proofs.Number.Plain

/-!
Rendered JSON values are read as they were: first the tokens of the text, then the value of the
tokens. Every string has to have its text, and every numeral has to be a plain one.
-/
namespace PanelLayout.Json

mutual

def Written : Json → Prop
  | .null => True
  | .bool _ => True
  | .number n => n.Plain
  | .string text => text.isSome
  | .array items => WrittenItems items
  | .object members => WrittenMembers members

def WrittenItems : List Json → Prop
  | [] => True
  | j :: js => j.Written ∧ WrittenItems js

def WrittenMembers : List (Option String × Json) → Prop
  | [] => True
  | (key, j) :: ms => key.isSome ∧ j.Written ∧ WrittenMembers ms

end

theorem writtenMembers_iff {ms : List (Option String × Json)} :
    WrittenMembers ms ↔ ∀ m ∈ ms, m.1.isSome ∧ m.2.Written := by
  induction ms with
  | nil => simp [WrittenMembers]
  | cons m ms ih => rw [WrittenMembers, ih, List.forall_mem_cons, and_assoc]

mutual

def tokensOf : Json → List Token
  | .array items => .beginArray :: (itemTokens items ++ [.endArray])
  | .object members => .beginObject :: (memberTokens members ++ [.endObject])
  | j => [.scalar j]

def itemTokens : List Json → List Token
  | [] => []
  | [j] => tokensOf j
  | j :: js => tokensOf j ++ .comma :: itemTokens js

def memberTokens : List (Option String × Json) → List Token
  | [] => []
  | [(key, j)] => .scalar (.string key) :: .colon :: tokensOf j
  | (key, j) :: ms => .scalar (.string key) :: .colon :: tokensOf j ++ .comma :: memberTokens ms

end

/-! The text of one token. -/

def Delimits (r : List Char) : Prop :=
  ∀ c ∈ r.head?, c.isAlpha = false ∧ isNumeralChar c = false

/-- The text is read as these tokens, whatever has been read before it and whatever delimits it. -/
def Yields (cs : List Char) (ts : List Token) : Prop :=
  ∀ done r, Delimits r →
    tokensFrom .between done (cs ++ r) = tokensFrom .between (ts.reverse ++ done) r

variable {done : List Token} {cs r : List Char} {ts : List Token} {c : Char} {t : Token}

theorem tokensFrom_word {letters : List Char} (h : wordToken? letters = some t)
    (hr : Delimits r) : tokensFrom (.word letters) done r = tokensFrom .between (t :: done) r := by
  cases r with
  | nil => simp [tokensFrom, scanEnd, h]
  | cons c cs =>
    simp only [tokensFrom, scanChar, (hr c rfl).1, h]
    cases scanBetween c with
    | none => rfl
    | some next => simp

theorem tokensFrom_numeral {signs : List Char} (h : numeralToken? signs = some t)
    (hr : Delimits r) : tokensFrom (.numeral signs) done r = tokensFrom .between (t :: done) r := by
  cases r with
  | nil => simp [tokensFrom, scanEnd, h]
  | cons c cs =>
    simp only [tokensFrom, scanChar, (hr c rfl).2, h]
    cases scanBetween c with
    | none => rfl
    | some next => simp

theorem tokensFrom_numeral_append (h : ∀ c ∈ cs, isNumeralChar c = true) (signs : List Char) :
    tokensFrom (.numeral signs) done (cs ++ r) = tokensFrom (.numeral (cs.reverse ++ signs)) done r := by
  induction cs generalizing signs with
  | nil => rfl
  | cons c cs ih =>
    obtain ⟨hc, hcs⟩ := List.forall_mem_cons.mp h
    rw [List.cons_append, tokensFrom, scanChar, if_pos hc, List.reverse_cons, List.append_assoc]
    exact ih hcs (c :: signs)

theorem yields_text {n : Numeral} (h : n.Plain) : Yields n.text [.scalar (.number n)] := by
  intro done r hr
  obtain ⟨c, cs, htext, hspace, halpha⟩ := h.exists_text_eq_cons
  have hnumeral : ∀ d ∈ c :: cs, isNumeralChar d = true := fun d hd => h.isNumeralChar (htext ▸ hd)
  obtain ⟨hc, hcs⟩ := List.forall_mem_cons.mp hnumeral
  have hscan : scanBetween c = some (.numeral [c], []) := by
    unfold scanBetween
    rw [hspace, halpha, hc]
    rfl
  have htoken : numeralToken? (cs.reverse ++ [c]) = some (.scalar (.number n)) := by
    rw [numeralToken?, List.reverse_append, List.reverse_reverse, List.reverse_singleton,
      List.singleton_append, ← htext, h.ofJson?_text]
    rfl
  rw [htext, List.cons_append, tokensFrom, scanChar, hscan]
  exact (tokensFrom_numeral_append hcs [c]).trans (tokensFrom_numeral htoken hr)

theorem hexValue?_hexDigit : ∀ n < 16, hexValue? (hexDigit n) = some n := by decide

theorem exists_part (c : Char) : ∃ p,
    (∀ parts done r, tokensFrom (.string parts) done (escapeChar c ++ r) =
      tokensFrom (.string (p :: parts)) done r) ∧
    ∀ ps, stringText? (p :: ps) = (stringText? ps).map (c :: ·) := by
  unfold escapeChar
  split
  case h_8 hquote hback _ _ _ _ _ =>
    split_ifs with hcontrol
    · -- A control character without a letter of its own is written by its number.
      have hhigh := hexValue?_hexDigit (c.toNat / 16) (by omega)
      have hlow := hexValue?_hexDigit (c.toNat % 16) (by omega)
      have hvalue : ((0 * 16 + 0) * 16 + c.toNat / 16) * 16 + c.toNat % 16 = c.toNat := by omega
      refine ⟨.unit c.toNat, fun parts done r => ?_, fun ps => ?_⟩
      · show tokensFrom (.hex parts [0, 0]) done
          (hexDigit (c.toNat / 16) :: hexDigit (c.toNat % 16) :: r) = _
        simp only [tokensFrom, scanChar, hhigh, hlow, Option.map_some, hvalue]
        rfl
      · conv_lhs => unfold stringText?
        rw [if_pos (.inl (Nat.lt_trans hcontrol (by decide))), Char.ofNat_toNat]
    · refine ⟨.char c, fun parts done r => ?_, fun ps => rfl⟩
      show tokensFrom (.string parts) done (c :: r) = _
      rw [tokensFrom, scanChar, if_neg hquote, if_neg hback, if_neg hcontrol]
      rfl
  all_goals exact ⟨.char _, fun _ _ _ => rfl, fun _ => rfl⟩

theorem exists_parts (s : List Char) : ∃ ps,
    (∀ parts done r, tokensFrom (.string parts) done (s.flatMap escapeChar ++ r) =
      tokensFrom (.string (ps.reverse ++ parts)) done r) ∧ stringText? ps = some s := by
  induction s with
  | nil => exact ⟨[], fun _ _ _ => rfl, rfl⟩
  | cons c s ih =>
    obtain ⟨p, hp, htext⟩ := exists_part c
    obtain ⟨ps, hps, hrest⟩ := ih
    refine ⟨p :: ps, fun parts done r => ?_, by rw [htext, hrest, Option.map_some]⟩
    rw [List.flatMap_cons, List.append_assoc, hp, hps, List.reverse_cons, List.append_assoc]
    rfl

theorem tokensFrom_quoted (s : String) :
    tokensFrom .between done (quoted s.toList ++ r) =
      tokensFrom .between (.scalar (.string (some s)) :: done) r := by
  obtain ⟨ps, hps, htext⟩ := exists_parts s.toList
  show tokensFrom (.string []) done ((s.toList.flatMap escapeChar ++ ['"']) ++ r) = _
  rw [List.append_assoc, hps, List.append_nil]
  show tokensFrom .between
    (.scalar (.string ((stringText? ps.reverse.reverse).map String.ofList)) :: done) r = _
  rw [List.reverse_reverse, htext, Option.map_some, String.ofList_toList]

/-! The text of a value is put together from those of its tokens. -/

theorem Yields.cons (hc : scanBetween c = some (.between, [t])) (h : Yields cs ts) :
    Yields (c :: cs) (t :: ts) := by
  intro done r hr
  rw [List.cons_append, tokensFrom, scanChar, hc, List.reverse_cons, List.append_assoc]
  exact h (t :: done) r hr

theorem Yields.append {cs' : List Char} {ts' : List Token} (h : Yields cs ts)
    (hc : c.isAlpha = false ∧ isNumeralChar c = false) (h' : Yields (c :: cs') ts') :
    Yields (cs ++ c :: cs') (ts ++ ts') := by
  intro done r hr
  have hdelimits : Delimits (c :: cs' ++ r) := by
    rintro d ⟨⟩
    exact hc
  rw [List.append_assoc, h done _ hdelimits, h' _ r hr, List.reverse_append, List.append_assoc]

theorem Yields.quoted (s : String) (h : Yields cs ts) :
    Yields (quoted s.toList ++ cs) (.scalar (.string (some s)) :: ts) := by
  intro done r hr
  rw [List.append_assoc, tokensFrom_quoted, h _ r hr, List.reverse_cons, List.append_assoc]
  rfl

theorem yields_nil : Yields [] [] := fun _ _ _ => rfl

mutual

theorem yields_render : ∀ {j : Json}, j.Written → Yields (render j) (tokensOf j)
  | .null, _ => fun _ _ hr => tokensFrom_word rfl hr
  | .bool true, _ => fun _ _ hr => tokensFrom_word rfl hr
  | .bool false, _ => fun _ _ hr => tokensFrom_word rfl hr
  | .number _, h => yields_text h
  | .string (some _), _ => fun _ _ _ => tokensFrom_quoted _
  | .array _, h => ((yields_renderItems h).append ⟨rfl, rfl⟩ (yields_nil.cons rfl)).cons rfl
  | .object _, h => ((yields_renderMembers h).append ⟨rfl, rfl⟩ (yields_nil.cons rfl)).cons rfl

theorem yields_renderItems : ∀ {items : List Json}, WrittenItems items →
    Yields (renderItems items) (itemTokens items)
  | [], _ => yields_nil
  | [_], h => yields_render h.1
  | _ :: _ :: _, h => (yields_render h.1).append ⟨rfl, rfl⟩ ((yields_renderItems h.2).cons rfl)

theorem yields_renderMembers : ∀ {members : List (Option String × Json)}, WrittenMembers members →
    Yields (renderMembers members) (memberTokens members)
  | [], _ => yields_nil
  | [(some key, _)], h => ((yields_render h.2.1).cons rfl).quoted key
  | (some key, _) :: _ :: _, h =>
    (((yields_render h.2.1).cons rfl).quoted key).append ⟨rfl, rfl⟩
      ((yields_renderMembers h.2.2).cons rfl)

end

theorem tokens?_render {j : Json} (h : j.Written) : tokens? (render j) = some (tokensOf j) := by
  have hdelimits : Delimits [] := fun c hc => absurd hc (Option.not_mem_none c)
  have hyields := yields_render h [] [] hdelimits
  rw [List.append_nil, List.append_nil] at hyields
  rw [tokens?, hyields, tokensFrom, scanEnd, Option.map_some, List.reverse_reverse, List.append_nil]

/-! The value of the tokens that a value is written with. -/

theorem foldlM_firstItem (j : Json) (js : List Json) (stack : List Frame) (ts : List Token) :
    (itemTokens (j :: js) ++ ts).foldlM readToken (.firstItem stack) =
      (itemTokens (j :: js) ++ ts).foldlM readToken (.value stack) := by
  cases js <;> cases j <;> rfl

theorem foldlM_firstKey (m : Option String × Json) (ms : List (Option String × Json))
    (stack : List Frame) (ts : List Token) :
    (memberTokens (m :: ms) ++ ts).foldlM readToken (.firstKey stack) =
      (memberTokens (m :: ms) ++ ts).foldlM readToken (.key stack) := by
  cases ms <;> rfl

mutual

theorem foldlM_tokensOf : ∀ (j : Json) (stack : List Frame) (ts : List Token),
    (tokensOf j ++ ts).foldlM readToken (.value stack) =
      (supply j stack).bind fun reading => ts.foldlM readToken reading
  | .null, _, _ | .bool _, _, _ | .number _, _, _ | .string _, _, _ => rfl
  | .array [], _, _ => rfl
  | .array (j :: js), stack, ts => by
    have hitems := foldlM_itemTokens (j :: js) (List.cons_ne_nil j js) [] stack (.endArray :: ts)
    rw [List.append_nil] at hitems
    show ((itemTokens (j :: js) ++ [Token.endArray]) ++ ts).foldlM readToken
      (.firstItem (.array [] :: stack)) = _
    rw [List.append_assoc, foldlM_firstItem]
    refine hitems.trans ?_
    show (supply (.array (j :: js).reverse.reverse) stack).bind _ = _
    rw [List.reverse_reverse]
  | .object [], _, _ => rfl
  | .object (m :: ms), stack, ts => by
    have hmembers := foldlM_memberTokens (m :: ms) (List.cons_ne_nil m ms) [] stack
      (.endObject :: ts)
    rw [List.append_nil] at hmembers
    show ((memberTokens (m :: ms) ++ [Token.endObject]) ++ ts).foldlM readToken
      (.firstKey (.object [] :: stack)) = _
    rw [List.append_assoc, foldlM_firstKey]
    refine hmembers.trans ?_
    show (supply (.object (m :: ms).reverse.reverse) stack).bind _ = _
    rw [List.reverse_reverse]

theorem foldlM_itemTokens : ∀ (items : List Json), items ≠ [] → ∀ (acc : List Json)
    (stack : List Frame) (ts : List Token),
    (itemTokens items ++ ts).foldlM readToken (.value (.array acc :: stack)) =
      ts.foldlM readToken (.continuation (.array (items.reverse ++ acc) :: stack))
  | [j], _, acc, stack, ts => foldlM_tokensOf j (.array acc :: stack) ts
  | j :: k :: js, _, acc, stack, ts => by
    have hj := foldlM_tokensOf j (.array acc :: stack) (.comma :: (itemTokens (k :: js) ++ ts))
    have hjs := foldlM_itemTokens (k :: js) (List.cons_ne_nil k js) (j :: acc) stack ts
    rw [List.reverse_cons, List.append_assoc]
    show ((tokensOf j ++ .comma :: itemTokens (k :: js)) ++ ts).foldlM readToken _ = _
    rw [List.append_assoc]
    exact hj.trans hjs

theorem foldlM_memberTokens : ∀ (members : List (Option String × Json)), members ≠ [] →
    ∀ (acc : List (Option String × Json)) (stack : List Frame) (ts : List Token),
    (memberTokens members ++ ts).foldlM readToken (.key (.object acc :: stack)) =
      ts.foldlM readToken (.continuation (.object (members.reverse ++ acc) :: stack))
  | [(key, j)], _, acc, stack, ts => foldlM_tokensOf j (.member acc key :: stack) ts
  | (key, j) :: m :: ms, _, acc, stack, ts => by
    have hj := foldlM_tokensOf j (.member acc key :: stack) (.comma :: (memberTokens (m :: ms) ++ ts))
    have hms := foldlM_memberTokens (m :: ms) (List.cons_ne_nil m ms) ((key, j) :: acc) stack ts
    rw [List.reverse_cons, List.append_assoc]
    show (tokensOf j ++ .comma :: memberTokens (m :: ms) ++ ts).foldlM readToken
      (.value (.member acc key :: stack)) = _
    rw [List.append_assoc]
    exact hj.trans hms

end

theorem ofTokens?_tokensOf (j : Json) : ofTokens? (tokensOf j) = some j := by
  have h := foldlM_tokensOf j [] []
  rw [List.append_nil] at h
  rw [ofTokens?, h]
  rfl

theorem ofText?_render {j : Json} (h : j.Written) : ofText? (render j) = some j := by
  rw [ofText?, tokens?_render h, Option.bind_some, ofTokens?_tokensOf]

end PanelLayout.Json
