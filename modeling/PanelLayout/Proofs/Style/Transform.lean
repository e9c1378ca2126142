import PanelLayout.Proofs.Style.RoundTrip
import PanelLayout.Proofs.Length.List
import PanelLayout.Style.Translation

/-!
Transforms. The translation of a list of calls is put together from what each call moves, and a single
call that cannot be read takes all of it away.
-/
namespace PanelLayout

theorem mapM_eq_some_filterMap {α β : Type} {f : α → Option β} {as : List α}
    (h : ∀ a ∈ as, f a ≠ none) : as.mapM f = some (as.filterMap f) := by
  induction as with
  | nil => rfl
  | cons a as ih =>
    obtain ⟨ha, has⟩ := List.forall_mem_cons.mp h
    obtain ⟨b, hb⟩ := Option.ne_none_iff_exists'.mp ha
    rw [List.mapM_cons, hb, ih has, List.filterMap_cons_some hb]
    rfl

theorem length_filterMap_eq {α β : Type} {f : α → Option β} {as : List α}
    (h : ∀ a ∈ as, f a ≠ none) : (as.filterMap f).length = as.length := by
  rw [List.length_filterMap_eq_countP, List.countP_eq_length]
  exact fun a ha => Option.isSome_iff_ne_none.mpr (h a ha)

namespace Translation

namespace Call

structure Writable (c : Call) : Prop where
  name_ne : c.name ≠ []
  name_char : ∀ d ∈ c.name, isNameChar d = true
  arguments_open : ')' ∉ c.arguments

instance : DecidablePred Writable := fun c =>
  decidable_of_iff (c.name ≠ [] ∧ c.name.all isNameChar = true ∧ ')' ∉ c.arguments)
    ⟨fun h => ⟨h.1, List.all_eq_true.mp h.2.1, h.2.2⟩,
      fun h => ⟨h.name_ne, List.all_eq_true.mpr h.name_char, h.arguments_open⟩⟩

def text (c : Call) : List Char := c.name ++ '(' :: (c.arguments ++ [')'])

def pieces (c : Call) : List (List Char) :=
  Text.fields (fun d => d = ',' || Text.isBlank d) c.arguments

def keyword (c : Call) : String := String.ofList (Text.fold c.name)

def IsTranslating (c : Call) : Prop := "translate".toList <+: Text.fold c.name

def argumentCounts : List (String × List Nat) :=
  [("translate", [1, 2]), ("translate3d", [3]), ("translatex", [1]), ("translatey", [1])]

def Misread (c : Call) : Prop :=
  c.IsTranslating ∧
    ((∃ piece ∈ c.pieces, Length.ofText? piece = none) ∨
      ∃ entry ∈ argumentCounts, entry.1 = c.keyword ∧ c.pieces.length ∉ entry.2)

instance : DecidablePred Misread := fun c =>
  inferInstanceAs (Decidable (("translate".toList <+: Text.fold c.name) ∧ _))

def lengths (c : Call) : List Length := c.pieces.filterMap Length.ofText?

def moves (c : Call) : Translation :=
  match c.keyword with
  | "translate" | "translate3d" => ⟨c.lengths.take 1, (c.lengths.drop 1).take 1⟩
  | "translatex" => ⟨c.lengths.take 1, []⟩
  | "translatey" => ⟨[], c.lengths.take 1⟩
  | _ => identity

end Call

inductive Joined : List Call → List Char → Prop
  | single (c : Call) : Joined [c] c.text
  | cons (c : Call) {gap : List Char} (hgap : ∀ d ∈ gap, Text.isSpacing d = true) {cs : List Call}
      {s : List Char} (h : Joined cs s) : Joined (c :: cs) (c.text ++ (gap ++ s))

/-! Reading one call. -/

theorem ofCall?_of_not_translating {c : Call} (h : ¬c.IsTranslating) : ofCall? c = some identity := by
  have hprefix : "translate".toList.isPrefixOf (Text.fold c.name) = false :=
    Bool.eq_false_iff.mpr fun hprefix => h (List.isPrefixOf_iff_prefix.mp hprefix)
  simp only [ofCall?, hprefix]
  rfl

theorem moves_of_not_translating {c : Call} (h : ¬c.IsTranslating) : c.moves = identity := by
  have hkeyword : c.keyword.toList = Text.fold c.name := String.toList_ofList
  have hne : ∀ word : String, "translate".toList <+: word.toList → c.keyword ≠ word := by
    rintro word hword rfl
    rw [hkeyword] at hword
    exact h hword
  unfold Call.moves
  split
  · exact absurd ‹_› (hne _ (by decide))
  · exact absurd ‹_› (hne _ (by decide))
  · exact absurd ‹_› (hne _ (by decide))
  · exact absurd ‹_› (hne _ (by decide))
  · rfl

theorem arguments?_eq_none {c : Call} (h : ∃ piece ∈ c.pieces, Length.ofText? piece = none) :
    arguments? c.arguments = none := by
  obtain ⟨piece, hmem, hnone⟩ := h
  exact mapM_eq_none hmem hnone

theorem arguments?_eq_lengths {c : Call} (h : ∀ piece ∈ c.pieces, Length.ofText? piece ≠ none) :
    arguments? c.arguments = some c.lengths ∧ c.lengths.length = c.pieces.length :=
  ⟨mapM_eq_some_filterMap h, length_filterMap_eq h⟩

section
variable {c : Call} (h : c.IsTranslating)
include h

theorem ofCall?_of_no_lengths (harguments : arguments? c.arguments = none) : ofCall? c = none := by
  have hprefix : "translate".toList.isPrefixOf (Text.fold c.name) = true :=
    List.isPrefixOf_iff_prefix.mpr h
  simp only [ofCall?, hprefix, harguments]
  rfl

theorem ofCall?_eq_moves (harguments : arguments? c.arguments = some c.lengths)
    (hcounts : ∀ entry ∈ Call.argumentCounts, entry.1 = c.keyword → c.lengths.length ∈ entry.2) :
    ofCall? c = some c.moves := by
  have hprefix : "translate".toList.isPrefixOf (Text.fold c.name) = true :=
    List.isPrefixOf_iff_prefix.mpr h
  have hname : String.ofList (Text.fold c.name) = c.keyword := rfl
  simp only [ofCall?, hprefix, Bool.not_true, Bool.false_eq_true, if_false, harguments, hname]
  unfold Call.moves
  generalize c.lengths = ls at hcounts ⊢
  generalize c.keyword = word at hcounts ⊢
  split
  · rfl
  · rfl
  · rfl
  · rfl
  · rfl
  · rename_i hone htwo
    have hlength := hcounts ("translate", [1, 2]) (by decide) rfl
    simp only [List.mem_cons, List.not_mem_nil, or_false, List.length_eq_one_iff,
      List.length_eq_two] at hlength
    rcases hlength with ⟨x, rfl⟩ | ⟨x, y, rfl⟩
    · exact (hone x rfl).elim
    · exact (htwo x y rfl).elim
  · rename_i hthree
    have hlength := hcounts ("translate3d", [3]) (by decide) rfl
    rw [List.mem_singleton, List.length_eq_three] at hlength
    obtain ⟨x, y, z, rfl⟩ := hlength
    exact (hthree x y z rfl).elim
  · rename_i hone
    have hlength := hcounts ("translatex", [1]) (by decide) rfl
    rw [List.mem_singleton, List.length_eq_one_iff] at hlength
    obtain ⟨x, rfl⟩ := hlength
    exact (hone x rfl).elim
  · rename_i hone
    have hlength := hcounts ("translatey", [1]) (by decide) rfl
    rw [List.mem_singleton, List.length_eq_one_iff] at hlength
    obtain ⟨x, rfl⟩ := hlength
    exact (hone x rfl).elim
  · split <;> first | rfl | contradiction

theorem ofCall?_eq_none (harguments : arguments? c.arguments = some c.lengths)
    {entry : String × List Nat} (hmem : entry ∈ Call.argumentCounts) (hname : entry.1 = c.keyword)
    (hcount : c.lengths.length ∉ entry.2) : ofCall? c = none := by
  have hprefix : "translate".toList.isPrefixOf (Text.fold c.name) = true :=
    List.isPrefixOf_iff_prefix.mpr h
  have hkeyword : String.ofList (Text.fold c.name) = entry.1 := hname.symm
  simp only [ofCall?, hprefix, Bool.not_true, Bool.false_eq_true, if_false, harguments, hkeyword]
  generalize c.lengths = ls at hcount ⊢
  -- the arms that give a translation have one of the counts, the others give none
  simp only [Call.argumentCounts, List.mem_cons, List.not_mem_nil, or_false] at hmem
  rcases hmem with rfl | rfl | rfl | rfl <;> split <;> first | rfl | simp_all

end

theorem ofCall?_of_misread {c : Call} (h : c.Misread) : ofCall? c = none := by
  by_cases hnone : ∃ piece ∈ c.pieces, Length.ofText? piece = none
  · exact ofCall?_of_no_lengths h.1 (arguments?_eq_none hnone)
  · obtain ⟨entry, hmem, hname, hcount⟩ := h.2.resolve_left hnone
    obtain ⟨harguments, hlength⟩ := arguments?_eq_lengths fun piece hp hpiece =>
      hnone ⟨piece, hp, hpiece⟩
    exact ofCall?_eq_none h.1 harguments hmem hname (hlength ▸ hcount)

theorem ofCall?_of_not_misread {c : Call} (h : ¬c.Misread) : ofCall? c = some c.moves := by
  by_cases htranslating : c.IsTranslating
  · have hsome : ∀ piece ∈ c.pieces, Length.ofText? piece ≠ none := fun piece hp hpiece =>
      h ⟨htranslating, .inl ⟨piece, hp, hpiece⟩⟩
    obtain ⟨harguments, hlength⟩ := arguments?_eq_lengths hsome
    refine ofCall?_eq_moves htranslating harguments fun entry hmem hname => ?_
    by_contra hcount
    exact h ⟨htranslating, .inr ⟨entry, hmem, hname, hlength ▸ hcount⟩⟩
  · rw [ofCall?_of_not_translating htranslating, moves_of_not_translating htranslating]

/-! Reading calls that are written one after the other. -/

def Call.stripped (c : Call) : Call := ⟨c.name, c.arguments.dropWhile Text.isSpacing⟩

theorem ofCall?_stripped (c : Call) : ofCall? c.stripped = ofCall? c := by
  have hpieces : c.stripped.pieces = c.pieces := by
    have hgap : ∀ d ∈ c.arguments.takeWhile Text.isSpacing, (d = ',' || Text.isBlank d) = true := by
      intro d hd
      rw [(Text.isSpacing_cases (List.mem_takeWhile_imp hd)).1, Bool.or_true]
    have hfields := Text.fields_append_of_pos hgap (c.arguments.dropWhile Text.isSpacing)
    rw [List.takeWhile_append_dropWhile] at hfields
    exact hfields.symm
  have harguments : arguments? c.stripped.arguments = arguments? c.arguments :=
    congrArg (List.mapM Length.ofText?) hpieces
  simp only [ofCall?, harguments]
  rfl

theorem isBlank_of_isNameChar {d : Char} (h : isNameChar d = true) : Text.isBlank d = false := by
  have hclass : (d.isUpper || d.isLower || d.isDigit || d = '-') = true := h
  simp only [Bool.or_eq_true, decide_eq_true_eq] at hclass
  rcases hclass with ((hupper | hlower) | hdigit) | rfl
  · obtain ⟨hge, hle⟩ := of_decide_eq_true hupper
    have hge : 65 ≤ d.toNat := hge
    have hle : d.toNat ≤ 90 := hle
    exact Text.isBlank_of_visible (by omega) (by omega)
  · obtain ⟨hge, hle⟩ := Bool.and_eq_true_iff.mp hlower
    have hge : 97 ≤ d.toNat := of_decide_eq_true hge
    have hle : d.toNat ≤ 122 := of_decide_eq_true hle
    exact Text.isBlank_of_visible (by omega) (by omega)
  · exact Text.isBlank_of_isDigit hdigit
  · decide

theorem isSpacing_of_isNameChar {d : Char} (h : isNameChar d = true) : Text.isSpacing d = false :=
  Text.isSpacing_eq_false (isBlank_of_isNameChar h)

namespace Call
variable {c : Call} (hc : c.Writable)
include hc

theorem Writable.isNameChar_head (r : List Char) :
    ∀ d ∈ (c.text ++ r).head?, isNameChar d = true := by
  obtain ⟨d, name, hname⟩ := List.exists_cons_of_ne_nil hc.name_ne
  rw [text, hname]
  rintro _ ⟨⟩
  exact hc.name_char d (by rw [hname]; exact List.mem_cons_self)

theorem Writable.scan_append (r : List Char) :
    scan (c.text ++ r) = some (c.stripped, r.dropWhile Text.isSpacing) := by
  have hname : c.text ++ r = c.name ++ '(' :: (c.arguments ++ ')' :: r) := by simp [text]
  have htake : (c.text ++ r).takeWhile isNameChar = c.name := by
    rw [hname, List.takeWhile_append_of_pos hc.name_char]
    simp [isNameChar]
  have hrest : ((c.text ++ r).dropWhile isNameChar).dropWhile Text.isSpacing =
      '(' :: (c.arguments ++ ')' :: r) := by
    rw [hname, List.dropWhile_append_of_pos hc.name_char]
    rfl
  have hopen : ')' ∉ c.arguments.dropWhile Text.isSpacing := fun h =>
    hc.arguments_open ((List.dropWhile_sublist _).mem h)
  have harguments : Text.splitOnce ')' ((c.arguments ++ ')' :: r).dropWhile Text.isSpacing) =
      some (c.arguments.dropWhile Text.isSpacing, r) := by
    rw [← Text.splitOnce_append hopen r, List.dropWhile_append]
    split_ifs with hempty
    · rw [List.isEmpty_iff.mp hempty]
      rfl
    · rfl
  obtain ⟨d, name, hcons⟩ := List.exists_cons_of_ne_nil hc.name_ne
  unfold scan
  rw [Text.dropWhile_eq_self fun d hd => isSpacing_of_isNameChar (hc.isNameChar_head r d hd)]
  simp only [htake, hcons, hrest, harguments, stripped]

end Call

theorem calls?_of_scan {s r : List Char} {c : Call} (h : Call.scan s = some (c, r)) :
    calls? s = if r = [] then some [c] else (calls? r).map (c :: ·) := by
  rw [calls?]
  split
  · rename_i hnone
    rw [hnone] at h
    cases h
  · rename_i hnil
    rw [hnil] at h
    cases h
    rfl
  · rename_i hne hsome
    rw [hsome] at h
    cases h
    exact (if_neg fun hnil => hne hnil).symm

theorem Joined.ends {cs : List Call} {s : List Char} (hcs : ∀ c ∈ cs, c.Writable)
    (h : Joined cs s) :
    (∀ d ∈ s.head?, isNameChar d = true) ∧ s.getLast? = some ')' := by
  induction h with
  | single c =>
    have hhead := (hcs c List.mem_cons_self).isNameChar_head []
    rw [List.append_nil] at hhead
    have htext : c.text = (c.name ++ '(' :: c.arguments) ++ [')'] := by simp [Call.text]
    exact ⟨hhead, htext ▸ List.getLast?_concat⟩
  | @cons c gap hgap cs s h ih =>
    obtain ⟨-, hlast⟩ := ih fun d hd => hcs d (List.mem_cons_of_mem c hd)
    refine ⟨(hcs c List.mem_cons_self).isNameChar_head _, ?_⟩
    rw [← List.append_assoc, List.getLast?_append, hlast]
    rfl

theorem calls?_of_joined {cs : List Call} {s : List Char} (hcs : ∀ c ∈ cs, c.Writable)
    (h : Joined cs s) : calls? s = some (cs.map Call.stripped) := by
  induction h with
  | single c =>
    have hscan := (hcs c List.mem_cons_self).scan_append []
    rw [List.append_nil] at hscan
    exact calls?_of_scan hscan
  | @cons c gap hgap cs s h ih =>
    have hrest : ∀ d ∈ cs, d.Writable := fun d hd => hcs d (List.mem_cons_of_mem c hd)
    obtain ⟨hhead, hlast⟩ := h.ends hrest
    have hscan := (hcs c List.mem_cons_self).scan_append (gap ++ s)
    have hne : s ≠ [] := by
      rintro rfl
      cases hlast
    rw [Text.dropWhile_append_eq hgap fun d hd => isSpacing_of_isNameChar (hhead d hd)] at hscan
    rw [calls?_of_scan hscan, if_neg hne, ih hrest]
    rfl

/-! The sum of what the calls move. -/

theorem foldl_append_eq (t : Translation) (ts : List Translation) :
    ts.foldl append t = ⟨t.x ++ ts.flatMap x, t.y ++ ts.flatMap y⟩ := by
  induction ts generalizing t with
  | nil => simp
  | cons t' ts ih =>
    rw [List.foldl_cons, ih]
    simp [append]

theorem ofTransform_of_joined {cs : List Call} {s : List Char} (hcs : ∀ c ∈ cs, c.Writable)
    (h : Joined cs s) :
    ofTransform s = ((cs.mapM ofCall?).map (List.foldl append identity)).getD identity := by
  obtain ⟨hhead, hlast⟩ := h.ends hcs
  have htrim : Text.trim s = s := by
    refine Text.trim_eq_self_of_ends (fun d hd => isBlank_of_isNameChar (hhead d hd)) fun d hd => ?_
    rw [hlast] at hd
    cases hd
    decide
  have hword : Text.isWord "none" s = false := by
    refine Bool.eq_false_iff.mpr fun hword => ?_
    have hnone := Text.getLast?_of_isWord hword
    rw [hlast] at hnone
    exact absurd hnone (by decide)
  have hempty : s.isEmpty = false := by
    cases s with
    | nil => cases hlast
    | cons d s => rfl
  have hcalls : (cs.map Call.stripped).mapM ofCall? = cs.mapM ofCall? := by
    rw [List.mapM_map]
    exact congrArg (cs.mapM ·) (funext ofCall?_stripped)
  simp only [ofTransform, htrim, hword, hempty, calls?_of_joined hcs h, Option.bind_some, ofCalls?,
    hcalls]
  rfl

/-- One call that cannot be read takes the translation of all of them away; otherwise it is put
together from what each call moves, in order. -/
theorem ofTransform_calls {cs : List Call} {s : List Char} (hcs : ∀ c ∈ cs, c.Writable)
    (h : Joined cs s) :
    ((∃ c ∈ cs, c.Misread) → ofTransform s = identity) ∧
    ((∀ c ∈ cs, ¬c.Misread) →
      ofTransform s = ⟨cs.flatMap fun c => c.moves.x, cs.flatMap fun c => c.moves.y⟩) := by
  rw [ofTransform_of_joined hcs h]
  constructor
  · rintro ⟨c, hc, hmisread⟩
    rw [mapM_eq_none hc (ofCall?_of_misread hmisread)]
    rfl
  · intro hread
    rw [mapM_eq_some_map fun c hc => ofCall?_of_not_misread (hread c hc), Option.map_some,
      foldl_append_eq, Option.getD_some, List.flatMap_map, List.flatMap_map]
    rfl

def Call.ofTexts (name arguments : String) : Call := ⟨name.toList, arguments.toList⟩

theorem ofTransform_calls_rotated :
    let moving := Call.ofTexts "translate" "10px, -50%"
    let rotating := Call.ofTexts "rotate" "45deg"
    let shifting := Call.ofTexts "TranslateX" " 5px"
    let spoiling := Call.ofTexts "translateZ" "9deg"
    (∀ c ∈ [moving, rotating, shifting, spoiling], c.Writable) ∧
      Joined [moving, rotating, shifting]
        "translate(10px, -50%) rotate(45deg)\n\tTranslateX( 5px)".toList ∧
      ofTransform "translate(10px, -50%) rotate(45deg)\n\tTranslateX( 5px)".toList =
        ⟨[.px 10, .px 5], [.amount (-50) .percent]⟩ ∧
      Joined [moving, spoiling] "translate(10px, -50%)translateZ(9deg)".toList ∧
      ofTransform "translate(10px, -50%)translateZ(9deg)".toList = identity := by
  intro moving rotating shifting spoiling
  have hall : ∀ c ∈ [moving, rotating, shifting, spoiling], c.Writable := by decide
  have hread : ∀ c ∈ [moving, rotating, shifting], ¬c.Misread := by decide +kernel
  have hspoiling : spoiling.Misread := by decide +kernel
  have hblank : ∀ d ∈ [' '], Text.isSpacing d = true := List.all_eq_true.mp rfl
  have hlines : ∀ d ∈ ['\n', '\t'], Text.isSpacing d = true := List.all_eq_true.mp rfl
  have hnothing : ∀ d ∈ [], Text.isSpacing d = true := List.all_eq_true.mp rfl
  have hjoined : Joined [moving, rotating, shifting]
      "translate(10px, -50%) rotate(45deg)\n\tTranslateX( 5px)".toList :=
    .cons moving hblank (.cons rotating hlines (.single shifting))
  have hspoiled : Joined [moving, spoiling] "translate(10px, -50%)translateZ(9deg)".toList :=
    .cons moving hnothing (.single spoiling)
  refine ⟨hall, hjoined, ?_, hspoiled, ?_⟩
  · rw [(ofTransform_calls (by decide) hjoined).2 hread]
    decide +kernel
  · exact (ofTransform_calls (by decide) hspoiled).1 ⟨spoiling, by simp, hspoiling⟩

end Translation

end PanelLayout
