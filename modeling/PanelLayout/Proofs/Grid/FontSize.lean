import PanelLayout.Grid.Placement
import PanelLayout.Proofs.Length.Scan
import PanelLayout.Proofs.Text.Words

/-!
Font sizes of grid containers. The template of a container and its other lengths read the font size of
the container in two ways, which agree when it is a number or in a unit that does not refer to it.
-/
namespace PanelLayout

/-! Texts that are one token of a template. -/

namespace Template

def IsPlain (c : Char) : Prop := c ≠ '(' ∧ c ≠ ')' ∧ Text.isBlank c = false

instance : DecidablePred IsPlain := fun _ => inferInstanceAs (Decidable (_ ∧ _ ∧ _))

theorem IsPlain.of_toLower {c : Char} (h : IsPlain c.toLower) : IsPlain c := by
  unfold Char.toLower at h
  split at h
  · rename_i hupper
    have hge : 65 ≤ c.toNat := hupper.1
    have hle : c.toNat ≤ 90 := hupper.2
    refine ⟨?_, ?_, ?_⟩
    · rintro rfl
      exact absurd hge (by decide)
    · rintro rfl
      exact absurd hge (by decide)
    · simp only [Text.isBlank, Bool.or_eq_false_iff, Bool.and_eq_false_iff, decide_eq_false_iff_not]
      omega
  · exact h

theorem IsPlain.topLevelFrom_cons {c : Char} (hc : IsPlain c) (token : Option (List Char))
    (s : List Char) :
    topLevelFrom 0 token (c :: s) = topLevelFrom 0 (some (c :: token.getD [])) s := by
  have hblank : ¬(Text.isBlank c = true ∧ 0 = 0) := fun h => Bool.eq_false_iff.mp hc.2.2 h.1
  rw [topLevelFrom, if_neg hc.1, if_neg hc.2.1, if_neg hblank]

section
variable {s : List Char} (hs : ∀ c ∈ s, IsPlain c)
include hs

theorem topLevelFrom_plain (token : List Char) :
    topLevelFrom 0 (some token) s = [token.reverse ++ s] := by
  induction s generalizing token with
  | nil => simp [topLevelFrom]
  | cons c s ih =>
    have hrest : ∀ d ∈ s, IsPlain d := fun d hd => hs d (List.mem_cons_of_mem c hd)
    rw [(hs c List.mem_cons_self).topLevelFrom_cons, ih hrest]
    simp

theorem callOf?_plain (name : String) : callOf? name s = none := by
  rw [callOf?, Text.splitOnce_eq_none fun h => (hs _ h).1 rfl]

theorem tokens_plain (hne : s ≠ []) : tokens s = [s] := by
  have htop : topLevel s = [s] := by
    obtain ⟨c, s, rfl⟩ := List.exists_cons_of_ne_nil hne
    have hrest : ∀ d ∈ s, IsPlain d := fun d hd => hs d (List.mem_cons_of_mem c hd)
    rw [topLevel, (hs c List.mem_cons_self).topLevelFrom_cons]
    exact topLevelFrom_plain hrest [c]
  rw [tokens, htop, List.flatMap_singleton, expand, callOf?_plain hs]
  rfl

end

end Template

theorem Length.ofText?_em {v : List Char} {x : Float32} (h : IsNumber v x) :
    ofText? (v ++ "em".toList) = some (.amount x .em) := by
  have hunit : ("em", LengthUnit.em) ∈ LengthUnit.table := by decide
  exact ofText?_unit h hunit

/-! A number of font sizes as a track. -/

namespace Track
variable {v : List Char} {x : Float32}

theorem isWord_em_eq_false {word : String} (hword : word.toList.getLast? ≠ some 'm')
    (v : List Char) : Text.isWord word (v ++ "em".toList) = false := by
  refine Bool.eq_false_iff.mpr fun h => hword ?_
  have hlast : (v ++ "em".toList).getLast? = some 'm' := by simp
  rw [← Text.getLast?_of_isWord h, hlast]
  rfl

theorem ofToken_em (u : TrackUnits) (h : IsNumber v x) :
    ofToken u (v ++ "em".toList) = px (x * u.fontSize) := by
  have hplain : ∀ c ∈ v ++ "em".toList, Template.IsPlain c := by
    have halphabet : ∀ c ∈ Numeral.alphabet ++ "em".toList, Template.IsPlain c := by
      rw [← List.forall_iff_forall_mem]
      decide
    intro c hc
    exact halphabet c (List.mem_append.mpr ((List.mem_append.mp hc).imp_left h.mem_alphabet))
  have htrim : Text.trim (v ++ "em".toList) = v ++ "em".toList :=
    Text.trim_eq_self fun c hc => (hplain c hc).2.2
  have hcontent : isContentWord (v ++ "em".toList) = false := by
    simp only [isContentWord, Bool.or_eq_false_iff]
    exact ⟨⟨isWord_em_eq_false (by decide) v, isWord_em_eq_false (by decide) v⟩,
      isWord_em_eq_false (by decide) v⟩
  have hrange : rangeLimit? (v ++ "em".toList) = none := by
    rw [rangeLimit?, Template.callOf?_plain hplain]
    rfl
  rw [ofToken]
  simp only [htrim, hcontent, Template.callOf?_plain hplain, Length.ofText?_em h, Bool.false_or,
    Option.isSome_none, Bool.false_eq_true, if_false]
  split
  · rename_i limit hlimit
    rw [htrim, hrange] at hlimit
    cases hlimit
  · rfl

theorem getElem?_listOfText_em (u : TrackUnits) (h : IsNumber v x) {t : List Char} {k : Nat}
    (hk : (Template.tokens (Text.trim t))[k]? = some (v ++ "em".toList)) :
    (listOfText u t)[k]? = some (px (x * u.fontSize)) := by
  have hmem := List.mem_of_getElem? hk
  have hempty : (Text.trim t).isEmpty = false := by
    refine Bool.eq_false_iff.mpr fun ht => ?_
    rw [List.isEmpty_iff.mp ht] at hmem
    exact absurd hmem List.not_mem_nil
  -- a template that is the word for no tracks is a token of its own, which ends otherwise
  have hnone : Text.isWord "none" (Text.trim t) = false := by
    refine Bool.eq_false_iff.mpr fun ht => ?_
    have hplain : ∀ c ∈ Text.trim t, Template.IsPlain c := by
      have hword : ∀ c ∈ "none".toList, Template.IsPlain c := by
        rw [← List.forall_iff_forall_mem]
        decide
      exact fun c hc => .of_toLower (hword _ (Text.mem_of_isWord ht hc))
    rw [Template.tokens_plain hplain fun h => by simp [h] at hempty] at hmem
    rw [← List.mem_singleton.mp hmem, isWord_em_eq_false (by decide)] at ht
    exact Bool.false_ne_true ht
  simp only [listOfText, hempty, hnone, Bool.or_self, Bool.false_eq_true, if_false,
    List.getElem?_map, hk, Option.map_some, ofToken_em u h]

end Track

def Value.length? : Value → Option Length
  | .number x => some (.px x)
  | .text s => Length.ofText? s.toList
  | .spacing _ => none

theorem CssUnits.pixels_eq (u : CssUnits) (style : Style) (reference : Option Float32) (v : Value) :
    u.pixels style reference v = (v.length?.map (u.resolve style reference)).getD 0 := by
  cases v with
  | number x => rfl
  | text s =>
    simp only [pixels, Value.length?]
    cases Length.ofText? s.toList <;> rfl
  | spacing m => rfl

namespace Grid

namespace Axis

def template : Axis → Property
  | row => .gridTemplateRows
  | column => .gridTemplateColumns

def shorthand? (axis : Axis) (style : Style) : Option (List Char) :=
  (style.get .gridTemplate).bind fun v =>
    match axis with
    | row => (Template.shorthand v.display.toList).1
    | column => (Template.shorthand v.display.toList).2

def gap : Axis → Property
  | row => .rowGap
  | column => .columnGap

end Axis

def template? (style : Style) (axis : Axis) : Option (List Char) :=
  ((style.get axis.template).map fun v => v.display.toList).or (axis.shorthand? style)

def tracksAlong (g : Grid) : Axis → List Track
  | .row => g.rows
  | .column => g.columns

def gapAlong (g : Grid) : Axis → Float32
  | .row => g.gaps.row
  | .column => g.gaps.column

section
variable (u : CssUnits) (config : Config) {style : Style} {axis : Axis}

theorem tracks_eq (units : TrackUnits) (p : Property) (short : Option (List Char)) :
    tracks units p short =
      ((((units.style.get p).map fun v => v.display.toList).or short).map
        (Track.listOfText units)).getD [] := by
  unfold tracks
  cases units.style.get p with
  | some v => rfl
  | none => cases short <;> rfl

theorem tracksAlong_ofStyle {t : List Char} (ht : template? style axis = some t)
    (hne : Track.listOfText ⟨fontSize u config style, u, style⟩ t ≠ []) :
    (ofStyle u config style).tracksAlong axis =
      Track.listOfText ⟨fontSize u config style, u, style⟩ t := by
  have horShares : ∃ n, (ofStyle u config style).tracksAlong axis =
      orShares (tracks ⟨fontSize u config style, u, style⟩ axis.template (axis.shorthand? style)) n := by
    unfold ofStyle Axis.shorthand?
    cases axis <;> cases style.get .gridTemplate <;> exact ⟨_, rfl⟩
  have htracks : tracks ⟨fontSize u config style, u, style⟩ axis.template (axis.shorthand? style) =
      Track.listOfText ⟨fontSize u config style, u, style⟩ t := by
    rw [template?] at ht
    rw [tracks_eq, ht]
    rfl
  obtain ⟨n, hn⟩ := horShares
  rw [hn, htracks, orShares, if_neg fun hempty => hne (List.isEmpty_iff.mp hempty)]

theorem gapAlong_ofStyle {v : Value} (hv : style.get axis.gap = some v) :
    (ofStyle u config style).gapAlong axis = u.pixels style none v := by
  cases axis with
  | row =>
    have hgap : style.get .rowGap = some v := hv
    simp only [gapAlong, ofStyle, CssUnits.gaps, hgap]
  | column =>
    have hgap : style.get .columnGap = some v := hv
    simp only [gapAlong, ofStyle, CssUnits.gaps, hgap]

def positiveOr (x : Float32) : Float32 :=
  if 0 < x then x else config.defaultFontSize

theorem positiveOr_zero : positiveOr config 0 = config.defaultFontSize :=
  if_neg (by decide)

/-- The font size `inTracks` of a template beside the font size `elsewhere` of its container, by the
length that the container gives for it. -/
structure FontSizes (l : Option Length) (inTracks elsewhere : Float32) : Prop where
  fixed : ∀ a unit, l = some (.amount a unit) → unit ∈ [.px, .pt, .rem] → inTracks = elsewhere
  /-- The amount counts twice: it is taken of the font size that it already gives. -/
  em : ∀ a, l = some (.amount a .em) →
    elsewhere = a * u.rootFontSize ∧ inTracks = positiveOr config (a * elsewhere)
  percent : ∀ a, l = some (.amount a .percent) →
    elsewhere = a / 100 * u.rootFontSize ∧ inTracks = config.defaultFontSize
  viewportWidth : ∀ a, l = some (.amount a .vw) →
    elsewhere = u.rootFontSize ∧ inTracks = positiveOr config (a / 100 * u.viewport.width)
  viewportHeight : ∀ a, l = some (.amount a .vh) →
    elsewhere = u.rootFontSize ∧ inTracks = positiveOr config (a / 100 * u.viewport.height)
  unreadable : l = none ∨ l = some .auto ∨ (∃ a, l = some (.amount a .fr)) →
    elsewhere = u.rootFontSize ∧ inTracks = config.defaultFontSize

section
variable {size : Value} (hsize : style.get .fontSize = some size)
include hsize

theorem fontSize_eq : fontSize u config style =
    positiveOr config ((size.length?.map (u.resolve style none)).getD 0) := by
  rw [fontSize, hsize, ← CssUnits.pixels_eq]
  rfl

theorem fontSize_eq_of_length? : u.fontSize style =
    match size.length? with
    | some (.amount x .px) => x
    | some (.amount x .pt) => x * u.pointsToPixels
    | some (.amount x .em) => x * u.rootFontSize
    | some (.amount x .rem) => x * u.rootFontSize
    | some (.amount x .percent) => x / 100 * u.rootFontSize
    | _ => u.rootFontSize := by
  rw [CssUnits.fontSize, hsize]
  cases size <;> rfl

theorem fontSizes_of_pos (hpos : 0 < u.fontSize style) :
    FontSizes u config size.length? (fontSize u config style) (u.fontSize style) := by
  have hinTracks := fontSize_eq u config hsize
  have helsewhere := fontSize_eq_of_length? u hsize
  generalize size.length? = l at hinTracks helsewhere
  have hzero := positiveOr_zero config
  have hsame : positiveOr config (u.fontSize style) = u.fontSize style := if_pos hpos
  constructor
  case fixed =>
    rintro a unit rfl hunit
    have hresolve : u.resolve style none (.amount a unit) = u.fontSize style := by
      simp only [List.mem_cons, List.not_mem_nil, or_false] at hunit
      obtain rfl | rfl | rfl := hunit <;> exact helsewhere.symm
    rw [hinTracks, Option.map_some, Option.getD_some, hresolve, hsame]
  case em =>
    rintro a rfl
    exact ⟨helsewhere, hinTracks⟩
  case percent =>
    rintro a rfl
    exact ⟨helsewhere, hinTracks.trans hzero⟩
  case viewportWidth =>
    rintro a rfl
    exact ⟨helsewhere, hinTracks⟩
  case viewportHeight =>
    rintro a rfl
    exact ⟨helsewhere, hinTracks⟩
  case unreadable =>
    rintro (rfl | rfl | ⟨a, rfl⟩) <;> exact ⟨helsewhere, hinTracks.trans hzero⟩

/-- A number with `em` behind it, as a token of a template and as any other length of the same
container. Both are multiples of a font size, and how the two font sizes compare depends on what the
container gives for its own. -/
theorem em_ofStyle (hpos : 0 < u.fontSize style) {t : List Char} (ht : template? style axis = some t)
    {v : List Char} {x : Float32} (hv : IsNumber v x) {k : Nat}
    (hk : (Template.tokens (Text.trim t))[k]? = some (v ++ "em".toList)) :
    ((ofStyle u config style).tracksAlong axis)[k]? = some (.px (x * fontSize u config style)) ∧
      (∀ reference, u.pixels style reference (.text (String.ofList (v ++ "em".toList))) =
        x * u.fontSize style) ∧
      (style.get axis.gap = some (.text (String.ofList (v ++ "em".toList))) →
        (ofStyle u config style).gapAlong axis = x * u.fontSize style) ∧
      FontSizes u config size.length? (fontSize u config style) (u.fontSize style) := by
  have htrack := Track.getElem?_listOfText_em ⟨fontSize u config style, u, style⟩ hv hk
  have hpixels : ∀ reference, u.pixels style reference (.text (String.ofList (v ++ "em".toList))) =
      x * u.fontSize style := by
    intro reference
    have hlength : Value.length? (.text (String.ofList (v ++ "em".toList))) =
        some (.amount x .em) := by
      rw [Value.length?, String.toList_ofList, Length.ofText?_em hv]
    rw [CssUnits.pixels_eq, hlength]
    rfl
  refine ⟨?_, hpixels, fun hgap => ?_, fontSizes_of_pos u config hsize hpos⟩
  · rw [tracksAlong_ofStyle u config ht]
    · exact htrack
    · intro hnil
      rw [hnil] at htrack
      cases htrack
  · rw [gapAlong_ofStyle u config hgap]
    exact hpixels none

end

end

theorem em_ofStyle_pixels :
    let style := ((Style.empty.set .fontSize (.text "20px")).set .gridTemplateColumns
      (.text "1fr 1.5em")).set .columnGap (.text "1.5em")
    style.get .fontSize = some (.text "20px") ∧ 0 < CssUnits.standard.fontSize style ∧
      template? style .column = some "1fr 1.5em".toList ∧ IsNumber "1.5".toList 1.5 ∧
      (Template.tokens (Text.trim "1fr 1.5em".toList))[1]? = some ("1.5".toList ++ "em".toList) ∧
      ((ofStyle .standard .standard style).tracksAlong .column)[1]? = some (.px 30) ∧
      (ofStyle .standard .standard style).gapAlong .column = 30 := by
  intro style
  have hsize : CssUnits.standard.fontSize style = 20 := by decide +kernel
  have hpos : 0 < CssUnits.standard.fontSize style := by decide +kernel
  have htemplate : template? style .column = some "1fr 1.5em".toList := by decide +kernel
  have hnumber : IsNumber "1.5".toList 1.5 := by
    show scanNumber "1.5".toList = some (1.5, [])
    decide +kernel
  have htoken : (Template.tokens (Text.trim "1fr 1.5em".toList))[1]? =
      some ("1.5".toList ++ "em".toList) := by decide +kernel
  obtain ⟨htrack, -, hgap, hsizes⟩ :=
    em_ofStyle .standard .standard rfl hpos htemplate hnumber htoken
  have hlength : Value.length? (.text "20px") = some (.amount 20 .px) := by decide +kernel
  have hproduct : (1.5 : Float32) * 20 = 30 := by decide +kernel
  rw [hsizes.fixed _ _ hlength (by decide), hsize, hproduct] at htrack
  have hcolumn := hgap rfl
  rw [hsize, hproduct] at hcolumn
  exact ⟨rfl, hpos, htemplate, hnumber, htoken, htrack, hcolumn⟩

/-- A font size in `em` counts twice in the template: one `em` of a container of 32 pixels is a track of
64 pixels. -/
theorem not_forall_em_track_eq_resolve :
    ¬∀ (u : CssUnits) (config : Config) (style : Style) (axis : Axis) (size : Value)
      (t v : List Char) (x : Float32) (k : Nat), style.get .fontSize = some size →
      0 < u.fontSize style → template? style axis = some t → IsNumber v x →
      (Template.tokens (Text.trim t))[k]? = some (v ++ "em".toList) →
      ((ofStyle u config style).tracksAlong axis)[k]? =
        some (.px (u.resolve style none (.amount x .em))) := by
  intro h
  let style := (Style.empty.set .fontSize (.text "2em")).set .gridTemplateColumns (.text "1em")
  have hpos : 0 < CssUnits.standard.fontSize style := by decide +kernel
  have hnumber : IsNumber "1".toList 1 := by
    show scanNumber "1".toList = some (1, [])
    decide +kernel
  have htoken : (Template.tokens (Text.trim "1em".toList))[0]? =
      some ("1".toList ++ "em".toList) := by decide +kernel
  have htrack : ((ofStyle .standard .standard style).tracksAlong .column)[0]? = some (.px 64) := by
    decide +kernel
  have hem : CssUnits.standard.resolve style none (.amount 1 .em) = 32 := by decide +kernel
  have hequal := h .standard .standard style .column _ "1em".toList _ 1 0 rfl hpos (by decide +kernel)
    hnumber htoken
  rw [htrack, hem] at hequal
  exact absurd hequal (by decide +kernel)

end Grid

end PanelLayout
