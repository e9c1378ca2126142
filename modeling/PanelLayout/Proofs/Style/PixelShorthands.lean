import PanelLayout.Geometry.Json
import PanelLayout.Proofs.Length.Numbers
import PanelLayout.Style.Spacing

/-!
Shorthands of pixels. The reader of margins takes numbers with or without the unit of pixels, between
blanks of any kind, and the reader of box shorthands takes lengths. What both take is a list of signed
decimals, and both spread it over the sides alike.
-/
namespace PanelLayout

theorem mapM_eq_ok_iff {ε α β : Type} {f : α → Except ε β} {as : List α} {bs : List β} :
    as.mapM f = .ok bs ↔ List.Forall₂ (fun a b => f a = .ok b) as bs := by
  induction as generalizing bs with
  | nil =>
    rw [List.mapM_nil, List.forall₂_nil_left_iff]
    exact ⟨fun h => (Except.ok.inj h).symm, fun h => congrArg Except.ok h.symm⟩
  | cons a as ih =>
    rw [List.mapM_cons, List.forall₂_cons_left_iff]
    constructor
    · intro h
      cases hb : f a with
      | error e =>
        rw [hb] at h
        cases h
      | ok b =>
        cases hbs : as.mapM f with
        | error e =>
          rw [hb, hbs] at h
          cases h
        | ok rest =>
          rw [hb, hbs] at h
          exact ⟨b, rest, rfl, ih.mp hbs, (Except.ok.inj h).symm⟩
    · rintro ⟨b, rest, hb, hrest, rfl⟩
      rw [hb, ih.mpr hrest]
      rfl

namespace Text

theorem words_eq_fields {s : List Char} (h : ∀ w ∈ fields isSpacing s, ∀ c ∈ w, isBlank c = false) :
    words s = fields isSpacing s := by
  refine fields_congr fun c hc => ?_
  cases hspacing : isSpacing c with
  | true => exact (isSpacing_cases hspacing).1
  | false =>
    obtain ⟨w, hw, hcw⟩ := exists_mem_fields hc hspacing
    exact h w hw c hcw

end Text

def IsPixels (s : List Char) : Prop :=
  ∃ n, IsSignedDecimal n ∧ (s = n ∨ s = n ++ "px".toList)

namespace Margin

theorem dropPixelUnit_append (s : List Char) : dropPixelUnit (s ++ "px".toList) = s := by
  have hreverse : (s ++ "px".toList).reverse = 'x' :: 'p' :: s.reverse := by simp
  rw [dropPixelUnit, hreverse]
  exact List.reverse_reverse s

theorem dropPixelUnit_cases (s : List Char) :
    (∃ r, s = r ++ "px".toList) ∨ dropPixelUnit s = s := by
  unfold dropPixelUnit
  split
  · rename_i r hreverse
    refine .inl ⟨r.reverse, ?_⟩
    rw [← List.reverse_reverse s, hreverse]
    simp
  · exact .inr rfl

theorem ne_append_of_isSignedDecimal {s : List Char} (h : IsSignedDecimal s) (r : List Char) :
    s ≠ r ++ "px".toList := by
  rintro rfl
  obtain ⟨x, hx⟩ := Option.isSome_iff_exists.mp h.isSome_ofText?
  have hletter : 'x' ∈ r ++ "px".toList := by simp
  exact absurd ((h.isNumber hx).mem_alphabet hletter) (by decide)

theorem dropPixelUnit_of_isSignedDecimal {s : List Char} (h : IsSignedDecimal s) :
    dropPixelUnit s = s := by
  refine (dropPixelUnit_cases s).resolve_left ?_
  rintro ⟨r, hr⟩
  exact ne_append_of_isSignedDecimal h r hr

theorem readPixels_eq_ok_iff {t : List Char} {x : Float32} :
    readPixels t = .ok x ↔ Single.ofText? (dropPixelUnit t) = some x := by
  simp only [readPixels]
  cases Single.ofText? (dropPixelUnit t) <;> simp

theorem ofText_eq_ok_iff {s : List Char} {m : Margin} :
    ofText s = .ok m ↔ ∃ xs, (Text.words s).mapM readPixels = .ok xs ∧ ofValues? xs = some m := by
  rw [ofText]
  cases (Text.words s).mapM readPixels with
  | error e => simp [bind, Except.bind]
  | ok xs =>
    simp only [bind, Except.bind, Except.ok.injEq, exists_eq_left']
    cases ofValues? xs <;> simp

theorem ofJson_string_eq_ok_iff {s : String} {m : Margin} :
    ofJson (.string (some s)) = .ok m ↔ ofText s.toList = .ok m := by
  rw [ofJson]
  cases ofText s.toList <;> simp [Except.mapError]

theorem isSome_ofValues? (xs : List Float32) :
    (ofValues? xs).isSome = true ↔ 1 ≤ xs.length ∧ xs.length ≤ 4 := by
  match xs with
  | [] | [_] | [_, _] | [_, _, _] | [_, _, _, _] => simp [ofValues?]
  | _ :: _ :: _ :: _ :: _ :: _ => simp [ofValues?]

end Margin

namespace Length
open Margin (dropPixelUnit readPixels)

theorem getLast?_of_append_eq {word : String} {u : List Char} (hu : Text.isWord word u = true)
    (hne : u ≠ []) {n r : List Char} (h : n ++ u = r ++ "px".toList) :
    word.toList.getLast? = some 'x' := by
  have hlast : u.getLast? = some 'x' := by
    rw [← List.getLast?_append_of_ne_nil n hne, h]
    simp
  rw [← Text.getLast?_of_isWord hu, hlast]
  rfl

theorem Spells.of_pixels {r : List Char} {l : Length} (h : Spells (r ++ "px".toList) l) {x : Float32}
    (hx : Single.ofText? r = some x) : IsSignedDecimal r ∧ l = px x := by
  have hne := h.ne_nil
  generalize hs : r ++ "px".toList = s at h hne
  cases h with
  | auto hauto =>
    have hlast := getLast?_of_append_eq hauto hne (n := []) hs.symm
    exact absurd hlast (by decide)
  | bare hdecimal => exact absurd hs.symm (Margin.ne_append_of_isSignedDecimal hdecimal r)
  | @unit n hn y hy unit u hu =>
    have hu_ne : u ≠ [] := by
      rintro rfl
      cases unit <;> exact absurd (Text.fold_eq_of_isWord hu) (by decide)
    have hlast := getLast?_of_append_eq hu hu_ne hs.symm
    -- No other unit ends with this letter.
    obtain rfl : unit = .px := by
      cases unit with
      | px => rfl
      | _ => exact absurd hlast (by decide)
    have hfold : Text.fold u = "px".toList := Text.fold_eq_of_isWord hu
    have hlength : "px".toList.length = u.length := by rw [← hfold, Text.fold, List.length_map]
    obtain ⟨rfl, -⟩ := List.append_inj' hs hlength
    rw [hy] at hx
    exact ⟨hn, congrArg px (Option.some.inj hx)⟩

theorem Spells.of_readPixels {t : List Char} {l : Length} (h : Spells t l) {x : Float32}
    (hx : readPixels t = .ok x) : IsPixels t ∧ l = px x := by
  rw [Margin.readPixels_eq_ok_iff] at hx
  rcases Margin.dropPixelUnit_cases t with ⟨r, rfl⟩ | hsame
  · rw [Margin.dropPixelUnit_append] at hx
    obtain ⟨hr, hl⟩ := h.of_pixels hx
    exact ⟨⟨r, hr, .inr rfl⟩, hl⟩
  · rw [hsame] at hx
    obtain ⟨ht, hl⟩ := h.of_number hx
    exact ⟨⟨t, ht, .inl rfl⟩, hl⟩

theorem exists_of_isPixels {t : List Char} (h : IsPixels t) :
    ∃ x, readPixels t = .ok x ∧ Spells t (px x) := by
  obtain ⟨n, hn, ht⟩ := h
  obtain ⟨x, hx⟩ := Option.isSome_iff_exists.mp hn.isSome_ofText?
  refine ⟨x, ?_⟩
  rw [Margin.readPixels_eq_ok_iff]
  rcases ht with rfl | rfl
  · rw [Margin.dropPixelUnit_of_isSignedDecimal hn]
    exact ⟨hx, .bare hn hx⟩
  · have hunit : Text.isWord LengthUnit.px.spelling "px".toList = true := by decide
    rw [Margin.dropPixelUnit_append]
    exact ⟨hx, .unit hn hx hunit⟩

/-! Lists. -/

theorem forall₂_readPixels {ts : List (List Char)} {ls : List Length} {xs : List Float32}
    (hls : List.Forall₂ Spells ts ls) (hxs : List.Forall₂ (fun t x => readPixels t = .ok x) ts xs) :
    (∀ t ∈ ts, IsPixels t) ∧ ls = xs.map px := by
  induction hls generalizing xs with
  | nil =>
    cases hxs
    exact ⟨List.forall_mem_nil _, rfl⟩
  | cons hl _ ih =>
    cases hxs with
    | cons hx hrest =>
      obtain ⟨hpixels, rfl⟩ := hl.of_readPixels hx
      obtain ⟨hall, rfl⟩ := ih hrest
      exact ⟨List.forall_mem_cons.mpr ⟨hpixels, hall⟩, rfl⟩

theorem exists_forall₂_of_isPixels {ts : List (List Char)} (h : ∀ t ∈ ts, IsPixels t) :
    ∃ xs, List.Forall₂ (fun t x => readPixels t = .ok x) ts xs ∧
      List.Forall₂ Spells ts (xs.map px) := by
  induction ts with
  | nil => exact ⟨[], .nil, .nil⟩
  | cons t ts ih =>
    obtain ⟨ht, hts⟩ := List.forall_mem_cons.mp h
    obtain ⟨x, hread, hspells⟩ := exists_of_isPixels ht
    obtain ⟨xs, hreads, hlist⟩ := ih hts
    exact ⟨x :: xs, .cons hread hreads, .cons hspells hlist⟩

theorem isBlank_of_forall₂ {ts : List (List Char)} {ls : List Length} (h : List.Forall₂ Spells ts ls) :
    ∀ t ∈ ts, ∀ c ∈ t, Text.isBlank c = false := by
  induction h with
  | nil => exact List.forall_mem_nil _
  | cons hl _ ih => exact List.forall_mem_cons.mpr ⟨fun _ hc => hl.isBlank_eq hc, ih⟩

theorem words_of_forall₂ {s : List Char} {ls : List Length}
    (h : List.Forall₂ Spells (Text.fields Text.isSpacing (Text.trim s)) ls) :
    Text.words s = Text.fields Text.isSpacing (Text.trim s) := by
  rw [← Text.words_trim, Text.words_eq_fields (isBlank_of_forall₂ h)]

end Length

namespace CssUnits
open Length (Spells complete_scanList_iff)

def IsPixelShorthand (s : List Char) : Prop :=
  let ts := Text.fields Text.isSpacing (Text.trim s)
  1 ≤ ts.length ∧ ts.length ≤ 4 ∧ ∀ t ∈ ts, IsPixels t

theorem eq_pixels_of_both {s : List Char} {m : Margin} {ls : List Length} (hplain : Margin.ofText s = .ok m)
    (hlist : complete Length.scanList s = .ok ls) :
    IsPixelShorthand s ∧ ∃ xs, ls = xs.map Length.px ∧ Margin.ofValues? xs = some m := by
  obtain ⟨xs, hxs, hm⟩ := Margin.ofText_eq_ok_iff.mp hplain
  obtain ⟨hne, hls⟩ := complete_scanList_iff.mp hlist
  rw [mapM_eq_ok_iff, Length.words_of_forall₂ hls] at hxs
  obtain ⟨hpixels, rfl⟩ := Length.forall₂_readPixels hls hxs
  have hcount := (Margin.isSome_ofValues? xs).mp (Option.isSome_of_eq_some hm)
  rw [← hxs.length_eq] at hcount
  exact ⟨⟨hcount.1, hcount.2, hpixels⟩, xs, rfl, hm⟩

theorem IsPixelShorthand.exists_both {s : List Char} (h : IsPixelShorthand s) :
    (∃ m, Margin.ofText s = .ok m) ∧ ∃ ls, complete Length.scanList s = .ok ls := by
  obtain ⟨hpos, hle, hpixels⟩ := h
  obtain ⟨xs, hxs, hls⟩ := Length.exists_forall₂_of_isPixels hpixels
  have hne : Text.trim s ≠ [] := by
    intro hnil
    rw [hnil] at hpos
    exact absurd hpos (by decide)
  rw [hxs.length_eq] at hpos hle
  obtain ⟨m, hm⟩ := Option.isSome_iff_exists.mp ((Margin.isSome_ofValues? xs).mpr ⟨hpos, hle⟩)
  rw [← Length.words_of_forall₂ hls] at hxs
  exact ⟨⟨m, Margin.ofText_eq_ok_iff.mpr ⟨xs, mapM_eq_ok_iff.mpr hxs, hm⟩⟩,
    xs.map Length.px, complete_scanList_iff.mpr ⟨hne, hls⟩⟩

theorem box_of_pixels {s : String} {xs : List Float32} {m : Margin}
    (hlist : complete Length.scanList s.toList = .ok (xs.map Length.px))
    (hm : Margin.ofValues? xs = some m) (u : CssUnits) (style : Style) : u.box style (.text s) = m := by
  have hpixels : u.pixelList? style s.toList = some xs := by
    have hresolve : u.resolve style none ∘ Length.px = id := rfl
    rw [pixelList?, complete?, hlist, Except.toOption, Option.map_some, List.map_map, hresolve, List.map_id]
  rw [box, hpixels, Option.bind_some, hm, Option.getD_some]

/-- The texts that are plain margins as well as lists of lengths are the shorthands of pixels, and
for such a text the box of any style in any units is the plain margin. -/
theorem box_eq_plain (s : String) :
    ((∃ m, Margin.ofJson (.string (some s)) = .ok m) ∧
        (∃ ls, complete Length.scanList s.toList = .ok ls) ↔ IsPixelShorthand s.toList) ∧
      ∀ m ls, Margin.ofJson (.string (some s)) = .ok m → complete Length.scanList s.toList = .ok ls →
        ∀ (u : CssUnits) (style : Style), u.box style (.text s) = m := by
  simp only [Margin.ofJson_string_eq_ok_iff]
  refine ⟨⟨?_, IsPixelShorthand.exists_both⟩, ?_⟩
  · rintro ⟨⟨m, hm⟩, ls, hls⟩
    exact (eq_pixels_of_both hm hls).1
  · intro m ls hm hls u style
    obtain ⟨-, xs, rfl, hxs⟩ := eq_pixels_of_both hm hls
    exact box_of_pixels hls hxs u style

theorem box_eq_plain_signed :
    Margin.ofJson (.string (some " +2.5px\t4 .5px ")) = .ok ⟨4, 2.5, 4, 0.5⟩ ∧
      complete Length.scanList " +2.5px\t4 .5px ".toList = .ok [.px 2.5, .px 4, .px 0.5] ∧
      ∀ (u : CssUnits) (style : Style), u.box style (.text " +2.5px\t4 .5px ") = ⟨4, 2.5, 4, 0.5⟩ := by
  have hplain : Margin.ofJson (.string (some " +2.5px\t4 .5px ")) = .ok ⟨4, 2.5, 4, 0.5⟩ := by
    rw [Margin.ofJson_string_eq_ok_iff]
    decide +kernel
  have hlist : complete Length.scanList " +2.5px\t4 .5px ".toList = .ok [.px 2.5, .px 4, .px 0.5] := by
    decide +kernel
  exact ⟨hplain, hlist, (box_eq_plain " +2.5px\t4 .5px ").2 _ _ hplain hlist⟩

end CssUnits

end PanelLayout
