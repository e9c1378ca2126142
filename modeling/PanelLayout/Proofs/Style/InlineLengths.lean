import PanelLayout.Proofs.Length.Numbers
import PanelLayout.Proofs.Style.Inline
import PanelLayout.Proofs.Style.RoundTrip
import PanelLayout.Proofs.Style.Shorthands

/-!
The width as an inline declaration and as a JSON text. The inline text is first tried as a number, the
JSON text is only read as a length, so the two differ on the numbers that are no lengths.
-/
namespace PanelLayout

namespace Style

theorem ofInline_width {v : List Char} (hgiven : Text.trim v ≠ []) (hv : ';' ∉ v) :
    ofInline ("width: ".toList ++ v) = .ok (empty.set .width (valueOfText (Text.trim v))) := by
  have htrim : Text.trim (' ' :: v) = Text.trim v := Text.trim_cons rfl v
  have hname : ';' ∉ "width".toList ∧ ':' ∉ "width".toList := by decide
  have hvalue : ';' ∉ ' ' :: v := by simpa using hv
  have hdeclared : declarations ("width: ".toList ++ v) = [⟨"width".toList, ' ' :: v⟩] :=
    declarations_colon hname.1 hname.2 hvalue
  have hbare : Declaration.isBare ⟨"width".toList, ' ' :: v⟩ = false := by
    simpa [Declaration.isBare, htrim] using hgiven
  rw [ofInline_eq, hdeclared, List.find?_singleton, hbare]
  refine congrArg Except.ok ?_
  have hset := getD_setNamed? [] ⟨"width".toList, ' ' :: v⟩
  rw [htrim] at hset
  exact hset.symm

theorem ofJsonText?_width (t : String) :
    ofJsonText? (empty.set .width (.text t)).toJsonText = some (empty.set .width (.text t)) := by
  rw [ofJsonText?_toJsonText_eq, mapM_eq_some_map (g := (empty.set .width (.text t)).get),
    Option.map_some, ofValues_map]
  intro p _
  show slotOfJson? _ ((if p = .width then some (.text t) else none : Option Value).map _) =
    some (if p = .width then some (.text t) else none)
  split_ifs <;> rfl

/-- The width of an inline declaration and the same text as a width in JSON. They come to the same
pixels, bit for bit, unless the text is read as a number other than positive zero without being a signed
decimal: then the declaration counts that many pixels, and the JSON text counts none. -/
theorem width_pixels_eq_iff {v : List Char} (hgiven : Text.trim v ≠ []) (hv : ';' ∉ v) :
    ∃ w, ofInline ("width: ".toList ++ v) = .ok (empty.set .width w) ∧
      ofJsonText? (empty.set .width (.text (String.ofList v))).toJsonText =
        some (empty.set .width (.text (String.ofList v))) ∧
      ∀ (u : CssUnits) (s : Style) (reference : Option Float32),
        let t : Value := .text (String.ofList v)
        (u.pixels (s.set .width w) reference w = u.pixels (s.set .width t) reference t ↔
          ∀ x, Single.ofText? (Text.trim v) = some x → IsSignedDecimal (Text.trim v) ∨ x = 0) ∧
        ∀ x, Single.ofText? (Text.trim v) = some x → ¬IsSignedDecimal (Text.trim v) →
          u.pixels (s.set .width w) reference w = x ∧
            u.pixels (s.set .width t) reference t = 0 := by
  refine ⟨_, ofInline_width hgiven hv, ofJsonText?_width _, fun u s reference => ?_⟩
  intro t
  have hwidth : ∀ w : Value, u.pixels (s.set .width w) = u.pixels s := fun w => u.pixels_set (by decide) w s
  have htext : ∀ t : List Char, u.pixels s reference (.text (String.ofList t)) =
      ((Length.ofText? t).map (u.resolve s reference)).getD 0 := by
    intro t
    rw [u.pixels_text, String.toList_ofList]
  simp only [hwidth, t, htext v]
  -- A text that is no number stays a text in the declaration, and both are read as lengths.
  cases hx : Single.ofText? (Text.trim v) with
  | none =>
    have hvalue : valueOfText (Text.trim v) = .text (String.ofList (Text.trim v)) := by
      rw [valueOfText, hx]
    rw [hvalue, htext, Length.ofText?_trim]
    refine ⟨⟨?_, fun _ => rfl⟩, ?_⟩
    · rintro - x ⟨⟩
    · rintro x ⟨⟩
  | some x =>
    have hvalue : u.pixels s reference (valueOfText (Text.trim v)) = x := by
      rw [valueOfText, hx]
      rfl
    obtain ⟨hread, hunread⟩ := Length.ofText?_of_number hx
    rw [hvalue]
    by_cases hdecimal : IsSignedDecimal (Text.trim v)
    · rw [hread hdecimal]
      exact ⟨⟨fun _ _ _ => .inl hdecimal, fun _ => rfl⟩, fun _ _ hnot => absurd hdecimal hnot⟩
    · rw [hunread hdecimal]
      refine ⟨⟨?_, ?_⟩, ?_⟩
      · rintro (hzero : x = 0) y ⟨⟩
        exact .inr hzero
      · intro h
        exact (h x rfl).resolve_left hdecimal
      · rintro y ⟨⟩ -
        exact ⟨rfl, rfl⟩

theorem width_pixels_eq_iff_exponent :
    Text.trim "1e3".toList ≠ [] ∧ ';' ∉ "1e3".toList ∧
      Single.ofText? (Text.trim "1e3".toList) = some 1000 ∧ ¬IsSignedDecimal "1e3".toList ∧
      ∃ w, ofInline "width: 1e3".toList = .ok (empty.set .width w) ∧
        CssUnits.standard.pixels (empty.set .width w) none w = 1000 ∧
        CssUnits.standard.pixels (empty.set .width (.text "1e3")) none (.text "1e3") = 0 := by
  have hgiven : Text.trim "1e3".toList ≠ [] := by decide
  have hsemicolon : ';' ∉ "1e3".toList := by decide
  have hread : Single.ofText? (Text.trim "1e3".toList) = some 1000 := by decide +kernel
  have hscan : Numeral.scanPlain "1e3".toList = some (⟨false, [1], [], none⟩, "e3".toList) := by decide
  have hdecimal : ¬IsSignedDecimal "1e3".toList := by
    intro h
    obtain ⟨n, hn, -⟩ := h.exists_numeral
    rw [hscan] at hn
    cases hn
  obtain ⟨w, hinline, -, hpixels⟩ := width_pixels_eq_iff hgiven hsemicolon
  obtain ⟨-, hother⟩ := hpixels CssUnits.standard empty none
  obtain ⟨hnumber, hzero⟩ := hother 1000 hread hdecimal
  exact ⟨hgiven, hsemicolon, hread, hdecimal, w, hinline, hnumber, hzero⟩

/-- Not every text counts the same pixels in both places: `nan` is no number of pixels in a
declaration, and zero in JSON. -/
theorem not_forall_width_pixels_eq :
    ¬∀ v : List Char, Text.trim v ≠ [] → ';' ∉ v → ∀ (u : CssUnits) (reference : Option Float32)
      (inline json : Style) (w t : Value), ofInline ("width: ".toList ++ v) = .ok inline →
        ofJsonText? (empty.set .width (.text (String.ofList v))).toJsonText = some json →
        inline.get .width = some w → json.get .width = some t →
        u.pixels inline reference w = u.pixels json reference t := by
  intro h
  have hgiven : Text.trim "nan".toList ≠ [] := by decide
  have hsemicolon : ';' ∉ "nan".toList := by decide
  have hvalue : valueOfText (Text.trim "nan".toList) = .number Single.nan := by decide +kernel
  have hinline := ofInline_width hgiven hsemicolon
  rw [hvalue] at hinline
  have hequal : Single.nan = CssUnits.standard.pixels (empty.set .width (.text "nan")) none (.text "nan") :=
    h "nan".toList hgiven hsemicolon .standard none _ _ _ _ hinline (ofJsonText?_width _) rfl rfl
  have hzero : CssUnits.standard.pixels (empty.set .width (.text "nan")) none (.text "nan") = 0 := by
    decide +kernel
  rw [hzero] at hequal
  exact absurd hequal (by decide +kernel)

end Style

end PanelLayout
