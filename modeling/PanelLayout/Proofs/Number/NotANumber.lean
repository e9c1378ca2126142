import PanelLayout.Number.Shortest
import PanelLayout.Proofs.Length.Numbers

/-!
What is no number. It comes from the word for it and from nowhere else: reading digits, changing the sign
and taking a percentage make numbers of numbers. It stands in no order to anything, so no bound holds it; of
the numbers above zero only infinity is not finite.
-/
namespace PanelLayout
open Float.Model (Format UnpackedFloat)
open Float.Model.UnpackedFloat (unpack pack unpackExponent unpackMantissa unpackSign)

namespace Single

/-! Bit patterns. -/

theorem isNaN_unpack {b : BitVec Format.binary32.numBits} :
    (unpack .binary32 b).isNaN = true ↔ unpackExponent b = -1#_ ∧ unpackMantissa b ≠ 0#_ := by
  unfold unpack
  rw [apply_ite UnpackedFloat.isNaN, apply_ite UnpackedFloat.isNaN, apply_ite UnpackedFloat.isNaN,
    apply_dite UnpackedFloat.isNaN]
  dsimp only [UnpackedFloat.isNaN]
  split_ifs with hexponent hmantissa
  · exact iff_of_false id fun h => h.2 hmantissa
  · exact iff_of_true rfl ⟨hexponent, hmantissa⟩
  all_goals exact iff_of_false id fun h => hexponent h.1

theorem isInf_unpack {b : BitVec Format.binary32.numBits} :
    (unpack .binary32 b).isInf = true ↔ unpackExponent b = -1#_ ∧ unpackMantissa b = 0#_ := by
  unfold unpack
  rw [apply_ite UnpackedFloat.isInf, apply_ite UnpackedFloat.isInf, apply_ite UnpackedFloat.isInf,
    apply_dite UnpackedFloat.isInf]
  dsimp only [UnpackedFloat.isInf]
  split_ifs with hexponent hmantissa
  · exact iff_of_true rfl ⟨hexponent, hmantissa⟩
  · exact iff_of_false id fun h => hmantissa h.2
  all_goals exact iff_of_false id fun h => hexponent h.1

theorem isNaN_unpack_pack (f : UnpackedFloat) :
    (unpack .binary32 (pack .binary32 f)).isNaN = f.isNaN := by
  have hinfinity : ∀ s, (unpack .binary32 (UnpackedFloat.packedInfinity .binary32 s)).isNaN = false := by
    intro s
    cases s <;> decide
  cases f with
  | notANumber => decide
  | infinity s => exact hinfinity s
  | zero s => cases s <;> decide
  | finite s m e hm =>
    show _ = false
    unfold pack
    dsimp only
    split_ifs with hlarge hnormal
    · exact hinfinity s
    -- A normal exponent stays below the one that infinity shares with what is no number.
    · refine Bool.eq_false_iff.mpr fun h => ?_
      have hexponent := (isNaN_unpack.mp h).1
      rw [UnpackedFloat.unpackExponent_packComponents] at hexponent
      generalize (e + Format.binary32.exponentBias +
        Format.binary32.mantissaBitsWithoutImplicit).toNat = b at hlarge hexponent
      have hlarge : ¬2 ^ 8 ≤ b + 1 := hlarge
      have hvalue : b % 2 ^ 8 = 255 :=
        (BitVec.toNat_ofNat b 8).symm.trans (congrArg BitVec.toNat hexponent)
      omega
    · refine Bool.eq_false_iff.mpr fun h => ?_
      have hexponent := (isNaN_unpack.mp h).1
      rw [UnpackedFloat.unpackExponent_packComponents] at hexponent
      exact absurd hexponent (by decide)

theorem isNaN_neg (x : Float32) : (-x).isNaN = x.isNaN := by
  have hneg : (-x).isNaN = x.toModel.unpack.neg.isNaN := isNaN_unpack_pack _
  rw [hneg]
  show _ = x.toModel.unpack.isNaN
  cases x.toModel.unpack <;> rfl

theorem toNat_unpackExponent (b : BitVec Format.binary32.numBits) :
    (unpackExponent b).toNat = b.toNat / 0x800000 % 0x100 := by
  rw [unpackExponent, BitVec.toNat_cast, BitVec.extractLsb_toNat, Nat.shiftRight_eq_div_pow]
  rfl

theorem toNat_unpackMantissa (b : BitVec Format.binary32.numBits) :
    (unpackMantissa b).toNat = b.toNat % 0x800000 := by
  rw [unpackMantissa, BitVec.toNat_cast, BitVec.extractLsb_toNat]
  rfl

theorem toNat_unpackSign (b : BitVec Format.binary32.numBits) :
    (unpackSign b).toNat = b.toNat / 0x80000000 := by
  have hb : b.toNat < 0x100000000 := b.isLt
  have hbit : (unpackSign b).toNat = b.toNat / 0x80000000 % 2 := by
    refine (BitVec.toNat_cast _ _).trans ?_
    rw [BitVec.extractLsb_toNat, Nat.shiftRight_eq_div_pow]
    rfl
  omega

theorem isNaN_ofBits {bits : UInt32} (h : bits.toNat ≤ 0x7F800000) :
    (Float32.ofBits bits).isNaN = false := by
  have hbits : (Float32.ofBits bits).isNaN = (unpack .binary32 bits.toBitVec).isNaN :=
    isNaN_unpack_pack _
  rw [hbits]
  refine Bool.eq_false_iff.mpr fun hnan => ?_
  obtain ⟨hexponent, hmantissa⟩ := isNaN_unpack.mp hnan
  have hhigh : bits.toNat / 0x800000 % 0x100 = 255 :=
    (toNat_unpackExponent bits.toBitVec).symm.trans (congrArg BitVec.toNat hexponent)
  have hlow : bits.toNat % 0x800000 ≠ 0 := fun hzero =>
    hmantissa (BitVec.eq_of_toNat_eq ((toNat_unpackMantissa bits.toBitVec).trans hzero))
  omega

theorem toNat_of_unpack {b : BitVec Format.binary32.numBits}
    (h : unpack .binary32 b = .infinity .positive) : b.toNat = 0x7F800000 := by
  obtain ⟨hexponent, hmantissa⟩ := isInf_unpack.mp (congrArg UnpackedFloat.isInf h)
  have hunpack : unpack .binary32 b = .infinity (.ofBitVec (unpackSign b)) :=
    (if_pos hexponent).trans (if_pos hmantissa)
  have hsign : unpackSign b = 0#1 := by
    refine by_contra fun hsign => ?_
    have hnegative : UnpackedFloat.Sign.ofBitVec (unpackSign b) = .negative := if_neg hsign
    rw [hunpack, hnegative] at h
    cases h
  have hlow : b.toNat % 0x800000 = 0 :=
    (toNat_unpackMantissa b).symm.trans (congrArg BitVec.toNat hmantissa)
  have hmiddle : b.toNat / 0x800000 % 0x100 = 255 :=
    (toNat_unpackExponent b).symm.trans (congrArg BitVec.toNat hexponent)
  have hhigh : b.toNat / 0x80000000 = 0 := (toNat_unpackSign b).symm.trans (congrArg BitVec.toNat hsign)
  omega

theorem eq_infinity_of_unpack {x : Float32} (h : x.toModel.unpack = .infinity .positive) :
    x = infinity := by
  have hbits : x.toModel.toBits = infinity.toModel.toBits := UInt32.toNat_inj.mp (toNat_of_unpack h)
  obtain ⟨⟨bits, hvalid⟩⟩ := x
  obtain rfl : bits = infinity.toModel.toBits := hbits
  rfl

theorem isNaN_roundWithAccuracy (s : UnpackedFloat.Sign) (m : Nat) (e : Int)
    (a : UnpackedFloat.Accuracy) :
    (UnpackedFloat.roundWithAccuracy .binary32 s m e a).isNaN = false := by
  unfold UnpackedFloat.roundWithAccuracy
  dsimp only
  rw [apply_dite UnpackedFloat.isNaN]
  dsimp only [UnpackedFloat.isNaN]
  rw [dite_eq_ite, ite_self]

theorem isNaN_div_hundred (x : Float32) : (x / 100).isNaN = x.isNaN := by
  have hdiv : (x / 100).isNaN =
      (UnpackedFloat.div .binary32 x.toModel.unpack (100 : Float32).toModel.unpack).isNaN :=
    isNaN_unpack_pack _
  -- The divisor is neither zero nor infinite, so no quotient by it is lost.
  have hhundred : (100 : Float32).toModel.unpack = .finite .positive 13107200 (-17) (by decide) := rfl
  rw [hdiv, hhundred]
  show _ = x.toModel.unpack.isNaN
  cases x.toModel.unpack with
  | finite s m e hm => exact isNaN_roundWithAccuracy _ _ _ _
  | _ => rfl

/-! The order. -/

theorem lt_iff {x y : Float32} : x < y ↔ x.toModel.unpack.compare y.toModel.unpack = some .lt := by
  show decide (x.toModel < y.toModel) = true ↔ _
  rw [decide_eq_true_eq]
  show x.toModel.lt y.toModel = true ↔ _
  exact beq_iff_eq

theorem le_iff {x y : Float32} :
    x ≤ y ↔ ∃ order, x.toModel.unpack.compare y.toModel.unpack = some order ∧ order.isLE = true := by
  show decide (x.toModel ≤ y.toModel) = true ↔ _
  rw [decide_eq_true_eq]
  show (x.toModel.unpack.compare y.toModel.unpack).any _ = true ↔ _
  exact Option.any_eq_true _ _

theorem compare_swap (a b : UnpackedFloat) : b.compare a = (a.compare b).map Ordering.swap := by
  have hsame : ∀ {e e' : Int} {m m' : Nat}, (compare e' e).then (compare m' m) =
      ((compare e e').then (compare m m')).swap := by
    intro e e' m m'
    rw [Ordering.swap_then, Int.compare_swap, Nat.compare_swap]
  cases a with
  | notANumber => cases b <;> rfl
  | infinity s => cases b with
    | infinity t => cases s <;> cases t <;> rfl
    | _ => cases s <;> rfl
  | zero s => cases b with
    | finite t => cases t <;> rfl
    | infinity t => cases t <;> rfl
    | _ => rfl
  | finite s => cases b with
    | finite t =>
      cases s <;> cases t
      · exact congrArg some (congrArg Ordering.swap hsame)
      · rfl
      · rfl
      · exact congrArg some hsame
    | infinity t => cases s <;> cases t <;> rfl
    | _ => cases s <;> rfl

theorem isSome_compare (a b : UnpackedFloat) : (a.compare b).isSome = (!a.isNaN && !b.isNaN) := by
  cases a with
  | notANumber => cases b <;> rfl
  | infinity s => cases b with
    | infinity t => cases s <;> cases t <;> rfl
    | _ => cases s <;> rfl
  | zero s => cases b with
    | finite t => cases t <;> rfl
    | infinity t => cases t <;> rfl
    | _ => rfl
  | finite s => cases b with
    | finite t => cases s <;> cases t <;> rfl
    | infinity t => cases s <;> cases t <;> rfl
    | _ => cases s <;> rfl

theorem le_of_not_lt {x y : Float32} (hx : x.isNaN = false) (hy : y.isNaN = false) (h : ¬x < y) :
    y ≤ x := by
  have hsome : (x.toModel.unpack.compare y.toModel.unpack).isSome = true := by
    have hx : x.toModel.unpack.isNaN = false := hx
    have hy : y.toModel.unpack.isNaN = false := hy
    rw [isSome_compare, hx, hy]
    rfl
  obtain ⟨order, horder⟩ := Option.isSome_iff_exists.mp hsome
  rw [lt_iff, horder] at h
  refine le_iff.mpr ⟨order.swap, ?_, ?_⟩
  · rw [compare_swap, horder]
    rfl
  · cases order with
    | lt => exact absurd rfl h
    | _ => rfl

theorem isNaN_of_compare {x y : Float32} {order : Ordering}
    (h : x.toModel.unpack.compare y.toModel.unpack = some order) :
    x.isNaN = false ∧ y.isNaN = false := by
  have hsome := isSome_compare x.toModel.unpack y.toModel.unpack
  rw [h, eq_comm, Option.isSome_some, Bool.and_eq_true, Bool.not_eq_true', Bool.not_eq_true'] at hsome
  exact hsome

theorem isNaN_of_le {x y : Float32} (h : x ≤ y) : x.isNaN = false ∧ y.isNaN = false := by
  obtain ⟨order, horder, -⟩ := le_iff.mp h
  exact isNaN_of_compare horder

theorem isNaN_of_lt {x y : Float32} (h : x < y) : x.isNaN = false ∧ y.isNaN = false :=
  isNaN_of_compare (lt_iff.mp h)

theorem eq_infinity_of_pos {x : Float32} (hpos : 0 < x) (hx : x.isFinite = false) : x = infinity := by
  have hzero : (0 : Float32).toModel.unpack = .zero .positive := rfl
  rw [lt_iff, hzero] at hpos
  have hx : x.toModel.unpack.isFinite = false := hx
  cases hunpack : x.toModel.unpack with
  | infinity s =>
    cases s with
    | positive => exact eq_infinity_of_unpack hunpack
    | negative =>
      rw [hunpack] at hpos
      cases hpos
  | notANumber =>
    rw [hunpack] at hpos
    cases hpos
  | _ =>
    rw [hunpack] at hx
    cases hx

theorem isFinite_infinity : infinity.isFinite = false := by decide

theorem zero_lt_infinity : 0 < infinity := by decide

/-! Fractions. -/

def IsFraction (p : Float32) : Prop := 0 ≤ p ∧ p ≤ 1

theorem IsFraction.isNaN_eq {p : Float32} (h : IsFraction p) : p.isNaN = false := (isNaN_of_le h.1).2

instance (p : Float32) : Decidable (IsFraction p) := inferInstanceAs (Decidable (_ ∧ _))

theorem isFraction_zero : IsFraction 0 := by decide

theorem isFraction_one : IsFraction 1 := by decide

theorem clampUnit_of_isNaN {x : Float32} (h : x.isNaN = true) : clampUnit x = x := by
  have hlow : ¬x < 0 := fun hlt => Bool.false_ne_true ((isNaN_of_lt hlt).1.symm.trans h)
  have hhigh : ¬1 < x := fun hlt => Bool.false_ne_true ((isNaN_of_lt hlt).2.symm.trans h)
  rw [clampUnit, if_neg hlow]
  exact if_neg hhigh

theorem isFraction_clampUnit {x : Float32} (h : x.isNaN = false) : IsFraction (clampUnit x) := by
  have hone : (1 : Float32).isNaN = false := by decide
  have hzero : (0 : Float32).isNaN = false := by decide
  unfold clampUnit
  dsimp only
  by_cases hlow : x < 0
  · rw [if_pos hlow, if_neg (by decide)]
    exact isFraction_zero
  · rw [if_neg hlow]
    split_ifs with hhigh
    · exact isFraction_one
    · exact ⟨le_of_not_lt h hzero hlow, le_of_not_lt hone h hhigh⟩

theorem isFraction_clampUnit_iff {x : Float32} : IsFraction (clampUnit x) ↔ x.isNaN = false := by
  refine ⟨fun h => ?_, isFraction_clampUnit⟩
  by_contra hnan
  rw [clampUnit_of_isNaN (eq_true_of_ne_false hnan)] at h
  exact hnan h.isNaN_eq

/-! Reading. -/

theorem isNaN_ofQuotient (negative : Bool) (num den : Nat) :
    (ofQuotient negative num den).isNaN = false := by
  have hbits : BinaryFormat.single.roundBits num den ≤ 0x7F800000 := by
    unfold BinaryFormat.roundBits
    split_ifs
    · exact Nat.zero_le _
    · exact Nat.min_le_left _ _
  have hmagnitude : (Float32.ofBits (BinaryFormat.single.roundBits num den).toUInt32).isNaN = false := by
    refine isNaN_ofBits ?_
    rw [Nat.toUInt32_eq, UInt32.toNat_ofNat']
    exact (Nat.mod_le _ _).trans hbits
  unfold ofQuotient
  dsimp only
  split_ifs
  · rw [isNaN_neg]
    exact hmagnitude
  · exact hmagnitude

theorem isNaN_infinity : infinity.isNaN = false ∧ (-infinity).isNaN = false := by decide

theorem isNaN_ofNumeral (n : Numeral) : (ofNumeral n).isNaN = false := by
  unfold ofNumeral
  dsimp only
  split_ifs
  · exact isNaN_ofQuotient _ _ _
  · exact isNaN_infinity.2
  · exact isNaN_infinity.1
  · exact isNaN_ofQuotient _ _ _

def spellsNaN (s : List Char) : Bool := Text.isWord "nan" (Numeral.scanSign s).2

theorem exists_of_spellsNaN {s : List Char} (h : spellsNaN s = true) :
    ∃ c r, (Numeral.scanSign s).2 = c :: r ∧ c.toLower = 'n' := by
  have hfold := Text.fold_eq_of_isWord h
  cases hrest : (Numeral.scanSign s).2 with
  | nil =>
    rw [hrest] at hfold
    cases hfold
  | cons c r =>
    rw [hrest] at hfold
    exact ⟨c, r, rfl, (List.cons.inj hfold).1⟩

theorem toLower_ne_of_isDigit {c : Char} (h : c.isDigit = true) : c.toLower ≠ 'n' := by
  rw [Numeral.toLower_of_isDigit h]
  rintro rfl
  exact absurd h (by decide)

theorem numeral_of_spellsNaN {s : List Char} (h : spellsNaN s = true) : Numeral.ofText? s = none := by
  obtain ⟨c, r, hrest, hletter⟩ := exists_of_spellsNaN h
  have hdigit : c.isDigit = false :=
    Bool.eq_false_iff.mpr fun hc => toLower_ne_of_isDigit hc hletter
  have hpoint : c ≠ '.' := by
    rintro rfl
    exact absurd hletter (by decide)
  have hscan : Numeral.scanDigits (c :: r) = ([], c :: r) := by
    simp [Numeral.scanDigits, hdigit]
  simp [Numeral.ofText?, hrest, hscan, hpoint]

theorem ofText?_of_spellsNaN {s : List Char} (h : spellsNaN s = true) : ofText? s = some nan := by
  have hword : String.ofList ((Numeral.scanSign s).2.map Char.toLower) = "nan" := by
    have hfold : (Numeral.scanSign s).2.map Char.toLower = "nan".toList := Text.fold_eq_of_isWord h
    rw [hfold, String.ofList_toList]
  rw [ofText?, numeral_of_spellsNaN h]
  simp only [ofWord?, hword]
  rfl

theorem isNaN_of_ofText? {s : List Char} {x : Float32} (h : ofText? s = some x) :
    x.isNaN = spellsNaN s := by
  cases hspells : spellsNaN s with
  | true =>
    rw [ofText?_of_spellsNaN hspells] at h
    rw [← Option.some.inj h]
    decide
  | false =>
    rw [ofText?] at h
    cases hnumeral : Numeral.ofText? s with
    | some n =>
      rw [hnumeral] at h
      rw [← Option.some.inj h]
      exact isNaN_ofNumeral n
    | none =>
      rw [hnumeral] at h
      obtain ⟨word, -, hword, ⟨-, rfl⟩ | ⟨hx, -⟩⟩ := exists_of_ofWord? h
      · rw [spellsNaN, hword] at hspells
        cases hspells
      · rcases hx with rfl | rfl
        · exact isNaN_infinity.1
        · exact isNaN_infinity.2

theorem scanSign_fold (s : List Char) :
    Numeral.scanSign (Text.fold s) = ((Numeral.scanSign s).1, Text.fold (Numeral.scanSign s).2) := by
  cases s with
  | nil => rfl
  | cons c s =>
    by_cases hplus : c = '+'
    · subst hplus
      rfl
    by_cases hminus : c = '-'
    · subst hminus
      rfl
    have hplus' : c.toLower ≠ '+' := fun h => hplus ((Text.toLower_eq_iff (by decide)).mp h)
    have hminus' : c.toLower ≠ '-' := fun h => hminus ((Text.toLower_eq_iff (by decide)).mp h)
    simp [Text.fold, Numeral.scanSign, hplus, hminus, hplus', hminus']

theorem spellsNaN_fold (s : List Char) : spellsNaN (Text.fold s) = spellsNaN s := by
  rw [spellsNaN, scanSign_fold, Text.isWord, Text.fold_fold]
  rfl

/-! Writing. -/

theorem text_cases (x : Float32) :
    (x.isNaN = true ∧ text x = "NaN") ∨ (x.isNaN = false ∧
      (text x = "-inf" ∨ text x = "inf" ∨ text x = String.ofList (numeral x).text)) := by
  unfold text
  split_ifs with hnan
  · exact .inl ⟨hnan, rfl⟩
  · exact .inr ⟨Bool.eq_false_iff.mpr hnan, .inl rfl⟩
  · exact .inr ⟨Bool.eq_false_iff.mpr hnan, .inr (.inl rfl)⟩
  · exact .inr ⟨Bool.eq_false_iff.mpr hnan, .inr (.inr rfl)⟩

theorem isNumeralChar_cases {c : Char} (h : Json.isNumeralChar c = true) :
    c.isDigit = true ∨ c ∈ ['-', '+', '.', 'e', 'E'] := by
  simp only [Json.isNumeralChar, Bool.or_eq_true, decide_eq_true_eq] at h
  simp only [List.mem_cons, List.not_mem_nil, or_false]
  tauto

theorem spellsNaN_text (x : Float32) : spellsNaN (text x).toList = x.isNaN := by
  rcases text_cases x with ⟨hnan, htext⟩ | ⟨hnan, htext | htext | htext⟩ <;> rw [hnan, htext]
  · decide
  · decide
  · decide
  -- No character of a plain numeral is the letter that the word begins with.
  · rw [String.toList_ofList]
    refine Bool.eq_false_iff.mpr fun hspells => ?_
    obtain ⟨c, r, hrest, hletter⟩ := exists_of_spellsNaN hspells
    obtain ⟨sign, -, hsign, -⟩ := Numeral.exists_sign (numeral x).text
    have hmem : c ∈ (numeral x).text := by
      rw [hsign, hrest]
      simp
    have hother : ['-', '+', '.', 'e', 'E'].Forall (·.toLower ≠ 'n') := by decide
    rcases isNumeralChar_cases ((plain_numeral x).isNumeralChar hmem) with hdigit | hmem
    · exact toLower_ne_of_isDigit hdigit hletter
    · exact List.forall_iff_forall_mem.mp hother c hmem hletter

theorem words_text (x : Float32) : Text.words (text x).toList = [(text x).toList] := by
  rcases text_cases x with ⟨-, htext⟩ | ⟨-, htext | htext | htext⟩ <;> rw [htext]
  · decide
  · decide
  · decide
  · rw [String.toList_ofList]
    have hother : ['-', '+', '.', 'e', 'E'].Forall (Text.isBlank · = false) := by decide
    obtain ⟨c, cs, hcons, -⟩ := (plain_numeral x).exists_text_eq_cons
    refine Text.words_eq_singleton (by simp [hcons]) fun c hc => ?_
    rcases isNumeralChar_cases ((plain_numeral x).isNumeralChar hc) with hdigit | hmem
    · exact Text.isBlank_of_isDigit hdigit
    · exact List.forall_iff_forall_mem.mp hother c hmem

end Single
end PanelLayout
