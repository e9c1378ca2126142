import PanelLayout.Grid.Track
import Mathlib.Data.List.Basic
import Mathlib.Order.Lattice.Nat

/-!
The shares of tracks. An automatic track has the share of the nearest track after it that is not
automatic, else of the nearest one before it, and what is given in shares stays as it is.
-/
namespace PanelLayout.Track

def FixedAt (ts : List Track) (i : Nat) : Prop := ∃ t, ts[i]? = some t ∧ t.isAuto = false

def AutoAt (ts : List Track) (i : Nat) : Prop := ∃ t, ts[i]? = some t ∧ t.isAuto = true

/-- Which track counts at a position: the one that stands there, or the one it is borrowed from. -/
inductive TakesFrom (ts : List Track) (i : Nat) : Nat → Prop
  | own (hi : FixedAt ts i) : TakesFrom ts i i
  | ahead (hi : AutoAt ts i) {j : Nat} (hj : IsLeast {k | i < k ∧ FixedAt ts k} j) : TakesFrom ts i j
  | behind (hi : AutoAt ts i) (hahead : ∀ k, i < k → ¬FixedAt ts k) {j : Nat}
      (hj : IsGreatest {k | k < i ∧ FixedAt ts k} j) : TakesFrom ts i j

theorem length_borrowFrom (before : Option Track) (ts : List Track) :
    (borrowFrom before ts).length = ts.length := by
  induction ts generalizing before with
  | nil => rfl
  | cons t ts ih =>
    unfold borrowFrom
    split_ifs
    · exact congrArg Nat.succ (ih before)
    · exact congrArg Nat.succ (ih (some t))

theorem length_fills (ts : List Track) : (fills ts).length = ts.length := by
  unfold fills
  rw [List.length_map, length_borrowFrom]

theorem getElem?_borrowFrom_append (before : Option Track) (front back : List Track) (t : Track) :
    (borrowFrom before (front ++ t :: back))[front.length]? =
      some (if t.isAuto then
        ((back.find? (!·.isAuto)).or ((front.reverse.find? (!·.isAuto)).or before)).getD (fr 1)
      else t) := by
  induction front generalizing before with
  | nil =>
    rw [List.nil_append, borrowFrom]
    split_ifs <;> rfl
  | cons u front ih =>
    rw [List.cons_append, borrowFrom, List.reverse_cons, List.find?_append]
    by_cases hu : u.isAuto
    · rw [if_pos hu, List.length_cons, List.getElem?_cons_succ, ih]
      simp [hu]
    · rw [if_neg hu, List.length_cons, List.getElem?_cons_succ, ih]
      simp [hu]

theorem getElem?_borrowFrom {ts : List Track} {i : Nat} {t : Track} (h : ts[i]? = some t) :
    (borrowFrom none ts)[i]? =
      some (if t.isAuto then
        (((ts.drop (i + 1)).find? (!·.isAuto)).or
          ((ts.take i).reverse.find? (!·.isAuto))).getD (fr 1)
      else t) := by
  obtain ⟨hi, rfl⟩ := List.getElem?_eq_some_iff.mp h
  have hsplit : ts = ts.take i ++ ts[i] :: ts.drop (i + 1) := by
    rw [← List.drop_eq_getElem_cons hi, List.take_append_drop]
  have hborrow := getElem?_borrowFrom_append none (ts.take i) (ts.drop (i + 1)) ts[i]
  rw [← hsplit, List.length_take_of_le hi.le, Option.or_none] at hborrow
  exact hborrow

theorem find?_drop_of_isLeast {ts : List Track} {i j : Nat}
    (h : IsLeast {k | i < k ∧ FixedAt ts k} j) : (ts.drop (i + 1)).find? (!·.isAuto) = ts[j]? := by
  obtain ⟨⟨hij, u, hu, hfixed⟩, hleast⟩ := h
  obtain ⟨hj, rfl⟩ := List.getElem?_eq_some_iff.mp hu
  have hindex : i + 1 + (j - (i + 1)) = j := by omega
  refine hu ▸ List.find?_eq_some_iff_getElem.mpr ⟨by simp [hfixed], j - (i + 1), ?_, ?_, ?_⟩
  · rw [List.length_drop]
    omega
  · simp [hindex]
  · intro k hk
    rw [Bool.not_not, List.getElem_drop]
    refine Bool.eq_true_of_not_eq_false fun hne => ?_
    have hle : j ≤ i + 1 + k := hleast ⟨by omega, _, List.getElem?_eq_getElem (by omega), hne⟩
    omega

theorem find?_reverse_take_of_isGreatest {ts : List Track} {i j : Nat} (hi : i < ts.length)
    (h : IsGreatest {k | k < i ∧ FixedAt ts k} j) :
    (ts.take i).reverse.find? (!·.isAuto) = ts[j]? := by
  obtain ⟨⟨hji, u, hu, hfixed⟩, hgreatest⟩ := h
  obtain ⟨hj, rfl⟩ := List.getElem?_eq_some_iff.mp hu
  have hlength : (ts.take i).length = i := List.length_take_of_le hi.le
  have hindex : i - 1 - (i - 1 - j) = j := by omega
  refine hu ▸ List.find?_eq_some_iff_getElem.mpr ⟨by simp [hfixed], i - 1 - j, ?_, ?_, ?_⟩
  · rw [List.length_reverse, hlength]
    omega
  · simp [List.getElem_reverse, hlength, hindex]
  · intro k hk
    rw [Bool.not_not, List.getElem_reverse, List.getElem_take]
    refine Bool.eq_true_of_not_eq_false fun hne => ?_
    have hle := hgreatest ⟨by omega, _, List.getElem?_eq_getElem (by omega), hne⟩
    omega

theorem TakesFrom.getElem?_borrowFrom {ts : List Track} {i j : Nat} (h : TakesFrom ts i j) :
    (borrowFrom none ts)[i]? = ts[j]? := by
  cases h with
  | own hi =>
    obtain ⟨t, ht, hfixed⟩ := hi
    rw [Track.getElem?_borrowFrom ht, hfixed, ht]
    rfl
  | ahead hi hj =>
    obtain ⟨t, ht, hauto⟩ := hi
    obtain ⟨-, u, hu, -⟩ := hj.1
    rw [Track.getElem?_borrowFrom ht, if_pos hauto, find?_drop_of_isLeast hj, hu]
    rfl
  | behind hi hahead hj =>
    obtain ⟨t, ht, hauto⟩ := hi
    obtain ⟨hlt, -⟩ := List.getElem?_eq_some_iff.mp ht
    obtain ⟨-, u, hu, -⟩ := hj.1
    have hnone : (ts.drop (i + 1)).find? (!·.isAuto) = none := by
      refine List.find?_eq_none.mpr fun v hv hne => ?_
      obtain ⟨k, hk, rfl⟩ := List.getElem_of_mem hv
      rw [List.getElem_drop] at hne
      rw [List.length_drop] at hk
      exact hahead (i + 1 + k) (by omega) ⟨_, List.getElem?_eq_getElem (by omega), by simpa using hne⟩
    rw [Track.getElem?_borrowFrom ht, if_pos hauto, hnone, find?_reverse_take_of_isGreatest hlt hj, hu]
    rfl

theorem exists_takesFrom {ts : List Track} (hfixed : ∃ k, FixedAt ts k) {i : Nat}
    (hi : i < ts.length) : ∃ j, TakesFrom ts i j := by
  have hget : ts[i]? = some ts[i] := List.getElem?_eq_getElem hi
  cases hkind : ts[i].isAuto with
  | false => exact ⟨i, .own ⟨_, hget, hkind⟩⟩
  | true =>
    have hauto : AutoAt ts i := ⟨_, hget, hkind⟩
    by_cases hahead : ∃ k, i < k ∧ FixedAt ts k
    · exact ⟨_, .ahead hauto (isLeast_csInf hahead)⟩
    · have hnone : ∀ k, i < k → ¬FixedAt ts k := fun k hk hk' => hahead ⟨k, hk, hk'⟩
      obtain ⟨k, hk⟩ := hfixed
      have hne : k ≠ i := by
        rintro rfl
        obtain ⟨t, ht, hfalse⟩ := hk
        rw [hget] at ht
        cases ht
        exact Bool.false_ne_true (hfalse.symm.trans hkind)
      have hlt : k < i := by
        have hle : ¬i < k := fun hik => hnone k hik hk
        omega
      have hbounded : BddAbove {k | k < i ∧ FixedAt ts k} := ⟨i, fun _ hk => hk.1.le⟩
      exact ⟨_, .behind hauto hnone
        ⟨Nat.sSup_mem ⟨k, hlt, hk⟩ hbounded, fun _ hk => le_csSup hbounded hk⟩⟩

structure Borrowed (ts bs : List Track) : Prop where
  length_eq : bs.length = ts.length
  getElem?_eq : ∀ i j, TakesFrom ts i j → bs[i]? = ts[j]?

theorem borrowed_borrowFrom (ts : List Track) : Borrowed ts (borrowFrom none ts) :=
  ⟨length_borrowFrom none ts, fun _ _ h => h.getElem?_borrowFrom⟩

theorem Borrowed.unique {ts bs bs' : List Track} (h : Borrowed ts bs) (h' : Borrowed ts bs')
    (hfixed : ∃ k, FixedAt ts k) : bs = bs' := by
  refine List.ext_getElem? fun i => ?_
  by_cases hi : i < ts.length
  · obtain ⟨j, hj⟩ := exists_takesFrom hfixed hi
    rw [h.getElem?_eq i j hj, h'.getElem?_eq i j hj]
  · rw [List.getElem?_eq_none (by rw [h.length_eq]; omega),
      List.getElem?_eq_none (by rw [h'.length_eq]; omega)]

theorem TakesFrom.fixedAt {ts : List Track} {i j : Nat} (h : TakesFrom ts i j) : FixedAt ts j := by
  cases h with
  | own hi => exact hi
  | ahead _ hj => exact hj.1.2
  | behind _ _ hj => exact hj.1.2

theorem exists_mem_of_mem_borrowFrom {ts : List Track} (hfixed : ∃ k, FixedAt ts k) {b : Track}
    (hb : b ∈ borrowFrom none ts) : b ∈ ts ∧ b.isAuto = false := by
  obtain ⟨i, hi, rfl⟩ := List.getElem_of_mem hb
  obtain ⟨j, hj⟩ := exists_takesFrom hfixed (length_borrowFrom none ts ▸ hi)
  obtain ⟨t, ht, hauto⟩ := hj.fixedAt
  have hget := hj.getElem?_borrowFrom
  rw [List.getElem?_eq_getElem hi, ht] at hget
  rw [Option.some.inj hget]
  exact ⟨List.mem_of_getElem? ht, hauto⟩

theorem borrowFrom_of_all_auto {ts : List Track} (h : ∀ t ∈ ts, t.isAuto = true) :
    ∀ b ∈ borrowFrom none ts, b = fr 1 := by
  intro b hb
  obtain ⟨i, hi, rfl⟩ := List.getElem_of_mem hb
  rw [length_borrowFrom] at hi
  have hnone : ∀ us : List Track, (∀ u ∈ us, u ∈ ts) → us.find? (!·.isAuto) = none := by
    intro us hus
    exact List.find?_eq_none.mpr fun u hu => by simp [h u (hus u hu)]
  have hget := getElem?_borrowFrom (List.getElem?_eq_getElem hi)
  rw [if_pos (h _ (List.getElem_mem hi)), hnone _ fun u => List.mem_of_mem_drop,
    hnone _ fun u hu => List.mem_of_mem_take (List.mem_reverse.mp hu)] at hget
  exact (List.getElem?_eq_some_iff.mp hget).2

/-! The share of one track. -/

theorem hasKind_of_mem {kind : TrackKind} {t : Track} {ts : List Track} (ht : t ∈ ts)
    (hkind : t.kind = kind) : hasKind kind ts = true :=
  List.any_eq_true.mpr ⟨t, ht, decide_eq_true hkind⟩

theorem hasKind_eq_false {kind : TrackKind} {ts : List Track} :
    hasKind kind ts = false ↔ ∀ t ∈ ts, t.kind ≠ kind := by
  simp [hasKind]

theorem fill_of_fr {bs : List Track} {t : Track} (ht : t ∈ bs) (hkind : t.kind = .fr)
    (pixels : Option Float32) (count : Nat) : fill (total? .fr bs) pixels count t = t.value := by
  rw [total?, if_pos (hasKind_of_mem ht hkind)]
  cases pixels with
  | none => rfl
  | some pixels => simp only [fill, hkind]

theorem fill_of_not_pos {pixels : Float32} (h : ¬0 < pixels) (count : Nat) (t : Track) :
    fill none (some pixels) count t = 1 :=
  if_neg h

theorem total?_of_all {kind : TrackKind} {bs : List Track} (hne : bs ≠ [])
    (h : ∀ b ∈ bs, b.kind = kind) : total? kind bs = some (Single.sum (bs.map value)) := by
  obtain ⟨b, bs', rfl⟩ := List.exists_cons_of_ne_nil hne
  rw [total?, if_pos (hasKind_of_mem List.mem_cons_self (h b List.mem_cons_self)),
    List.filter_eq_self.mpr fun b hb => decide_eq_true (h b hb)]

theorem getElem?_fills (ts : List Track) (i : Nat) :
    (fills ts)[i]? = (borrowFrom none ts)[i]?.map
      (fill (total? .fr (borrowFrom none ts)) (total? .px (borrowFrom none ts))
        (borrowFrom none ts).length) :=
  List.getElem?_map

theorem fill_borrowed_of_not_pos {ts bs : List Track} (hpx : hasKind .px ts = true)
    (hfr : hasKind .fr ts = false) (hbs : Borrowed ts bs) (hsum : ¬0 < Single.sum (bs.map value)) :
    ∀ x ∈ fills ts, x = 1 := by
  obtain ⟨p, hp, hpkind⟩ := List.any_eq_true.mp hpx
  obtain ⟨k, hk⟩ := List.getElem?_of_mem hp
  have hpauto : p.isAuto = false := by simp [isAuto, of_decide_eq_true hpkind]
  have hfixed : ∃ k, FixedAt ts k := ⟨k, p, hk, hpauto⟩
  obtain rfl := hbs.unique (borrowed_borrowFrom ts) hfixed
  have hkind : ∀ b ∈ borrowFrom none ts, b.kind = .px := by
    intro b hb
    obtain ⟨hmem, hauto⟩ := exists_mem_of_mem_borrowFrom hfixed hb
    have hne := hasKind_eq_false.mp hfr b hmem
    cases hkind : b.kind with
    | fr => exact absurd hkind hne
    | px => rfl
    | auto => simp [isAuto, hkind] at hauto
  have hne : borrowFrom none ts ≠ [] := by
    refine List.ne_nil_of_length_pos ?_
    rw [length_borrowFrom]
    exact List.length_pos_of_mem hp
  have hshares : total? .fr (borrowFrom none ts) = none :=
    if_neg (Bool.eq_false_iff.mp (hasKind_eq_false.mpr fun b hb => by simp [hkind b hb]))
  intro x hx
  obtain ⟨b, -, rfl⟩ := List.mem_map.mp hx
  rw [hshares, total?_of_all hne hkind, fill_of_not_pos hsum]

/-- There is one share for each track. An automatic track has the one of the nearest track after it
that is not automatic, else of the nearest before it, or one share when there are only automatic tracks;
what is given in shares keeps its value; and tracks in pixels without a positive sum share equally. -/
theorem fills_borrow (ts : List Track) :
    (fills ts).length = ts.length ∧
    (∀ i j, TakesFrom ts i j → (fills ts)[i]? = (fills ts)[j]?) ∧
    ((∀ t ∈ ts, t.isAuto = true) → ∀ x ∈ fills ts, x = 1) ∧
    (∀ (i : Nat) (t : Track), ts[i]? = some t → t.kind = .fr → (fills ts)[i]? = some t.value) ∧
    (hasKind .px ts = true → hasKind .fr ts = false → ∀ bs, Borrowed ts bs →
      ¬0 < Single.sum (bs.map value) → ∀ x ∈ fills ts, x = 1) := by
  refine ⟨length_fills ts, ?_, ?_, ?_, fun hpx hfr _ => fill_borrowed_of_not_pos hpx hfr⟩
  · intro i j h
    have hown : TakesFrom ts j j := .own h.fixedAt
    rw [getElem?_fills, getElem?_fills, h.getElem?_borrowFrom, hown.getElem?_borrowFrom]
  · intro hauto x hx
    obtain ⟨b, hb, rfl⟩ := List.mem_map.mp hx
    have hb' := borrowFrom_of_all_auto hauto b hb
    rw [fill_of_fr hb (by rw [hb']; rfl), hb']
    rfl
  · intro i t ht hkind
    have hown : TakesFrom ts i i := .own ⟨t, ht, by simp [isAuto, hkind]⟩
    have hget : (borrowFrom none ts)[i]? = some t := hown.getElem?_borrowFrom.trans ht
    rw [getElem?_fills, hget, Option.map_some, fill_of_fr (List.mem_of_getElem? hget) hkind]

theorem fills_borrow_zero_pixels :
    TakesFrom [auto, fr 2, auto] 0 1 ∧ TakesFrom [auto, fr 2, auto] 2 1 ∧
      (fills [auto, fr 2, auto])[0]? = some 2 ∧ (fills [auto, fr 2, auto])[2]? = some 2 ∧
      (∀ x ∈ fills [auto, auto], x = 1) ∧
      Borrowed [auto, px 0] [px 0, px 0] ∧ ¬0 < Single.sum ([px 0, px 0].map value) ∧
      ∀ x ∈ fills [auto, px 0], x = 1 := by
  obtain ⟨-, htakes, -, hfr, -⟩ := fills_borrow [auto, fr 2, auto]
  obtain ⟨-, -, hauto, -, -⟩ := fills_borrow [auto, auto]
  obtain ⟨-, -, -, -, hpixels⟩ := fills_borrow [auto, px 0]
  have hahead : TakesFrom [auto, fr 2, auto] 0 1 :=
    .ahead ⟨auto, rfl, rfl⟩ ⟨⟨Nat.one_pos, fr 2, rfl, rfl⟩, fun _ hk => hk.1⟩
  have hnone : ∀ k, 2 < k → ¬FixedAt [auto, fr 2, auto] k := by
    rintro k hk ⟨t, ht, -⟩
    exact absurd (List.getElem?_eq_some_iff.mp ht).1 (Nat.not_lt.mpr hk)
  have hbehind : TakesFrom [auto, fr 2, auto] 2 1 :=
    .behind ⟨auto, rfl, rfl⟩ hnone
      ⟨⟨Nat.one_lt_two, fr 2, rfl, rfl⟩, fun _ hk => Nat.le_of_lt_succ hk.1⟩
  have hown : (fills [auto, fr 2, auto])[1]? = some 2 := hfr 1 (fr 2) rfl rfl
  have hborrowed : Borrowed [auto, px 0] [px 0, px 0] := borrowed_borrowFrom [auto, px 0]
  have hsum : ¬0 < Single.sum ([px 0, px 0].map value) := by decide +kernel
  exact ⟨hahead, hbehind, (htakes 0 1 hahead).trans hown, (htakes 2 1 hbehind).trans hown,
    hauto (by decide), hborrowed, hsum, hpixels rfl rfl _ hborrowed hsum⟩

example : fills [auto, fr 2, auto, auto, px 3, auto] = [2, 2, 1, 1, 1, 1] := by decide +kernel

end PanelLayout.Track
