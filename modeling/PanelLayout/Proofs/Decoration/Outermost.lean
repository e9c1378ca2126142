import PanelLayout.Proofs.Decoration.Wrapper

/-!
The external slot, which is the seat of the content in the outermost wrapper that records one. A child
is aligned there when it is placed; what an update wraps around it later has a seat of its own.
-/
namespace PanelLayout
open LayoutKind (Operation Step)

inductive Casing where
  | sizeBox
  | background
  deriving DecidableEq

def Casing.isNeeded (style : Style) : Casing → Bool
  | sizeBox => SizeBox.isNeeded style
  | background => Background.isNeeded style

def Casing.outermost? (style : Style) : Option Casing :=
  if SizeBox.isNeeded style then some sizeBox
  else if Background.isNeeded style then some background
  else none

theorem Casing.isNeeded_of_outermost? {style : Style} {c : Casing} (h : outermost? style = some c) :
    c.isNeeded style := by
  unfold outermost? at h
  split_ifs at h with hsize hback
  · obtain rfl := Option.some.inj h
    exact hsize
  · obtain rfl := Option.some.inj h
    exact hback

theorem Casing.outermost?_eq_none {style : Style} :
    outermost? style = none ↔ ∀ c : Casing, ¬c.isNeeded style := by
  refine ⟨fun h c => ?_, fun h => ?_⟩
  · unfold outermost? at h
    split_ifs at h with hsize hback
    cases c with
    | sizeBox => exact hsize
    | background => exact hback
  · exact (if_neg (h .sizeBox)).trans (if_neg (h .background))

namespace Decorated

def seatIn? (d : Decorated) : Casing → Option Seat
  | .sizeBox => d.sizeBox.map SizeBox.content
  | .background => d.background.map Background.content

def HasSeats (d : Decorated) (style : Style) (seat : Casing → Seat) : Prop :=
  ∀ c, d.seatIn? c = if c.isNeeded style then some (seat c) else none

theorem seatIn?_decorate (u : CssUnits) (style : Style) (d : Decorated) (c : Casing) :
    (d.decorate u style).seatIn? c =
      if c.isNeeded style then some ((d.seatIn? c).getD .filling) else d.seatIn? c := by
  cases c with
  | sizeBox => exact SizeBox.kind.map_content_renew u style d.sizeBox
  | background => exact Background.kind.map_content_renew u style d.background

theorem seatIn?_mapExternalSlot_sizeBox (change : Seat → Seat) (d : Decorated) :
    (d.mapExternalSlot change).seatIn? .sizeBox = (d.seatIn? .sizeBox).map change := by
  unfold mapExternalSlot seatIn?
  cases d.sizeBox <;> rfl

theorem seatIn?_mapExternalSlot_background (change : Seat → Seat) (d : Decorated) :
    (d.mapExternalSlot change).seatIn? .background =
      if (d.seatIn? .sizeBox).isSome then d.seatIn? .background
      else (d.seatIn? .background).map change := by
  unfold mapExternalSlot seatIn?
  cases d.sizeBox with
  | some b => rfl
  | none => cases d.background <;> rfl

namespace HasSeats
variable {d : Decorated} {style : Style} {seat : Casing → Seat} (h : d.HasSeats style seat)
include h

theorem externalSlot?_eq : d.externalSlot? = (Casing.outermost? style).map seat := by
  have hslot : d.externalSlot? = (d.seatIn? .sizeBox).or (d.seatIn? .background) := rfl
  rw [hslot, h .sizeBox, h .background]
  unfold Casing.outermost? Casing.isNeeded
  cases SizeBox.isNeeded style <;> cases Background.isNeeded style <;> rfl

theorem mapExternalSlot (change : Seat → Seat) :
    (d.mapExternalSlot change).HasSeats style fun c =>
      if Casing.outermost? style = some c then change (seat c) else seat c := by
  intro c
  cases c with
  | sizeBox =>
    rw [seatIn?_mapExternalSlot_sizeBox, h .sizeBox]
    cases hsize : SizeBox.isNeeded style <;> simp [Casing.isNeeded, Casing.outermost?, hsize]
  | background =>
    rw [seatIn?_mapExternalSlot_background, h .sizeBox, h .background]
    cases hsize : SizeBox.isNeeded style <;> cases hback : Background.isNeeded style <;>
      simp [Casing.isNeeded, Casing.outermost?, hsize, hback]

theorem decorate {changed : Style} (hkeeps : ∀ c : Casing, c.isNeeded style → c.isNeeded changed)
    (hnew : ∀ c : Casing, ¬c.isNeeded style → seat c = .filling) (u : CssUnits) :
    (d.decorate u changed).HasSeats changed seat := by
  intro c
  rw [seatIn?_decorate, h c]
  by_cases hneeded : c.isNeeded style
  · simp [hneeded, hkeeps c hneeded]
  · simp [hneeded, hnew c hneeded]

theorem append {child : WidgetId} (hhas : ¬d.layout.has child) (ctx : Context)
    (childStyle : Style) :
    (d.outcome ⟨ctx, .append child childStyle⟩).container.HasSeats style fun c =>
      if Casing.outermost? style = some c then alignSeat ctx.units childStyle (seat c)
      else seat c := by
  have hplaced : d.follow ctx.units (.append child childStyle) =
      d.mapExternalSlot (alignSeat ctx.units childStyle) := by
    simp only [follow, Operation.placed?, if_neg hhas, alignInWrapper]
  rw [outcome_eq, hplaced]
  exact h.mapExternalSlot _

theorem update {changed : Style} {old : Style}
    (hkeeps : ∀ c : Casing, c.isNeeded style → c.isNeeded (old.merge changed))
    (hnew : ∀ c : Casing, ¬c.isNeeded style → seat c = .filling) (ctx : Context) :
    (d.outcome ⟨ctx, .update old changed⟩).container.HasSeats (old.merge changed) seat := by
  rw [outcome_eq]
  exact h.decorate hkeeps hnew ctx.units

end HasSeats

theorem hasSeats_create {ctx : Context} {tag : String} {widget : WidgetId} {style : Style}
    {d : Decorated} (hd : create ctx tag widget style = .ok d) :
    d.HasSeats style fun _ => .filling := by
  obtain ⟨k, -, rfl⟩ := create_eq_ok_iff.mp hd
  intro c
  rw [seatIn?_decorate]
  cases c <;> rfl

theorem has_create {ctx : Context} {tag : String} {widget : WidgetId} {style : Style} {d : Decorated}
    (hd : create ctx tag widget style = .ok d) (child : WidgetId) : ¬d.layout.has child := by
  obtain ⟨k, -, rfl⟩ := create_eq_ok_iff.mp hd
  cases k <;> exact Bool.false_ne_true

def createFilled (made filled : Context) (tag : String) (widget child : WidgetId)
    (style childStyle : Style) : Except LayoutError Decorated := do
  let d ← create made tag widget style
  let out ← append filled d child childStyle
  return out.container

def createFilledChanged (made filled changed : Context) (tag : String) (widget child : WidgetId)
    (style change childStyle : Style) : Except LayoutError Decorated := do
  let d ← createFilled made filled tag widget child style childStyle
  let out ← update changed d style change
  return out.container

def seatAround (u : CssUnits) (style childStyle : Style) (c : Casing) : Seat :=
  if Casing.outermost? style = some c then alignSeat u childStyle .filling else .filling

theorem HasSeats.externalSlot?_around {d : Decorated} {u : CssUnits} {style style' childStyle : Style}
    (h : d.HasSeats style' (seatAround u style childStyle)) :
    d.externalSlot? = (Casing.outermost? style').map fun _ =>
      if Casing.outermost? style = Casing.outermost? style' then alignSeat u childStyle .filling
      else .filling := by
  rw [h.externalSlot?_eq]
  cases Casing.outermost? style' <;> rfl

theorem exists_createFilled {tag : String} {style : Style} {k : LayoutKind}
    (hk : LayoutKind.ofTag? tag style = some k) (made filled : Context) (widget child : WidgetId)
    (childStyle : Style) :
    ∃ d, createFilled made filled tag widget child style childStyle = .ok d ∧
      d.HasSeats style (seatAround filled.units style childStyle) := by
  obtain ⟨d, hd⟩ : ∃ d, create made tag widget style = .ok d :=
    ⟨_, create_eq_ok_iff.mpr ⟨k, hk, rfl⟩⟩
  have hhas := has_create hd child
  have happend : append filled d child childStyle =
      .ok (d.outcome ⟨filled, .append child childStyle⟩) := by
    refine apply_eq_outcome (s := ⟨filled, .append child childStyle⟩) fun child' style' hop => ?_
    obtain ⟨rfl, -⟩ := Operation.append.inj hop
    exact hhas
  refine ⟨(d.outcome ⟨filled, .append child childStyle⟩).container, ?_,
    (hasSeats_create hd).append hhas filled childStyle⟩
  simp only [createFilled, hd, happend, bind, Except.bind, pure, Except.pure]

theorem exists_createFilledChanged {tag : String} {style change : Style} {k : LayoutKind}
    (hk : LayoutKind.ofTag? tag style = some k)
    (hkeeps : ∀ c : Casing, c.isNeeded style → c.isNeeded (style.merge change))
    (made filled changed : Context) (widget child : WidgetId) (childStyle : Style) :
    ∃ d, createFilledChanged made filled changed tag widget child style change childStyle = .ok d ∧
      d.HasSeats (style.merge change) (seatAround filled.units style childStyle) := by
  obtain ⟨d, hd, hseats⟩ := exists_createFilled hk made filled widget child childStyle
  have hupdate : update changed d style change = .ok (d.outcome ⟨changed, .update style change⟩) :=
    apply_eq_outcome (s := ⟨changed, .update style change⟩) fun _ _ hop => nomatch hop
  have hnew : ∀ c : Casing, ¬c.isNeeded style →
      seatAround filled.units style childStyle c = .filling :=
    fun c hc => if_neg fun houter => hc (Casing.isNeeded_of_outermost? houter)
  refine ⟨(d.outcome ⟨changed, .update style change⟩).container, ?_,
    hseats.update hkeeps hnew changed⟩
  simp only [createFilledChanged, hd, hupdate, bind, Except.bind, pure, Except.pure]

section
variable (made filled changed : Context) (tag : String) (widget child : WidgetId)
  (style change childStyle : Style)

theorem map_externalSlot?_createFilled :
    (createFilled made filled tag widget child style childStyle).map externalSlot? =
      if (LayoutKind.ofTag? tag style).isSome then
        .ok ((Casing.outermost? style).map fun _ => alignSeat filled.units childStyle .filling)
      else .error (.unknownTag tag) := by
  cases hk : LayoutKind.ofTag? tag style with
  | none =>
    simp only [createFilled, create, hk]
    rfl
  | some k =>
    obtain ⟨d, hd, hseats⟩ := exists_createFilled hk made filled widget child childStyle
    simp only [hd, Except.map, hseats.externalSlot?_around, if_true, Option.isSome_some]

theorem map_externalSlot?_createFilledChanged
    (hkeeps : ∀ c : Casing, c.isNeeded style → c.isNeeded (style.merge change)) :
    (createFilledChanged made filled changed tag widget child style change childStyle).map
        externalSlot? =
      if (LayoutKind.ofTag? tag style).isSome then
        .ok ((Casing.outermost? (style.merge change)).map fun _ =>
          if Casing.outermost? style = Casing.outermost? (style.merge change) then
            alignSeat filled.units childStyle .filling
          else .filling)
      else .error (.unknownTag tag) := by
  cases hk : LayoutKind.ofTag? tag style with
  | none =>
    simp only [createFilledChanged, createFilled, create, hk]
    rfl
  | some k =>
    obtain ⟨d, hd, hseats⟩ :=
      exists_createFilledChanged hk hkeeps made filled changed widget child childStyle
    simp only [hd, Except.map, hseats.externalSlot?_around, if_true, Option.isSome_some]

end

/-- A container that is filled with a child and then changed has the external slot of one that is
made with the changed style at once, exactly if the outermost casing has not changed, or the child
leaves the slot as it was. Else a casing has come around the one in which the child is aligned, and
has the seat that its content fills. -/
theorem externalSlot?_createFilledChanged {style change : Style}
    (hkeeps : ∀ c : Casing, c.isNeeded style → c.isNeeded (style.merge change))
    {filled filled' : Context} (hunits : filled'.units = filled.units)
    (made changed made' : Context) (tag : String) (widget child : WidgetId) (childStyle : Style) :
    let merged := style.merge change
    let aligned := alignSeat filled.units childStyle .filling
    let late := (createFilledChanged made filled changed tag widget child style change
      childStyle).map externalSlot?
    let direct := (createFilled made' filled' tag widget child merged childStyle).map externalSlot?
    (late = if (LayoutKind.ofTag? tag style).isSome then
        .ok ((Casing.outermost? merged).map fun _ =>
          if Casing.outermost? style = Casing.outermost? merged then aligned else .filling)
      else .error (.unknownTag tag)) ∧
    (direct = if (LayoutKind.ofTag? tag style).isSome then
        .ok ((Casing.outermost? merged).map fun _ => aligned)
      else .error (.unknownTag tag)) ∧
    (late = direct ↔ LayoutKind.ofTag? tag style = none ∨
      Casing.outermost? style = Casing.outermost? merged ∨ aligned = .filling) := by
  intro merged aligned late direct
  have hlate := map_externalSlot?_createFilledChanged made filled changed tag widget child style
    change childStyle hkeeps
  have hdirect := map_externalSlot?_createFilled made' filled' tag widget child merged childStyle
  rw [← LayoutKind.isSome_ofTag? tag style, hunits] at hdirect
  refine ⟨hlate, hdirect, ?_⟩
  simp only [late, direct, hlate, hdirect, aligned]
  cases hk : LayoutKind.ofTag? tag style with
  | none => simp
  | some k =>
    cases hmerged : Casing.outermost? merged with
    | none =>
      have hnone : Casing.outermost? style = none :=
        Casing.outermost?_eq_none.mpr fun c hc =>
          Casing.outermost?_eq_none.mp hmerged c (hkeeps c hc)
      simp [hnone]
    | some c =>
      by_cases hsame : Casing.outermost? style = some c
      · simp [hsame]
      · simp [hsame, eq_comm]

theorem externalSlot?_createFilledChanged_bordered :
    let sized := Style.empty.set .width (.number 40)
    let bordered := Style.empty.set .border (.text "1px")
    let centred := Style.empty.set .alignSelf (.text "center")
    let ctx := Overlay.unmeasured
    (∀ c : Casing, c.isNeeded sized → c.isNeeded (sized.merge bordered)) ∧
      ctx.units = ctx.units ∧
      (createFilledChanged ctx ctx ctx "div" ⟨1⟩ ⟨2⟩ sized bordered centred).map externalSlot? =
        (createFilled ctx ctx "div" ⟨1⟩ ⟨2⟩ (sized.merge bordered) centred).map externalSlot? := by
  intro sized bordered centred ctx
  have hkeeps : ∀ c : Casing, c.isNeeded sized → c.isNeeded (sized.merge bordered) := by
    intro c _
    cases c <;> rfl
  obtain ⟨-, -, hiff⟩ :=
    externalSlot?_createFilledChanged hkeeps rfl ctx ctx ctx "div" ⟨1⟩ ⟨2⟩ centred
  exact ⟨hkeeps, rfl, hiff.mpr (.inr (.inl rfl))⟩

/-- A size box that comes late has the seat that its content fills, though the child is centred in
one that is there from the start. -/
theorem exists_late_casing_unaligned :
    ∃ (tag : String) (style change childStyle : Style),
      (Background.isNeeded style → Background.isNeeded (style.merge change)) ∧
      (SizeBox.isNeeded style → SizeBox.isNeeded (style.merge change)) ∧
      (ScaleBox.isNeeded style → ScaleBox.isNeeded (style.merge change)) ∧
      ∃ ctx : Context,
        (createFilledChanged ctx ctx ctx tag ⟨1⟩ ⟨2⟩ style change childStyle).map externalSlot? ≠
          (createFilled ctx ctx tag ⟨1⟩ ⟨2⟩ (style.merge change) childStyle).map externalSlot? := by
  refine ⟨"div", .empty, Style.empty.set .width (.number 100),
    Style.empty.set .alignSelf (.text "center"), by decide, by decide, by decide,
    Overlay.unmeasured, fun h => ?_⟩
  have hvertical : Except.ok (some VerticalAlignment.fill) =
      (Except.ok (some VerticalAlignment.center) : Except LayoutError _) :=
    congrArg (Except.map (Option.map Seat.vertical)) h
  cases hvertical

end Decorated

end PanelLayout
