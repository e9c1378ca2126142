import PanelLayout.Proofs.Decoration.Run

/-!
What the wrappers of a decorated container have in common. A wrapper is configured by a style alone,
around a seat of its content that no configuration touches; only a child that is placed changes that
seat, and only in the outermost wrapper.
-/
namespace PanelLayout
open LayoutKind (Operation Step)

structure WrapperKind (α : Type) where
  isNeeded : Style → Bool
  initial : α
  configure : CssUnits → Style → α → α
  reset : α → α
  content : α → Seat
  withContent : Seat → α → α
  content_initial : content initial = .filling
  configure_eq : ∀ u style w,
    configure u style w = withContent (content w) (configure u style initial)
  reset_eq : ∀ w, reset w = withContent (content w) initial
  content_withContent : ∀ seat w, content (withContent seat w) = seat
  withContent_withContent : ∀ seat seat' w,
    withContent seat (withContent seat' w) = withContent seat w

def Background.kind : WrapperKind Background where
  isNeeded := isNeeded
  initial := initial
  configure := configure
  reset := reset
  content := content
  withContent seat b := { b with content := seat }
  content_initial := rfl
  configure_eq _ _ _ := rfl
  reset_eq _ := rfl
  content_withContent _ _ := rfl
  withContent_withContent _ _ _ := rfl

def SizeBox.kind : WrapperKind SizeBox where
  isNeeded := isNeeded
  initial := initial
  configure := configure
  reset := reset
  content := content
  withContent seat b := { b with content := seat }
  content_initial := rfl
  configure_eq _ _ _ := rfl
  reset_eq _ := rfl
  content_withContent _ _ := rfl
  withContent_withContent _ _ _ := rfl

def ScaleBox.kind : WrapperKind ScaleBox where
  isNeeded := isNeeded
  initial := initial
  configure _ := configure
  reset := reset
  content := content
  withContent seat b := { b with content := seat }
  content_initial := rfl
  configure_eq _ _ _ := rfl
  reset_eq _ := rfl
  content_withContent _ _ := rfl
  withContent_withContent _ _ _ := rfl

namespace WrapperKind
variable {α : Type} (k : WrapperKind α)

def renew (u : CssUnits) (style : Style) (w : Option α) : Option α :=
  renewWrapper (k.isNeeded style) k.initial (k.configure u style) k.reset w

def fresh (u : CssUnits) (style : Style) : α :=
  if k.isNeeded style then k.configure u style k.initial else k.initial

def bare (w : α) : α := k.withContent .filling w

def mapContent (f : Seat → Seat) (w : α) : α := k.withContent (f (k.content w)) w

theorem content_configure (u : CssUnits) (style : Style) (w : α) :
    k.content (k.configure u style w) = k.content w := by
  rw [k.configure_eq, k.content_withContent]

theorem content_reset (w : α) : k.content (k.reset w) = k.content w := by
  rw [k.reset_eq, k.content_withContent]

theorem content_mapContent (f : Seat → Seat) (w : α) :
    k.content (k.mapContent f w) = f (k.content w) := k.content_withContent _ w

theorem bare_withContent (seat : Seat) (w : α) : k.bare (k.withContent seat w) = k.bare w :=
  k.withContent_withContent _ _ w

theorem bare_mapContent (f : Seat → Seat) (w : α) : k.bare (k.mapContent f w) = k.bare w :=
  k.bare_withContent _ w

theorem isSome_renew (u : CssUnits) (style : Style) (w : Option α) :
    (k.renew u style w).isSome ↔ w.isSome ∨ k.isNeeded style := by
  unfold renew renewWrapper
  cases hneeded : k.isNeeded style <;> simp

theorem eq_of_mem_renew {u : CssUnits} {style : Style} {w : Option α} {x : α}
    (hx : x ∈ k.renew u style w) : x = k.withContent (k.content x) (k.fresh u style) := by
  unfold renew renewWrapper at hx
  unfold fresh
  split_ifs at hx ⊢ with hneeded
  · obtain rfl := Option.mem_some.mp hx
    rw [k.content_configure]
    exact k.configure_eq u style _
  · obtain ⟨y, -, rfl⟩ := Option.map_eq_some_iff.mp hx
    rw [k.content_reset]
    exact k.reset_eq y

theorem content_of_mem_renew {u : CssUnits} {style : Style} {w : Option α}
    (h : ∀ y ∈ w, k.content y = .filling) {x : α} (hx : x ∈ k.renew u style w) :
    k.content x = .filling := by
  unfold renew renewWrapper at hx
  split_ifs at hx
  · obtain rfl := Option.mem_some.mp hx
    rw [k.content_configure]
    cases w with
    | none => exact k.content_initial
    | some y => exact h y rfl
  · obtain ⟨y, hy, rfl⟩ := Option.map_eq_some_iff.mp hx
    rw [k.content_reset]
    exact h y hy

theorem map_content_renew (u : CssUnits) (style : Style) (w : Option α) :
    (k.renew u style w).map k.content =
      if k.isNeeded style then some ((w.map k.content).getD .filling) else w.map k.content := by
  unfold renew renewWrapper
  split_ifs
  · cases w with
    | none => simp [k.content_configure, k.content_initial]
    | some x => simp [k.content_configure]
  · rw [Option.map_map]
    exact congrArg (fun f => w.map f) (funext k.content_reset)

theorem map_bare_renew (u : CssUnits) (style : Style) (w : Option α) :
    (k.renew u style w).map k.bare =
      if k.isNeeded style then some (k.bare (k.configure u style k.initial))
      else w.map fun _ => k.bare k.initial := by
  have hconfigure : ∀ x, k.bare (k.configure u style x) = k.bare (k.configure u style k.initial) := by
    intro x
    rw [k.configure_eq, k.bare_withContent]
  have hreset : ∀ x, k.bare (k.reset x) = k.bare k.initial := by
    intro x
    rw [k.reset_eq, k.bare_withContent]
  unfold renew renewWrapper
  split_ifs
  · exact congrArg some (hconfigure _)
  · rw [Option.map_map]
    exact congrArg (fun f => w.map f) (funext hreset)

/-- Decorated containers have their wrapper of a kind at `get`. Children are aligned in it only where
it is the `outermost` one. -/
structure Worn (get : Decorated → Option α) (outermost : Decorated → Prop) : Prop where
  undecorated : ∀ layout, get ⟨layout, none, none, none⟩ = none
  with_layout : ∀ d layout, get { d with layout } = get d
  decorate : ∀ u style d, get (d.decorate u style) = k.renew u style (get d)
  align : ∀ f d, get (d.mapExternalSlot f) = get d ∨
    outermost d ∧ get (d.mapExternalSlot f) = (get d).map (k.mapContent f)

end WrapperKind

theorem Background.worn : kind.Worn Decorated.background fun d => d.sizeBox = none where
  undecorated _ := rfl
  with_layout _ _ := rfl
  decorate _ _ _ := rfl
  align f d := by
    unfold Decorated.mapExternalSlot
    cases d.sizeBox with
    | none => exact .inr ⟨rfl, rfl⟩
    | some b => exact .inl rfl

theorem SizeBox.worn : kind.Worn Decorated.sizeBox fun _ => True where
  undecorated _ := rfl
  with_layout _ _ := rfl
  decorate _ _ _ := rfl
  align f d := by
    unfold Decorated.mapExternalSlot
    cases d.sizeBox <;> exact .inr ⟨trivial, rfl⟩

theorem ScaleBox.worn : kind.Worn Decorated.scaleBox fun _ => False where
  undecorated _ := rfl
  with_layout _ _ := rfl
  decorate _ _ _ := rfl
  align f d := by
    unfold Decorated.mapExternalSlot
    cases d.sizeBox <;> exact .inl rfl

namespace WrapperKind.Worn
variable {α : Type} {k : WrapperKind α} {get : Decorated → Option α} {outermost : Decorated → Prop}
  (hw : k.Worn get outermost)
include hw

theorem create_eq {ctx : Context} {tag : String} {widget : WidgetId} {style : Style} {d : Decorated}
    (hd : Decorated.create ctx tag widget style = .ok d) : get d = k.renew ctx.units style none := by
  obtain ⟨kind, -, rfl⟩ := Decorated.create_eq_ok_iff.mp hd
  rw [hw.decorate, hw.undecorated]

theorem outcome_eq (d : Decorated) (s : Step) :
    get (d.outcome s).container = get (d.follow s.context.units s.operation) := by
  rw [d.outcome_eq]
  exact hw.with_layout _ _

theorem follow_cases (u : CssUnits) (d : Decorated) {op : Operation}
    (hop : d.follow u op = match op.placed? d.layout with
      | some style => d.alignInWrapper u style
      | none => d) :
    get (d.follow u op) = get d ∨
      outermost d ∧ ∃ placed, op.placed? d.layout = some placed ∧
        get (d.follow u op) = (get d).map (k.mapContent (Decorated.alignSeat u placed)) := by
  rw [hop]
  cases op.placed? d.layout with
  | none => exact .inl rfl
  | some placed =>
    rcases hw.align (Decorated.alignSeat u placed) d with hsame | ⟨houter, hget⟩
    · exact .inl hsame
    · exact .inr ⟨houter, placed, rfl, hget⟩

/-- All that an operation does to a wrapper: an update renews it, and an operation on children leaves
it, but for the seat of its content. -/
theorem step_cases (d : Decorated) (s : Step) :
    (∃ old changed, s.operation = .update old changed ∧
      get (d.outcome s).container = k.renew s.context.units (old.merge changed) (get d)) ∨
    (∀ old changed, s.operation ≠ .update old changed) ∧
      (get (d.outcome s).container = get d ∨
        outermost d ∧ ∃ placed, s.operation.placed? d.layout = some placed ∧
          get (d.outcome s).container =
            (get d).map (k.mapContent (Decorated.alignSeat s.context.units placed))) := by
  rw [hw.outcome_eq]
  cases hop : s.operation with
  | update old changed => exact .inl ⟨old, changed, rfl, hw.decorate _ _ d⟩
  | append child style => exact .inr ⟨fun _ _ => nofun, hw.follow_cases _ d rfl⟩
  | updateChild child changed => exact .inr ⟨fun _ _ => nofun, hw.follow_cases _ d rfl⟩
  | remove child => exact .inr ⟨fun _ _ => nofun, .inl rfl⟩
  | resume ticket => exact .inr ⟨fun _ _ => nofun, .inl rfl⟩

end WrapperKind.Worn

end PanelLayout
