import PanelLayout.Proofs.Container.Outcome

/-!
Refusals. An operation is refused exactly if it is misused: its container is of another kind than
the layout that carries it out, or it appends a child that is there already. A refused operation
has changed neither the container nor the queue, and neither a wrapper around the container.
-/
namespace PanelLayout

namespace Layout
variable {l : Layout}

theorem flex?_eq_error (h : l.kind ≠ .flex) : l.flex? = .error (.stateMismatch .flex l.kind) := by
  cases l with
  | flex f => exact absurd rfl h
  | _ => rfl

theorem grid?_eq_error (h : l.kind ≠ .grid) : l.grid? = .error (.stateMismatch .grid l.kind) := by
  cases l with
  | grid g => exact absurd rfl h
  | _ => rfl

theorem canvas?_eq_error (h : l.kind ≠ .canvas) :
    l.canvas? = .error (.stateMismatch .canvas l.kind) := by
  cases l with
  | canvas c => exact absurd rfl h
  | _ => rfl

theorem overlay?_eq_error (h : l.kind ≠ .overlay) :
    l.overlay? = .error (.stateMismatch .overlay l.kind) := by
  cases l with
  | overlay o => exact absurd rfl h
  | _ => rfl

theorem uniformGrid?_eq_error (h : l.kind ≠ .uniformGrid) :
    l.uniformGrid? = .error (.stateMismatch .uniformGrid l.kind) := by
  cases l with
  | uniformGrid => exact absurd rfl h
  | _ => rfl

end Layout

namespace LayoutKind

/-- What an operation is refused for. A grid looks at the child before the kind of the container. -/
inductive Misuse (k : LayoutKind) (c : Container) : Operation → LayoutError → Prop
  | otherKind {op : Operation} (hkind : c.kind ≠ k) (hchild : ¬(k = .grid ∧ op.Repeats c)) :
    Misuse k c op (.stateMismatch k c.kind)
  | present {child : WidgetId} (style : Style) (hchild : c.has child)
    (hkind : c.kind = k ∨ k = .grid) : Misuse k c (.append child style) (.duplicateChild child)

theorem exists_misuse_iff {k : LayoutKind} {c : Container} {op : Operation} :
    (∃ e, Misuse k c op e) ↔ c.kind ≠ k ∨ op.Repeats c := by
  constructor
  · rintro ⟨e, hkind | ⟨style, hchild, _⟩⟩
    · exact .inl hkind
    · exact .inr ⟨_, style, rfl, hchild⟩
  · intro h
    -- A present child is the reason where it is looked at, else it is the kind.
    by_cases hrepeats : op.Repeats c ∧ (c.kind = k ∨ k = .grid)
    · obtain ⟨⟨child, style, rfl, hchild⟩, hkind⟩ := hrepeats
      exact ⟨_, .present style hchild hkind⟩
    · have hkind : c.kind ≠ k := by
        intro hk
        exact h.elim (fun hne => hne hk) fun hr => hrepeats ⟨hr, .inl hk⟩
      exact ⟨_, .otherKind hkind fun hgrid => hrepeats ⟨hgrid.2, .inr hgrid.1⟩⟩

section OtherKind
variable {k : LayoutKind} {c : Container} (hk : c.kind ≠ k)
include hk

theorem update_of_kind_ne (ctx : Context) (old changed : Style) :
    k.update ctx c old changed = .error (.stateMismatch k c.kind) := by
  cases k with
  | flex =>
    rw [update, Flex.update, Layout.flex?_eq_error hk]
    rfl
  | grid =>
    rw [update, Grid.update, Layout.grid?_eq_error hk]
    rfl
  | canvas =>
    rw [update, Canvas.update, Layout.canvas?_eq_error hk]
    rfl
  | overlay =>
    rw [update, Overlay.update, Overlay.Board.ofContainer?, Layout.overlay?_eq_error hk]
    rfl
  | uniformGrid =>
    rw [update, UniformGrid.update, Layout.uniformGrid?_eq_error hk]
    rfl

theorem updateChild_of_kind_ne (ctx : Context) (child : WidgetId) (changed : Style) :
    k.updateChild ctx c child changed = .error (.stateMismatch k c.kind) := by
  cases k with
  | flex =>
    rw [updateChild, Flex.updateChild, Layout.flex?_eq_error hk]
    rfl
  | grid =>
    rw [updateChild, Grid.updateChild, Layout.grid?_eq_error hk]
    rfl
  | canvas =>
    rw [updateChild, Canvas.updateChild, Layout.canvas?_eq_error hk]
    rfl
  | overlay =>
    rw [updateChild, Overlay.updateChild, Overlay.Board.ofContainer?, Layout.overlay?_eq_error hk]
    rfl
  | uniformGrid =>
    rw [updateChild, UniformGrid.updateChild, Layout.uniformGrid?_eq_error hk]
    rfl

theorem append_of_kind_ne (ctx : Context) {child : WidgetId} (style : Style)
    (hchild : ¬(k = .grid ∧ c.has child)) :
    k.append ctx c child style = .error (.stateMismatch k c.kind) := by
  cases k with
  | flex =>
    rw [append, Flex.append, Layout.flex?_eq_error hk]
    rfl
  | grid =>
    rw [append, Grid.append, if_neg fun hhas => hchild ⟨rfl, hhas⟩, Layout.grid?_eq_error hk]
    rfl
  | canvas =>
    rw [append, Canvas.append, Layout.canvas?_eq_error hk]
    rfl
  | overlay =>
    rw [append, Overlay.append, Overlay.Board.ofContainer?, Layout.overlay?_eq_error hk]
    rfl
  | uniformGrid =>
    rw [append, UniformGrid.append, Layout.uniformGrid?_eq_error hk]
    rfl

theorem remove_of_kind_ne (child : WidgetId) :
    k.remove c child = .error (.stateMismatch k c.kind) := by
  cases k with
  | overlay =>
    rw [remove, Overlay.remove, Overlay.Board.ofContainer?, Layout.overlay?_eq_error hk]
    rfl
  | _ => exact congrArg (Except.map _) (if_neg hk)

theorem resume_of_kind_ne (ctx : Context) (ticket : Ticket) :
    k.resume ctx c ticket = .error (.stateMismatch k c.kind) := by
  cases k with
  | overlay =>
    rw [resume, Overlay.resume, Overlay.Board.ofContainer?, Layout.overlay?_eq_error hk]
    rfl
  | _ => exact congrArg (Except.map _) (if_neg hk)

end OtherKind

section
variable {k : LayoutKind} {c : Container} {op : Operation}

theorem Misuse.apply_eq {e : LayoutError} (h : Misuse k c op e) (ctx : Context) :
    k.apply ctx c op = .error e := by
  cases h with
  | otherKind hkind hchild =>
    cases op with
    | append child style =>
      exact append_of_kind_ne hkind ctx style fun h => hchild ⟨h.1, child, style, rfl, h.2⟩
    | updateChild child changed => exact updateChild_of_kind_ne hkind ctx child changed
    | remove child => exact remove_of_kind_ne hkind child
    | update old changed => exact update_of_kind_ne hkind ctx old changed
    | resume ticket => exact resume_of_kind_ne hkind ctx ticket
  | present style hchild hkind =>
    rcases hkind with hkind | rfl
    · exact append_of_has hkind ctx style hchild
    · exact if_pos hchild

theorem apply_eq_error_iff (ctx : Context) (e : LayoutError) :
    k.apply ctx c op = .error e ↔ Misuse k c op e := by
  refine ⟨fun h => ?_, fun h => h.apply_eq ctx⟩
  by_cases hmisuse : ∃ e', Misuse k c op e'
  · obtain ⟨e', he⟩ := hmisuse
    obtain rfl : e' = e := Except.error.inj ((he.apply_eq ctx).symm.trans h)
    exact he
  · rw [exists_misuse_iff, not_or, not_not] at hmisuse
    obtain ⟨out, hout, _⟩ := exists_apply hmisuse.1 hmisuse.2 ctx
    rw [hout] at h
    cases h

end

end LayoutKind

theorem Site.after_eq_error_iff (s : Site Container) {r : Except LayoutError Outcome}
    {e : LayoutError} {t : Site Container} :
    s.after r = .error e t ↔ r = .error e ∧ t = s := by
  cases r <;> simp [after, eq_comm]

namespace Decorated

theorem after_eq_error_iff (s : Site Decorated) {r : Except LayoutError DecoratedOutcome}
    {e : LayoutError} {t : Site Decorated} :
    after s r = .error e t ↔ r = .error e ∧ t = s := by
  cases r <;> simp [after, eq_comm]

theorem apply_eq_error_iff_inside (ctx : Context) (d : Decorated) (op : LayoutKind.Operation)
    (e : LayoutError) : d.apply ctx op = .error e ↔ d.kind.apply ctx d.layout op = .error e := by
  cases op with
  | append child style =>
    simp only [apply, append, LayoutKind.apply]
    cases d.kind.append ctx d.layout child style <;> simp [bind, Except.bind, pure, Except.pure]
  | updateChild child changed =>
    simp only [apply, updateChild, LayoutKind.apply]
    cases d.kind.updateChild ctx d.layout child changed with
    | error e' => simp [bind, Except.bind]
    | ok o =>
      simp only [bind, Except.bind]
      cases o.container.child? child <;> simp [pure, Except.pure]
  | remove child =>
    simp only [apply, remove, LayoutKind.apply]
    cases d.kind.remove d.layout child <;> simp [Except.map]
  | update old changed =>
    simp only [apply, update, LayoutKind.apply]
    cases d.kind.update ctx d.layout old changed <;> simp [bind, Except.bind, pure, Except.pure]
  | resume ticket =>
    simp only [apply, resume, LayoutKind.apply]
    cases d.kind.resume ctx d.layout ticket <;> simp [Except.map]

theorem apply_eq_error_iff (ctx : Context) (d : Decorated) (op : LayoutKind.Operation)
    (e : LayoutError) :
    d.apply ctx op = .error e ↔
      ∃ child style, op = .append child style ∧ d.layout.has child ∧ e = .duplicateChild child := by
  rw [apply_eq_error_iff_inside, LayoutKind.apply_eq_error_iff]
  constructor
  · rintro (⟨hkind, _⟩ | ⟨style, hchild, _⟩)
    · exact absurd rfl hkind
    · exact ⟨_, style, rfl, hchild, rfl⟩
  · rintro ⟨child, style, rfl, hchild, rfl⟩
    exact .present style hchild (.inl rfl)

end Decorated

/-- An operation in place comes to its outcome, and is refused exactly for a misuse: a container of
another kind, or an append of a child that is present. Nothing has changed then. On a decorated
container, which addresses its own kind, no operation is refused but an append of a child that is
present, and the wrappers have not changed either. -/
theorem refused_iff_misused :
    (∀ (k : LayoutKind) (ctx : Context) (op : LayoutKind.Operation) (s : Site Container),
      (k.perform ctx op).run s = s.after (k.apply ctx s.subject op) ∧
      (∀ e t, (k.perform ctx op).run s = .error e t ↔
        LayoutKind.Misuse k s.subject op e ∧ t = s) ∧
      ((∃ e, LayoutKind.Misuse k s.subject op e) ↔ s.subject.kind ≠ k ∨ op.Repeats s.subject)) ∧
    ∀ (ctx : Context) (op : LayoutKind.Operation) (s : Site Decorated),
      (Decorated.perform ctx op).run s = Decorated.after s (s.subject.apply ctx op) ∧
      ∀ e t, (Decorated.perform ctx op).run s = .error e t ↔
        (∃ child style, op = .append child style ∧ s.subject.layout.has child ∧
          e = .duplicateChild child) ∧ t = s := by
  refine ⟨fun k ctx op s => ⟨k.run_perform s ctx op, fun e t => ?_, LayoutKind.exists_misuse_iff⟩,
    fun ctx op s => ⟨Decorated.run_perform ctx op s, fun e t => ?_⟩⟩
  · rw [LayoutKind.run_perform, s.after_eq_error_iff, LayoutKind.apply_eq_error_iff]
  · rw [Decorated.run_perform, Decorated.after_eq_error_iff, Decorated.apply_eq_error_iff]

end PanelLayout
