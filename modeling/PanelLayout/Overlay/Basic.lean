import PanelLayout.Container.Config
import PanelLayout.Container.Kind

/-!
The bookkeeping of overlay children that wait for their sizes. Each start of a child gets a new
generation, so a retry that was asked for before is told from a current one.
-/
namespace PanelLayout

inductive OverlayPhase where
  | notScheduled
  | waiting
  | applied
  | abandoned
  deriving DecidableEq, Repr

def OverlayPhase.table : List (String × OverlayPhase) :=
  [("NotScheduled", .notScheduled), ("Waiting", .waiting), ("Applied", .applied),
    ("Abandoned", .abandoned)]

structure Tracked where
  child : WidgetId
  phase : OverlayPhase
  generation : Nat
  attempts : Nat
  deriving DecidableEq, Repr

structure Ticket where
  container : WidgetId
  child : WidgetId
  generation : Nat
  deriving DecidableEq, Repr

structure Scheduled where
  delay : Nat
  ticket : Ticket
  deriving DecidableEq, Repr

/-- The tracked children in the order of their handles, and the last generation given out. -/
structure Overlay where
  tracked : List Tracked
  generation : Nat
  deriving DecidableEq, Repr

def Tracked.insert (t : Tracked) : List Tracked → List Tracked
  | [] => [t]
  | e :: es =>
    if e.child = t.child then t :: es
    else if t.child.raw < e.child.raw then t :: e :: es
    else e :: insert t es

/-- The entry after a size check that has found both sizes or has not. -/
def Tracked.check (t : Tracked) (limit : Nat) (isReady : Bool) : Tracked :=
  { t with
    attempts := t.attempts + 1
    phase :=
      if isReady then .applied
      else if limit ≤ t.attempts + 1 then .abandoned
      else .waiting }

namespace Overlay

def initial : Overlay := ⟨[], 0⟩

def find? (o : Overlay) (child : WidgetId) : Option Tracked :=
  o.tracked.find? fun t => t.child = child

def put (o : Overlay) (t : Tracked) : Overlay :=
  { o with tracked := t.insert o.tracked }

def forget (o : Overlay) (child : WidgetId) : Overlay :=
  { o with tracked := o.tracked.filter fun t => t.child ≠ child }

def restart (o : Overlay) (child : WidgetId) : Overlay :=
  { tracked := Tracked.insert ⟨child, .notScheduled, o.generation + 1, 0⟩ o.tracked
    generation := o.generation + 1 }

def isCurrent (o : Overlay) (ticket : Ticket) : Bool :=
  match o.find? ticket.child with
  | some t => t.generation = ticket.generation && t.phase = .waiting
  | none => false

end Overlay

end PanelLayout
