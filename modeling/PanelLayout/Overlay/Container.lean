import PanelLayout.Container.Basic
import PanelLayout.Overlay.Placement

/-!
Overlay containers. An absolute child is seated once the sizes of the overlay and of the child are
known. Until then each size check that fails asks for a ticket to check again, up to a number of
checks; a restart gives the child a new generation, for which older tickets count no more.
-/
namespace PanelLayout.Overlay

structure Board where
  container : Container
  overlay : Overlay

namespace Board

def ofContainer? (c : Container) : Except LayoutError Board :=
  c.layout.overlay?.map fun o => ⟨c, o⟩

def finish (b : Board) (scheduled : List Scheduled) : Outcome :=
  ⟨{ b.container with layout := .overlay b.overlay }, scheduled⟩

def restart (b : Board) (child : WidgetId) : Board :=
  { b with overlay := b.overlay.restart child }

def forget (b : Board) (child : WidgetId) : Board :=
  { b with overlay := b.overlay.forget child }

end Board

def isReady (ctx : Context) (c : Container) (child : WidgetId) : Bool :=
  (ctx.sizeOf c.widget).isPositive && (ctx.sizeOf child).isPositive

def placeAbsolute (u : CssUnits) (parent own : Size) (style : Style) : Slot → Slot
  | .overlay _ => .overlay (absoluteSeat u style parent own)
  | s => s

def seatAbsolute (ctx : Context) (c : Container) (child : WidgetId) : Container :=
  c.modify child fun node =>
    let place := placeAbsolute ctx.units (ctx.sizeOf c.widget) (ctx.sizeOf child)
    { node with slot := place node.style node.slot }

def retry (ctx : Context) (c : Container) (t : Tracked) : Scheduled :=
  ⟨ctx.config.retryDelay, ⟨c.widget, t.child, t.generation⟩⟩

/-- One size check of a child. It seats the child if both sizes are known, and otherwise asks for
another check unless the child is given up. -/
def attempt (ctx : Context) (b : Board) (child : WidgetId) : Board × List Scheduled :=
  match b.overlay.find? child with
  | none => (b, [])
  | some t =>
    let ready := isReady ctx b.container child
    let t := t.check ctx.config.attemptLimit ready
    let c := if ready then seatAbsolute ctx b.container child else b.container
    (⟨c, b.overlay.put t⟩, if t.phase = .waiting then [retry ctx b.container t] else [])

def attemptAll (ctx : Context) : Board → List WidgetId → Board × List Scheduled
  | b, [] => (b, [])
  | b, child :: rest =>
    let (b, first) := attempt ctx b child
    let (b, others) := attemptAll ctx b rest
    (b, first ++ others)

def placeInitial (u : CssUnits) (style : Style) : Slot → Slot
  | .overlay _ => .overlay (if isAbsolute style then initialSeat else flowingSeat u style)
  | s => s

def track (ctx : Context) (b : Board) (child : WidgetId) : Board × List Scheduled :=
  match b.container.child? child with
  | none => (b, [])
  | some node =>
    if isAbsolute node.style then attempt ctx (b.restart child) child else (b.forget child, [])

def create (_ctx : Context) (widget : WidgetId) (_style : Style) : Container :=
  .new widget .overlay (.overlay .initial)

/-- Restarts all tracked children and then checks each of them. The style of the container has no
part in the placement. -/
def update (ctx : Context) (c : Container) (_old _changed : Style) : Except LayoutError Outcome := do
  let b ← Board.ofContainer? c
  let children := b.overlay.tracked.map Tracked.child
  let (b, scheduled) := attemptAll ctx (children.foldl Board.restart b) children
  return b.finish scheduled

def append (ctx : Context) (c : Container) (child : WidgetId) (style : Style) :
    Except LayoutError Outcome := do
  let b ← Board.ofContainer? c
  let c ← c.insert child style false (placeInitial ctx.units style)
  let (b, scheduled) := track ctx { b with container := c } child
  return b.finish scheduled

def updateChild (ctx : Context) (c : Container) (child : WidgetId) (changed : Style) :
    Except LayoutError Outcome := do
  let b ← Board.ofContainer? c
  let c := c.restyle child changed (placeInitial ctx.units)
  let (b, scheduled) := track ctx { b with container := c } child
  return b.finish scheduled

def remove (c : Container) (child : WidgetId) : Except LayoutError Outcome := do
  let b ← Board.ofContainer? c
  return ({ b with container := c.remove child }.forget child).finish []

/-- Delivers a ticket. Only a ticket of the current wait of a child of this container counts. -/
def resume (ctx : Context) (c : Container) (ticket : Ticket) : Except LayoutError Outcome := do
  let b ← Board.ofContainer? c
  if ticket.container = c.widget ∧ b.overlay.isCurrent ticket then
    let (b, scheduled) := attempt ctx b ticket.child
    return b.finish scheduled
  else return c.unscheduled

end PanelLayout.Overlay
