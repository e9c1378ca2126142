import PanelLayout.Decoration.Container
import PanelLayout.Proofs.Container.Run

/-!
Operations carried out in place. Each change is made where its turn comes, and a ticket joins the
queue at once; a refusal undoes nothing of what has been done before it.
-/
namespace PanelLayout

/-- What an operation works on, beside the queue that its tickets join. -/
structure Site (α : Type) where
  subject : α
  queue : List Scheduled

/-- A course of changes, which ends early if it is refused. -/
abbrev InPlace (α β : Type) := EStateM LayoutError (Site α) β

namespace Container

def merged (c : Container) (child : WidgetId) (changed : Style) : Container :=
  c.modify child fun node => { node with style := node.style.merge changed }

def placed (c : Container) (child : WidgetId) (f : Style → Slot → Slot) : Container :=
  c.modify child fun node => { node with slot := f node.style node.slot }

end Container

namespace InPlace
variable {α β : Type}

def current : InPlace α α := fun s => .ok s.subject s

def change (f : α → α) : InPlace α Unit := fun s => .ok () { s with subject := f s.subject }

def schedule (t : Scheduled) : InPlace α Unit := fun s => .ok () { s with queue := s.queue ++ [t] }

/-- Goes on with a result, or is refused for its error. -/
def require : Except LayoutError β → InPlace α β
  | .ok b => pure b
  | .error e => throw e

def setPanel (panel : Panel) : InPlace Container Unit := change fun c => { c with panel }

def setLayout (layout : Layout) : InPlace Container Unit := change fun c => { c with layout }

def addChild (child : WidgetId) (style : Style) (atFront : Bool) : InPlace Container Unit := do
  let c ← require ((← current).insert child style atFront id)
  change fun _ => c

def mergeChild (child : WidgetId) (changed : Style) : InPlace Container Unit :=
  change (·.merged child changed)

def placeChild (child : WidgetId) (f : Style → Slot → Slot) : InPlace Container Unit :=
  change (·.placed child f)

def placeAll (f : Style → Slot → Slot) : InPlace Container Unit := change (·.replace f)

end InPlace

open InPlace

namespace Flex

def updateInPlace (ctx : Context) (old changed : Style) : InPlace Container Unit := do
  let _ ← require (← current).layout.flex?
  let f := ofStyle ctx.units (old.merge changed)
  setPanel (f.onPanel (← current).panel)
  setLayout (.flex f)

def appendInPlace (ctx : Context) (child : WidgetId) (style : Style) : InPlace Container Unit := do
  let f ← require (← current).layout.flex?
  let isFirst := (← current).children.isEmpty
  addChild child style (!f.isRow && f.isReverse)
  placeChild child (f.place ctx.units isFirst)

def updateChildInPlace (ctx : Context) (child : WidgetId) (changed : Style) :
    InPlace Container Unit := do
  let f ← require (← current).layout.flex?
  let isFirst := (← current).isFirst child
  mergeChild child changed
  placeChild child (f.place ctx.units isFirst)

end Flex

namespace Grid

def updateInPlace (ctx : Context) (old changed : Style) : InPlace Container Unit := do
  let previous ← require (← current).layout.grid?
  let g := previous.renew ctx (old.merge changed)
  setPanel (.grid g.panel)
  placeAll (g.reseat ctx.units)
  setLayout (.grid g)

def enter (cell : Cell) (rowSpan columnSpan : Nat) : Slot → Slot
  | .grid s => .grid ⟨cell.row, cell.column, rowSpan, columnSpan, s.seat⟩
  | s => s

/-- The flow moves on before the child is added. -/
def appendInPlace (ctx : Context) (child : WidgetId) (style : Style) : InPlace Container Unit := do
  if (← current).has child then throw (.duplicateChild child)
  let g ← require (← current).layout.grid?
  let row := g.placement .row style
  let column := g.placement .column style
  let (cell, next) := g.cellFor row column
  setLayout (.grid next)
  addChild child style false
  placeChild child fun _ => enter cell row.span column.span
  placeChild child (next.reseat ctx.units)

def shift (g : Grid) (style : Style) : Slot → Slot
  | .grid s =>
    let row := g.placement .row style
    let column := g.placement .column style
    enter ⟨row.start.getD s.row, column.start.getD s.column⟩ row.span column.span (.grid s)
  | s => s

def updateChildInPlace (ctx : Context) (child : WidgetId) (changed : Style) :
    InPlace Container Unit := do
  let g ← require (← current).layout.grid?
  mergeChild child changed
  placeChild child g.shift
  placeChild child (g.reseat ctx.units)

end Grid

namespace Canvas

def updateInPlace (ctx : Context) (old changed : Style) : InPlace Container Unit := do
  let _ ← require (← current).layout.canvas?
  let canvas := ofStyle ctx.units (old.merge changed)
  placeAll (canvas.place ctx.units)
  setLayout (.canvas canvas)

def appendInPlace (ctx : Context) (child : WidgetId) (style : Style) : InPlace Container Unit := do
  let canvas ← require (← current).layout.canvas?
  addChild child style false
  placeChild child (canvas.place ctx.units)

def updateChildInPlace (ctx : Context) (child : WidgetId) (changed : Style) :
    InPlace Container Unit := do
  let canvas ← require (← current).layout.canvas?
  mergeChild child changed
  placeChild child (canvas.place ctx.units)

end Canvas

namespace UniformGrid

def updateInPlace (ctx : Context) (old changed : Style) : InPlace Container Unit := do
  require (← current).layout.uniformGrid?
  setPanel (.uniformGrid (panel ctx.units (old.merge changed)))

def appendInPlace (ctx : Context) (child : WidgetId) (style : Style) : InPlace Container Unit := do
  require (← current).layout.uniformGrid?
  addChild child style false
  placeChild child (place ctx.units)

def updateChildInPlace (ctx : Context) (child : WidgetId) (changed : Style) :
    InPlace Container Unit := do
  require (← current).layout.uniformGrid?
  mergeChild child changed
  placeChild child (place ctx.units)

end UniformGrid

namespace Overlay

def setOverlay (o : Overlay) : InPlace Container Unit := setLayout (.overlay o)

def restartInPlace (child : WidgetId) : InPlace Container Unit := do
  let o ← require (← current).layout.overlay?
  setOverlay (o.restart child)

def attemptInPlace (ctx : Context) (child : WidgetId) : InPlace Container Unit := do
  let c ← current
  let o ← require c.layout.overlay?
  match o.find? child with
  | none => return
  | some t =>
    let t := t.check ctx.config.attemptLimit (isReady ctx c child)
    setOverlay (o.put t)
    if t.phase = .waiting then schedule (retry ctx c t)
    if isReady ctx c child then change (seatAbsolute ctx · child)

def trackInPlace (ctx : Context) (child : WidgetId) : InPlace Container Unit := do
  match (← current).child? child with
  | none => return
  | some node =>
    placeChild child (placeInitial ctx.units)
    if isAbsolute node.style then
      restartInPlace child
      attemptInPlace ctx child
    else
      let o ← require (← current).layout.overlay?
      setOverlay (o.forget child)

def updateInPlace (ctx : Context) : InPlace Container Unit := do
  let o ← require (← current).layout.overlay?
  let children := o.tracked.map Tracked.child
  children.forM restartInPlace
  children.forM (attemptInPlace ctx)

def appendInPlace (ctx : Context) (child : WidgetId) (style : Style) : InPlace Container Unit := do
  let _ ← require (← current).layout.overlay?
  addChild child style false
  trackInPlace ctx child

def updateChildInPlace (ctx : Context) (child : WidgetId) (changed : Style) :
    InPlace Container Unit := do
  let _ ← require (← current).layout.overlay?
  mergeChild child changed
  trackInPlace ctx child

def removeInPlace (child : WidgetId) : InPlace Container Unit := do
  let o ← require (← current).layout.overlay?
  setOverlay (o.forget child)
  change (·.remove child)

def resumeInPlace (ctx : Context) (ticket : Ticket) : InPlace Container Unit := do
  let o ← require (← current).layout.overlay?
  if ticket.container = (← current).widget ∧ o.isCurrent ticket then
    attemptInPlace ctx ticket.child

end Overlay

namespace LayoutKind

def updateInPlace (k : LayoutKind) (ctx : Context) (old changed : Style) : InPlace Container Unit :=
  match k with
  | flex => Flex.updateInPlace ctx old changed
  | grid => Grid.updateInPlace ctx old changed
  | canvas => Canvas.updateInPlace ctx old changed
  | overlay => Overlay.updateInPlace ctx
  | uniformGrid => UniformGrid.updateInPlace ctx old changed

def appendInPlace (k : LayoutKind) (ctx : Context) (child : WidgetId) (style : Style) :
    InPlace Container Unit :=
  match k with
  | flex => Flex.appendInPlace ctx child style
  | grid => Grid.appendInPlace ctx child style
  | canvas => Canvas.appendInPlace ctx child style
  | overlay => Overlay.appendInPlace ctx child style
  | uniformGrid => UniformGrid.appendInPlace ctx child style

def updateChildInPlace (k : LayoutKind) (ctx : Context) (child : WidgetId) (changed : Style) :
    InPlace Container Unit :=
  match k with
  | flex => Flex.updateChildInPlace ctx child changed
  | grid => Grid.updateChildInPlace ctx child changed
  | canvas => Canvas.updateChildInPlace ctx child changed
  | overlay => Overlay.updateChildInPlace ctx child changed
  | uniformGrid => UniformGrid.updateChildInPlace ctx child changed

def removeInPlace (k : LayoutKind) (child : WidgetId) : InPlace Container Unit :=
  match k with
  | overlay => Overlay.removeInPlace child
  | k => do
    require ((← current).expect k)
    change (·.remove child)

def resumeInPlace (k : LayoutKind) (ctx : Context) (ticket : Ticket) : InPlace Container Unit :=
  match k with
  | overlay => Overlay.resumeInPlace ctx ticket
  | k => do require ((← current).expect k)

def perform (k : LayoutKind) (ctx : Context) : Operation → InPlace Container Unit
  | .append child style => k.appendInPlace ctx child style
  | .updateChild child changed => k.updateChildInPlace ctx child changed
  | .remove child => k.removeInPlace child
  | .update old changed => k.updateInPlace ctx old changed
  | .resume ticket => k.resumeInPlace ctx ticket

end LayoutKind

namespace Decorated

/-- Carries out changes on the container inside, which stay where they are refused, too. -/
def inside (changes : InPlace Container Unit) : InPlace Decorated Unit := fun s =>
  match changes.run ⟨s.subject.layout, s.queue⟩ with
  | .ok _ t => .ok () ⟨{ s.subject with layout := t.subject }, t.queue⟩
  | .error e t => .error e ⟨{ s.subject with layout := t.subject }, t.queue⟩

def followInPlace (ctx : Context) : LayoutKind.Operation → InPlace Decorated Unit
  | .append _ style => change (alignInWrapper ctx.units style)
  | .updateChild child _ => do
    match (← current).layout.child? child with
    | none => return
    | some node => change (alignInWrapper ctx.units node.style)
  | .update old changed => change (decorate ctx.units (old.merge changed))
  | .remove _ | .resume _ => return

def perform (ctx : Context) (op : LayoutKind.Operation) : InPlace Decorated Unit := do
  inside ((← current).kind.perform ctx op)
  followInPlace ctx op

def apply (ctx : Context) (d : Decorated) :
    LayoutKind.Operation → Except LayoutError DecoratedOutcome
  | .append child style => d.append ctx child style
  | .updateChild child changed => d.updateChild ctx child changed
  | .remove child => d.remove child
  | .update old changed => d.update ctx old changed
  | .resume ticket => d.resume ctx ticket

end Decorated

end PanelLayout
