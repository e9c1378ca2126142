import PanelLayout.Container.Operation
import PanelLayout.Decoration.Wrapper

/-!
Decorated containers: a container with the wrappers that its style has asked for. A wrapper stays
once it is there, and is neutral while the style does not ask for it. Children align themselves in
the outermost wrapper that records a seat.
-/
namespace PanelLayout

structure Decorated where
  layout : Container
  background : Option Background
  sizeBox : Option SizeBox
  scaleBox : Option ScaleBox

structure DecoratedOutcome where
  container : Decorated
  scheduled : List Scheduled

/-- The wrapper after a change of style: configured if it is needed, else neutral if it is there. -/
def renewWrapper {α : Type} (needed : Bool) (initial : α) (configure reset : α → α) (w : Option α) :
    Option α :=
  if needed then some (configure (w.getD initial)) else w.map reset

namespace Decorated

def kind (d : Decorated) : LayoutKind := d.layout.kind

def externalSlot? (d : Decorated) : Option Seat :=
  (d.sizeBox.map SizeBox.content).or (d.background.map Background.content)

def mapExternalSlot (f : Seat → Seat) (d : Decorated) : Decorated :=
  match d.sizeBox with
  | some b => { d with sizeBox := some { b with content := f b.content } }
  | none => { d with background := d.background.map fun b => { b with content := f b.content } }

def decorate (u : CssUnits) (style : Style) (d : Decorated) : Decorated :=
  { d with
    background := renewWrapper (Background.isNeeded style) .initial (Background.configure u style)
      Background.reset d.background
    sizeBox := renewWrapper (SizeBox.isNeeded style) .initial (SizeBox.configure u style)
      SizeBox.reset d.sizeBox
    scaleBox := renewWrapper (ScaleBox.isNeeded style) .initial (ScaleBox.configure style)
      ScaleBox.reset d.scaleBox }

def hasMargin (style : Style) : Bool :=
  [Property.margin, .marginLeft, .marginTop, .marginRight, .marginBottom].any fun p =>
    (style.get p).isSome

def alignSeat (u : CssUnits) (style : Style) (seat : Seat) : Seat :=
  let own := SelfAlignment.ofStyle style
  { padding := if hasMargin style then u.margin style else seat.padding
    horizontal := own.horizontal seat.horizontal
    vertical := own.vertical seat.vertical }

def alignInWrapper (u : CssUnits) (style : Style) (d : Decorated) : Decorated :=
  d.mapExternalSlot (alignSeat u style)

def create (ctx : Context) (tag : String) (widget : WidgetId) (style : Style) :
    Except LayoutError Decorated :=
  match LayoutKind.ofTag? tag style with
  | none => .error (.unknownTag tag)
  | some k => .ok (decorate ctx.units style ⟨k.create ctx widget style, none, none, none⟩)

def take (d : Decorated) (o : Outcome) : DecoratedOutcome :=
  ⟨{ d with layout := o.container }, o.scheduled⟩

def update (ctx : Context) (d : Decorated) (old changed : Style) :
    Except LayoutError DecoratedOutcome := do
  let o ← d.kind.update ctx d.layout old changed
  let taken := d.take o
  return { taken with container := taken.container.decorate ctx.units (old.merge changed) }

def append (ctx : Context) (d : Decorated) (child : WidgetId) (style : Style) :
    Except LayoutError DecoratedOutcome := do
  let o ← d.kind.append ctx d.layout child style
  let taken := d.take o
  return { taken with container := taken.container.alignInWrapper ctx.units style }

def updateChild (ctx : Context) (d : Decorated) (child : WidgetId) (changed : Style) :
    Except LayoutError DecoratedOutcome := do
  let o ← d.kind.updateChild ctx d.layout child changed
  let taken := d.take o
  match o.container.child? child with
  | none => return taken
  | some node =>
    return { taken with container := taken.container.alignInWrapper ctx.units node.style }

def remove (d : Decorated) (child : WidgetId) : Except LayoutError DecoratedOutcome :=
  (d.kind.remove d.layout child).map d.take

def resume (ctx : Context) (d : Decorated) (ticket : Ticket) :
    Except LayoutError DecoratedOutcome :=
  (d.kind.resume ctx d.layout ticket).map d.take

end Decorated

end PanelLayout
