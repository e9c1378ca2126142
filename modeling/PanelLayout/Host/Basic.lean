import PanelLayout.Decoration.Container

/-!
The host: containers by the widget they belong to, the sizes of widgets on the screen, and the queue
of tickets that all containers share. Commands change the host one at a time; a refused command
changes nothing.
-/
namespace PanelLayout

inductive Hosted where
  | decorated (d : Decorated)
  | plain (c : Container)

structure HostedOutcome where
  hosted : Hosted
  scheduled : List Scheduled

namespace Hosted

def layout : Hosted → Container
  | decorated d => d.layout
  | plain c => c

def ofDecorated (o : DecoratedOutcome) : HostedOutcome := ⟨.decorated o.container, o.scheduled⟩

def ofPlain (o : Outcome) : HostedOutcome := ⟨.plain o.container, o.scheduled⟩

def addressed (c : Container) (k : Option LayoutKind) : LayoutKind := k.getD c.kind

def update (ctx : Context) (k : Option LayoutKind) (old changed : Style) :
    Hosted → Except LayoutError HostedOutcome
  | decorated d => (d.update ctx old changed).map ofDecorated
  | plain c => ((addressed c k).update ctx c old changed).map ofPlain

def append (ctx : Context) (k : Option LayoutKind) (child : WidgetId) (style : Style) :
    Hosted → Except LayoutError HostedOutcome
  | decorated d => (d.append ctx child style).map ofDecorated
  | plain c => ((addressed c k).append ctx c child style).map ofPlain

def updateChild (ctx : Context) (k : Option LayoutKind) (child : WidgetId) (changed : Style) :
    Hosted → Except LayoutError HostedOutcome
  | decorated d => (d.updateChild ctx child changed).map ofDecorated
  | plain c => ((addressed c k).updateChild ctx c child changed).map ofPlain

def remove (k : Option LayoutKind) (child : WidgetId) : Hosted → Except LayoutError HostedOutcome
  | decorated d => (d.remove child).map ofDecorated
  | plain c => ((addressed c k).remove c child).map ofPlain

def resume (ctx : Context) (k : Option LayoutKind) (ticket : Ticket) :
    Hosted → Except LayoutError HostedOutcome
  | decorated d => (d.resume ctx ticket).map ofDecorated
  | plain c => ((addressed c k).resume ctx c ticket).map ofPlain

end Hosted

structure Host where
  units : CssUnits
  config : Config
  sizeOf : WidgetId → Size
  container? : WidgetId → Option Hosted
  queue : List Scheduled

structure Delivery where
  scheduled : Scheduled
  refusal : Option LayoutError

inductive Reply where
  | done
  | childStyle (style : Option Style)
  | delivered (list : List Delivery)
  | state (l : Layout)

inductive HostError where
  | layout (e : LayoutError)
  | unknownContainer (widget : WidgetId)

inductive Maker where
  | tag (name : String)
  | kind (k : LayoutKind)

inductive Command where
  | resize (widget : WidgetId) (size : Size)
  | create (widget : WidgetId) (maker : Maker) (style : Style)
  | append (widget child : WidgetId) (style : Style) (kind : Option LayoutKind)
  | updateChild (widget child : WidgetId) (changed : Style) (kind : Option LayoutKind)
  | remove (widget child : WidgetId) (kind : Option LayoutKind)
  | update (widget : WidgetId) (old changed : Style) (kind : Option LayoutKind)
  | resume (widget : WidgetId) (ticket : Ticket) (kind : Option LayoutKind)
  | fire (widget : WidgetId) (count : Nat)
  | inspect (widget : WidgetId) (kind : LayoutKind)

namespace Host

def initial (units : CssUnits) (config : Config) : Host :=
  ⟨units, config, fun _ => .zero, fun _ => none, []⟩

def context (h : Host) : Context := ⟨h.units, h.config, h.sizeOf⟩

def put (h : Host) (widget : WidgetId) (c : Hosted) : Host :=
  { h with container? := fun w => if w = widget then some c else h.container? w }

def find (h : Host) (widget : WidgetId) : Except HostError Hosted :=
  match h.container? widget with
  | some c => .ok c
  | none => .error (.unknownContainer widget)

def take (h : Host) (widget : WidgetId) (o : HostedOutcome) : Host :=
  { h.put widget o.hosted with queue := h.queue ++ o.scheduled }

def operate (h : Host) (widget : WidgetId) (f : Hosted → Except LayoutError HostedOutcome) :
    Except HostError Host := do
  let c ← h.find widget
  let o ← (f c).mapError .layout
  return h.take widget o

def make (h : Host) (widget : WidgetId) (style : Style) : Maker → Except LayoutError Hosted
  | .tag name => (Decorated.create h.context name widget style).map .decorated
  | .kind k => .ok (.plain (k.create h.context widget style))

def childStyle? (h : Host) (widget child : WidgetId) : Option Style :=
  ((h.container? widget).bind fun c => c.layout.child? child).map Child.style

/-- Delivers tickets from the front of the queue to a container, at most so many. Tickets that are
asked for meanwhile join the queue. -/
def fire (h : Host) (widget : WidgetId) (c : Hosted) : Nat → Host × List Delivery
  | 0 => (h, [])
  | n + 1 =>
    match h.queue with
    | [] => (h, [])
    | s :: queue =>
      let h := { h with queue := queue }
      match c.resume h.context none s.ticket with
      | .error e =>
        let (h, rest) := fire h widget c n
        (h, ⟨s, some e⟩ :: rest)
      | .ok o =>
        let (h, rest) := fire (h.take widget o) widget o.hosted n
        (h, ⟨s, none⟩ :: rest)

def inspect (c : Container) (k : LayoutKind) : Except LayoutError Layout :=
  (c.expect k).map fun _ => c.layout

def apply (h : Host) : Command → Except HostError (Host × Reply)
  | .resize widget size =>
    .ok ({ h with sizeOf := fun w => if w = widget then size else h.sizeOf w }, .done)
  | .create widget maker style =>
    match h.make widget style maker with
    | .ok c => .ok (h.put widget c, .done)
    | .error e => .error (.layout e)
  | .append widget child style k => do
    let h ← h.operate widget (Hosted.append h.context k child style)
    return (h, .childStyle (h.childStyle? widget child))
  | .updateChild widget child changed k => do
    let h ← h.operate widget (Hosted.updateChild h.context k child changed)
    return (h, .childStyle (h.childStyle? widget child))
  | .remove widget child k => do
    let h ← h.operate widget (Hosted.remove k child)
    return (h, .done)
  | .update widget old changed k => do
    let h ← h.operate widget (Hosted.update h.context k old changed)
    return (h, .done)
  | .resume widget ticket k => do
    let h ← h.operate widget (Hosted.resume h.context k ticket)
    return (h, .done)
  | .fire widget count => do
    let c ← h.find widget
    let (h, list) := h.fire widget c count
    return (h, .delivered list)
  | .inspect widget k => do
    let c ← h.find widget
    let l ← (inspect c.layout k).mapError .layout
    return (h, .state l)

def run (h : Host) (command : Command) : Host × Except HostError Reply :=
  match h.apply command with
  | .ok (h, reply) => (h, .ok reply)
  | .error e => (h, .error e)

end Host

end PanelLayout
