import PanelLayout.Canvas.Container
import PanelLayout.Flex.Container
import PanelLayout.Grid.Container
import PanelLayout.Overlay.Container
import PanelLayout.UniformGrid.Container

/-!
The operations on containers, by the kind of layout that carries them out. A container of another
kind is refused.
-/
namespace PanelLayout.LayoutKind

def create (k : LayoutKind) (ctx : Context) (widget : WidgetId) (style : Style) : Container :=
  match k with
  | flex => Flex.create ctx widget style
  | grid => Grid.create ctx widget style
  | canvas => Canvas.create ctx widget style
  | overlay => Overlay.create ctx widget style
  | uniformGrid => UniformGrid.create ctx widget style

def update (k : LayoutKind) (ctx : Context) (c : Container) (old changed : Style) :
    Except LayoutError Outcome :=
  match k with
  | flex => Flex.update ctx c old changed
  | grid => Grid.update ctx c old changed
  | canvas => Canvas.update ctx c old changed
  | overlay => Overlay.update ctx c old changed
  | uniformGrid => UniformGrid.update ctx c old changed

def append (k : LayoutKind) (ctx : Context) (c : Container) (child : WidgetId) (style : Style) :
    Except LayoutError Outcome :=
  match k with
  | flex => Flex.append ctx c child style
  | grid => Grid.append ctx c child style
  | canvas => Canvas.append ctx c child style
  | overlay => Overlay.append ctx c child style
  | uniformGrid => UniformGrid.append ctx c child style

/-- Merges a change into the style of a child. A widget that is no child changes nothing. -/
def updateChild (k : LayoutKind) (ctx : Context) (c : Container) (child : WidgetId)
    (changed : Style) : Except LayoutError Outcome :=
  match k with
  | flex => Flex.updateChild ctx c child changed
  | grid => Grid.updateChild ctx c child changed
  | canvas => Canvas.updateChild ctx c child changed
  | overlay => Overlay.updateChild ctx c child changed
  | uniformGrid => UniformGrid.updateChild ctx c child changed

def remove (k : LayoutKind) (c : Container) (child : WidgetId) : Except LayoutError Outcome :=
  match k with
  | overlay => Overlay.remove c child
  | k => (c.expect k).map fun _ => (c.remove child).unscheduled

def resume (k : LayoutKind) (ctx : Context) (c : Container) (ticket : Ticket) :
    Except LayoutError Outcome :=
  match k with
  | overlay => Overlay.resume ctx c ticket
  | k => (c.expect k).map fun _ => c.unscheduled

end PanelLayout.LayoutKind
