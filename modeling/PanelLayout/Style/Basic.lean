import PanelLayout.Style.Property
import PanelLayout.Style.Value

/-!
Styles: the values of the properties that are set. A style is given by its look-up function, so two
styles are equal when they agree on every property.
-/
namespace PanelLayout

@[ext]
structure Style where
  get : Property → Option Value

namespace Style

def empty : Style := ⟨fun _ => none⟩

instance : Inhabited Style := ⟨empty⟩

def set (s : Style) (p : Property) (v : Value) : Style :=
  ⟨fun q => if q = p then some v else s.get q⟩

/-- The old style under the changed one: every property set in `changed` wins. -/
def merge (old changed : Style) : Style :=
  ⟨fun p => (changed.get p).or (old.get p)⟩

def isEmpty (s : Style) : Bool :=
  Property.all.all fun p => (s.get p).isNone

def entries (s : Style) : List (Property × Value) :=
  Property.all.filterMap fun p => (s.get p).map fun v => (p, v)

def same (a b : Style) : Bool :=
  Property.all.all fun p =>
    match a.get p, b.get p with
    | none, none => true
    | some v, some w => v.same w
    | _, _ => false

def getNamed? (s : Style) (name : String) : Option Value :=
  (Property.ofName? name).bind s.get

def setNamed? (s : Style) (name : String) (v : Value) : Option Style :=
  (Property.ofName? name).map fun p => s.set p v

def keyword? (s : Style) (p : Property) : Option String :=
  (s.get p).map Value.keyword

def definite? (s : Style) (p : Property) : Option Value :=
  (s.get p).filter fun v => !v.isAuto

def isSet (s : Style) (p : Property) : Bool :=
  (s.definite? p).isSome

@[simp]
theorem get_empty (p : Property) : empty.get p = none := rfl

@[simp]
theorem get_set (s : Style) (p q : Property) (v : Value) :
    (s.set p v).get q = if q = p then some v else s.get q := rfl

@[simp]
theorem get_merge (old changed : Style) (p : Property) :
    (old.merge changed).get p = (changed.get p).or (old.get p) := rfl

end Style

end PanelLayout
