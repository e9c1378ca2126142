import PanelLayout.Proofs.Container.Run
import PanelLayout.Decoration.Wrapper
import PanelLayout.Proofs.Style.Hiding

/-!
What a layout reads of the style of its container. The paint, the padding, the fit and the limits of
the size are no part of it.
-/
namespace PanelLayout

namespace Style

def paddings : List Property := [.padding, .paddingTop, .paddingRight, .paddingBottom, .paddingLeft]

def fits : List Property := [.objectFit, .scale]

def limits : List Property := [.minWidth, .minHeight, .maxWidth, .maxHeight, .aspectRatio]

def decorations : List Property := Background.paintProperties ++ paddings ++ fits ++ limits

end Style
open Style (decorations)

namespace Flex

theorem direction_without (s : Style) : direction (s.without decorations) = direction s := by
  funext flow
  simp (disch := decide) only [direction, Style.keyword?_without]

theorem wrapping?_without (s : Style) : wrapping? (s.without decorations) = wrapping? s := by
  funext flow
  simp (disch := decide) only [wrapping?, Style.keyword?_without]

theorem ofStyle_without (u : CssUnits) (s : Style) :
    ofStyle u (s.without decorations) = ofStyle u s := by
  simp (disch := decide) only [ofStyle, direction_without, wrapping?_without,
    Style.keyword?_without, Style.align?_without, CssUnits.gaps_without]

end Flex

namespace Track
variable {v w : TrackUnits} (h : ∀ l, ofLength v l = ofLength w l)
include h

theorem ofToken_congr (text : List Char) : ofToken v text = ofToken w text := by
  fun_induction ofToken v text with
  | case1 text token hword => rw [ofToken, if_pos hword]
  | case2 text token hword limit hlimit ih =>
    rw [ih, ofToken.eq_def w text, if_neg hword]
    -- The match keeps its equation for the termination, so it cannot be rewritten.
    split
    · next limit' hlimit' => rw [Option.some.inj (hlimit.symm.trans hlimit')]
    · next hnone => exact absurd (hlimit.symm.trans hnone) (Option.some_ne_none _)
  | case3 text token hword hlimit l hl =>
    rw [ofToken, if_neg hword]
    split
    · next limit' hlimit' => exact absurd (hlimit'.symm.trans hlimit) (Option.some_ne_none _)
    · rw [h, hl]
  | case4 text token hword hlimit hl =>
    rw [ofToken, if_neg hword]
    split
    · next limit' hlimit' => exact absurd (hlimit'.symm.trans hlimit) (Option.some_ne_none _)
    · rw [hl]

theorem listOfText_congr : listOfText v = listOfText w := by
  funext text
  simp only [listOfText, funext (ofToken_congr h)]

end Track

namespace Grid

theorem fontSize_without (u : CssUnits) (config : Config) (s : Style) :
    fontSize u config (s.without decorations) = fontSize u config s := by
  simp (disch := decide) only [fontSize, Style.get_without, CssUnits.pixels_without]

theorem tracks_without (fontSize : Float32) (u : CssUnits) (s : Style) {p : Property}
    (hp : p ∉ decorations) :
    tracks ⟨fontSize, u, s.without decorations⟩ p = tracks ⟨fontSize, u, s⟩ p := by
  have hlength : ∀ l, Track.ofLength ⟨fontSize, u, s.without decorations⟩ l =
      Track.ofLength ⟨fontSize, u, s⟩ l := by
    intro l
    unfold Track.ofLength
    rw [u.resolve_without (by decide)]
  funext short
  simp only [tracks, Style.get_without hp, Track.listOfText_congr hlength]

theorem ofStyle_without (u : CssUnits) (config : Config) (s : Style) :
    ofStyle u config (s.without decorations) = ofStyle u config s := by
  simp (disch := decide) only [ofStyle, fontSize_without, tracks_without, areasOfStyle, flowOfStyle,
    Style.get_without, Style.keyword?_without, Style.align?_without, Style.alignPair_without,
    CssUnits.gaps_without]

end Grid

theorem Canvas.ofStyle_without (u : CssUnits) (s : Style) :
    ofStyle u (s.without decorations) = ofStyle u s := by
  simp (disch := decide) only [ofStyle, Style.anchors?, Style.get_without,
    CssUnits.definitePixels?_without]

theorem UniformGrid.panel_without (u : CssUnits) (s : Style) :
    panel u (s.without decorations) = panel u s := by
  simp (disch := decide) only [panel, leastExtent, Style.get_without, CssUnits.box_without,
    CssUnits.pixels_without]

namespace LayoutKind

theorem ofTag?_without (tag : String) (s : Style) :
    ofTag? tag (s.without decorations) = ofTag? tag s := by
  simp (disch := decide) only [ofTag?, ofStyle, Style.keyword?_without]

theorem create_without (k : LayoutKind) (ctx : Context) (widget : WidgetId) (s : Style) :
    k.create ctx widget (s.without decorations) = k.create ctx widget s := by
  cases k with
  | flex => simp only [create, Flex.create, Flex.ofStyle_without]
  | grid => simp only [create, Grid.create, Grid.ofStyle_without]
  | canvas => simp only [create, Canvas.create, Canvas.ofStyle_without]
  | overlay => rfl
  | uniformGrid => simp only [create, UniformGrid.create, UniformGrid.panel_without]

theorem update_without (k : LayoutKind) (ctx : Context) (c : Container) (old changed : Style) :
    k.update ctx c (old.without decorations) (changed.without decorations) =
      k.update ctx c old changed := by
  cases k with
  | flex => simp only [update, Flex.update, ← Style.without_merge, Flex.ofStyle_without]
  | grid => simp only [update, Grid.update, Grid.renew, ← Style.without_merge, Grid.ofStyle_without]
  | canvas => simp only [update, Canvas.update, ← Style.without_merge, Canvas.ofStyle_without]
  | overlay => rfl
  | uniformGrid =>
    simp only [update, UniformGrid.update, ← Style.without_merge, UniformGrid.panel_without]

def Operation.without (hidden : List Property) : Operation → Operation
  | update old changed => update (old.without hidden) (changed.without hidden)
  | op => op

def Step.without (hidden : List Property) (s : Step) : Step :=
  ⟨s.context, s.operation.without hidden⟩

theorem outcome_without (k : LayoutKind) (c : Container) (s : Step) :
    k.outcome c (s.without decorations) = k.outcome c s := by
  obtain ⟨ctx, op⟩ := s
  cases op with
  | update old changed =>
    exact congrArg (Overlay.outcomeOf c) (k.update_without ctx c old changed)
  | _ => rfl

end LayoutKind

end PanelLayout
