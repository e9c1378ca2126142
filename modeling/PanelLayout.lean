import PanelLayout.Alignment.Keyword
import PanelLayout.Canvas.Basic
import PanelLayout.Canvas.Container
import PanelLayout.Container.Basic
import PanelLayout.Container.Config
import PanelLayout.Container.Kind
import PanelLayout.Container.Operation
import PanelLayout.Container.Panel
import PanelLayout.Container.Slot
import PanelLayout.Decoration.Container
import PanelLayout.Decoration.Wrapper
import PanelLayout.Flex.Basic
import PanelLayout.Flex.Container
import PanelLayout.Geometry.Alignment
import PanelLayout.Geometry.Anchors
import PanelLayout.Geometry.Json
import PanelLayout.Geometry.Margin
import PanelLayout.Geometry.Size
import PanelLayout.Grid.Axis
import PanelLayout.Grid.Basic
import PanelLayout.Grid.Container
import PanelLayout.Grid.Line
import PanelLayout.Grid.Placement
import PanelLayout.Grid.Template
import PanelLayout.Grid.Track
import PanelLayout.Host.Basic
import PanelLayout.Json.Basic
import PanelLayout.Json.Decode
import PanelLayout.Json.Describe
import PanelLayout.Json.Printer
import PanelLayout.Json.Reader
import PanelLayout.Json.Token
import PanelLayout.Length.Basic
import PanelLayout.Length.Scan
import PanelLayout.Length.Units
import PanelLayout.Number.Double
import PanelLayout.Number.Numeral
import PanelLayout.Number.Rounding
import PanelLayout.Number.Shortest
import PanelLayout.Number.Single
import PanelLayout.Overlay.Basic
import PanelLayout.Overlay.Container
import PanelLayout.Overlay.Placement
import PanelLayout.Style.Basic
import PanelLayout.Style.Inline
import PanelLayout.Style.Json
import PanelLayout.Style.Property
import PanelLayout.Style.Spacing
import PanelLayout.Style.Translation
import PanelLayout.Style.Value
import PanelLayout.Text.Alphanumeric
import PanelLayout.Text.Blank
import PanelLayout.Text.Extender
import PanelLayout.Text.Fold
import PanelLayout.Text.Ignorable
import PanelLayout.Text.Range
import PanelLayout.Text.Unprintable
import PanelLayout.UniformGrid.Container
import PanelLayout.Proofs.Overlay.Table
import PanelLayout.Proofs.Overlay.Moves
import PanelLayout.Proofs.Overlay.Bookkeeping
import PanelLayout.Proofs.Overlay.Cancellation
import PanelLayout.Proofs.Overlay.Flight
import PanelLayout.Proofs.Overlay.Draining
import PanelLayout.Proofs.Overlay.Checks
import PanelLayout.Proofs.Overlay.Seating
import PanelLayout.Proofs.Overlay.Delivery
import PanelLayout.Proofs.Container.Equations
import PanelLayout.Proofs.Container.Run
import PanelLayout.Proofs.Overlay.Renewal
import PanelLayout.Proofs.Container.Renewal
import PanelLayout.Proofs.Container.Rebuild
import PanelLayout.Proofs.Container.Refusal
import PanelLayout.Proofs.Container.Structure
import PanelLayout.Proofs.Flex.Binding
import PanelLayout.Proofs.Grid.Seats
import PanelLayout.Proofs.Grid.Flow
import PanelLayout.Proofs.Grid.Extent
import PanelLayout.Proofs.Grid.Sharing
import PanelLayout.Proofs.Json.Render
import PanelLayout.Proofs.Style.Names
import PanelLayout.Proofs.Style.RoundTrip
import PanelLayout.Proofs.Decoration.Run
import PanelLayout.Proofs.Decoration.Wrapper
import PanelLayout.Proofs.Decoration.Following
import PanelLayout.Proofs.Decoration.Outermost
import PanelLayout.Proofs.Style.Hiding
import PanelLayout.Proofs.Container.Reading
import PanelLayout.Proofs.Decoration.Separation
import PanelLayout.Proofs.Grid.Lines
import PanelLayout.Proofs.Text.Pieces
import PanelLayout.Proofs.Grid.Sides
import PanelLayout.Proofs.Grid.Areas
import PanelLayout.Proofs.Length.Scan
import PanelLayout.Proofs.Grid.FontSize
import PanelLayout.Proofs.Text.Words
import PanelLayout.Proofs.Alignment.BothAxes
import PanelLayout.Proofs.Flex.Flow
import PanelLayout.Proofs.Length.List
import PanelLayout.Proofs.Style.Shorthands
import PanelLayout.Proofs.Grid.Tokens
import PanelLayout.Proofs.Grid.Fills
import PanelLayout.Proofs.Length.Grammar
import PanelLayout.Proofs.Style.Transform
import PanelLayout.Proofs.Style.Inline
import PanelLayout.Proofs.Length.Numbers
import PanelLayout.Proofs.Style.InlineLengths
import PanelLayout.Proofs.Grid.LineNumbers
import PanelLayout.Proofs.Canvas.Modes
import PanelLayout.Proofs.Number.NotANumber
import PanelLayout.Proofs.Canvas.Pivot
import PanelLayout.Proofs.Grid.TopLevel
import PanelLayout.Proofs.Overlay.Axes
import PanelLayout.Proofs.Style.PixelShorthands
import PanelLayout.Proofs.Decoration.AspectRatio
