import PanelLayout.Json.Decode
import PanelLayout.Json.Printer

/-! The settings of the layout. -/
namespace PanelLayout

structure Config where
  retryDelay : Nat
  /-- The number of size checks, the first included, before an overlay child is given up. -/
  maxAttempts : Nat
  defaultFontSize : Float32
  deriving DecidableEq, Repr

namespace Config

def standard : Config := ⟨100, 10, 16⟩

def fieldNames : List String :=
  ["overlayRetryDelayMs", "overlayMaxAttempts", "defaultFontSize"]

def field? {α : Type} (read : Json → Option α) (default : α) : Option Json → Option α
  | none => some default
  | some j => read j

def ofJson? (j : Json) : Option Config :=
  match j.fields? fieldNames with
  | some [delay, attempts, fontSize] => do
    let delay ← field? (Json.natural? UInt64.size) standard.retryDelay delay
    let attempts ← field? (Json.natural? UInt32.size) standard.maxAttempts attempts
    let fontSize ← field? Json.single? standard.defaultFontSize fontSize
    some ⟨delay, attempts, fontSize⟩
  | _ => none

def ofJsonText? (s : List Char) : Option Config :=
  (Json.ofText? s).bind ofJson?

def toJson (c : Config) : Json :=
  .record [("overlayRetryDelayMs", .ofInt c.retryDelay), ("overlayMaxAttempts", .ofInt c.maxAttempts),
    ("defaultFontSize", .ofSingle c.defaultFontSize)]

def attemptLimit (c : Config) : Nat :=
  max c.maxAttempts 1

end Config

end PanelLayout
