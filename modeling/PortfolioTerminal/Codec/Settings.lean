/-
# Settings in JSON

Settings that are not given take their defaults.
-/
import PortfolioTerminal.Json.Record
import PortfolioTerminal.Json.Text
import PortfolioTerminal.Settings

namespace PortfolioTerminal.Settings

/-- The names of the settings, in order. -/
def fieldNames : List String :=
  ["min_delay_ms", "max_delay_ms", "editor_load_delay_ms", "tour_interval_ms", "seed", "theme"]

/-- The JSON value of settings. -/
def toJson (s : Settings) : Json :=
  .ofFields [
    ("min_delay_ms", .ofNat s.minDelay.toNat), ("max_delay_ms", .ofNat s.maxDelay.toNat),
    ("editor_load_delay_ms", .ofNat s.editorLoadDelay.toNat),
    ("tour_interval_ms", .ofNat s.tourInterval.toNat),
    ("seed", s.seed.elim .null fun seed => .ofNat seed.toNat), ("theme", .ofText s.theme)
  ]

/-- The settings that a JSON value stands for. -/
def ofJson? (j : Json) : Option Settings := do
  let r ← j.record? fieldNames
  let d : Settings := {}
  let minDelay ← r.fieldOr? "min_delay_ms" d.minDelay Json.uint64?
  let maxDelay ← r.fieldOr? "max_delay_ms" d.maxDelay Json.uint64?
  let editorLoadDelay ← r.fieldOr? "editor_load_delay_ms" d.editorLoadDelay Json.uint64?
  let tourInterval ← r.fieldOr? "tour_interval_ms" d.tourInterval Json.uint32?
  let seed ← r.fieldOr? "seed" d.seed (Json.optional? Json.uint64?)
  let theme ← r.fieldOr? "theme" d.theme Json.text?
  return { minDelay, maxDelay, editorLoadDelay, tourInterval, seed, theme }

/-- The settings that a JSON text gives. -/
def ofText? (text : String) : Option Settings := (Json.read? text).bind ofJson?

end PortfolioTerminal.Settings
