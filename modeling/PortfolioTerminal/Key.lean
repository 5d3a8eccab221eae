/-
# Keys

The keys that the prompt reacts to.
-/

namespace PortfolioTerminal

/-- A key as the prompt sees it. -/
inductive Key
  | enter
  | arrowUp
  | arrowDown
  | arrowLeft
  | arrowRight
  | tab
  | escape
  /-- Control and C, which discards the line. -/
  | ctrlC
  /-- Control and L, which clears the screen. -/
  | ctrlL
  | other
  deriving DecidableEq, Repr

namespace Key

/-- The key of a keyboard event, from the key value of the event and the state of the control
key. -/
def ofEvent (value : String) (ctrl : Bool) : Key :=
  if ctrl && (value == "c" || value == "C") then ctrlC
  else if ctrl && (value == "l" || value == "L") then ctrlL
  else
    match value with
    | "Enter" => enter
    | "ArrowUp" => arrowUp
    | "ArrowDown" => arrowDown
    | "ArrowLeft" => arrowLeft
    | "ArrowRight" => arrowRight
    | "Tab" => tab
    | "Escape" => escape
    | _ => other

/-- Whether the prompt reacts to the key at all. -/
def isHandled : Key → Bool
  | other => false
  | _ => true

end Key

end PortfolioTerminal
