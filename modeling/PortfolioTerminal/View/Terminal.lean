/-
# Showing the terminal

The banner, the visible part of the history and the prompt.
-/
import PortfolioTerminal.View.Editor
import PortfolioTerminal.View.Output

namespace PortfolioTerminal.View

/-! ## The prompt -/

/-- A candidate of the suggestion pane. -/
def suggestion (active : Nat) (candidate : String × Nat) : Markup :=
  .saying "span"
    (if candidate.2 = active then "suggestion suggestionActive" else "suggestion") candidate.1

/-- The suggestion pane, while it is open. -/
def suggestions (p : SuggestionPane) : List Markup :=
  if p.visible then
    [.classed "div" "suggestions" (p.candidates.zipIdx.map (suggestion p.active))]
  else []

/-- The field in which the line is typed. -/
def inputField : Markup :=
  .element "input"
    [("type", "text"), ("class", "input"), ("autocomplete", "off"), ("spellcheck", "false")] []

/-- The line with its prompt, and the suggestions below it. -/
def input (promptText : String) (context : Option Shell) : List Markup :=
  inContext context fun s =>
    [.classed "div" "inputWrapper" (
      .classed "div" "line" [.saying "span" "prompt" promptText, inputField] ::
        suggestions s.prompt.pane)]

/-! ## The history -/

/-- The banner. -/
def banner : Markup :=
  .classed "div" "banner" [
    .saying "pre" "ascii glow" Content.banner,
    .saying "div" "tagline" (Content.ownerName ++ " | " ++ Content.tagline),
    .saying "div" "hint" (Content.appName ++ " v" ++ Content.appVersion ++
      ". Type 'help' for available commands.")
  ]

/-- How much is hidden, and the button that switches the compact view over. -/
def viewBar (h : History) : Markup :=
  .classed "div" "viewBar" <|
    (if h.view.hidden > 0 then
      [.saying "span" "hidden" (toString h.view.hidden ++ " earlier entries hidden")]
    else []) ++
    [.saying "button" "compactToggle" (if h.compact then "Show all" else "Compact")]

/-- A completed line and its output. -/
def historyRow (row : HistoryRow) : List Markup :=
  [
    .classed "div" "command" [
      .saying "span" "author glow" (Content.userName ++ "@" ++ Content.hostName),
      .saying "span" "separator" "$ ",
      .plain "span" row.raw
    ],
    output row.output.output
  ]

/-! ## The terminal -/

/-- The terminal; while a command is being processed there is no prompt. -/
def terminal (context : Option Shell) : List Markup :=
  inContext context fun s =>
    [.classed "div" "container" [
      .classed "div" "output"
        (banner :: viewBar s.history :: s.history.view.rows.flatMap historyRow),
      .classed "div" "inputArea"
        (if s.session.processing then [.saying "div" "processing" "processing..."]
        else input s.promptText context)
    ]]

end PortfolioTerminal.View
