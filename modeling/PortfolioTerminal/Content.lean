/-
# Content of the portfolio

The fixed texts that the terminal shows: who the portfolio belongs to, the art, and what the
decorative commands draw from.
-/
import PortfolioTerminal.Output

namespace PortfolioTerminal.Content

/-! ## Identity -/

/-- The name of the application. -/
def appName : String := "termfolio"

/-- The version of the application. -/
def appVersion : String := "0.1.0"

/-- The host named in the prompt. -/
def hostName : String := "portfolio"

/-- The user named in the prompt. -/
def userName : String := "guest"

/-- The owner of the portfolio. -/
def ownerName : String := "Alex Morgan"

/-- The line under the banner. -/
def tagline : String := "Software Engineer | Systems | Data Platforms | Tooling"

/-! ## Art and texts -/

/-- A text of whole lines. -/
def ofLines (lines : List String) : String := String.join (lines.map (· ++ "\n"))

/-- The banner at the top of the terminal. -/
def banner : String :=
  ofLines [
    " _                       __       _ _",
    "| |_ ___ _ __ _ __ ___  / _| ___ | (_) ___",
    "| __/ _ \\ '__| '_ ` _ \\| |_ / _ \\| | |/ _ \\",
    "| ||  __/ |  | | | | | |  _| (_) | | | (_) |",
    " \\__\\___|_|  |_| |_| |_|_|  \\___/|_|_|\\___/"
  ]

/-- The card that `whoami` prints. -/
def profile : String :=
  ofLines [
    "+--------------------------------------------+",
    "|  guest@portfolio                           |",
    "|  role    : Software Engineer               |",
    "|  focus   : systems, data platforms, tools  |",
    "|  shell   : termfolio 0.1.0                 |",
    "+--------------------------------------------+"
  ]

/-- The cup that `coffee` prints. -/
def coffee : String :=
  ofLines [
    "      ( (",
    "       ) )",
    "    ........",
    "    |      |]",
    "    \\      /",
    "     `----'"
  ]

/-- The text of the file `about.txt`. -/
def about : String :=
  ofLines [
    "Hi, I'm Alex.",
    "",
    "I build software that sits between research prototypes and production",
    "systems. Most of my recent work is on data platforms for university",
    "partners and internal tooling for large organisations.",
    "",
    "Outside of work I write about systems programming, tinker with",
    "terminals, and drink far too much coffee.",
    "",
    "Type 'projects' to see what I've been working on."
  ]

/-! ## Links and jokes -/

/-- The links that `social` prints. -/
def socialLinks : List Link :=
  [
    ⟨"GitHub", "https://github.com/alexmorgan"⟩,
    ⟨"LinkedIn", "https://linkedin.com/in/alexmorgan"⟩,
    ⟨"X", "https://x.com/alexmorgan"⟩,
    ⟨"Email", "mailto:hello@alexmorgan.dev"⟩
  ]

/-- The target of `3d_portfolio`. -/
def portfolio3dUrl : String := "/3d"

/-- The jokes that `joke` draws from. -/
def jokes : List String :=
  [
    "There are 10 kinds of people: those who understand binary and those who don't.",
    "A SQL query walks into a bar, walks up to two tables and asks: 'Can I join you?'",
    "Why do programmers prefer dark mode? Because light attracts bugs.",
    "I would tell you a UDP joke, but you might not get it.",
    "It works on my machine. Then we'll ship your machine.",
    "Real programmers count from 0."
  ]

end PortfolioTerminal.Content
