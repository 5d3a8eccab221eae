/-
# The manual

Every verb has a page: how it is written, a summary of one line, and a description.
-/
import PortfolioTerminal.Verb

namespace PortfolioTerminal

/-- A page of the manual. -/
structure ManualPage where
  verb : Verb
  /-- How the command is written. -/
  synopsis : String
  /-- One line on the command. -/
  summary : String
  /-- What the command does. -/
  description : String
  deriving DecidableEq, Repr

namespace ManualPage

/-- The name of the verb that the page is about. -/
def name (page : ManualPage) : String := page.verb.name

end ManualPage

namespace Manual

/-! ## Pages -/

/-- The summary of a section. -/
def sectionSummary : Section → String
  | .home => "go to the home section"
  | .about => "who I am"
  | .skills => "what I work with"
  | .projects => "things I've built"
  | .contact => "get in touch"
  | .files => "browse documents"
  | .blog => "read the blog"

/-- What the page of a section calls the section. -/
def sectionNoun : Section → String
  | .home => "landing page"
  | s => s.name ++ " section"

/-- The page of a command that goes to a section. -/
def sectionPage (s : Section) : ManualPage :=
  ⟨.goTo s, s.name, sectionSummary s,
    "Show the " ++ sectionNoun s ++ ". Opens " ++ s.fileName ++
      " in the editor while the shell is visible."⟩

/-- The page of an editor; `nano` and `vim` are other names for `edit`. -/
def editorPage (e : Editor) : ManualPage :=
  ⟨.edit e, e.name ++ " <file>", "open a section file",
    match e with
    | .edit =>
      "Open a section file (" ++ ", ".intercalate (Section.all.map Section.fileName) ++
        ") in the editor overlay."
    | .nano | .vim => "Alias of edit."⟩

/-- The page of a topic. -/
def topicPage (t : Topic) : ManualPage :=
  match t with
  | .help => ⟨.info t, t.name, "list available commands",
      "Print every command with a one-line summary."⟩
  | .social => ⟨.info t, t.name, "social links", "Print links to social profiles."⟩
  | .whoami => ⟨.info t, t.name, "print the profile card",
      "Print a short profile of the site owner."⟩
  | .date => ⟨.info t, t.name, "print the current date",
      "Print the current local date and time."⟩
  | .history => ⟨.info t, t.name, "list previous commands",
      "Print every command of this session, numbered from 1."⟩
  | .pwd => ⟨.info t, t.name, "print working directory",
      "Print the absolute path of the working directory."⟩

/-- The page of a decoration. -/
def decorationPage (d : Decoration) : ManualPage :=
  match d with
  | .coffee => ⟨.decoration d, d.name, "take a break", "Brew a virtual cup of coffee."⟩
  | .joke => ⟨.decoration d, d.name, "tell a joke", "Print a random programming joke."⟩
  | .launchPortfolio => ⟨.decoration d, d.name, "take the tour",
      "Visit every section in turn, one every few seconds, then stop."⟩
  | .portfolio3d => ⟨.decoration d, d.name, "open the 3D portfolio",
      "Print a link to the 3D version of the portfolio."⟩
  | .exit => ⟨.decoration d, d.name, "try to leave", "There is no leaving."⟩

/-- The page of a verb. -/
def page : Verb → ManualPage
  | .clear => ⟨.clear, "clear", "clear the terminal", "Erase the command and output history."⟩
  | .goTo s => sectionPage s
  | .edit e => editorPage e
  | .info t => topicPage t
  | .ls => ⟨.ls, "ls [path]", "list directory contents",
      "List the direct children of a directory, the working directory by default. The root " ++
        "also lists the section files."⟩
  | .cd => ⟨.cd, "cd [path|..|/]", "change directory",
      "Change the working directory. '..' moves to the parent, '/' or no argument to the root."⟩
  | .cat => ⟨.cat, "cat <file>", "print file contents",
      "Print a file of the virtual filesystem. Section files are opened with edit instead."⟩
  | .echo => ⟨.echo, "echo <text...>", "print text",
      "Print the rest of the line exactly as typed."⟩
  | .man => ⟨.man, "man <command>", "show a manual page",
      "Show the name, synopsis and description of a command."⟩
  | .decoration d => decorationPage d

@[simp] theorem page_verb (v : Verb) : (page v).verb = v := by
  cases v with
  | info t => cases t <;> rfl
  | decoration d => cases d <;> rfl
  | _ => rfl

/-! ## Looking up -/

/-- Every page, in the order of the vocabulary. -/
def pages : List ManualPage := Verb.all.map page

/-- The page of that name, in any case of its letters. -/
def lookup? (name : String) : Option ManualPage :=
  pages.find? fun p => Text.sameLetters p.name name

end Manual

end PortfolioTerminal
