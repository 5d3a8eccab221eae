/-
# Sections

The portfolio has seven sections.  Each has a name, which is also the command that goes there, and
a file, which is what the editor shows for it.
-/
import PortfolioTerminal.Failure
import PortfolioTerminal.Fault
import PortfolioTerminal.Text.Letters

namespace PortfolioTerminal

/-- A content page of the portfolio. -/
inductive Section
  | home
  | about
  | skills
  | projects
  | contact
  | files
  | blog
  deriving DecidableEq, Repr, Inhabited

namespace Section

/-- Every section, in navigation order. -/
def all : List Section := [home, about, skills, projects, contact, files, blog]

/-- The command that goes to the section. -/
def name : Section → String
  | home => "home"
  | about => "about"
  | skills => "skills"
  | projects => "projects"
  | contact => "contact"
  | files => "files"
  | blog => "blog"

/-- The file that the editor shows for the section. -/
def fileName : Section → String
  | home => "home.sh"
  | about => "about.md"
  | skills => "skills.json"
  | projects => "projects.js"
  | contact => "contact.html"
  | files => "files.txt"
  | blog => "blog.txt"

/-- The section of that name, in any case of its letters. -/
def ofName? (name : String) : Option Section :=
  all.find? fun s => Text.sameLetters s.name name

/-- The section of that name, or the failure that says there is none. -/
def parse (name : String) : Except Failure Section :=
  (ofName? name).elim (.error (.unknownSection name)) .ok

/-- The section of that file name, in any case of its letters. -/
def ofFileName? (file : String) : Option Section :=
  all.find? fun s => Text.sameLetters s.fileName file

/-- The next section in navigation order; the first one follows the last. -/
def nextM {m : Type → Type} [Monad m] [Checks m] (s : Section) : m Section := do
  let index := (all.findIdx? (· == s)).getD 0
  let following ← Fault.remainder (index + 1) all.length
  Fault.item all following.toNat home

/-- The next section, where nothing is checked. -/
def next (s : Section) : Section := Id.run s.nextM

/-! ## The list is complete -/

@[simp] theorem mem_all (s : Section) : s ∈ all := by cases s <;> decide

theorem all_nodup : all.Nodup := by decide

end Section

end PortfolioTerminal
