/-
# The vocabulary

The words that the terminal understands as commands, in the order in which they are listed.
-/
import PortfolioTerminal.Section

namespace PortfolioTerminal

/-! ## Groups of verbs -/

/-- A verb that opens the editor. -/
inductive Editor
  | edit
  | nano
  | vim
  deriving DecidableEq, Repr

/-- A topic that a read-only command reports on. -/
inductive Topic
  | help
  | social
  | whoami
  | date
  | history
  | pwd
  deriving DecidableEq, Repr

/-- A command that is there for decoration. -/
inductive Decoration
  | coffee
  | joke
  | launchPortfolio
  | portfolio3d
  | exit
  deriving DecidableEq, Repr

/-- The word for an editor. -/
def Editor.name : Editor → String
  | edit => "edit"
  | nano => "nano"
  | vim => "vim"

/-- The word for a topic. -/
def Topic.name : Topic → String
  | help => "help"
  | social => "social"
  | whoami => "whoami"
  | date => "date"
  | history => "history"
  | pwd => "pwd"

/-- The word for a decoration. -/
def Decoration.name : Decoration → String
  | coffee => "coffee"
  | joke => "joke"
  | launchPortfolio => "launch_portfolio"
  | portfolio3d => "3d_portfolio"
  | exit => "exit"

/-! ## Verbs -/

/-- The first word of a command that the terminal understands. -/
inductive Verb
  | clear
  | goTo (target : Section)
  | edit (editor : Editor)
  | info (topic : Topic)
  | ls
  | cd
  | cat
  | echo
  | man
  | decoration (d : Decoration)
  deriving DecidableEq, Repr

namespace Verb

/-- Every verb, in the order of the vocabulary. -/
def all : List Verb :=
  clear :: Section.all.map goTo ++
    [Editor.edit, .nano, .vim].map edit ++
    [Topic.help, .social, .whoami, .date, .history, .pwd].map info ++
    [ls, cd, cat, echo, man] ++
    [Decoration.coffee, .joke, .launchPortfolio, .portfolio3d, .exit].map decoration

/-- The verb in lower case, as it is matched. -/
def name : Verb → String
  | clear => "clear"
  | goTo target => target.name
  | edit editor => editor.name
  | info topic => topic.name
  | ls => "ls"
  | cd => "cd"
  | cat => "cat"
  | echo => "echo"
  | man => "man"
  | decoration d => d.name

/-- The names of all verbs, in the order of the vocabulary. -/
def names : List String := all.map name

/-- The verb of exactly that name. -/
def ofName? (name : String) : Option Verb := all.find? fun v => v.name == name

/-! ## The list is complete -/

@[simp] theorem mem_all (v : Verb) : v ∈ all := by
  cases v with
  | goTo s => cases s <;> decide
  | edit e => cases e <;> decide
  | info t => cases t <;> decide
  | decoration d => cases d <;> decide
  | _ => decide

theorem names_nodup : names.Nodup := by decide

end Verb

end PortfolioTerminal
