/-
# Commands

A line is read as a verb and its operands.  Reading a line touches no state and never fails: a line
whose verb is not in the vocabulary is an unknown command.
-/
import PortfolioTerminal.Text.Blank
import PortfolioTerminal.Text.Lowercase
import PortfolioTerminal.Verb

namespace PortfolioTerminal

/-! ## Operands -/

/-- A path as it was typed; what it names is found out when the command runs. -/
structure TypedPath where
  text : String
  deriving DecidableEq, Repr

instance : ToString TypedPath := ⟨TypedPath.text⟩

/-- Whether the path was typed as that text. -/
def TypedPath.isText (path : TypedPath) (text : String) : Bool := path.text == text

/-! ## Commands -/

/-- A line that has been read. -/
inductive Command
  | clear
  | goTo (target : Section)
  | edit (editor : Editor) (file : Option String)
  | info (topic : Topic)
  | ls (path : Option TypedPath)
  | cd (path : Option TypedPath)
  | cat (path : Option TypedPath)
  /-- The text after the verb, in its own case. -/
  | echo (text : String)
  | man (name : Option String)
  | decoration (d : Decoration)
  /-- The verb as typed. -/
  | unknown (verb : String)
  deriving DecidableEq, Repr

/-- The command of a verb whose operands are the text `rest`. -/
def Verb.command (rest : List Char) : Verb → Command
  | .clear => .clear
  | .goTo target => .goTo target
  | .edit editor => .edit editor (Text.firstWord? rest)
  | .info topic => .info topic
  | .ls => .ls ((Text.firstWord? rest).map TypedPath.mk)
  | .cd => .cd ((Text.firstWord? rest).map TypedPath.mk)
  | .cat => .cat ((Text.firstWord? rest).map TypedPath.mk)
  | .echo => .echo (String.ofList rest)
  | .man => .man (Text.firstWord? rest)
  | .decoration d => .decoration d

namespace Command

/-- Reads a line.  The verb counts in lower case; operands keep the case of their letters. -/
def parse (line : String) : Command :=
  let text := Text.trim line.toList
  let verb := String.ofList (Text.leadingWord text)
  match Verb.ofName? (Text.lowercase verb) with
  | some v => v.command (Text.afterLeadingWord text)
  | none => .unknown verb

/-- Whether the command is one that the terminal does not know. -/
def isUnknown : Command → Bool
  | unknown _ => true
  | _ => false

end Command

end PortfolioTerminal
