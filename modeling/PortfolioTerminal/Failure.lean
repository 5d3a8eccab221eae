/-
# Failures

What can go wrong with a submitted line.  Two failures reject the submission itself; all others are
shown as the output of the command.
-/

namespace PortfolioTerminal

/-- Why a command or a submission failed. -/
inductive Failure
  /-- No command has that verb. -/
  | unknownCommand (verb : String)
  /-- The target file does not exist. -/
  | unknownFile (command target : String)
  /-- The target directory does not exist. -/
  | unknownDirectory (command target : String)
  /-- The target is a file where a directory is needed. -/
  | notADirectory (command target : String)
  /-- The target is a directory where a file is needed. -/
  | isADirectory (command target : String)
  /-- An operand is missing. -/
  | missingArgument (command argument : String)
  /-- The manual has no page of that name. -/
  | noManualEntry (name : String)
  /-- No section has that name. -/
  | unknownSection (name : String)
  /-- Another command is still being processed. -/
  | busy
  /-- The line holds nothing but blanks. -/
  | emptyInput
  deriving DecidableEq, Repr

namespace Failure

/-- The text shown for a failure. -/
def message : Failure → String
  | unknownCommand verb =>
    "command not found: " ++ verb ++ ". Type 'help' for available commands."
  | unknownFile command target => command ++ ": " ++ target ++ ": No such file"
  | unknownDirectory command target => command ++ ": " ++ target ++ ": No such file or directory"
  | notADirectory command target => command ++ ": " ++ target ++ ": Not a directory"
  | isADirectory command target => command ++ ": " ++ target ++ ": Is a directory"
  | missingArgument command argument => command ++ ": missing " ++ argument
  | noManualEntry name => "No manual entry for " ++ name
  | unknownSection name => "unknown section: " ++ name
  | busy => "a command is already running"
  | emptyInput => "nothing to run"

/-- Whether the failure rejects the submission, so that nothing is recorded. -/
def isRejection : Failure → Bool
  | busy | emptyInput => true
  | _ => false

end Failure

end PortfolioTerminal
