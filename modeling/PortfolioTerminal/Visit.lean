/-
# Visits

A visit is a shell in use: the operations that it is asked for, one after the other, and the pending
commands that it handed out and that nobody has completed, cancelled or dropped yet.  As with the
shell, a name without `M` is for visits in which nothing is checked.
-/
import PortfolioTerminal.Shell

namespace PortfolioTerminal

/-- What an operation tells its caller. -/
inductive Answer
  | nothing
  | flag (value : Bool)
  | submitted (result : Except Failure Pending)
  | pressed (pending : Option Pending)
  | completed (result : Completed)
  | ran (result : Except Failure Completed)
  | visited (place : Option Section)
  | opened (result : Except Failure Section)
  /-- There is no such pending command. -/
  | nothingPending

/-- A public operation of the shell; a pending command is named by its place among those
outstanding. -/
inductive Operation
  | submit (line : String)
  | complete (which : Nat) (now : CivilTime)
  | cancel (which : Nat)
  | drop (which : Nat)
  | run (line : String) (now : CivilTime)
  | key (k : Key)
  | setInput (text : String)
  | tourTick
  | openFile (file : String)
  | closeEditor
  | saveAndExit
  | finishLoading
  | toggleShellView
  | setTheme (theme : String)
  | toggleCompact
  deriving DecidableEq, Repr

/-- A shell and the pending commands outstanding, oldest first. -/
structure Visit where
  shell : Shell
  outstanding : List Pending := []

/-- A visit after an operation, what the operation answered, and the notices it gave. -/
structure VisitReply where
  visit : Visit
  answer : Answer
  notices : List Notice

namespace Visit

variable {m : Type → Type} [Monad m] [Checks m]

/-- A visit to a fresh shell. -/
def startM (settings : Settings) (chance : Chance) : m Visit := do
  pure ⟨← Shell.startM settings chance, []⟩

/-- The visit after an operation that hands out and takes back no pending command. -/
def after {α : Type} (v : Visit) (reply : Reply α) (answer : α → Answer) : VisitReply :=
  ⟨{ v with shell := reply.shell }, answer reply.answer, reply.notices⟩

/-- The visit after an operation that answers nothing and gives no notice. -/
def quietly (v : Visit) (shell : Shell) : VisitReply := ⟨{ v with shell }, .nothing, []⟩

/-- The visit with one more pending command outstanding, if one was handed out. -/
def handOut (v : Visit) (pending : Option Pending) : Visit :=
  { v with outstanding := v.outstanding ++ pending.toList }

/-- The visit with the pending command at that place taken back. -/
def takeBack (v : Visit) (which : Nat) : Visit :=
  { v with outstanding := v.outstanding.eraseIdx which }

/-- What is done with the pending command at that place, if there is one. -/
def withPendingM (v : Visit) (which : Nat) (use : Visit → Pending → m VisitReply) : m VisitReply :=
  match v.outstanding[which]? with
  | none => pure ⟨v, .nothingPending, []⟩
  | some pending => use (v.takeBack which) pending

/-- The visit after an operation. -/
def performM (v : Visit) : Operation → m VisitReply
  | .submit line => do
    let r ← v.shell.submitM line
    pure ⟨{ v with shell := r.shell }.handOut r.answer.toOption, .submitted r.answer, r.notices⟩
  | .complete which now =>
    v.withPendingM which fun v pending => do
      pure (v.after (← v.shell.completeM pending now) .completed)
  | .cancel which =>
    v.withPendingM which fun v pending => pure (v.quietly (v.shell.cancel pending))
  | .drop which => pure ⟨v.takeBack which, .nothing, []⟩
  | .run line now => do pure (v.after (← v.shell.runM line now) .ran)
  | .key k => do
    let r ← v.shell.keyM k
    pure ⟨{ v with shell := r.shell }.handOut r.answer, .pressed r.answer, r.notices⟩
  | .setInput text => pure (v.quietly (v.shell.setInput text))
  | .tourTick => do pure (v.after (← v.shell.tourTickM) .visited)
  | .openFile file => pure (v.after (v.shell.openFile file) .opened)
  | .closeEditor => pure (v.after v.shell.closeEditor .flag)
  | .saveAndExit => pure (v.after v.shell.saveAndExit .flag)
  | .finishLoading => pure (v.quietly v.shell.finishLoading)
  | .toggleShellView => pure (v.after v.shell.toggleShellView .flag)
  | .setTheme theme => pure (v.quietly (v.shell.setTheme theme))
  | .toggleCompact => pure (v.after v.shell.toggleCompact .flag)

/-- The visit after a sequence of operations, and what they answer. -/
def performAllM (v : Visit) : List Operation → m (Visit × List Answer)
  | [] => pure (v, [])
  | op :: ops => do
    let r ← v.performM op
    let (v, answers) ← r.visit.performAllM ops
    pure (v, r.answer :: answers)

/-- A whole run, from a fresh shell on. -/
def runM (settings : Settings) (chance : Chance) (ops : List Operation) :
    m (Visit × List Answer) := do
  let v ← startM settings chance
  v.performAllM ops

/-! ## Unchecked -/

/-- A visit to a fresh shell. -/
def start (settings : Settings) (chance : Chance) : Visit := Id.run (startM settings chance)

/-- The visit after an operation. -/
def perform (v : Visit) (op : Operation) : VisitReply := Id.run (v.performM op)

/-- The visit after a sequence of operations. -/
def performAll (v : Visit) (ops : List Operation) : Visit := (Id.run (v.performAllM ops)).1

/-! ## Small laws -/

theorem outstanding_start (settings : Settings) (chance : Chance) :
    (start settings chance).outstanding = [] := rfl

theorem perform_submit (v : Visit) (line : String) :
    v.perform (.submit line) =
      let r := v.shell.submit line
      ⟨{ v with shell := r.shell }.handOut r.answer.toOption, .submitted r.answer, r.notices⟩ := rfl

theorem perform_complete_of_none {v : Visit} {which : Nat} (h : v.outstanding[which]? = none)
    (now : CivilTime) : v.perform (.complete which now) = ⟨v, .nothingPending, []⟩ := by
  rw [perform, performM, withPendingM, h]
  rfl

theorem perform_complete_of_some {v : Visit} {which : Nat} {p : Pending}
    (h : v.outstanding[which]? = some p) (now : CivilTime) :
    v.perform (.complete which now) =
      (v.takeBack which).after (v.shell.complete p now) .completed := by
  rw [perform, performM, withPendingM, h]
  rfl

theorem perform_cancel_of_none {v : Visit} {which : Nat} (h : v.outstanding[which]? = none) :
    v.perform (.cancel which) = ⟨v, .nothingPending, []⟩ := by
  rw [perform, performM, withPendingM, h]
  rfl

theorem perform_cancel_of_some {v : Visit} {which : Nat} {p : Pending}
    (h : v.outstanding[which]? = some p) :
    v.perform (.cancel which) = (v.takeBack which).quietly (v.shell.cancel p) := by
  rw [perform, performM, withPendingM, h]
  rfl

theorem perform_run (v : Visit) (line : String) (now : CivilTime) :
    v.perform (.run line now) = v.after (v.shell.run line now) .ran := rfl

theorem perform_key (v : Visit) (k : Key) :
    v.perform (.key k) =
      let r := v.shell.key k
      ⟨{ v with shell := r.shell }.handOut r.answer, .pressed r.answer, r.notices⟩ := rfl

theorem perform_tourTick (v : Visit) :
    v.perform .tourTick = v.after v.shell.tourTick .visited := rfl

@[simp] theorem performAll_nil (v : Visit) : v.performAll [] = v := rfl

@[simp] theorem performAll_cons (v : Visit) (op : Operation) (ops : List Operation) :
    v.performAll (op :: ops) = (v.perform op).visit.performAll ops := rfl

theorem performAll_append (v : Visit) (before after : List Operation) :
    v.performAll (before ++ after) = (v.performAll before).performAll after := by
  induction before generalizing v with
  | nil => rfl
  | cons op before ih => rw [List.cons_append, performAll_cons, performAll_cons, ih]

end Visit

end PortfolioTerminal
