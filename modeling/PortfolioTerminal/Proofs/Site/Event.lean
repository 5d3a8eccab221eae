/-
# What happens at a site

Three kinds of events happen at a site: the user acts, the first timer fires, and time passes until
the first timer is due.  A run is a sequence of events in any order, and so it stops between any two
timers; letting time pass by `advance` is a run of the last two kinds.

One equation says what an event does.  It moves the clock and takes the timer that fires out of the
timeline, it does at most one operation of a visit to the shell, and it leaves an aftermath: at most
one thing to be done with the timers.  Whatever is proved about runs of a site rests on this
equation and not on the definitions of the actions and of the tasks.
-/
import PortfolioTerminal.Proofs.Shell.Completion
import PortfolioTerminal.Proofs.Visit.Step
import PortfolioTerminal.Site

namespace PortfolioTerminal

namespace Site

/-! ## Events and runs -/

/-- Something that happens at a site. -/
inductive Event
  | act (a : SiteAction)
  /-- The first timer fires, if there is one. -/
  | fire
  /-- Time passes, but no longer than until the first timer is due. -/
  | wait (milliseconds : Nat)
  deriving DecidableEq, Repr

/-- The line that an event runs past the prompt. -/
def Event.line? : Event → Option String
  | .act (.run line) => some line
  | _ => none

/-- Whether the event, if it runs a line, runs the name of a section. -/
def Event.runsNamesOnly (e : Event) : Bool :=
  e.line?.all fun line => Section.all.any (·.name == line)

/-- The name of a section is the command that goes there. -/
theorem Event.exists_parse_eq_goTo {line : String}
    (h : (Event.act (.run line)).runsNamesOnly = true) :
    ∃ target, Command.parse line = .goTo target := by
  obtain ⟨target, -, rfl⟩ : ∃ target ∈ Section.all, target.name = line := by
    simpa [runsNamesOnly, line?] using h
  refine ⟨target, ?_⟩
  cases target <;> decide +kernel

/-- The site after time has passed, but no longer than until the first timer is due. -/
def wait (s : Site) (milliseconds : Nat) : Site :=
  { s with
    now := s.timeline.head?.elim (s.now + milliseconds) fun t => min (s.now + milliseconds) t.due }

/-- The site after an event. -/
def happen (s : Site) : Event → Site
  | .act a => (s.perform a).site
  | .fire => s.fireNext?.elim s Prod.fst
  | .wait milliseconds => s.wait milliseconds

/-- The site after a sequence of events. -/
def happenAll (s : Site) (events : List Event) : Site := events.foldl happen s

@[simp] theorem happenAll_nil (s : Site) : s.happenAll [] = s := rfl

@[simp] theorem happenAll_cons (s : Site) (e : Event) (events : List Event) :
    s.happenAll (e :: events) = (s.happen e).happenAll events := rfl

theorem happenAll_append (s : Site) (before after : List Event) :
    s.happenAll (before ++ after) = (s.happenAll before).happenAll after := by
  simp [happenAll]

theorem happenAll_concat (s : Site) (events : List Event) (e : Event) :
    s.happenAll (events ++ [e]) = (s.happenAll events).happen e := by
  rw [happenAll_append]
  rfl

/-- What every event keeps, every run keeps. -/
theorem invariant_happenAll {P : Site → Prop} (hstep : ∀ s e, P s → P (s.happen e)) {s : Site}
    (h : P s) (events : List Event) : P (s.happenAll events) := by
  induction events generalizing s with
  | nil => exact h
  | cons e events ih => exact ih (hstep s e h)

/-- What a run yields, where an event yields something or nothing. -/
def yields {α : Type} (f : Site → Event → Option α) (s : Site) : List Event → List α
  | [] => []
  | e :: events => (f s e).toList ++ (s.happen e).yields f events

theorem yields_append {α : Type} (f : Site → Event → Option α) (s : Site)
    (before after : List Event) :
    s.yields f (before ++ after) = s.yields f before ++ (s.happenAll before).yields f after := by
  induction before generalizing s with
  | nil => rfl
  | cons e before ih => simp [yields, ih]

theorem yields_concat {α : Type} (f : Site → Event → Option α) (s : Site) (events : List Event)
    (e : Event) :
    s.yields f (events ++ [e]) = s.yields f events ++ (f (s.happenAll events) e).toList := by
  simp [yields_append, yields]

/-- Whether every event of a run is of a kind, in the site in which it happens. -/
def always (f : Site → Event → Bool) (s : Site) : List Event → Bool
  | [] => true
  | e :: events => f s e && (s.happen e).always f events

theorem always_concat (f : Site → Event → Bool) (s : Site) (events : List Event) (e : Event) :
    s.always f (events ++ [e]) = (s.always f events && f (s.happenAll events) e) := by
  induction events generalizing s with
  | nil => simp [always]
  | cons e' events ih => simp [always, ih, Bool.and_assoc]

end Site

/-! ## Events and the shell -/

/-- The command that a task completes. -/
def Task.pending? : Task → Option Pending
  | .complete pending => some pending
  | .finishLoading | .tourStop _ => none

namespace Site

/-- The pending commands that timers will complete. -/
def outstanding (s : Site) : List Pending := s.timeline.filterMap (·.task.pending?)

/-- The shell of a site, and the pending commands that timers will complete, as a visit. -/
def visit (s : Site) : Visit := ⟨s.shell, s.outstanding⟩

end Site

/-- The operation that an action does to the shell. -/
def SiteAction.operation? (s : Site) : SiteAction → Option Operation
  | .key k => some (.key k)
  | .setInput text => some (.setInput text)
  | .openFile file => some (.openFile file)
  | .toggleTheme => some (.setTheme (Site.otherTheme s.shell.session.theme))
  | .toggleShellView => some .toggleShellView
  | .loadEditor => none
  | .run line => some (.run line s.clock)
  | .closeEditor => some .closeEditor
  | .saveAndExit => some .saveAndExit
  | .toggleCompact => some .toggleCompact

/-- The operation that a task does to the shell.  The first timer completes the first of the
outstanding commands. -/
def Task.operation (clock : CivilTime) : Task → Operation
  | .complete _ => .complete 0 clock
  | .finishLoading => .finishLoading
  | .tourStop _ => .tourTick

namespace Site

/-- The operation that an event does to the shell. -/
def operation? (s : Site) : Event → Option Operation
  | .act a => a.operation? s
  | .fire => s.timeline.head?.map fun t => t.task.operation s.clock
  | .wait _ => none

/-- The timer of a command completes it when it fires. -/
theorem completion?_of_head? {s : Site} {t : Timer} {p : Pending}
    (hhead : s.timeline.head? = some t) (ht : t.task = .complete p) :
    s.visit.completion? (t.task.operation s.clock) = some ⟨s.shell, p, s.clock⟩ := by
  obtain ⟨later, hline⟩ := List.head?_eq_some_iff.mp hhead
  simp [ht, Task.operation, Visit.completion?, visit, outstanding, hline, Task.pending?]

/-- The site that an event finds: the clock has moved on, and the timer that fires is gone. -/
def reached (s : Site) : Event → Site
  | .act _ => s
  | .fire => s.timeline.head?.elim s fun t => { s with now := t.due, timeline := s.timeline.tail }
  | .wait milliseconds => s.wait milliseconds

theorem reached_fire_of_nil {s : Site} (h : s.timeline = []) : s.reached .fire = s := by
  rw [reached, h]
  rfl

theorem reached_fire_of_cons {s : Site} {t : Timer} {later : Timeline}
    (h : s.timeline = t :: later) :
    s.reached .fire = { s with now := t.due, timeline := later } := by
  rw [reached, h]
  rfl

/-- The timer that an event fires. -/
def fired? (s : Site) : Event → Option Timer
  | .fire => s.timeline.head?
  | _ => none

@[simp] theorem fired?_act (s : Site) (a : SiteAction) : s.fired? (.act a) = none := rfl

@[simp] theorem fired?_fire (s : Site) : s.fired? .fire = s.timeline.head? := rfl

@[simp] theorem fired?_wait (s : Site) (milliseconds : Nat) :
    s.fired? (.wait milliseconds) = none := rfl

/-- The timers of a kind are the one that fires, if it is of that kind, and those that the event
finds. -/
theorem filterMap_timeline {β : Type} (f : Timer → Option β) (s : Site) (e : Event) :
    s.timeline.filterMap f =
      ((s.fired? e).bind f).toList ++ (s.reached e).timeline.filterMap f := by
  cases e with
  | fire =>
    cases hline : s.timeline with
    | nil => simp [fired?, hline, reached_fire_of_nil hline]
    | cons t later =>
      rw [reached_fire_of_cons hline]
      simp only [fired?, hline, List.head?_cons, Option.bind_some, List.filterMap_cons]
      cases f t <;> rfl
  | _ => rfl

/-- The clock moves to the timer that fires. -/
theorem now_reached_of_fired? {s : Site} {e : Event} {t : Timer} (h : s.fired? e = some t) :
    (s.reached e).now = t.due := by
  cases e with
  | fire =>
    obtain ⟨later, hline⟩ : ∃ later, s.timeline = t :: later := List.head?_eq_some_iff.mp h
    rw [reached_fire_of_cons hline]
  | _ => simp [fired?] at h

/-! ## What is left to be done with the timers -/

/-- What an event leaves to be done with the timers. -/
inductive Aftermath
  | nothing
  /-- The timer is made that completes the command. -/
  | await (pending : Pending)
  /-- The timer is made that ends the loading of the editor. -/
  | load
  /-- A new interval is made to drive the tour. -/
  | launch
  /-- The interval has fired: the editor loads, and the interval fires again or is dropped. -/
  | stop (interval : Nat)

/-- The site when the aftermath of an event is over. -/
def settle (s : Site) : Aftermath → Site
  | .nothing => s
  | .await pending => s.await pending
  | .load => s.loadEditor
  | .launch => s.startTour
  | .stop interval => s.loadEditor.rearm interval

end Site

/-- What completing a command leaves to be done with the timers. -/
def Command.aftermath (c : Command) : Site.Aftermath :=
  if c = .decoration .launchPortfolio then .launch
  else if c.move?.isSome then .load
  else .nothing

/-- What a task leaves to be done with the timers. -/
def Task.aftermath : Task → Site.Aftermath
  | .complete pending => pending.command.aftermath
  | .finishLoading => .nothing
  | .tourStop interval => .stop interval

namespace Site

/-- What an event leaves to be done with the timers. -/
def aftermath (s : Site) : Event → Aftermath
  | .act (.key k) => (s.shell.key k).answer.elim .nothing .await
  | .act (.openFile file) => if (Section.ofFileName? file).isSome then .load else .nothing
  | .act .toggleShellView => if s.shell.session.shellVisible then .nothing else .load
  | .act .loadEditor => .load
  | .act _ | .wait _ => .nothing
  | .fire => s.timeline.head?.elim .nothing fun t => t.task.aftermath

/-- What the user does makes a completion timer, if a key submits a line, or a load timer, or
none. -/
theorem aftermath_act_cases (s : Site) (a : SiteAction) :
    s.aftermath (.act a) = .nothing ∨ s.aftermath (.act a) = .load ∨
      ∃ k pending, a = .key k ∧ (s.shell.key k).answer = some pending ∧
        s.aftermath (.act a) = .await pending := by
  cases a with
  | key k =>
    rw [aftermath]
    cases h : (s.shell.key k).answer with
    | none => exact .inl rfl
    | some pending => exact .inr (.inr ⟨k, pending, rfl, h, rfl⟩)
  | openFile file =>
    rw [aftermath]
    split
    · exact .inr (.inl rfl)
    · exact .inl rfl
  | toggleShellView =>
    rw [aftermath]
    split
    · exact .inl rfl
    · exact .inr (.inl rfl)
  | loadEditor => exact .inr (.inl rfl)
  | _ => exact .inl rfl

/-- Following the effect of a completed command is what the command leaves to be done. -/
theorem follow_outcome (s : Site) (shell : Shell) (p : Pending) (now : CivilTime) :
    s.follow (shell.outcome p now).effect = s.settle p.command.aftermath := by
  have hmove := shell.move?_effect p now
  have hlaunch : (shell.outcome p now).effect = some .startTour ↔
      p.command = .decoration .launchPortfolio := Command.effect_evaluate_eq_startTour_iff
  by_cases hc : p.command = .decoration .launchPortfolio
  · rw [hlaunch.mpr hc, Command.aftermath, if_pos hc]
    rfl
  · rw [Command.aftermath, if_neg hc, ← hmove]
    have hne : (shell.outcome p now).effect ≠ some .startTour := fun h => hc (hlaunch.mp h)
    -- apart from the start of the tour, the effects to follow are those that move somewhere
    cases he : (shell.outcome p now).effect with
    | none => rfl
    | some effect =>
      cases effect with
      | startTour => exact absurd he hne
      | _ => rfl

/-! ## The equation -/

@[simp] theorem shell_rearm (s : Site) (interval : Nat) : (s.rearm interval).shell = s.shell := by
  unfold rearm
  split
  · rfl
  · split <;> rfl

@[simp] theorem shell_settle (s : Site) (a : Aftermath) : (s.settle a).shell = s.shell := by
  cases a with
  | stop interval => exact shell_rearm _ interval
  | _ => rfl

/-- An event does its operation to the shell. -/
theorem shell_happen (s : Site) (e : Event) :
    (s.happen e).shell =
      (s.operation? e).elim s.shell fun op => (s.visit.perform op).visit.shell := by
  cases e with
  | act a =>
    cases a with
    | key k =>
      simp only [happen, perform, operation?, SiteAction.operation?, Option.elim_some]
      cases (s.shell.key k).answer <;> rfl
    | openFile file =>
      simp only [happen, perform, operation?, SiteAction.operation?, Option.elim_some]
      cases (s.shell.openFile file).answer <;> rfl
    | toggleShellView =>
      simp only [happen, perform, operation?, SiteAction.operation?, Option.elim_some]
      split <;> rfl
    | _ => rfl
  | fire =>
    cases hline : s.timeline with
    | nil => simp [happen, fireNext?, operation?, hline]
    | cons t later =>
      obtain ⟨due, task⟩ := t
      simp only [happen, fireNext?, operation?, hline, fire, Option.elim_some, List.head?_cons,
        Option.map_some]
      cases task with
      | complete p =>
        have hout : s.visit.outstanding[0]? = some p := by
          simp [visit, outstanding, hline, Task.pending?]
        simp only [carryOut, Task.operation, Visit.perform_complete_of_some hout]
        rw [Shell.answer_complete, follow_outcome, shell_settle]
        rfl
      | finishLoading => rfl
      | tourStop interval =>
        simp only [carryOut, shell_rearm]
        rfl
  | wait milliseconds => rfl

/-- The site that an event finds, with the shell that it leaves. -/
def changed (s : Site) (e : Event) : Site := { s.reached e with shell := (s.happen e).shell }

/-- **What an event does**: the site that it finds gets the new shell, and then the aftermath is
settled. -/
theorem happen_eq (s : Site) (e : Event) : s.happen e = (s.changed e).settle (s.aftermath e) := by
  rw [changed]
  cases e with
  | act a =>
    cases a with
    | key k =>
      simp only [happen, perform, aftermath, reached]
      cases (s.shell.key k).answer <;> rfl
    | openFile file =>
      simp only [happen, perform, aftermath, reached, Shell.openFile]
      cases Section.ofFileName? file <;> rfl
    | toggleShellView =>
      simp only [happen, perform, aftermath, reached, Shell.toggleShellView,
        Session.shellVisible_toggleShellView]
      cases s.shell.session.shellVisible <;> rfl
    | _ => rfl
  | fire =>
    cases hline : s.timeline with
    | nil =>
      have hafter : s.aftermath .fire = .nothing := by simp [aftermath, hline]
      have hsame : s.happen .fire = s := by simp [happen, fireNext?, hline]
      rw [reached_fire_of_nil hline, hafter, hsame]
      rfl
    | cons t later =>
      obtain ⟨due, task⟩ := t
      rw [reached_fire_of_cons hline]
      simp only [happen, fireNext?, aftermath, hline, fire, Option.elim_some, List.head?_cons]
      cases task with
      | complete p =>
        simp only [carryOut, Task.aftermath]
        rw [Shell.answer_complete, follow_outcome, shell_settle]
      | finishLoading => rfl
      | tourStop interval =>
        simp only [carryOut, Task.aftermath, shell_rearm, settle]
        rfl
  | wait milliseconds => rfl

/-! ## The clock -/

@[simp] theorem now_schedule (s : Site) (delay : Nat) (task : Task) :
    (s.schedule delay task).now = s.now := rfl

@[simp] theorem now_rearm (s : Site) (interval : Nat) : (s.rearm interval).now = s.now := by
  unfold rearm
  split
  · rfl
  · split <;> rfl

@[simp] theorem now_settle (s : Site) (a : Aftermath) : (s.settle a).now = s.now := by
  cases a with
  | stop interval => exact now_rearm _ interval
  | _ => rfl

/-- The clock is moved before anything else is done. -/
theorem now_happen (s : Site) (e : Event) : (s.happen e).now = (s.reached e).now := by
  rw [happen_eq, now_settle, changed]

/-- Whether the event is one that nobody has to cause. -/
def Event.isPassing : Event → Bool
  | .act _ => false
  | .fire | .wait _ => true

/-- Letting time pass is a run in which nobody acts. -/
theorem exists_advanceTo_eq (s : Site) (deadline : Nat) (h : s.now ≤ deadline) :
    ∃ events, (∀ e ∈ events, e.isPassing = true) ∧
      (s.advanceTo deadline).1 = s.happenAll events ∧ (s.advanceTo deadline).1.now = deadline := by
  fun_induction s.advanceTo deadline with
  | case1 s hline =>
    refine ⟨[.wait (deadline - s.now)], by simp [Event.isPassing], ?_, rfl⟩
    simp [happen, wait, hline, Nat.add_sub_cancel' h]
  | case2 s t later hline hdue fired rest ih =>
    have hfire : s.happen .fire = fired.1 := by simp [happen, fireNext?, hline, fired]
    have hnow : fired.1.now = t.due := by
      rw [← hfire, now_happen, reached_fire_of_cons hline]
    obtain ⟨events, hpassing, hrest, hend⟩ := ih (hnow ▸ hdue)
    refine ⟨.fire :: events, List.forall_mem_cons.mpr ⟨rfl, hpassing⟩, ?_, hend⟩
    rw [happenAll_cons, hfire]
    exact hrest
  | case3 s t later hline hdue =>
    refine ⟨[.wait (deadline - s.now)], by simp [Event.isPassing], ?_, rfl⟩
    have hmin : min deadline t.due = deadline := by omega
    simp [happen, wait, hline, Nat.add_sub_cancel' h, hmin]

end Site

end PortfolioTerminal
