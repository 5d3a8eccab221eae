/-
# Firing timers

A site puts a clock and timers around a shell.  A submitted command is completed by a timer when its
delay has passed, an opened editor finishes loading by a timer, and an interval drives the tour.
-/
import PortfolioTerminal.Site.Timeline

namespace PortfolioTerminal

/-! ## The state -/

/-- A shell with its clock and timers. -/
structure Site where
  shell : Shell
  /-- The civil time that `date` prints. -/
  clock : CivilTime
  /-- Milliseconds since the start. -/
  now : Nat
  timeline : Timeline
  /-- The interval that drives the tour, if there is one. -/
  tour : Option Nat
  /-- How many intervals were made so far; the next one gets this number. -/
  intervals : Nat

namespace Site

/-- A site around a fresh shell. -/
def start (settings : Settings) (chance : Chance) (clock : CivilTime) : Site :=
  ⟨Shell.start settings chance, clock, 0, [], none, 0⟩

/-! ## Timers -/

/-- The longest delay that a timer can have; longer ones are cut to it. -/
def longestDelay : Nat := UInt32.size - 1

/-- Makes a timer that fires after a delay. -/
def schedule (s : Site) (delay : Nat) (task : Task) : Site :=
  { s with timeline := s.timeline.add ⟨s.now + delay, task⟩ }

/-- Makes the timer that completes a pending command. -/
def await (s : Site) (pending : Pending) : Site :=
  s.schedule (min pending.delay longestDelay) (.complete pending)

/-- Makes the timer that ends the loading of what the editor shows. -/
def loadEditor (s : Site) : Site :=
  s.schedule (min s.shell.settings.editorLoadDelay.toNat longestDelay) .finishLoading

/-- Makes the timer for the next occurrence of an interval of the tour. -/
def awaitStop (s : Site) (interval : Nat) : Site :=
  s.schedule s.shell.settings.tourInterval.toNat (.tourStop interval)

/-- Drops the interval that drives the tour, and its timer with it. -/
def dropTour (s : Site) : Site :=
  { s with timeline := s.tour.elim s.timeline s.timeline.cancel, tour := none }

/-- Drives the tour by a new interval, which replaces the one before. -/
def startTour (s : Site) : Site :=
  { s.dropTour with tour := some s.intervals, intervals := s.intervals + 1 }.awaitStop s.intervals

/-! ## Firing -/

/-- Starts the timers that the effect of a completed command needs. -/
def follow (s : Site) : Option Effect → Site
  | some .startTour => s.startTour
  | some (.goTo _) | some (.openEditor _) => s.loadEditor
  | some .clearHistory | some (.changeDirectory _) | none => s

/-- Ends an occurrence of an interval: the interval is dropped if the tour is over, and fires again
if it still drives the tour. -/
def rearm (s : Site) (interval : Nat) : Site :=
  if s.shell.tour.isNone then s.dropTour
  else if s.tour = some interval then s.awaitStop interval
  else s

/-- Carries out a task. -/
def carryOut (s : Site) : Task → Site × List Notice
  | .complete pending =>
    let done := s.shell.complete pending s.clock
    ({ s with shell := done.shell }.follow done.answer.effect, done.notices)
  | .finishLoading => ({ s with shell := s.shell.finishLoading }, [])
  | .tourStop interval =>
    let tick := s.shell.tourTick
    ({ s with shell := tick.shell }.loadEditor.rearm interval, tick.notices)

/-- Fires the timer `t`, which leaves the timers `later`: the clock moves to it, and its task is
carried out. -/
def fire (s : Site) (t : Timer) (later : Timeline) : Site × List Notice :=
  { s with now := t.due, timeline := later }.carryOut t.task

/-- Fires the first timer, if there is one. -/
def fireNext? (s : Site) : Option (Site × List Notice) :=
  match s.timeline with
  | [] => none
  | t :: later => some (s.fire t later)

end Site

end PortfolioTerminal
