/-
# Why firing ends

A completion is never started by a timer, so their number goes down.  Between completions, what the
other timers can still cause goes down: a stop of the tour starts one loading timer and moves the
tour one section on.
-/
import PortfolioTerminal.Site.Firing

namespace PortfolioTerminal.Site

/-! ## Weights -/

/-- How many sections a tour has yet to visit. -/
def stopsLeft : Option Section → Nat
  | none => 0
  | some .home => 7
  | some .about => 6
  | some .skills => 5
  | some .projects => 4
  | some .contact => 3
  | some .files => 2
  | some .blog => 1

/-- One for a completion. -/
def completionWeight : Task → Nat
  | .complete _ => 1
  | _ => 0

/-- How many timers a task can still cause to fire, itself included. -/
def taskWeight (tour : Option Section) : Task → Nat
  | .complete _ => 0
  | .finishLoading => 1
  | .tourStop _ => 2 * stopsLeft tour + 2

theorem taskWeight_mono {tour tour' : Option Section} (h : stopsLeft tour ≤ stopsLeft tour')
    (task : Task) : taskWeight tour task ≤ taskWeight tour' task := by
  cases task with
  | tourStop _ => simp only [taskWeight]; omega
  | _ => exact Nat.le_refl _

/-- The number of completions ahead. -/
def completionsAhead (s : Site) : Nat := s.timeline.total completionWeight

/-- The number of other timers ahead, those yet to be made included. -/
def timersAhead (s : Site) : Nat := s.timeline.total (taskWeight s.shell.tour)

@[simp] theorem timeline_schedule (s : Site) (delay : Nat) (task : Task) :
    (s.schedule delay task).timeline = s.timeline.add ⟨s.now + delay, task⟩ := rfl

@[simp] theorem shell_schedule (s : Site) (delay : Nat) (task : Task) :
    (s.schedule delay task).shell = s.shell := rfl

@[simp] theorem tour_schedule (s : Site) (delay : Nat) (task : Task) :
    (s.schedule delay task).tour = s.tour := rfl

@[simp] theorem shell_dropTour (s : Site) : s.dropTour.shell = s.shell := rfl

@[simp] theorem tour_dropTour (s : Site) : s.dropTour.tour = none := rfl

theorem total_dropTour_le (weight : Task → Nat) (s : Site) :
    s.dropTour.timeline.total weight ≤ s.timeline.total weight := by
  unfold dropTour
  cases s.tour with
  | none => exact Nat.le_refl _
  | some interval => exact Timeline.total_cancel_le weight s.timeline interval

theorem completionsAhead_follow_le (s : Site) (effect : Option Effect) :
    (s.follow effect).completionsAhead ≤ s.completionsAhead := by
  have h := total_dropTour_le completionWeight s
  unfold completionsAhead follow
  split
  · simpa [startTour, awaitStop, completionWeight] using h
  · simp [loadEditor, completionWeight]
  · simp [loadEditor, completionWeight]
  all_goals exact Nat.le_refl _

theorem completionsAhead_rearm_le (s : Site) (interval : Nat) :
    (s.rearm interval).completionsAhead ≤ s.completionsAhead := by
  have h := total_dropTour_le completionWeight s
  unfold completionsAhead rearm
  split
  · exact h
  · split <;> simp [awaitStop, completionWeight]

theorem stopsLeft_tourAfter (here : Section) :
    stopsLeft (some here) = stopsLeft (Shell.tourAfter here) + 1 := by
  cases here <;> rfl

/-- A tick moves a running tour one section on. -/
theorem stopsLeft_tourTick (s : Shell) :
    stopsLeft s.tourTick.shell.tour ≤ stopsLeft s.tour ∧
      (s.tourTick.shell.tour.isSome → stopsLeft s.tour = stopsLeft s.tourTick.shell.tour + 1) := by
  cases h : s.tour with
  | none => simp [Shell.tourTick_of_none h, h]
  | some here =>
    rw [Shell.tourTick_of_some h, stopsLeft_tourAfter here]
    exact ⟨Nat.le_succ _, fun _ => rfl⟩

theorem timersAhead_rearm_le (s : Site) (interval : Nat) :
    (s.rearm interval).timersAhead ≤
      s.timersAhead + if s.shell.tour.isSome then 2 * stopsLeft s.shell.tour + 2 else 0 := by
  have h := total_dropTour_le (taskWeight s.shell.tour) s
  unfold timersAhead rearm
  cases ht : s.shell.tour with
  | none =>
    rw [ht] at h
    simpa [ht] using h
  | some here =>
    simp only [Option.isNone_some, Option.isSome_some, Bool.false_eq_true, if_false, if_true]
    split
    · simp only [awaitStop, timeline_schedule, shell_schedule, Timeline.total_add, ht, taskWeight]
      omega
    · rw [ht]
      omega

/-- A task leaves fewer completions ahead than with it there were, or as many and fewer other
timers. -/
theorem ahead_carryOut (s : Site) (t : Timer) :
    Prod.Lex (· < ·) (· < ·)
      ((s.carryOut t.task).1.completionsAhead, (s.carryOut t.task).1.timersAhead)
      (completionWeight t.task + s.completionsAhead,
        taskWeight s.shell.tour t.task + s.timersAhead) := by
  rw [Prod.lex_def]
  cases ht : t.task with
  | complete pending =>
    left
    have := completionsAhead_follow_le { s with shell := (s.shell.complete pending s.clock).shell }
      (s.shell.complete pending s.clock).answer.effect
    simp only [completionsAhead, carryOut, completionWeight] at this ⊢
    omega
  | finishLoading =>
    right
    simp [carryOut, completionsAhead, timersAhead, completionWeight, taskWeight,
      Shell.finishLoading]
  | tourStop interval =>
    obtain ⟨hle, hsome⟩ := stopsLeft_tourTick s.shell
    let ticked : Site := { s with shell := s.shell.tourTick.shell }
    have hc := completionsAhead_rearm_le ticked.loadEditor interval
    have hr := timersAhead_rearm_le ticked.loadEditor interval
    have hw : s.timeline.total (taskWeight ticked.shell.tour) ≤
        s.timeline.total (taskWeight s.shell.tour) :=
      Timeline.total_le_total (taskWeight_mono hle) s.timeline
    have hc' : ticked.loadEditor.completionsAhead = s.completionsAhead := by
      simp [ticked, completionsAhead, loadEditor, completionWeight]
    have hr' : ticked.loadEditor.timersAhead =
        1 + s.timeline.total (taskWeight ticked.shell.tour) := by
      simp [ticked, timersAhead, loadEditor, taskWeight]
    have hlt : (ticked.loadEditor.rearm interval).timersAhead <
        taskWeight s.shell.tour (.tourStop interval) + s.timersAhead := by
      have hshell : ticked.loadEditor.shell = s.shell.tourTick.shell := rfl
      rw [hr', hshell] at hr
      change _ < 2 * stopsLeft s.shell.tour + 2 + s.timeline.total (taskWeight s.shell.tour)
      cases h : s.shell.tourTick.shell.tour.isSome with
      | false => simp only [h, Bool.false_eq_true, if_false] at hr; omega
      | true =>
        have := hsome h
        simp only [h, if_true] at hr
        omega
    simp only [carryOut, completionWeight, Nat.zero_add]
    rcases Nat.lt_or_eq_of_le hc with hc | hc
    · exact Or.inl (hc' ▸ hc)
    · exact Or.inr ⟨hc' ▸ hc, hlt⟩

/-- Firing the first timer leaves fewer completions ahead, or as many and fewer other timers. -/
theorem ahead_fire {s : Site} {t : Timer} {later : Timeline} (h : s.timeline = t :: later) :
    Prod.Lex (· < ·) (· < ·)
      ((s.fire t later).1.completionsAhead, (s.fire t later).1.timersAhead)
      (s.completionsAhead, s.timersAhead) := by
  have hcarry := ahead_carryOut { s with now := t.due, timeline := later } t
  simpa [fire, completionsAhead, timersAhead, h] using hcarry

end PortfolioTerminal.Site
