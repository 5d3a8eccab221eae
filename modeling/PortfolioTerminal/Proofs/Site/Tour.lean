/-
# The interval that drives the tour

The shell knows which section the tour visits next, and the site knows the interval whose timer
makes it go there.  A completed `launch_portfolio` starts both anew, a stop moves the tour one
section on, and nothing else touches either; so the two go together, and there is never more than
one interval.

From a launch on, the stops are the sections in their order, one after every tour interval.  There
are seven of them, unless the tour is launched again; and then the interval is a new one, and the
one before makes no more stops.
-/
import PortfolioTerminal.Proofs.Site.Completions
import PortfolioTerminal.Proofs.Visit.Tour

namespace PortfolioTerminal

/-- When a timer of an interval is due, and the interval. -/
def Timer.stop? (t : Timer) : Option (Nat × Nat) :=
  match t.task with
  | .tourStop interval => some (t.due, interval)
  | .complete _ | .finishLoading => none

theorem Timer.stop?_eq_some_iff {t : Timer} {due interval : Nat} :
    t.stop? = some (due, interval) ↔ t = ⟨due, .tourStop interval⟩ := by
  obtain ⟨due', task⟩ := t
  cases task <;> simp [stop?]

namespace Site

variable {s : Site}

/-! ## Intervals and launches -/

/-- The intervals in flight, and when each fires next. -/
def stops (s : Site) : List (Nat × Nat) := s.timeline.filterMap Timer.stop?

/-- The interval that an event fires, and when. -/
def stop? (s : Site) (e : Event) : Option (Nat × Nat) := (s.fired? e).bind Timer.stop?

/-- The interval that an event fires, and the section that is active then. -/
def visited? (s : Site) (e : Event) : Option (Nat × Section) :=
  (s.stop? e).map fun stop => (stop.2, (s.happen e).shell.session.active)

/-- Whether an event completes a `launch_portfolio`. -/
def launches (s : Site) (e : Event) : Bool :=
  (s.completed? e).any (·.command = .decoration .launchPortfolio)

/-- The time between two stops. -/
def stopDelay (s : Site) : Nat := s.shell.settings.tourInterval.toNat

@[simp] theorem stopDelay_happen (s : Site) (e : Event) : (s.happen e).stopDelay = s.stopDelay := by
  rw [stopDelay, settings_happen, stopDelay]

@[simp] theorem stopDelay_happenAll (s : Site) (events : List Event) :
    (s.happenAll events).stopDelay = s.stopDelay := by
  rw [stopDelay, settings_happenAll, stopDelay]

/-- The interval that fires was the first one in flight. -/
theorem stops_eq_stop?_append (s : Site) (e : Event) :
    s.stops = (s.stop? e).toList ++ (s.reached e).stops :=
  filterMap_timeline _ s e

/-- Only the timer of an interval ticks. -/
theorem operation?_eq_tourTick_iff (s : Site) (e : Event) :
    s.operation? e = some .tourTick ↔ (s.stop? e).isSome := by
  cases e with
  | act a => cases a <;> simp [operation?, SiteAction.operation?, stop?]
  | fire =>
    rw [operation?, stop?, fired?_fire]
    cases s.timeline.head? with
    | none => simp
    | some t => cases ht : t.task <;> simp [ht, Task.operation, Timer.stop?]
  | wait milliseconds => simp [operation?, stop?]

/-- A stop moves the tour on, and a launch starts it. -/
theorem tour_happen (s : Site) (e : Event) :
    (s.happen e).shell.tour =
      if (s.stop? e).isSome then s.shell.tour.bind Shell.tourAfter
      else if s.launches e then some .home
      else s.shell.tour := by
  have hlaunches : s.launches e = ((s.operation? e).bind s.visit.completion?).any
      (·.pending.command = .decoration .launchPortfolio) := by
    rw [launches, completed?, Option.any_map]
  rw [shell_happen, hlaunches]
  simp only [← operation?_eq_tourTick_iff]
  cases s.operation? e with
  | none => simp
  | some op =>
    simp only [Option.elim_some, Option.bind_some, Option.some.injEq]
    exact s.visit.tour_perform op

/-- Whether settling an aftermath does anything with the interval. -/
def Aftermath.touchesTour : Aftermath → Bool
  | .launch | .stop _ => true
  | .nothing | .await _ | .load => false

/-- What the user does leaves the interval alone. -/
theorem touchesTour_aftermath_act (s : Site) (a : SiteAction) :
    (s.aftermath (.act a)).touchesTour = false := by
  rcases s.aftermath_act_cases a with ha | ha | ⟨k, pending, -, -, ha⟩
  all_goals
    rw [ha]
    rfl

theorem aftermath_command_eq_launch_iff {c : Command} :
    c.aftermath = .launch ↔ c = .decoration .launchPortfolio := by
  unfold Command.aftermath
  split
  · simp [*]
  · split <;> simp [*]

theorem aftermath_command_ne_stop (c : Command) (interval : Nat) :
    c.aftermath ≠ .stop interval := by
  unfold Command.aftermath
  split
  · simp
  · split <;> simp

/-- A stop is settled after the timer of its interval has fired. -/
theorem aftermath_eq_stop_iff (s : Site) (e : Event) (interval : Nat) :
    s.aftermath e = .stop interval ↔ ∃ due, s.stop? e = some (due, interval) := by
  cases e with
  | act a =>
    have hact := s.touchesTour_aftermath_act a
    cases ha : s.aftermath (.act a) <;> simp_all [Aftermath.touchesTour, stop?]
  | fire =>
    rw [aftermath, stop?, fired?_fire]
    cases s.timeline.head? with
    | none => simp
    | some t =>
      cases ht : t.task <;>
        simp [ht, Task.aftermath, Timer.stop?, aftermath_command_ne_stop]
  | wait milliseconds => simp [aftermath, stop?]

/-- The names of sections do not launch the tour. -/
theorem launches_run_of_runsNamesOnly {line : String}
    (hnames : (Event.act (.run line)).runsNamesOnly = true) :
    s.launches (.act (.run line)) = false := by
  obtain ⟨target, hparse⟩ := Event.exists_parse_eq_goTo hnames
  rw [launches, completed?, Option.any_map, Option.any_eq_false]
  intro c hc
  obtain ⟨-, rfl⟩ := Visit.completion?_run_eq_some_iff.mp hc
  simp [Shell.pendingOf, hparse]

/-- A launch is settled after a `launch_portfolio` was completed. -/
theorem aftermath_eq_launch_iff (s : Site) {e : Event} (hnames : e.runsNamesOnly = true) :
    s.aftermath e = .launch ↔ s.launches e = true := by
  cases e with
  | act a =>
    have hact := s.touchesTour_aftermath_act a
    have haftermath : s.aftermath (.act a) ≠ .launch := by
      intro ha
      simp [ha, Aftermath.touchesTour] at hact
    have hlaunches : s.launches (.act a) = false := by
      cases a with
      | run line => exact launches_run_of_runsNamesOnly hnames
      | _ => rfl
    simp [haftermath, hlaunches]
  | fire =>
    rw [aftermath, launches, completed?_fire, settled?, fired?_fire]
    cases s.timeline.head? with
    | none => simp
    | some t =>
      cases ht : t.task <;>
        simp [ht, Task.aftermath, Task.pending?, aftermath_command_eq_launch_iff]
  | wait milliseconds => simp [aftermath, launches, completed?, operation?]

/-! ## The timers of intervals -/

theorem stops_schedule (h : s.Timed) {delay : Nat} {task : Task}
    (htask : ∀ interval, task ≠ .tourStop interval) : (s.schedule delay task).stops = s.stops := by
  have hnone : Timer.stop? ⟨s.now + delay, task⟩ = none := by
    cases task with
    | tourStop interval => exact absurd rfl (htask interval)
    | _ => rfl
  rw [stops, timeline_schedule, Timeline.filterMap_add h.inOrder (by simp [hnone]), hnone]
  simp [stops]

theorem stops_awaitStop (h : s.Timed) (hnone : s.stops = []) (interval : Nat) :
    (s.awaitStop interval).stops = [(s.now + s.stopDelay, interval)] := by
  have hempty : ∀ u ∈ s.timeline, u.stop? = none := List.filterMap_eq_nil_iff.mp hnone
  have hadd : (s.awaitStop interval).stops =
      s.stops ++ (Timer.stop? ⟨s.now + s.stopDelay, .tourStop interval⟩).toList := by
    refine Timeline.filterMap_add h.inOrder fun _ u hu husome => ?_
    rw [hempty u hu] at husome
    simp at husome
  rw [hadd, hnone]
  rfl

/-- The dropped interval takes its timer along. -/
theorem stops_dropTour (hown : ∀ stop ∈ s.stops, s.tour = some stop.2) : s.dropTour.stops = [] := by
  refine List.filterMap_eq_nil_iff.mpr fun t ht => ?_
  by_contra hne
  obtain ⟨⟨due, interval⟩, hstop⟩ := Option.ne_none_iff_exists'.mp hne
  have hmem : t ∈ s.timeline := s.timeline_dropTour_sublist.subset ht
  have htour : s.tour = some interval :=
    hown (due, interval) (List.mem_filterMap.mpr ⟨t, hmem, hstop⟩)
  rw [dropTour, htour] at ht
  have htask := (Timeline.mem_cancel.mp ht).2
  rw [Timer.stop?_eq_some_iff.mp hstop] at htask
  contradiction

/-! ## The interval and the tour -/

/-- The interval that the site knows is the only one in flight, and there is one while the tour is
on.  New intervals get new numbers. -/
structure Driven (s : Site) : Prop where
  own : s.stops.map Prod.snd = s.tour.toList
  isSome_iff : s.tour.isSome = s.shell.tour.isSome
  lt_intervals : ∀ interval ∈ s.tour, interval < s.intervals

theorem driven_start (settings : Settings) (chance : Chance) (clock : CivilTime) :
    (start settings chance clock).Driven :=
  ⟨rfl, rfl, by simp [start]⟩

/-- What an event does to the tour and its interval. -/
inductive Drives (s : Site) (e : Event) : Prop
  | quiet (launches : s.launches e = false) (visited : s.visited? e = none)
    (shell : (s.happen e).shell.tour = s.shell.tour) (tour : (s.happen e).tour = s.tour)
    (stops : (s.happen e).stops = s.stops) (intervals : (s.happen e).intervals = s.intervals)
  | launch (launches : s.launches e = true) (visited : s.visited? e = none)
    (shell : (s.happen e).shell.tour = some .home) (tour : (s.happen e).tour = some s.intervals)
    (stops : (s.happen e).stops = [((s.happen e).now + s.stopDelay, s.intervals)])
    (intervals : (s.happen e).intervals = s.intervals + 1)
  | stop (here : Section) (interval : Nat) (launches : s.launches e = false)
    (visited : s.visited? e = some (interval, here))
    (before : s.shell.tour = some here ∧ s.tour = some interval ∧
      s.stops = [((s.happen e).now, interval)])
    (shell : (s.happen e).shell.tour = Shell.tourAfter here)
    (tour : (s.happen e).tour = (Shell.tourAfter here).map fun _ => interval)
    (stops : (s.happen e).stops =
      ((Shell.tourAfter here).map fun _ => ((s.happen e).now + s.stopDelay, interval)).toList)
    (intervals : (s.happen e).intervals = s.intervals)

/-- What the event finds is as it was, apart from the timer that fires. -/
theorem tour_changed (s : Site) (e : Event) :
    (s.changed e).tour = s.tour ∧ (s.changed e).intervals = s.intervals ∧
      (s.changed e).stops = (s.reached e).stops ∧ (s.changed e).now = (s.happen e).now ∧
      (s.changed e).stopDelay = s.stopDelay := by
  refine ⟨?_, ?_, rfl, (s.now_happen e).symm, s.stopDelay_happen e⟩
  all_goals
    cases e with
    | fire =>
      cases hline : s.timeline with
      | nil => rw [changed, reached_fire_of_nil hline]
      | cons t later => rw [changed, reached_fire_of_cons hline]
    | _ => rfl

theorem settle_of_not_touchesTour (h : s.Timed) {a : Aftermath} (ha : a.touchesTour = false) :
    (s.settle a).tour = s.tour ∧ (s.settle a).intervals = s.intervals ∧
      (s.settle a).stops = s.stops := by
  cases a with
  | nothing => exact ⟨rfl, rfl, rfl⟩
  | await pending => exact ⟨rfl, rfl, stops_schedule h (by simp)⟩
  | load => exact ⟨rfl, rfl, stops_schedule h (by simp)⟩
  | launch | stop interval => simp [Aftermath.touchesTour] at ha

theorem stops_startTour (h : s.Timed) (hown : ∀ stop ∈ s.stops, s.tour = some stop.2) :
    s.startTour.stops = [(s.now + s.stopDelay, s.intervals)] := by
  have hdropped := h.of_sublist s.timeline_dropTour_sublist (some s.intervals) (s.intervals + 1)
  exact stops_awaitStop hdropped (stops_dropTour hown) s.intervals

/-- When its timer has fired, the interval is dropped if the tour is over, and fires again later if
it is not. -/
theorem rearm_own (h : s.Timed) (hnone : s.stops = []) {interval : Nat}
    (htour : s.tour = some interval) :
    (s.rearm interval).tour = s.shell.tour.map (fun _ => interval) ∧
      (s.rearm interval).intervals = s.intervals ∧
      (s.rearm interval).stops =
        (s.shell.tour.map fun _ => (s.now + s.stopDelay, interval)).toList := by
  rw [rearm]
  cases hs : s.shell.tour with
  | none =>
    refine ⟨rfl, rfl, ?_⟩
    exact stops_dropTour (by simp [hnone])
  | some here =>
    simp only [Option.isNone_some, Bool.false_eq_true, if_false, if_pos htour]
    exact ⟨htour, rfl, stops_awaitStop h hnone interval⟩

/-- An interval that fires is the one that drives the tour, and there is no other one. -/
theorem Driven.of_stop? (hd : s.Driven) {e : Event} {due interval : Nat}
    (hstop : s.stop? e = some (due, interval)) :
    s.stops = [(due, interval)] ∧ (s.reached e).stops = [] ∧ s.tour = some interval ∧
      ∃ here, s.shell.tour = some here := by
  have hown := hd.own
  have hsplit := s.stops_eq_stop?_append e
  rw [hstop, Option.toList_some, List.singleton_append] at hsplit
  rw [hsplit, List.map_cons] at hown
  cases htour : s.tour with
  | none => simp [htour] at hown
  | some j =>
    rw [htour, Option.toList_some, List.cons.injEq, List.map_eq_nil_iff] at hown
    obtain ⟨rfl, hnone⟩ := hown
    have hon : s.shell.tour.isSome = true := by
      rw [← hd.isSome_iff, htour]
      rfl
    exact ⟨by rw [hsplit, hnone], hnone, rfl, Option.isSome_iff_exists.mp hon⟩

theorem operation?_of_stop? {e : Event} {stop : Nat × Nat} (hstop : s.stop? e = some stop) :
    s.operation? e = some .tourTick := by
  rw [operation?_eq_tourTick_iff, hstop, Option.isSome_some]

/-- A stop completes no command. -/
theorem launches_of_stop? {e : Event} {stop : Nat × Nat} (hstop : s.stop? e = some stop) :
    s.launches e = false := by
  simp [launches, completed?, operation?_of_stop? hstop, Visit.completion?]

/-- A stop goes to the section that the tour visits next. -/
theorem visited?_of_stop? {e : Event} {due interval : Nat} {here : Section}
    (hstop : s.stop? e = some (due, interval)) (htour : s.shell.tour = some here) :
    s.visited? e = some (interval, here) := by
  have hmove : s.visit.move? .tourTick = some (.goTo here) := by
    simp [Visit.move?, visit, htour]
  have hactive : (s.happen e).shell.session.active = here := by
    rw [shell_happen, operation?_of_stop? hstop, Option.elim_some,
      (s.visit.session_perform .tourTick).1, hmove, Option.elim_some, Session.active_move]
  rw [visited?, hstop, Option.map_some, hactive]

/-- The clock moves to the stop. -/
theorem now_happen_of_stop? {e : Event} {due interval : Nat}
    (hstop : s.stop? e = some (due, interval)) : (s.happen e).now = due := by
  obtain ⟨t, hfired, ht⟩ := Option.bind_eq_some_iff.mp hstop
  rw [now_happen, now_reached_of_fired? hfired, Timer.stop?_eq_some_iff.mp ht]

theorem Driven.drives_of_stop? (hd : s.Driven) (h : s.Timed) {e : Event} {due interval : Nat}
    (hstop : s.stop? e = some (due, interval)) : s.Drives e := by
  obtain ⟨hstops, hnone, htour, here, hhere⟩ := hd.of_stop? hstop
  obtain ⟨hctour, hcintervals, hcstops, hcnow, hcdelay⟩ := s.tour_changed e
  have hnow := now_happen_of_stop? hstop
  have hshell : (s.happen e).shell.tour = Shell.tourAfter here := by
    simp [tour_happen, hstop, hhere]
  have hchanged : (s.changed e).shell.tour = Shell.tourAfter here := hshell
  -- the editor loads first, which does nothing to the intervals
  have hloaded : (s.changed e).loadEditor.Timed := (h.changed e).loadEditor
  have hloadedStops : (s.changed e).loadEditor.stops = [] := by
    rw [loadEditor, stops_schedule (h.changed e) (by simp), hcstops, hnone]
  have hhappen : s.happen e = (s.changed e).loadEditor.rearm interval := by
    rw [happen_eq, (s.aftermath_eq_stop_iff e interval).mpr ⟨due, hstop⟩, settle]
  obtain ⟨htour', hintervals', hstops'⟩ :=
    rearm_own hloaded hloadedStops (hctour.trans htour : (s.changed e).loadEditor.tour = _)
  rw [← hhappen] at htour' hintervals' hstops'
  refine .stop here interval (launches_of_stop? hstop) (visited?_of_stop? hstop hhere)
    ⟨hhere, htour, by rw [hstops, hnow]⟩ hshell ?_ ?_ (hintervals'.trans hcintervals)
  · rw [htour', loadEditor, shell_schedule, hchanged]
  · rw [hstops', loadEditor, shell_schedule, hchanged, now_schedule, hcnow]
    rw [← hcdelay]
    rfl

/-- If no interval fires, all are still in flight when the event is reached. -/
theorem stops_changed_of_stop?_eq_none {e : Event} (hstop : s.stop? e = none) :
    (s.changed e).stops = s.stops := by
  obtain ⟨-, -, hcstops, -, -⟩ := s.tour_changed e
  rw [hcstops, s.stops_eq_stop?_append e, hstop]
  rfl

theorem Driven.drives_of_launches (hd : s.Driven) (h : s.Timed) {e : Event}
    (hnames : e.runsNamesOnly = true) (hstop : s.stop? e = none) (hl : s.launches e = true) :
    s.Drives e := by
  obtain ⟨hctour, hcintervals, -, hcnow, hcdelay⟩ := s.tour_changed e
  have hhappen : s.happen e = (s.changed e).startTour := by
    rw [happen_eq, (s.aftermath_eq_launch_iff hnames).mpr hl, settle]
  have hown : ∀ stop ∈ (s.changed e).stops, (s.changed e).tour = some stop.2 := by
    intro stop hmem
    rw [stops_changed_of_stop?_eq_none hstop] at hmem
    rw [hctour]
    exact Option.mem_toList.mp (hd.own ▸ List.mem_map_of_mem hmem)
  have hstops := stops_startTour (h.changed e) hown
  rw [← hhappen, hcnow, hcdelay, hcintervals] at hstops
  refine .launch hl (by rw [visited?, hstop, Option.map_none]) ?_ ?_ hstops ?_
  · simp [tour_happen, hstop, hl]
  · rw [hhappen, ← hcintervals]
    rfl
  · rw [hhappen, ← hcintervals]
    rfl

theorem drives_of_quiet (h : s.Timed) {e : Event} (hnames : e.runsNamesOnly = true)
    (hstop : s.stop? e = none) (hl : s.launches e = false) : s.Drives e := by
  obtain ⟨hctour, hcintervals, -, -, -⟩ := s.tour_changed e
  have htouches : (s.aftermath e).touchesTour = false := by
    cases ha : s.aftermath e with
    | launch => simp [(s.aftermath_eq_launch_iff hnames).mp ha] at hl
    | stop interval =>
      obtain ⟨due, hsome⟩ := (s.aftermath_eq_stop_iff e interval).mp ha
      rw [hstop] at hsome
      contradiction
    | _ => rfl
  obtain ⟨htour, hintervals, hstops⟩ := settle_of_not_touchesTour (h.changed e) htouches
  rw [← happen_eq] at htour hintervals hstops
  refine .quiet hl (by rw [visited?, hstop, Option.map_none]) ?_ (htour.trans hctour)
    (hstops.trans (stops_changed_of_stop?_eq_none hstop)) (hintervals.trans hcintervals)
  simp [tour_happen, hstop, hl]

/-- Whatever happens is a stop, a launch, or nothing to the tour. -/
theorem Driven.drives (hd : s.Driven) (h : s.Timed) {e : Event} (hnames : e.runsNamesOnly = true) :
    s.Drives e := by
  cases hstop : s.stop? e with
  | some stop => exact hd.drives_of_stop? h hstop
  | none =>
    cases hl : s.launches e with
    | true => exact hd.drives_of_launches h hnames hstop hl
    | false => exact drives_of_quiet h hnames hstop hl

theorem Driven.happen (hd : s.Driven) (h : s.Timed) {e : Event} (hnames : e.runsNamesOnly = true) :
    (s.happen e).Driven := by
  cases hd.drives h hnames with
  | quiet _ _ hshell htour hstops hintervals =>
    refine ⟨?_, ?_, ?_⟩
    · rw [hstops, htour, hd.own]
    · rw [htour, hshell, hd.isSome_iff]
    · rw [htour, hintervals]
      exact hd.lt_intervals
  | launch _ _ hshell htour hstops hintervals =>
    refine ⟨?_, ?_, ?_⟩
    · rw [hstops, htour]
      rfl
    · rw [htour, hshell]
      rfl
    · rw [htour, hintervals]
      simp
  | stop here interval _ _ hbefore hshell htour hstops hintervals =>
    refine ⟨?_, ?_, ?_⟩
    · rw [hstops, htour]
      cases Shell.tourAfter here <;> rfl
    · rw [htour, hshell, Option.isSome_map]
    · have hlt := hd.lt_intervals interval hbefore.2.1
      rw [htour, hintervals]
      intro j hj
      obtain ⟨-, -, rfl⟩ := Option.map_eq_some_iff.mp hj
      exact hlt

/-! ## Runs -/

variable {events : List Event}

theorem Driven.happenAll (hd : s.Driven) (h : s.Timed)
    (hnames : ∀ e ∈ events, e.runsNamesOnly = true) : (s.happenAll events).Driven := by
  induction events generalizing s with
  | nil => exact hd
  | cons e events ih =>
    obtain ⟨hname, hnames⟩ := List.forall_mem_cons.mp hnames
    exact ih (hd.happen h hname) (h.happen e).1 hnames

/-- The interval there is, and all that are made from now on, have numbers from `n` on. -/
def NumberedFrom (s : Site) (n : Nat) : Prop := n ≤ s.intervals ∧ ∀ interval ∈ s.tour, n ≤ interval

theorem NumberedFrom.happen {n : Nat} (hn : s.NumberedFrom n) {e : Event} (hdrives : s.Drives e) :
    (s.happen e).NumberedFrom n := by
  cases hdrives with
  | quiet _ _ _ htour _ hintervals =>
    rw [NumberedFrom, htour, hintervals]
    exact hn
  | launch _ _ _ htour _ hintervals =>
    rw [NumberedFrom, htour, hintervals]
    exact ⟨hn.1.trans (Nat.le_succ _), by simpa using hn.1⟩
  | stop here interval _ _ hbefore _ htour _ hintervals =>
    rw [NumberedFrom, htour, hintervals]
    refine ⟨hn.1, fun j hj => ?_⟩
    obtain ⟨-, -, rfl⟩ := Option.map_eq_some_iff.mp hj
    exact hn.2 interval hbefore.2.1

theorem NumberedFrom.le_of_visited? {n : Nat} (hn : s.NumberedFrom n) {e : Event}
    (hdrives : s.Drives e) {stop : Nat × Section} (hvisited : s.visited? e = some stop) :
    n ≤ stop.1 := by
  cases hdrives with
  | quiet _ hnone | launch _ hnone =>
    rw [hnone] at hvisited
    contradiction
  | stop here interval _ hsome hbefore =>
    obtain rfl := Option.some.inj (hsome.symm.trans hvisited)
    exact hn.2 interval hbefore.2.1

/-- The intervals that fire from now on are the one there is and those that are made. -/
theorem NumberedFrom.le_of_mem_yields {n : Nat} (hn : s.NumberedFrom n) (hd : s.Driven)
    (h : s.Timed) (hnames : ∀ e ∈ events, e.runsNamesOnly = true) :
    ∀ stop ∈ s.yields visited? events, n ≤ stop.1 := by
  induction events generalizing s with
  | nil => simp [yields]
  | cons e events ih =>
    obtain ⟨hname, hnames⟩ := List.forall_mem_cons.mp hnames
    have hdrives := hd.drives h hname
    intro stop hmem
    rcases List.mem_append.mp hmem with hmem | hmem
    · exact hn.le_of_visited? hdrives (Option.mem_toList.mp hmem)
    · exact ih (hn.happen hdrives) (hd.happen h hname) (h.happen e).1 hnames stop hmem

/-- A tour that was launched at some time has made `k` stops. -/
structure Visiting (s : Site) (launched interval k : Nat) : Prop where
  le_length : k ≤ Section.all.length
  next : s.shell.tour = Section.all[k]?
  tour : s.tour = Section.all[k]?.map fun _ => interval
  stops : s.stops =
    (Section.all[k]?.map fun _ => (launched + (k + 1) * s.stopDelay, interval)).toList

/-- A launched tour visits the sections in order, until it has visited all or is launched again. -/
theorem Visiting.happenAll {launched interval : Nat} (hv : s.Visiting launched interval 0)
    (hd : s.Driven) (h : s.Timed) (hnames : ∀ e ∈ events, e.runsNamesOnly = true)
    (hlaunches : s.always (fun s e => !s.launches e) events = true) :
    ∃ k, (s.happenAll events).Visiting launched interval k ∧
      s.yields visited? events = (Section.all.take k).map fun target => (interval, target) := by
  induction events using List.reverseRecOn with
  | nil => exact ⟨0, hv, rfl⟩
  | append_singleton events e ih =>
    obtain ⟨hbefore, hname⟩ := List.forall_mem_append.mp hnames
    rw [always_concat, Bool.and_eq_true] at hlaunches
    obtain ⟨k, hvisiting, hyields⟩ := ih hbefore hlaunches.1
    have hd' := hd.happenAll h hbefore
    have h' := (h.happenAll events).1
    rw [yields_concat, happenAll_concat, hyields]
    cases hd'.drives h' (hname e (by simp)) with
    | quiet _ hvisited hshell htour hstops _ =>
      refine ⟨k, ⟨hvisiting.le_length, ?_, ?_, ?_⟩, by simp [hvisited]⟩
      · rw [hshell, hvisiting.next]
      · rw [htour, hvisiting.tour]
      · rw [hstops, hvisiting.stops, stopDelay_happen]
    | launch hlaunch => simp [hlaunch] at hlaunches
    | stop here j _ hvisited hon hshell htour hstops _ =>
      obtain ⟨hhere, hj, hdue⟩ := hon
      have hget : Section.all[k]? = some here := hvisiting.next.symm.trans hhere
      have hafter : Shell.tourAfter here = Section.all[k + 1]? := by
        rw [← Shell.getElem?_bind_tourAfter, hget, Option.bind_some]
      -- the stop is the one that was in flight
      obtain rfl : interval = j := by simpa [hvisiting.tour, hget] using hj
      have hnow : ((s.happenAll events).happen e).now = launched + (k + 1) * s.stopDelay := by
        have hstop := hdue.symm.trans hvisiting.stops
        simpa [hget] using hstop
      have hlt : k < Section.all.length := (List.getElem?_eq_some_iff.mp hget).1
      refine ⟨k + 1, ⟨hlt, ?_, ?_, ?_⟩, ?_⟩
      · rw [hshell, hafter]
      · rw [htour, hafter]
      · rw [hstops, hafter, hnow, stopDelay_happen, stopDelay_happenAll]
        have hsum : launched + (k + 1) * s.stopDelay + s.stopDelay =
            launched + (k + 1 + 1) * s.stopDelay := by
          rw [Nat.add_mul (k + 1), Nat.one_mul, Nat.add_assoc]
        rw [hsum]
      · rw [hvisited, List.take_add_one, hget, List.map_append]
        rfl

/-- A launch is the start of a tour by a new interval. -/
theorem visiting_of_launches (hd : s.Driven) (h : s.Timed) {e : Event}
    (hname : e.runsNamesOnly = true) (hlaunch : s.launches e = true) :
    (s.happen e).Visiting (s.happen e).now s.intervals 0 ∧
      (s.happen e).NumberedFrom s.intervals := by
  cases hd.drives h hname with
  | quiet hnone => simp [hlaunch] at hnone
  | launch _ _ hshell htour hstops hintervals =>
    refine ⟨⟨Nat.zero_le _, hshell, htour, ?_⟩, ?_⟩
    · rw [hstops, stopDelay_happen, Nat.zero_add, Nat.one_mul]
      rfl
    · rw [NumberedFrom, htour, hintervals]
      simp
  | stop here interval hnone => simp [hlaunch] at hnone

/-- The tour has come to its end when the tour interval has passed once for every section. -/
theorem Visiting.eq_length {launched interval k : Nat} (hv : s.Visiting launched interval k)
    (h : s.Timed) (hlate : launched + Section.all.length * s.stopDelay < s.now) :
    k = Section.all.length := by
  by_contra hne
  have hk : k < Section.all.length := lt_of_le_of_ne hv.le_length hne
  -- the next stop is still ahead
  have hmem : (launched + (k + 1) * s.stopDelay, interval) ∈ s.stops := by
    rw [hv.stops, List.getElem?_eq_getElem hk]
    simp
  obtain ⟨t, ht, hstop⟩ := List.mem_filterMap.mp hmem
  have hahead := h.ahead t ht
  rw [Timer.stop?_eq_some_iff.mp hstop] at hahead
  have hmul : (k + 1) * s.stopDelay ≤ Section.all.length * s.stopDelay :=
    Nat.mul_le_mul_right _ hk
  have hnow : s.now ≤ launched + Section.all.length * s.stopDelay :=
    hahead.trans (Nat.add_le_add_left hmul launched)
  exact absurd hnow (Nat.not_le.mpr hlate)

/-- After a launch, the interval before it makes no more stops, and the new one visits the sections
until the next launch. -/
theorem Driven.visits_of_launches (hd : s.Driven) (h : s.Timed) {e : Event}
    (hname : e.runsNamesOnly = true) (hlaunch : s.launches e = true)
    (hnames : ∀ e ∈ events, e.runsNamesOnly = true) :
    (∀ stop ∈ s.stops, ∀ later ∈ (s.happen e).yields visited? events, later.1 ≠ stop.2) ∧
      ((s.happen e).always (fun s e => !s.launches e) events = true →
        ∃ interval k, ((s.happen e).happenAll events).Visiting (s.happen e).now interval k ∧
          (s.happen e).yields visited? events =
            (Section.all.take k).map fun target => (interval, target)) := by
  have h' := (h.happen e).1
  have hd' := hd.happen h hname
  obtain ⟨hvisiting, hnumbered⟩ := visiting_of_launches hd h hname hlaunch
  refine ⟨?_, fun hnone => ⟨s.intervals, hvisiting.happenAll hd' h' hnames hnone⟩⟩
  intro stop hstop later hlater
  have hmem : stop.2 ∈ s.tour := Option.mem_toList.mp (hd.own ▸ List.mem_map_of_mem hstop)
  have hlt := hd.lt_intervals _ hmem
  have hle := hnumbered.le_of_mem_yields hd' h' hnames later hlater
  omega

/-- There is one interval or none, according to whether the tour is on. -/
theorem Driven.length_stops (hd : s.Driven) : s.stops.length = s.shell.tour.isSome.toNat := by
  rw [← hd.isSome_iff, ← List.length_map (f := Prod.snd), hd.own]
  cases s.tour <;> rfl

/-- **There is never more than one interval, and there is one exactly while the tour is on.**  After
a launch, the interval before it makes no more stops.  Until the next launch all stops are made by
one interval, they are the first of the sections in order, and all seven of them once seven times
the tour interval has passed. -/
theorem interval_iff_tour_and_visits (settings : Settings) (chance : Chance) (clock : CivilTime)
    (events : List Event) (hnames : ∀ e ∈ events, e.runsNamesOnly = true) :
    let fresh := start settings chance clock
    let s := fresh.happenAll events
    (s.stops.length ≤ 1 ∧ (s.stops.length = 1 ↔ s.shell.tour.isSome = true)) ∧
      ∀ before e after, events = before ++ e :: after →
        (fresh.happenAll before).launches e = true →
        let launched := fresh.happenAll (before ++ [e])
        (∀ stop ∈ (fresh.happenAll before).stops,
          ∀ later ∈ launched.yields visited? after, later.1 ≠ stop.2) ∧
        (launched.always (fun s e => !s.launches e) after = true →
          ∃ interval k, s.Visiting launched.now interval k ∧
            launched.yields visited? after =
              (Section.all.take k).map (fun target => (interval, target)) ∧
            (launched.now + 7 * fresh.stopDelay < s.now → k = 7)) := by
  intro fresh s
  have hstart : fresh.Timed := timed_start settings chance clock
  have hdriven : fresh.Driven := driven_start settings chance clock
  refine ⟨?_, ?_⟩
  · rw [(hdriven.happenAll hstart hnames : s.Driven).length_stops]
    cases s.shell.tour <;> simp
  · rintro before e after rfl hlaunch launched
    rw [List.forall_mem_append, List.forall_mem_cons] at hnames
    obtain ⟨hbefore, hname, hafter⟩ := hnames
    have hlaunched : launched = (fresh.happenAll before).happen e := happenAll_concat _ _ _
    have hs : s = launched.happenAll after := by
      rw [hlaunched]
      exact happenAll_append _ _ _
    obtain ⟨hearlier, hvisits⟩ := (hdriven.happenAll hstart hbefore).visits_of_launches
      (hstart.happenAll before).1 hname hlaunch hafter
    rw [← hlaunched] at hearlier hvisits
    refine ⟨hearlier, fun hnone => ?_⟩
    obtain ⟨interval, k, hk, hyields⟩ := hvisits hnone
    rw [← hs] at hk
    refine ⟨interval, k, hk, hyields, fun hlate => ?_⟩
    refine hk.eq_length (hstart.happenAll _).1 ?_
    rwa [stopDelay_happenAll]

/-- The tour is launched again after its first stop: the first interval makes no more stops, and all
sections are visited from the first one on, while the name of another one is clicked. -/
theorem visits_after_second_launch :
    let fresh := start { minDelay := 0, maxDelay := 0 } .least ⟨2024, 3, 9, 14, 5, 0⟩
    let typed : List Event := [.act (.setInput "launch_portfolio"), .act (.key .enter)]
    let before := typed ++ .fire :: .fire :: typed
    let launched := fresh.happenAll (before ++ [.fire])
    let after : List Event := [.fire, .act (.run "blog"), .fire, .fire, .fire, .fire, .fire, .fire,
      .fire, .fire, .fire, .fire, .fire, .fire, .fire, .wait 1]
    (∀ stop ∈ (fresh.happenAll before).stops,
        ∀ later ∈ launched.yields visited? after, later.1 ≠ stop.2) ∧
      ∃ interval, launched.yields visited? after =
        Section.all.map fun target => (interval, target) := by
  intro fresh typed before launched after
  have htour := interval_iff_tour_and_visits { minDelay := 0, maxDelay := 0 } .least
    ⟨2024, 3, 9, 14, 5, 0⟩ (before ++ .fire :: after) (by decide +kernel)
  obtain ⟨hearlier, hvisits⟩ := htour.2 before .fire after rfl (by decide +kernel)
  obtain ⟨interval, k, -, hyields, hseven⟩ := hvisits (by decide +kernel)
  obtain rfl : k = 7 := hseven (by decide +kernel)
  exact ⟨hearlier, interval, hyields⟩

end Site

end PortfolioTerminal
