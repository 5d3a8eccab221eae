/-
# Completion timers

A command that is submitted by a key waits for a timer, and nothing but that timer completes it; a
click in the direct view submits and completes the name of a section at once.  The shell only knows
that it is busy, and the command is known to the timer only.

The two are in step in every state of every run: one completion timer is in flight while the shell
is busy, and none while it is idle.  What has been submitted is therefore what has been completed,
followed by what is in flight, in the same order, so that no command is lost or completed twice; and
since the clock passes no timer, what is in flight is completed when its time has come.

To be completed is something that happens to the shell.  The log of lines tells it in retrospect: it
consists of the lines of the completed commands, each of them once.
-/
import Mathlib.Data.List.DropRight
import PortfolioTerminal.Proofs.Site.Timers
import PortfolioTerminal.Proofs.Visit.Flight

namespace PortfolioTerminal.Site

variable {s : Site}

/-! ## Submitted and completed commands -/

/-- The command that an event submits: a key may submit the line that was typed, and a click in the
direct view submits the name of a section. -/
def submitted? (s : Site) : Event → Option Pending
  | .act (.key k) => (s.shell.key k).answer
  | .act (.run line) => (s.shell.submit line).answer.toOption
  | _ => none

/-- The command that an event completes. -/
def completed? (s : Site) (e : Event) : Option Pending :=
  ((s.operation? e).bind s.visit.completion?).map (·.pending)

/-- The command that is completed because its timer fires. -/
def settled? (s : Site) (e : Event) : Option Pending := (s.fired? e).bind (·.task.pending?)

/-- The command for which settling an aftermath makes a timer. -/
def Aftermath.pending? : Aftermath → Option Pending
  | .await pending => some pending
  | _ => none

@[simp] theorem pending?_aftermath_command (c : Command) : c.aftermath.pending? = none := by
  unfold Command.aftermath
  split
  · rfl
  · split <;> rfl

@[simp] theorem pending?_aftermath_task (task : Task) : task.aftermath.pending? = none := by
  cases task with
  | complete pending => exact pending?_aftermath_command _
  | _ => rfl

theorem pending?_aftermath_key (s : Site) (k : Key) :
    (s.aftermath (.act (.key k))).pending? = (s.shell.key k).answer := by
  rw [aftermath]
  cases (s.shell.key k).answer <;> rfl

/-- Only a key makes a completion timer. -/
theorem pending?_aftermath_of_ne_key {e : Event} (he : ∀ k, e ≠ .act (.key k)) :
    (s.aftermath e).pending? = none := by
  cases e with
  | act a =>
    rcases s.aftermath_act_cases a with ha | ha | ⟨k, pending, rfl, -, -⟩
    · rw [ha]
      rfl
    · rw [ha]
      rfl
    · exact absurd rfl (he k)
  | fire =>
    rw [aftermath]
    cases s.timeline.head? with
    | none => rfl
    | some t => exact pending?_aftermath_task t.task
  | wait milliseconds => rfl

/-! ## The flag and the timers in step -/

/-- The shell is busy while a completion timer is in flight, and there is never more than one. -/
def InStep (s : Site) : Prop := s.outstanding.length = s.shell.session.processing.toNat

theorem InStep.outstanding_eq_nil (h : s.InStep) (hidle : s.shell.session.processing = false) :
    s.outstanding = [] := by
  rw [InStep, hidle] at h
  exact List.length_eq_zero_iff.mp h

/-- The timer that fires takes its command along. -/
theorem outstanding_eq_settled?_append (s : Site) (e : Event) :
    s.outstanding = (s.settled? e).toList ++ (s.reached e).outstanding :=
  filterMap_timeline _ s e

/-- The shell is busy after an event that made a completion timer, and it stays busy until such a
timer fires. -/
theorem processing_happen (s : Site) (e : Event) :
    (s.happen e).shell.session.processing =
      ((s.aftermath e).pending?.isSome ||
        (s.shell.session.processing && (s.settled? e).isNone)) := by
  rw [shell_happen]
  cases e with
  | act a =>
    cases a with
    | key k =>
      rw [pending?_aftermath_key]
      exact s.visit.processing_perform (.key k)
    | loadEditor =>
      simp [operation?, SiteAction.operation?, aftermath, Aftermath.pending?, settled?]
    | _ =>
      rw [pending?_aftermath_of_ne_key (by simp)]
      exact s.visit.processing_perform _
  | fire =>
    rw [pending?_aftermath_of_ne_key (by simp)]
    cases hline : s.timeline with
    | nil => simp [operation?, settled?, hline]
    | cons t later =>
      have hsettled : s.visit.settled? (t.task.operation s.clock) = s.settled? .fire := by
        simp only [settled?, fired?_fire, hline, List.head?_cons, Option.bind_some]
        cases ht : t.task with
        | complete p =>
          simp [Task.operation, Visit.settled?, visit, outstanding, hline, ht, Task.pending?]
        | _ => rfl
      have hnothing : (s.visit.perform (t.task.operation s.clock)).answer.handedOut? = none := by
        cases t.task with
        | complete p => exact s.visit.handedOut?_complete 0 s.clock
        | _ => rfl
      simp only [operation?, hline, List.head?_cons, Option.map_some, Option.elim_some]
      rw [Visit.processing_perform, hsettled, hnothing]
      rfl
  | wait milliseconds => simp [operation?, aftermath, Aftermath.pending?, settled?]

/-- A busy shell makes no completion timer. -/
theorem InStep.idle_of_pending?_aftermath (h : s.InStep) {e : Event}
    (hp : (s.aftermath e).pending?.isSome) : s.outstanding = [] := by
  by_cases he : ∃ k, e = .act (.key k)
  · obtain ⟨k, rfl⟩ := he
    rw [pending?_aftermath_key] at hp
    cases hbusy : s.shell.session.processing with
    | false => exact h.outstanding_eq_nil hbusy
    | true => simp [Shell.key_of_processing hbusy] at hp
  · rw [pending?_aftermath_of_ne_key fun k hk => he ⟨k, hk⟩] at hp
    simp at hp

/-- The completion timers after an event are those that did not fire, and then the one that it
made. -/
theorem outstanding_happen (h : s.Timed) (hstep : s.InStep) (e : Event) :
    (s.happen e).outstanding = (s.reached e).outstanding ++ (s.aftermath e).pending?.toList := by
  have hmade : (s.made? e).bind (·.task.pending?) = (s.aftermath e).pending? := by
    rw [made?]
    cases s.aftermath e <;> rfl
  rw [← hmade]
  refine filterMap_happen (fun _ _ => rfl) h e fun t ht hsome u hu husome => ?_
  -- there is no other completion timer when one is made
  have hnone : s.outstanding = [] := by
    refine hstep.idle_of_pending?_aftermath (e := e) ?_
    rwa [← hmade, ht]
  rw [outstanding_eq_settled?_append s e, List.append_eq_nil_iff] at hnone
  have := List.filterMap_eq_nil_iff.mp hnone.2 u hu
  simp [this] at husome

theorem inStep_start (settings : Settings) (chance : Chance) (clock : CivilTime) :
    (start settings chance clock).InStep := rfl

theorem InStep.happen (hstep : s.InStep) (h : s.Timed) (e : Event) : (s.happen e).InStep := by
  have hsplit : s.outstanding.length =
      (s.settled? e).toList.length + (s.reached e).outstanding.length := by
    rw [outstanding_eq_settled?_append s e, List.length_append]
  have hcount : s.outstanding.length = s.shell.session.processing.toNat := hstep
  have hle := Bool.toNat_le s.shell.session.processing
  rw [InStep, outstanding_happen h hstep, List.length_append, processing_happen]
  cases hp : (s.aftermath e).pending? with
  | some p =>
    -- nothing was in flight when the timer was made
    have hnone := hstep.idle_of_pending?_aftermath (e := e) (by simp [hp])
    rw [hnone, List.length_nil] at hsplit
    have hzero : (s.reached e).outstanding.length = 0 := by omega
    simp [hzero]
  | none =>
    cases hs : s.settled? e with
    | some p =>
      rw [hs, Option.toList_some, List.length_singleton] at hsplit
      have hzero : (s.reached e).outstanding.length = 0 := by omega
      simp [hzero]
    | none =>
      rw [hs, Option.toList_none, List.length_nil] at hsplit
      simp
      omega

/-- The timer that fires completes its command. -/
theorem completed?_fire (s : Site) : s.completed? .fire = s.settled? .fire := by
  rw [completed?, settled?, operation?, fired?_fire]
  cases hhead : s.timeline.head? with
  | none => rfl
  | some t =>
    simp only [Option.map_some, Option.bind_some]
    cases ht : t.task with
    | complete p =>
      rw [← ht, completion?_of_head? hhead ht]
      simp [ht, Task.pending?]
    | _ => rfl

/-- The timer that fires leaves the shell as completing its command does. -/
theorem shell_fire_of_head? {t : Timer} {p : Pending} (hhead : s.timeline.head? = some t)
    (ht : t.task = .complete p) :
    (s.happen .fire).shell = (s.shell.complete p s.clock).shell := by
  rw [shell_happen, operation?, hhead, Option.map_some, Option.elim_some]
  exact Visit.shell_perform_of_completion? (completion?_of_head? hhead ht)

/-- A completed command leaves its line as the newest of the log, unless it is `clear`, and nothing
else touches the log. -/
theorem lines_happen (s : Site) (e : Event) :
    (s.happen e).shell.history.lines =
      (s.completed? e).elim s.shell.history.lines fun p =>
        if p.command = .clear then [] else s.shell.history.lines ++ [p.raw] := by
  rw [shell_happen, completed?]
  cases s.operation? e with
  | none => rfl
  | some op =>
    rw [Option.elim_some, Option.bind_some, Visit.lines_perform]
    cases s.visit.completion? op <;> rfl

/-- What is in flight and what an event submits is what it completes and what is in flight after
it. -/
theorem InStep.conserve (hstep : s.InStep) (h : s.Timed) (e : Event) :
    s.outstanding ++ (s.submitted? e).toList =
      (s.completed? e).toList ++ (s.happen e).outstanding := by
  rw [outstanding_happen h hstep]
  cases e with
  | act a =>
    cases a with
    | key k =>
      rw [pending?_aftermath_key]
      rfl
    | run line =>
      -- the line of a click is completed at once, and accepted only while nothing is in flight
      have hnone : (s.aftermath (.act (.run line))).pending? = none := rfl
      have hsame : s.completed? (.act (.run line)) = s.submitted? (.act (.run line)) := by
        simp only [completed?, submitted?, operation?, SiteAction.operation?, Option.bind_some,
          Visit.completion?, visit, Option.map_map]
        exact Option.map_id'
      rw [hnone, hsame]
      obtain ⟨-, f, ha⟩ | ⟨hidle, -, -⟩ := s.shell.submit_cases line
      · simp [submitted?, ha, Except.toOption, reached]
      · simp [hstep.outstanding_eq_nil hidle, reached]
    | _ =>
      rw [pending?_aftermath_of_ne_key (by simp)]
      rfl
  | fire =>
    rw [pending?_aftermath_of_ne_key (by simp), completed?_fire]
    have hsplit := outstanding_eq_settled?_append s .fire
    simpa [submitted?] using hsplit
  | wait milliseconds =>
    simp [submitted?, completed?, operation?, aftermath, Aftermath.pending?]
    rfl

/-! ## Runs -/

theorem InStep.happenAll (hstep : s.InStep) (h : s.Timed) (events : List Event) :
    (s.happenAll events).InStep := by
  have hboth : (s.happenAll events).Timed ∧ (s.happenAll events).InStep := by
    refine invariant_happenAll (P := fun t => t.Timed ∧ t.InStep) ?_ ⟨h, hstep⟩ events
    rintro t e ⟨ht, hts⟩
    exact ⟨(ht.happen e).1, hts.happen ht e⟩
  exact hboth.2

/-- What is in flight and what a run submits is what it completes and what is in flight after it. -/
theorem InStep.conserve_all (hstep : s.InStep) (h : s.Timed) (events : List Event) :
    s.outstanding ++ s.yields submitted? events =
      s.yields completed? events ++ (s.happenAll events).outstanding := by
  induction events generalizing s with
  | nil => simp [yields]
  | cons e events ih =>
    have hrest := ih (hstep.happen h e) (h.happen e).1
    calc
      s.outstanding ++ ((s.submitted? e).toList ++ (s.happen e).yields submitted? events)
      _ = (s.completed? e).toList ++
            ((s.happen e).outstanding ++ (s.happen e).yields submitted? events) := by
          rw [← List.append_assoc, hstep.conserve h, List.append_assoc]
      _ = s.yields completed? (e :: events) ++ (s.happenAll (e :: events)).outstanding := by
          rw [hrest, yields, happenAll_cons, List.append_assoc]

/-- In a run from empty logs, the lines are those of the commands completed since the last
`clear`. -/
theorem lines_happenAll (hnone : s.shell.history.lines = []) (events : List Event) :
    (s.happenAll events).shell.history.lines =
      ((s.yields completed? events).rtakeWhile fun p => p.command ≠ .clear).map (·.raw) := by
  induction events using List.reverseRecOn with
  | nil => exact hnone
  | append_singleton events e ih =>
    rw [happenAll_concat, lines_happen, yields_concat, ih]
    cases (s.happenAll events).completed? e with
    | none => simp
    | some p => by_cases hclear : p.command = .clear <;> simp [hclear]

/-- **In every state of every run, the shell is busy exactly while one completion timer is in
flight, and there are never two.**  What has been submitted is what has been completed, each command
once and in the same order, followed by the command in flight, and the log holds the lines of what
has been completed since the last `clear`.  The command in flight is completed when its time has
come, whatever happens until then: the firing leaves the shell as completing the command does, and
its line is recorded. -/
theorem busy_iff_awaits_and_completes (settings : Settings) (chance : Chance) (clock : CivilTime)
    (events : List Event) :
    let fresh := start settings chance clock
    let s := fresh.happenAll events
    let completed := fresh.yields completed? events
    (s.shell.session.processing = true ↔ s.outstanding.length = 1) ∧
      s.outstanding.length ≤ 1 ∧
      fresh.yields submitted? events = completed ++ s.outstanding ∧
      s.shell.history.lines = (completed.rtakeWhile fun p => p.command ≠ .clear).map (·.raw) ∧
      ∀ t ∈ s.timeline, ∀ p, t.task = .complete p →
        ∀ later, t.due < (s.happenAll later).now →
          ∃ before after, later = before ++ .fire :: after ∧
            let due := s.happenAll before
            due.completed? .fire = some p ∧
            (due.happen .fire).now = t.due ∧
            (due.happen .fire).shell = (due.shell.complete p due.clock).shell ∧
            (due.happen .fire).shell.history.lines =
              if p.command = .clear then [] else due.shell.history.lines ++ [p.raw] := by
  intro fresh s completed
  have htimed : s.Timed := ((timed_start settings chance clock).happenAll events).1
  have hstep : s.InStep :=
    (inStep_start settings chance clock).happenAll (timed_start settings chance clock) events
  have hcount : s.outstanding.length = s.shell.session.processing.toNat := hstep
  refine ⟨?_, ?_, ?_, ?_, ?_⟩
  · rw [hcount]
    cases s.shell.session.processing <;> simp
  · rw [hcount]
    exact Bool.toNat_le _
  · exact (inStep_start settings chance clock).conserve_all
      (timed_start settings chance clock) events
  · exact lines_happenAll rfl events
  · intro t ht p hp later hlate
    have hkind : ∀ interval, t.task ≠ .tourStop interval := by simp [hp]
    obtain ⟨before, after, hevents, hhead⟩ := htimed.exists_fire hkind ht hlate
    have hcompleted : (s.happenAll before).completed? .fire = some p := by
      simp [completed?_fire, settled?, hhead, hp, Task.pending?]
    refine ⟨before, after, hevents, hcompleted, ?_, shell_fire_of_head? hhead hp, ?_⟩
    · rw [now_happen]
      exact now_reached_of_fired? (e := .fire) hhead
    · rw [lines_happen, hcompleted, Option.elim_some]

/-- A typed line is in flight once the enter key was pressed, and it is completed without delay if
the settings ask for none, while the tabs of the files are clicked: it is the first line of the
log. -/
theorem completes_typed_pwd :
    let typed := (start { minDelay := 0, maxDelay := 0 } .least ⟨2024, 3, 9, 14, 5, 0⟩).happenAll
      [.act (.setInput " pwd"), .act (.key .enter)]
    let later : List Event := [.act (.openFile "about.md"), .fire, .wait 1]
    ∃ before after, later = before ++ .fire :: after ∧
      let due := typed.happenAll before
      due.completed? .fire = some ⟨" pwd", Command.parse " pwd", 0⟩ ∧
      (due.happen .fire).now = 0 ∧
      (due.happen .fire).shell =
        (due.shell.complete ⟨" pwd", Command.parse " pwd", 0⟩ due.clock).shell ∧
      (due.happen .fire).shell.history.lines = due.shell.history.lines ++ [" pwd"] := by
  intro typed later
  have hbusy := busy_iff_awaits_and_completes { minDelay := 0, maxDelay := 0 } .least
    ⟨2024, 3, 9, 14, 5, 0⟩ [.act (.setInput " pwd"), .act (.key .enter)]
  have hline : typed.timeline = [⟨0, .complete ⟨" pwd", Command.parse " pwd", 0⟩⟩] := by
    decide +kernel
  refine hbusy.2.2.2.2 ⟨0, .complete ⟨" pwd", Command.parse " pwd", 0⟩⟩ ?_ _ rfl later ?_
  · change _ ∈ typed.timeline
    simp [hline]
  · decide +kernel

end PortfolioTerminal.Site
