/-
# Runs without a fault

A run that checks everything never stops: one operation after the other it does what the run does
that checks nothing.  What an operation needs for that, every operation keeps: the suggestion pane
is one for the text of the prompt, and the generator keeps to its bounds.  The cursor of the prompt
needs no invariant, for it is compared with the log of lines each time that it is used.
-/
import PortfolioTerminal.Proofs.Checked.Shell
import PortfolioTerminal.Proofs.Visit.Run

namespace PortfolioTerminal

/-! ## The delay of a command -/

/-- The delay is between the two bounds of the settings, whichever is the larger. -/
def Settings.Allows (s : Settings) (delay : Nat) : Prop :=
  min s.minDelay.toNat s.maxDelay.toNat ≤ delay ∧ delay ≤ max s.minDelay.toNat s.maxDelay.toNat

/-- The delay that a shell draws is one that its settings allow. -/
theorem Shell.allows_pendingOf {s : Shell} (hg : s.generator.KeepsToBounds) (line : String) :
    s.settings.Allows (s.pendingOf line).delay := by
  obtain ⟨hlow, hhigh⟩ := s.settings.delayBounds_toNat
  rw [Settings.Allows, ← hlow, ← hhigh]
  exact hg _ _ _ s.settings.delayBounds_ordered

namespace Visit

variable {v : Visit} {op : Operation} {settings : Settings}

/-! ## One operation -/

/-- What a run keeps: no operation faults, and every delay is one that the settings allow. -/
structure KeepsTo (v : Visit) (settings : Settings) : Prop where
  suits : v.shell.prompt.pane.Suits v.shell.prompt.buffer
  keepsToBounds : v.shell.generator.KeepsToBounds
  settings_eq : v.shell.settings = settings
  /-- The outstanding commands were given such delays. -/
  allows : ∀ p ∈ v.outstanding, settings.Allows p.delay

/-- No operation faults. -/
theorem KeepsTo.performM_eq_ok (h : v.KeepsTo settings) (op : Operation) :
    (v.performM op : Except Fault _) = .ok (v.perform op) := by
  cases op with
  | submit line => exact Fault.bind_eq_ok (v.shell.submitM_eq_ok line) rfl
  | run line now => exact Fault.bind_eq_ok (Shell.runM_eq_ok h.keepsToBounds line now) rfl
  | key k => exact Fault.bind_eq_ok (Shell.keyM_eq_ok h.suits k) rfl
  | tourTick => exact Fault.bind_eq_ok v.shell.tourTickM_eq_ok rfl
  | complete which now =>
    simp only [Visit.perform, performM, withPendingM]
    cases v.outstanding[which]? with
    | none => rfl
    | some p => exact Fault.bind_eq_ok (Shell.completeM_eq_ok h.keepsToBounds p now) rfl
  | cancel which =>
    simp only [Visit.perform, performM, withPendingM]
    cases v.outstanding[which]? <;> rfl
  | _ => rfl

theorem Quiet.suits {s : Shell} (hq : v.Quiet op s)
    (h : v.shell.prompt.pane.Suits v.shell.prompt.buffer) :
    s.prompt.pane.Suits s.prompt.buffer := by
  cases hq with
  | press k => exact (v.shell.prompt.turns_press v.shell.history k).suits h
  | leave k => exact (v.shell.prompt.turns_press v.shell.history k).suits h
  | giveUp k => exact (v.shell.prompt.turns_press v.shell.history k).suits h
  | type text => exact v.shell.prompt.pane.suits_update text
  | _ => exact h

/-- Of what completes nothing, only accepting a line draws. -/
theorem Quiet.keepsToBounds {s : Shell} (hq : v.Quiet op s)
    (h : v.shell.generator.KeepsToBounds) : s.generator.KeepsToBounds := by
  cases hq with
  | accept line => exact h.draw _ _
  | giveUp k line => exact h.draw _ _
  | _ => exact h

/-- Completing a command draws at most a joke. -/
theorem keepsToBounds_of_completion? {c : Completion} (h : v.shell.generator.KeepsToBounds)
    (hc : v.completion? op = some c) : c.shell.generator.KeepsToBounds := by
  obtain hs | hs := shell_of_completion? hc <;> rw [hs]
  · exact h
  · exact h.draw _ _

theorem KeepsTo.of_handedOut? {p : Pending} (h : v.KeepsTo settings)
    (hp : (v.perform op).answer.handedOut? = some p) : settings.Allows p.delay := by
  obtain ⟨s, line, ⟨hsettings, hgenerator⟩, -, rfl⟩ := exists_pendingOf_of_handedOut? hp
  rw [← h.settings_eq, ← hsettings]
  exact Shell.allows_pendingOf (hgenerator ▸ h.keepsToBounds) line

/-- The delay of a completed command is allowed, also if the command was never handed out. -/
theorem KeepsTo.of_completion? {c : Completion} (h : v.KeepsTo settings)
    (hc : v.completion? op = some c) : settings.Allows c.pending.delay := by
  cases op with
  | complete which now =>
    obtain ⟨p, hp, rfl⟩ := Option.map_eq_some_iff.mp hc
    exact h.allows p (List.mem_of_getElem? hp)
  | run line now =>
    obtain ⟨-, rfl⟩ := completion?_run_eq_some_iff.mp hc
    rw [← h.settings_eq]
    exact Shell.allows_pendingOf h.keepsToBounds line
  | _ => simp [completion?] at hc

theorem KeepsTo.perform (h : v.KeepsTo settings) (op : Operation) :
    (v.perform op).visit.KeepsTo settings where
  suits := by
    cases hc : v.completion? op with
    | none => exact (quiet_perform hc).suits h.suits
    | some c =>
      rw [prompt_perform_of_completion? hc]
      exact h.suits
  keepsToBounds := by
    cases hc : v.completion? op with
    | none => exact (quiet_perform hc).keepsToBounds h.keepsToBounds
    | some c =>
      rw [shell_perform_of_completion? hc, Completion.reply, Shell.generator_complete]
      exact Command.keepsToBounds_evaluate (keepsToBounds_of_completion? h.keepsToBounds hc) _ _ _
  settings_eq := by rw [settings_perform, h.settings_eq]
  allows p hp := by
    rw [outstanding_perform, List.mem_append, Option.mem_toList] at hp
    obtain hkept | hnew := hp
    · exact h.allows p ((v.kept_sublist op).subset hkept)
    · exact h.of_handedOut? hnew

/-! ## Runs -/

/-- What the operations of a run answer, in their order. -/
def answers (v : Visit) (ops : List Operation) : List Answer :=
  v.yields (fun v op => some (v.perform op).answer) ops

/-- The pending commands that a run hands out, in their order. -/
def handedOut (v : Visit) (ops : List Operation) : List Pending :=
  v.yields (fun v op => (v.perform op).answer.handedOut?) ops

theorem KeepsTo.performAllM_eq_ok (h : v.KeepsTo settings) (ops : List Operation) :
    (v.performAllM ops : Except Fault _) = .ok (v.performAll ops, v.answers ops) := by
  induction ops generalizing v with
  | nil => rfl
  | cons op ops ih =>
    rw [performAllM, h.performM_eq_ok op, Fault.ok_bind, ih (h.perform op)]
    rfl

theorem keepsTo_start (settings : Settings) {chance : Chance} (hchance : chance.KeepsToBounds) :
    (start settings chance).KeepsTo settings where
  suits := SuggestionPane.suits_empty
  keepsToBounds := hchance settings.seed
  settings_eq := rfl
  allows p hp := by simp [outstanding_start] at hp

/-- **Nothing faults.**  Whatever the choices of a run are left to, if it keeps to the bounds that
it is given: for all settings and every sequence of operations, the run that checks everything comes
to its end, in the state and with the answers of the run that checks nothing; and the delay of every
command that is handed out or completed is between the two bounds. -/
theorem runM_eq_ok_and_allows (settings : Settings) (chance : Chance)
    (hchance : chance.KeepsToBounds) (ops : List Operation) :
    let v := start settings chance
    (runM settings chance ops : Except Fault (Visit × List Answer)) =
        .ok (v.performAll ops, v.answers ops) ∧
      (∀ p ∈ v.handedOut ops, settings.Allows p.delay) ∧
      ∀ c ∈ v.completed ops, settings.Allows c.pending.delay := by
  intro v
  have hfresh : v.KeepsTo settings := keepsTo_start settings hchance
  have hkeeps : ∀ before, (v.performAll before).KeepsTo settings :=
    invariant_performAll (P := (KeepsTo · settings)) (fun _ op h => h.perform op) hfresh
  refine ⟨?_, fun p hp => ?_, fun c hc => ?_⟩
  · have hstart : (startM settings chance : Except Fault Visit) = .ok v := rfl
    rw [runM, hstart, Fault.ok_bind]
    exact hfresh.performAllM_eq_ok ops
  · obtain ⟨before, op, hop⟩ := exists_of_mem_yields hp
    exact (hkeeps before).of_handedOut? hop
  · rw [completed_eq_yields] at hc
    obtain ⟨before, op, hop⟩ := exists_of_mem_yields hc
    exact (hkeeps before).of_completion? hop

/-- The logs are emptied under a cursor on the older of two lines, and one place nearer there is
nothing left to load.  The bounds are given the wrong way round, and the line submitted then waits
for a time between them. -/
theorem runM_clear_under_cursor :
    let now : CivilTime := ⟨2024, 3, 9, 14, 5, 0⟩
    let settings : Settings := { minDelay := 450, maxDelay := 150 }
    let ops : List Operation := [.run "pwd" now, .run "joke" now, .key .arrowUp, .key .arrowUp,
      .run "clear" now, .key .arrowDown, .submit "pwd"]
    (∃ v answers, (runM settings .least ops : Except Fault (Visit × List Answer)) =
        .ok (v, answers) ∧
      v.shell.prompt.cursor = some 1 ∧ v.shell.history.lines = []) ∧
      ∃ p ∈ (start settings .least).handedOut ops,
        p.raw = "pwd" ∧ 150 ≤ p.delay ∧ p.delay ≤ 450 := by
  intro now settings ops
  obtain ⟨hrun, hallows, -⟩ :=
    runM_eq_ok_and_allows settings .least Chance.keepsToBounds_least ops
  have hcursor : ((start settings .least).performAll ops).shell.prompt.cursor = some 1 := by
    decide +kernel
  have hlines : ((start settings .least).performAll ops).shell.history.lines = [] := by
    decide +kernel
  have hraw : ((start settings .least).handedOut ops).map (·.raw) = ["pwd"] := by decide +kernel
  obtain ⟨p, hp, hpwd⟩ : ∃ p ∈ (start settings .least).handedOut ops, p.raw = "pwd" := by
    rw [← List.mem_map, hraw, List.mem_singleton]
  exact ⟨⟨_, _, hrun, hcursor, hlines⟩, p, hp, hpwd, hallows p hp⟩

end Visit

end PortfolioTerminal
