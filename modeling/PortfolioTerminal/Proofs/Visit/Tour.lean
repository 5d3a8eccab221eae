/-
# The stops of the tour

A completed `launch_portfolio` starts the tour at the first section, a tick visits the section that
is next, and no other operation touches the tour.  Which section is next is therefore told by the
number of ticks since the latest launch, whatever else was done in between: the sections are visited
in their order, each of them once, and then no more.
-/
import PortfolioTerminal.Proofs.Visit.Run

namespace PortfolioTerminal

/-! ## The order of the tour -/

/-- The tour goes on to the section that stands next in the list, and ends after the last one. -/
theorem Shell.getElem?_bind_tourAfter (k : Nat) :
    Section.all[k]?.bind Shell.tourAfter = Section.all[k + 1]? := by
  rcases Nat.lt_or_ge k Section.all.length with hk | hk
  · have hnext : ∀ k < Section.all.length,
        Section.all[k]?.bind Shell.tourAfter = Section.all[k + 1]? := by decide
    exact hnext k hk
  · rw [List.getElem?_eq_none hk, List.getElem?_eq_none (Nat.le_succ_of_le hk), Option.bind_none]

namespace Visit

variable {v : Visit} {op : Operation} {k : Nat}

/-- Whether an operation completes a `launch_portfolio`. -/
def launches (v : Visit) (op : Operation) : Bool :=
  (v.completion? op).any (·.pending.command = .decoration .launchPortfolio)

/-- The run completes no `launch_portfolio`. -/
def LaunchesNone (v : Visit) (ops : List Operation) : Prop :=
  ∀ c ∈ v.completed ops, c.pending.command ≠ .decoration .launchPortfolio

instance (v : Visit) (ops : List Operation) : Decidable (v.LaunchesNone ops) :=
  inferInstanceAs (Decidable (∀ c ∈ v.completed ops, _))

theorem launchesNone_concat_iff {ops : List Operation} :
    v.LaunchesNone (ops ++ [op]) ↔
      v.LaunchesNone ops ∧ (v.performAll ops).launches op = false := by
  simp only [LaunchesNone, completed_concat, List.forall_mem_append, launches]
  cases (v.performAll ops).completion? op <;> simp

/-! ## A tick -/

/-- The tick that comes next is number `k` of a tour, counted from zero: as long as there is a
section for it the tour is on, and the tick answers with that section and leaves it active; any
later one answers with nothing and changes nothing. -/
structure AtTick (v : Visit) (k : Nat) : Prop where
  isSome_tour_iff : v.shell.tour.isSome = true ↔ k < 7
  answer_eq : (v.perform .tourTick).answer = .visited Section.all[k]?
  active_eq (here : Section) (h : Section.all[k]? = some here) :
    (v.perform .tourTick).visit.shell.session.active = here
  eq_of_over (h : 7 ≤ k) : v.perform .tourTick = ⟨v, .visited none, []⟩

theorem atTick_of_tour (h : v.shell.tour = Section.all[k]?) : v.AtTick k where
  isSome_tour_iff := by
    rw [h, Option.isSome_iff_ne_none, ne_eq, List.getElem?_eq_none_iff, Nat.not_le]
    rfl
  answer_eq := by
    rw [← h]
    cases ht : v.shell.tour with
    | none => simp [perform_tourTick, after, Shell.tourTick_of_none ht]
    | some here => simp [perform_tourTick, after, Shell.tourTick_of_some ht]
  active_eq here hhere := by
    rw [(v.session_perform .tourTick).1]
    simp [move?, h, hhere, Session.active_move]
  eq_of_over hk := by
    have hnone : v.shell.tour = none := by
      rw [h]
      exact List.getElem?_eq_none hk
    rw [perform_tourTick, Shell.tourTick_of_none hnone]
    rfl

/-! ## Runs -/

/-- A launch puts the first section next. -/
theorem tour_perform_of_launches (h : v.launches op = true) :
    (v.perform op).visit.shell.tour = Section.all[0]? := by
  have hop : op ≠ .tourTick := by
    rintro rfl
    simp [launches, completion?] at h
  rw [launches] at h
  rw [tour_perform, if_neg hop, if_pos h]
  rfl

/-- Until the next launch, the section that is next is as many places on as there were ticks. -/
theorem tour_performAll (h : v.shell.tour = Section.all[k]?) {ops : List Operation}
    (hnone : v.LaunchesNone ops) :
    (v.performAll ops).shell.tour = Section.all[k + ops.count .tourTick]? := by
  induction ops using List.reverseRecOn with
  | nil => exact h
  | append_singleton ops op ih =>
    obtain ⟨hbefore, hlaunch⟩ := launchesNone_concat_iff.mp hnone
    rw [performAll_concat, tour_perform, ih hbefore, List.count_append, List.count_singleton]
    by_cases hop : op = .tourTick
    · rw [if_pos hop, Shell.getElem?_bind_tourAfter, hop]
      rfl
    · rw [launches] at hlaunch
      simp [hop, hlaunch]

/-- After a launch, and until the next one, the ticks are counted from zero. -/
theorem atTick_performAll_of_launches (h : v.launches op = true) {ops : List Operation}
    (hnone : (v.perform op).visit.LaunchesNone ops) :
    (v.performAll (op :: ops)).AtTick (ops.count .tourTick) := by
  have htour := tour_performAll (tour_perform_of_launches h) hnone
  rw [Nat.zero_add] at htour
  exact atTick_of_tour htour

/-- **The tour visits the sections in order, each of them once.**  Whatever else is done after a
launch, the ticks until the next launch are those of one tour from its start, and a launch at any
time starts another one over. -/
theorem atTick_count_of_launches (settings : Settings) (chance : Chance)
    (before after : List Operation) (op : Operation)
    (hlaunch : ((start settings chance).performAll before).launches op = true)
    (hnone : ((start settings chance).performAll (before ++ [op])).LaunchesNone after) :
    let v := (start settings chance).performAll (before ++ op :: after)
    v.AtTick (after.count .tourTick) ∧
      ∀ again later, v.launches again = true → (v.perform again).visit.LaunchesNone later →
        (v.performAll (again :: later)).AtTick (later.count .tourTick) := by
  intro v
  rw [performAll_concat] at hnone
  have hv : v = ((start settings chance).performAll before).performAll (op :: after) :=
    performAll_append _ _ _
  refine ⟨?_, fun again later hagain hlater => atTick_performAll_of_launches hagain hlater⟩
  rw [hv]
  exact atTick_performAll_of_launches hlaunch hnone

/-- A typed launch that is completed late, ticks amid a failing command, `clear`, a cancelled line
and a hidden terminal, and another launch: the first tour has come to its third section, and the
second one starts over. -/
theorem atTick_amid_commands :
    let now : CivilTime := ⟨2024, 3, 9, 14, 5, 0⟩
    let before : List Operation := [.setInput "launch_portfolio", .key .enter, .toggleShellView]
    let after : List Operation := [.run "cd nowhere" now, .tourTick, .run "clear" now,
      .submit "ls", .cancel 0, .toggleShellView, .key .escape, .tourTick]
    let v := (start {} .least).performAll (before ++ .complete 0 now :: after)
    (v.perform .tourTick).answer = .visited (some .skills) ∧
      ((v.performAll [.run "launch_portfolio" now]).perform .tourTick).answer =
        .visited (some .home) := by
  intro now before after v
  obtain ⟨hfirst, hagain⟩ := atTick_count_of_launches {} .least before after (.complete 0 now)
    (by decide +kernel) (by decide +kernel)
  exact ⟨hfirst.answer_eq, (hagain (.run "launch_portfolio" now) [] (by decide +kernel)
    (by decide +kernel)).answer_eq⟩

end Visit

end PortfolioTerminal
