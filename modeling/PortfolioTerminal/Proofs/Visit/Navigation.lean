/-
# The section gone to last

A section is gone to by completing its name, by completing an editor command with its file, by a
click on its file, and by a tick of the tour.  The active section is always the one gone to last,
whether the terminal was shown at the time or not.  So nothing is lost by hiding the terminal:
showing it again opens the editor on the section gone to last.
-/
import PortfolioTerminal.Proofs.Shell.Completion
import PortfolioTerminal.Proofs.Visit.Run

namespace PortfolioTerminal

/-! ## Destinations -/

/-- The section that an answer names as gone to, by the tour or by opening a file. -/
def Answer.destination? : Answer → Option Section
  | .visited place => place
  | .opened result => result.toOption
  | _ => none

namespace Visit

variable {v : Visit} {op : Operation}

/-- The section that an operation goes to.  A completed command goes to the section that it names or
whose file it gives to an editor; any other operation goes where its answer says. -/
def destination? (v : Visit) (op : Operation) : Option Section :=
  (v.completion? op).elim (v.perform op).answer.destination? (·.pending.command.target?)

/-- The sections that a run goes to, the latest one last. -/
def destinations (v : Visit) (ops : List Operation) : List Section := v.yields destination? ops

/-- A command is evaluated with the section active that was so before the operation. -/
theorem active_of_completion? {c : Completion} (h : v.completion? op = some c) :
    c.shell.session.active = v.shell.session.active := by
  obtain h | h := shell_of_completion? h <;> rw [h]
  rfl

/-- An operation makes the section active that it goes to, and otherwise leaves it as it is. -/
theorem active_perform (v : Visit) (op : Operation) :
    (v.perform op).visit.shell.session.active =
      (v.destination? op).getD v.shell.session.active := by
  cases hc : v.completion? op with
  | some c =>
    rw [destination?, hc, Option.elim_some, shell_perform_of_completion? hc, Completion.reply,
      Shell.active_complete, active_of_completion? hc]
  | none =>
    rw [destination?, hc, Option.elim_none, (v.session_perform op).1]
    cases op with
    | tourTick =>
      cases ht : v.shell.tour with
      | none => simp [move?, perform_tourTick, after, Shell.tourTick_of_none, ht,
          Answer.destination?]
      | some here => simp [move?, perform_tourTick, after, Shell.tourTick_of_some ht, ht,
          Answer.destination?, Session.active_move]
    | openFile file =>
      cases ht : Section.ofFileName? file <;>
        simp [move?, perform, performM, after, Shell.openFile, ht, Answer.destination?,
          Session.active_move, Except.toOption]
    | key k =>
      simp only [move?, perform_key, Answer.destination?]
      split <;> simp [Session.active_move]
    | cancel which =>
      cases hp : v.outstanding[which]? with
      | none => simp [move?, hc, perform_cancel_of_none hp, Answer.destination?]
      | some p => simp [move?, hc, perform_cancel_of_some hp, quietly, Answer.destination?]
    | complete which now =>
      have hp : v.outstanding[which]? = none := Option.map_eq_none_iff.mp hc
      simp [move?, hc, perform_complete_of_none hp, Answer.destination?]
    | submit line => simp [move?, hc, perform_submit, Answer.destination?]
    | run line now => simp [move?, hc, perform_run, after, Answer.destination?]
    | _ =>
      simp [move?, hc, perform, performM, after, quietly, Answer.destination?,
        Session.active_move]

/-! ## Operations that go nowhere -/

/-- The operation closes the editor or ends its loading, hides the terminal or shows it, changes the
theme, or completes a command that answers with an error. -/
inductive Stays (v : Visit) : Operation → Prop
  | closeEditor : v.Stays .closeEditor
  | saveAndExit : v.Stays .saveAndExit
  | finishLoading : v.Stays .finishLoading
  | toggleShellView : v.Stays .toggleShellView
  | setTheme (theme : String) : v.Stays (.setTheme theme)
  | fails {op : Operation} (done : Completed) (entry : RecordedOutput)
    (answer : (v.perform op).answer.completed? = some done) (recorded : done.entry = some entry)
    (error : entry.output.kind = .error) : v.Stays op

/-- All operations of a run are such. -/
def StaysAll (v : Visit) : List Operation → Prop
  | [] => True
  | op :: ops => v.Stays op ∧ (v.perform op).visit.StaysAll ops

theorem Stays.active_eq (h : v.Stays op) :
    (v.perform op).visit.shell.session.active = v.shell.session.active := by
  cases h with
  | closeEditor => rfl
  | saveAndExit => rfl
  | finishLoading => exact Session.active_finishLoading _
  | toggleShellView => exact Session.active_toggleShellView _
  | setTheme theme => rfl
  | fails done entry answer recorded error =>
    rw [completed?_perform] at answer
    obtain ⟨c, hc, rfl⟩ := Option.map_eq_some_iff.mp answer
    rw [Completion.reply, Shell.answer_complete] at recorded
    obtain ⟨output, ho, rfl⟩ := Option.map_eq_some_iff.mp recorded
    -- a command that fails is only recorded
    rw [shell_perform_of_completion? hc, Completion.reply,
      c.shell.complete_of_error c.pending c.now ho error]
    exact active_of_completion? hc

theorem StaysAll.active_eq {ops : List Operation} (h : v.StaysAll ops) :
    (v.performAll ops).shell.session.active = v.shell.session.active := by
  induction ops generalizing v with
  | nil => rfl
  | cons op ops ih => exact (ih h.2).trans h.1.active_eq

/-! ## Runs -/

/-- In every run, the active section is the one gone to last, or the first one as long as none was
gone to. -/
theorem active_performAll (v : Visit) (ops : List Operation) :
    (v.performAll ops).shell.session.active =
      (v.destinations ops).getLast?.getD v.shell.session.active := by
  induction ops using List.reverseRecOn with
  | nil => rfl
  | append_singleton ops op ih =>
    rw [performAll_concat, active_perform, ih, destinations, destinations, yields_concat]
    cases (v.performAll ops).destination? op <;> simp

/-- **Navigation is never lost.**  The active section is the one gone to last, or home as long as
none was gone to; what goes nowhere leaves it as it is, however often it is done; and whenever the
terminal is shown again, the editor loads the file of exactly that section. -/
theorem active_eq_getLast?_destinations (settings : Settings) (chance : Chance)
    (ops : List Operation) :
    let run := start settings chance
    let v := run.performAll ops
    let here := (run.destinations ops).getLast?.getD .home
    v.shell.session.active = here ∧
      (∀ later, v.StaysAll later → (v.performAll later).shell.session.active = here) ∧
      let toggled := (v.perform .toggleShellView).visit.shell.session
      (toggled.shellVisible = true → toggled.mode = .editorOverlay here here.fileName true) := by
  intro run v here
  have hactive : v.shell.session.active = here := run.active_performAll ops
  refine ⟨hactive, fun later hlater => hlater.active_eq.trans hactive, fun hshown => ?_⟩
  have hhidden : v.shell.session.shellVisible = false := by
    simpa [perform, performM, after, Shell.toggleShellView] using hshown
  rw [← hactive]
  simp [perform, performM, after, Shell.toggleShellView, Session.toggleShellView, hhidden,
    Session.openEditor, Mode.opening]

/-- The blog is gone to behind the hidden terminal, after a click on another file.  A failing
command leaves it active, and so it is what the editor loads when the terminal is shown. -/
theorem opening_blog_after_failure :
    let now : CivilTime := ⟨2024, 3, 9, 14, 5, 0⟩
    let v := (start {} .least).performAll [.openFile "about.md", .toggleShellView, .run "blog" now]
    let failed := (v.perform (.run "cd nowhere" now)).visit
    failed.shell.session.active = .blog ∧
      (v.perform .toggleShellView).visit.shell.session.mode =
        .editorOverlay .blog "blog.txt" true := by
  dsimp only
  obtain ⟨-, hstays, hshown⟩ := active_eq_getLast?_destinations {} .least
    [.openFile "about.md", .toggleShellView, .run "blog" ⟨2024, 3, 9, 14, 5, 0⟩]
  have hblog : ((start {} .least).destinations [.openFile "about.md", .toggleShellView,
      .run "blog" ⟨2024, 3, 9, 14, 5, 0⟩]).getLast?.getD .home = .blog := by
    decide +kernel
  rw [hblog] at hstays hshown
  refine ⟨hstays [.run "cd nowhere" ⟨2024, 3, 9, 14, 5, 0⟩] ⟨?_, trivial⟩,
    hshown (by decide +kernel)⟩
  exact .fails ⟨some ⟨1, .text .error "cd: nowhere: No such file or directory"⟩, none⟩ _
    (by decide +kernel) rfl rfl

end Visit

end PortfolioTerminal
