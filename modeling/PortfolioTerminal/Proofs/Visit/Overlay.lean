/-
# The editor behind a hidden terminal

Hiding the terminal drops the editor, and going to a section opens the editor only while the
terminal is shown.  Opening a file, by a command or by a click, has no such guard.  The editor can
therefore be opened behind the hidden terminal; there it stays until it is closed or the terminal is
shown again, and going to a section meanwhile leaves it on the file of another section.

The theorems say that this is the only way.  In every state of every run, the editor is open behind
the hidden terminal exactly if it was opened there and has lasted since, and it is off the active
section exactly if, besides, the latest section gone to since was another one.
-/
import PortfolioTerminal.Proofs.Since
import PortfolioTerminal.Proofs.Visit.Run

namespace PortfolioTerminal

/-! ## The two properties -/

namespace Session

/-- The editor, if it is open, is on the active section and on its file. -/
def EditorOnActive (s : Session) : Prop :=
  ∀ on fileName loading, s.mode = .editorOverlay on fileName loading →
    on = s.active ∧ fileName = s.active.fileName

/-- The editor is closed while the terminal is hidden. -/
def ClosedWhileHidden (s : Session) : Prop :=
  s.shellVisible = false → s.mode = .terminalOnly

theorem closedWhileHidden_iff {s : Session} :
    s.ClosedWhileHidden ↔ ¬ ∃ target, s.shellVisible = false ∧ s.mode.shown? = some target := by
  rw [ClosedWhileHidden, ← Mode.shown?_eq_none_iff]
  cases s.mode.shown? <;> simp

/-- Where the editor shows the file of its section, it can only be off the active section behind the
hidden terminal. -/
theorem EditorBound.editorOnActive_iff {s : Session} (h : s.EditorBound) :
    s.EditorOnActive ↔
      ¬ ∃ target other, target ≠ other ∧ s.shellVisible = false ∧
        s.mode.shown? = some target ∧ s.active = other := by
  have hfile := h.onOwnFile
  have hactive := h.onActive
  cases hm : s.mode with
  | terminalOnly => simp [EditorOnActive, hm, Mode.shown?]
  | editorOverlay on fileName loading =>
    rw [hm] at hfile hactive
    have hname : fileName = on.fileName := hfile
    subst hname
    simp only [EditorOnActive, hm, Mode.shown?, Mode.editorOverlay.injEq, Option.some.injEq]
    constructor
    · rintro hon ⟨_, _, hne, -, rfl, rfl⟩
      exact hne (hon on _ loading ⟨rfl, rfl, rfl⟩).1
    · rintro hnot _ _ _ ⟨rfl, rfl, rfl⟩
      -- while the terminal is shown the invariant gives it, and otherwise `hnot` does
      have hon : on = s.active := by
        by_contra hne
        cases hv : s.shellVisible with
        | true => exact hne (hactive hv on rfl)
        | false => exact hnot ⟨on, s.active, hne, hv, rfl, rfl⟩
      exact ⟨hon, by rw [hon]⟩

end Session

namespace Visit

/-! ## Ways to an editor behind the hidden terminal -/

/-- The operation opens the editor on a section while the terminal is hidden: by a click on its
file, or by completing an editor command with its file. -/
def OpensHidden (target : Section) (v : Visit) (op : Operation) : Prop :=
  v.shell.session.shellVisible = false ∧
    ((∃ file, op = .openFile file ∧ Section.ofFileName? file = some target) ∨
      ∃ c editor file, v.completion? op = some c ∧
        c.pending.command = .edit editor (some file) ∧ Section.ofFileName? file = some target)

/-- The operation neither opens nor closes the editor of a hidden terminal, and does not show the
terminal. -/
def LeavesEditor (v : Visit) (op : Operation) : Prop :=
  v.move? op = none ∨ v.move? op = some .finishLoading ∨ ∃ target, v.move? op = some (.goTo target)

/-- The operation, besides, goes to no section. -/
def LeavesLayout (v : Visit) (op : Operation) : Prop :=
  v.move? op = none ∨ v.move? op = some .finishLoading

/-- In the run, the editor was opened on a section while the terminal was hidden, and has been left
so since. -/
def OpenedHidden (v : Visit) (target : Section) : List Operation → Prop :=
  Since (fun before op => (v.performAll before).OpensHidden target op)
    (fun before op => (v.performAll before).LeavesEditor op)

/-- In the run, another section was gone to while the editor was open on a section behind the hidden
terminal, and both have been left so since. -/
def LeftBehind (v : Visit) (target other : Section) : List Operation → Prop :=
  Since (fun before op =>
      v.OpenedHidden target before ∧ (v.performAll before).move? op = some (.goTo other))
    (fun before op => (v.performAll before).LeavesLayout op)

/-! ## One operation -/

variable {v : Visit} {op : Operation} {target other : Section}

/-- After an operation the editor is open behind the hidden terminal exactly if the operation opened
it there, or found it there and left it. -/
theorem shown_hidden_perform_iff :
    ((v.perform op).visit.shell.session.shellVisible = false ∧
        (v.perform op).visit.shell.session.mode.shown? = some target) ↔
      v.OpensHidden target op ∨
        ((v.shell.session.shellVisible = false ∧ v.shell.session.mode.shown? = some target) ∧
          v.LeavesEditor op) := by
  obtain ⟨-, hmode, hvisible⟩ := v.session_perform op
  rw [hmode, hvisible, OpensHidden, ← move?_eq_openEditor_iff, LeavesEditor]
  cases hm : v.move? op with
  | none => simp
  | some m =>
    cases hv : v.shell.session.shellVisible <;> cases m <;>
      simp [Session.shown?_move, Session.shellVisible_move, hv]

/-- After an operation the editor is open behind the hidden terminal, with another section active,
exactly if the operation found it there and went to that section, or found both so and left them. -/
theorem left_behind_perform_iff (hne : target ≠ other) :
    ((v.perform op).visit.shell.session.shellVisible = false ∧
        (v.perform op).visit.shell.session.mode.shown? = some target ∧
        (v.perform op).visit.shell.session.active = other) ↔
      ((v.shell.session.shellVisible = false ∧ v.shell.session.mode.shown? = some target) ∧
          v.move? op = some (.goTo other)) ∨
        ((v.shell.session.shellVisible = false ∧ v.shell.session.mode.shown? = some target ∧
            v.shell.session.active = other) ∧ v.LeavesLayout op) := by
  obtain ⟨hactive, hmode, hvisible⟩ := v.session_perform op
  rw [hactive, hmode, hvisible, LeavesLayout]
  cases hm : v.move? op with
  | none => simp
  | some m =>
    cases hv : v.shell.session.shellVisible <;> cases m <;>
      simp [Session.shown?_move, Session.shellVisible_move, Session.active_move, hv]
    rintro rfl rfl
    exact hne rfl

theorem editorBound_perform (v : Visit) (op : Operation) (h : v.shell.session.EditorBound) :
    (v.perform op).visit.shell.session.EditorBound := by
  rw [← Session.editorBound_layout_iff] at h ⊢
  rw [layout_perform]
  cases v.move? op with
  | none => exact h
  | some m => exact h.move m

/-! ## Runs -/

/-- In a run from a closed editor, the editor is open behind the hidden terminal exactly if it was
opened there and has lasted since. -/
theorem shown_hidden_iff_openedHidden (hv : v.shell.session.mode = .terminalOnly)
    (ops : List Operation) :
    ((v.performAll ops).shell.session.shellVisible = false ∧
        (v.performAll ops).shell.session.mode.shown? = some target) ↔
      v.OpenedHidden target ops := by
  induction ops using List.reverseRecOn with
  | nil => simp [OpenedHidden, hv, Mode.shown?]
  | append_singleton ops op ih =>
    rw [performAll_concat, shown_hidden_perform_iff, ih, OpenedHidden, Since.concat_iff]

/-- In a run from a closed editor, the editor is on one section and another one is active behind the
hidden terminal exactly if the other one was gone to while the editor was there. -/
theorem left_behind_iff_leftBehind (hv : v.shell.session.mode = .terminalOnly)
    (hne : target ≠ other) (ops : List Operation) :
    ((v.performAll ops).shell.session.shellVisible = false ∧
        (v.performAll ops).shell.session.mode.shown? = some target ∧
        (v.performAll ops).shell.session.active = other) ↔
      v.LeftBehind target other ops := by
  induction ops using List.reverseRecOn with
  | nil => simp [LeftBehind, hv, Mode.shown?]
  | append_singleton ops op ih =>
    rw [performAll_concat, left_behind_perform_iff hne, ih, shown_hidden_iff_openedHidden hv,
      LeftBehind, Since.concat_iff]

variable (settings : Settings) (chance : Chance)

theorem editorBound_performAll (ops : List Operation) :
    ((start settings chance).performAll ops).shell.session.EditorBound := by
  have hstart : (start settings chance).shell.session.EditorBound :=
    ⟨trivial, by rintro - target ⟨⟩⟩
  exact invariant_performAll editorBound_perform hstart ops

/-- **The editor stays closed while the terminal is hidden**, except where a file was opened while
the terminal was hidden and the editor has been left open since. -/
theorem closedWhileHidden_iff_not_openedHidden (ops : List Operation) :
    ((start settings chance).performAll ops).shell.session.ClosedWhileHidden ↔
      ¬ ∃ target, (start settings chance).OpenedHidden target ops := by
  rw [Session.closedWhileHidden_iff]
  simp only [shown_hidden_iff_openedHidden (v := start settings chance) rfl]

/-- A click on a file opens the editor behind the hidden terminal. -/
theorem not_closedWhileHidden_of_click :
    ¬ ((start {} .least).performAll
      [.toggleShellView, .openFile "about.md"]).shell.session.ClosedWhileHidden := by
  intro h
  have hmode : (Mode.editorOverlay .about "about.md" true) = .terminalOnly := h rfl
  contradiction

/-- **The editor is on the active section and its file**, except where another section was gone to
while the editor was open behind the hidden terminal, and both have been left so since. -/
theorem editorOnActive_iff_not_leftBehind (ops : List Operation) :
    ((start settings chance).performAll ops).shell.session.EditorOnActive ↔
      ¬ ∃ target other, target ≠ other ∧ (start settings chance).LeftBehind target other ops := by
  rw [(editorBound_performAll settings chance ops).editorOnActive_iff]
  refine not_congr (exists_congr fun target => exists_congr fun other =>
    and_congr_right fun hne => ?_)
  exact left_behind_iff_leftBehind (v := start settings chance) rfl hne ops

/-- A section gone to in the direct view leaves the editor on the section that it was opened on. -/
theorem not_editorOnActive_of_click_and_command :
    ¬ ((start {} .least).performAll
      [.toggleShellView, .openFile "about.md",
        .run "home" ⟨2024, 3, 9, 14, 5, 0⟩]).shell.session.EditorOnActive := by
  have hmode : ((start {} .least).performAll
      [.toggleShellView, .openFile "about.md",
        .run "home" ⟨2024, 3, 9, 14, 5, 0⟩]).shell.session.mode =
      .editorOverlay .about "about.md" true := by rfl
  have hactive : ((start {} .least).performAll
      [.toggleShellView, .openFile "about.md",
        .run "home" ⟨2024, 3, 9, 14, 5, 0⟩]).shell.session.active = .home := by rfl
  intro h
  have hon : Section.about = .home := by
    rw [← hactive]
    exact (h .about "about.md" true hmode).1
  contradiction

end Visit

end PortfolioTerminal
