/-
# The layout of a session

The layout is the part of a session that decides what is in front of the user: the active section,
the editor, and whether the terminal is shown.  It changes by five moves only, and no move reads
anything but the layout.
-/
import PortfolioTerminal.Session

namespace PortfolioTerminal

/-- A move that changes the layout of a session. -/
inductive Move
  | goTo (target : Section)
  | openEditor (target : Section)
  | closeEditor
  | finishLoading
  | toggleShellView
  deriving DecidableEq, Repr

/-- The section whose file the editor shows. -/
def Mode.shown? : Mode → Option Section
  | .terminalOnly => none
  | .editorOverlay on _ _ => some on

/-- The mode is the terminal alone exactly if the editor shows nothing. -/
theorem Mode.shown?_eq_none_iff {m : Mode} : m.shown? = none ↔ m = .terminalOnly := by
  cases m <;> simp [shown?]

/-- The editor, if it is open, shows the file of its section. -/
def Mode.OnOwnFile : Mode → Prop
  | .terminalOnly => True
  | .editorOverlay on fileName _ => fileName = on.fileName

/-- Whether the editor shows its loading text. -/
def Mode.isLoading : Mode → Bool
  | .terminalOnly => false
  | .editorOverlay _ _ loading => loading

namespace Session

/-- The editor, if it is open, shows the file of its section, which is the active one while the
terminal is shown. -/
structure EditorBound (s : Session) : Prop where
  onOwnFile : s.mode.OnOwnFile
  onActive : s.shellVisible = true → ∀ target, s.mode.shown? = some target → target = s.active

/-- The layout, with all else as in a fresh session. -/
def layout (s : Session) : Session :=
  { active := s.active, mode := s.mode, shellVisible := s.shellVisible }

theorem layout_eq_iff {s t : Session} :
    s.layout = t.layout ↔
      s.active = t.active ∧ s.mode = t.mode ∧ s.shellVisible = t.shellVisible := by
  simp [layout]

/-- The session after a move. -/
def move (s : Session) : Move → Session
  | .goTo target => s.goTo target
  | .openEditor target => s.openEditor target
  | .closeEditor => s.closeEditor
  | .finishLoading => s.finishLoading
  | .toggleShellView => s.toggleShellView

/-- Whether a move opens the editor, which may be open already. -/
def opens (s : Session) : Move → Bool
  | .goTo _ => s.shellVisible
  | .openEditor _ => true
  | .toggleShellView => !s.shellVisible
  | .closeEditor | .finishLoading => false

/-- Whether a move takes the editor away. -/
def closes (s : Session) : Move → Bool
  | .closeEditor => true
  | .toggleShellView => s.shellVisible
  | .goTo _ | .openEditor _ | .finishLoading => false

/-! ## Moves and the layout -/

@[simp] theorem layout_setProcessing (s : Session) (processing : Bool) :
    (s.setProcessing processing).layout = s.layout := rfl

/-- A move acts on the layout alone. -/
@[simp] theorem layout_move (s : Session) (m : Move) : (s.move m).layout = s.layout.move m := by
  cases m with
  | goTo target => cases h : s.shellVisible <;> simp [move, goTo, openEditor, layout, h]
  | finishLoading =>
    cases h : s.mode <;> simp [move, finishLoading, layout, h]
  | toggleShellView =>
    cases h : s.shellVisible <;> simp [move, toggleShellView, openEditor, layout, h]
  | openEditor target => rfl
  | closeEditor => rfl

/-- A move changes nothing but the layout. -/
theorem frame_move (s : Session) (m : Move) :
    (s.move m).cwd = s.cwd ∧ (s.move m).theme = s.theme ∧ (s.move m).processing = s.processing := by
  cases m with
  | goTo target =>
    simp only [move, goTo]
    split <;> exact ⟨rfl, rfl, rfl⟩
  | finishLoading =>
    simp only [move, finishLoading]
    split <;> exact ⟨rfl, rfl, rfl⟩
  | toggleShellView =>
    simp only [move, toggleShellView]
    split <;> exact ⟨rfl, rfl, rfl⟩
  | _ => exact ⟨rfl, rfl, rfl⟩

@[simp] theorem processing_goTo (s : Session) (target : Section) :
    (s.goTo target).processing = s.processing :=
  (s.frame_move (.goTo target)).2.2

@[simp] theorem processing_finishLoading (s : Session) :
    s.finishLoading.processing = s.processing :=
  (s.frame_move .finishLoading).2.2

@[simp] theorem processing_toggleShellView (s : Session) :
    s.toggleShellView.processing = s.processing :=
  (s.frame_move .toggleShellView).2.2

/-! ## What a move does to each part of the layout -/

/-- Only hiding and showing the terminal changes whether it is shown. -/
theorem shellVisible_move (s : Session) (m : Move) :
    (s.move m).shellVisible = if m = .toggleShellView then !s.shellVisible else s.shellVisible := by
  cases m with
  | finishLoading =>
    simp only [move, finishLoading]
    split <;> simp
  | _ => simp [move, openEditor, closeEditor]

/-- Whatever opens the editor shows the file of the section that it makes active. -/
theorem shown?_move (s : Session) (m : Move) :
    (s.move m).mode.shown? =
      match m with
      | .goTo target => if s.shellVisible then some target else s.mode.shown?
      | .openEditor target => some target
      | .closeEditor => none
      | .finishLoading => s.mode.shown?
      | .toggleShellView => if s.shellVisible then none else some s.active := by
  cases m with
  | goTo target =>
    simp only [move, goTo]
    split <;> rfl
  | finishLoading =>
    simp only [move, finishLoading]
    split <;> rename_i hm <;> simp [hm, Mode.shown?]
  | toggleShellView =>
    simp only [move, toggleShellView]
    split <;> rfl
  | _ => rfl

/-- Only going somewhere and opening the editor change the active section. -/
theorem active_move (s : Session) (m : Move) :
    (s.move m).active =
      match m with
      | .goTo target => target
      | .openEditor target => target
      | _ => s.active := by
  cases m <;> simp [move, openEditor, closeEditor]

/-- The editor loads from when it is opened until it is taken away or its loading is ended. -/
theorem isLoading_move (s : Session) (m : Move) :
    (s.move m).mode.isLoading =
      (s.opens m || (s.mode.isLoading && !s.closes m && m != .finishLoading)) := by
  cases m with
  | goTo target =>
    simp only [move, goTo, opens, closes]
    cases s.shellVisible <;> simp [openEditor, Mode.opening, Mode.isLoading]
  | finishLoading =>
    simp only [move, finishLoading]
    cases h : s.mode <;> simp [h, Mode.isLoading, opens]
  | toggleShellView =>
    simp only [move, toggleShellView, opens, closes]
    cases s.shellVisible <;> simp [openEditor, Mode.opening, Mode.isLoading]
  | openEditor target => rfl
  | closeEditor => simp [move, closeEditor, opens, closes, Mode.isLoading]

/-- No move opens the editor on a file of another section. -/
theorem onOwnFile_move {s : Session} (h : s.mode.OnOwnFile) (m : Move) :
    (s.move m).mode.OnOwnFile := by
  cases m with
  | goTo target =>
    simp only [move, goTo]
    split
    · rfl
    · exact h
  | openEditor target => rfl
  | closeEditor => trivial
  | finishLoading =>
    simp only [move, finishLoading]
    split <;> rename_i hm <;> rw [hm] at h
    · rw [hm]
      exact h
    · exact h
  | toggleShellView =>
    simp only [move, toggleShellView]
    split
    · trivial
    · rfl

/-- Every move keeps the editor where it belongs while the terminal is shown. -/
theorem EditorBound.move {s : Session} (h : s.EditorBound) (m : Move) : (s.move m).EditorBound := by
  refine ⟨onOwnFile_move h.onOwnFile m, ?_⟩
  have honActive := h.onActive
  rw [shellVisible_move, shown?_move, active_move]
  cases hv : s.shellVisible <;> cases m <;> simp_all

/-- Whether the editor is where it belongs is a matter of the layout alone. -/
theorem editorBound_layout_iff {s : Session} : s.layout.EditorBound ↔ s.EditorBound :=
  ⟨fun h => ⟨h.onOwnFile, h.onActive⟩, fun h => ⟨h.onOwnFile, h.onActive⟩⟩

end Session

end PortfolioTerminal
