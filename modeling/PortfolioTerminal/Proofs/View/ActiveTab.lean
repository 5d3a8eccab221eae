/-
# The section that the editor shows

The editor marks a tab by the active section of the session, and shows the file and the section that
the mode holds.  The two come apart only behind the hidden terminal, where a section gone to leaves
the editor as it is.  While the editor is on the screen they are the same, after any run of a site,
so that what the user sees is one section: its tab, its file and its summary.

The theorem is about the elements of the screen, found by their classes wherever they are, and so it
also says that nothing outside the editor passes for a part of it, whatever texts are in the
history.
-/
import PortfolioTerminal.Proofs.Site.Event
import PortfolioTerminal.Proofs.Visit.Overlay
import PortfolioTerminal.View.Screen

namespace PortfolioTerminal

/-! ## Elements of a class -/

namespace Markup

/-- Whether a class is among those that the text of an attribute lists. -/
def listsClass (cls text : String) : Bool := (Text.pieces ' ' text.toList).contains cls.toList

/-- Whether an element with these attributes is of the class. -/
def isOfClass (cls : String) (attributes : List (String × String)) : Bool :=
  (attributes.lookup "class").any (listsClass cls)

@[simp] theorem isOfClass_cons (cls text : String) (attributes : List (String × String)) :
    isOfClass cls (("class", text) :: attributes) = listsClass cls text := rfl

mutual

/-- The elements of a class in a node, the node itself included. -/
def ofClass (cls : String) : Markup → List Markup
  | text _ => []
  | element tag attributes children =>
    (if isOfClass cls attributes then [element tag attributes children] else []) ++
      allOfClass cls children

/-- The elements of a class in a list of nodes. -/
def allOfClass (cls : String) : List Markup → List Markup
  | [] => []
  | node :: nodes => node.ofClass cls ++ allOfClass cls nodes

end

@[simp] theorem ofClass_text (cls content : String) : (text content).ofClass cls = [] := rfl

theorem ofClass_element (cls tag : String) (attributes : List (String × String))
    (children : List Markup) :
    (element tag attributes children).ofClass cls =
      (if isOfClass cls attributes then [element tag attributes children] else []) ++
        allOfClass cls children := rfl

@[simp] theorem ofClass_classed (cls tag text : String) (children : List Markup) :
    (classed tag text children).ofClass cls =
      (if listsClass cls text then [classed tag text children] else []) ++
        allOfClass cls children := by
  rw [classed, ofClass_element, isOfClass_cons]

@[simp] theorem allOfClass_nil (cls : String) : allOfClass cls [] = [] := rfl

@[simp] theorem allOfClass_cons (cls : String) (node : Markup) (nodes : List Markup) :
    allOfClass cls (node :: nodes) = node.ofClass cls ++ allOfClass cls nodes := rfl

@[simp] theorem allOfClass_append (cls : String) (nodes more : List Markup) :
    allOfClass cls (nodes ++ more) = allOfClass cls nodes ++ allOfClass cls more := by
  induction nodes with
  | nil => rfl
  | cons node nodes ih => simp [ih]

/-- Nodes hold an element of the class exactly if one of them does. -/
theorem allOfClass_eq_nil_iff {cls : String} {nodes : List Markup} :
    allOfClass cls nodes = [] ↔ ∀ node ∈ nodes, node.ofClass cls = [] := by
  induction nodes with
  | nil => simp
  | cons node nodes ih => simp [ih]

@[simp] theorem ofClass_saying (cls tag text content : String) :
    (saying tag text content).ofClass cls =
      if listsClass cls text then [saying tag text content] else [] := by
  simp [saying, say]

@[simp] theorem ofClass_plain (cls tag content : String) :
    (plain tag content).ofClass cls = [] := by
  simp [plain, say, ofClass_element, isOfClass]

end Markup

/-! ## What is outside the editor -/

namespace View

open Markup (ofClass allOfClass listsClass isOfClass)

/-- The classes of the editor, of its marked tab and of what it shows below its tabs. -/
def editorClasses : List String := ["overlay", "tabActive", "loading", "content"]

/-- A text of an attribute that lists no class of the editor. -/
def IsForeign (text : String) : Prop := ∀ cls ∈ editorClasses, listsClass cls text = false

instance : DecidablePred IsForeign := fun text =>
  inferInstanceAs (Decidable (∀ cls ∈ editorClasses, listsClass cls text = false))

/-- A node that holds nothing of a class of the editor. -/
def IsOutside (node : Markup) : Prop := ∀ cls ∈ editorClasses, node.ofClass cls = []

/-- Nodes that hold nothing of a class of the editor. -/
def AreOutside (nodes : List Markup) : Prop := ∀ node ∈ nodes, IsOutside node

theorem AreOutside.allOfClass_eq_nil {cls : String} {nodes : List Markup} (h : AreOutside nodes)
    (hcls : cls ∈ editorClasses) : allOfClass cls nodes = [] :=
  Markup.allOfClass_eq_nil_iff.mpr fun node hnode => h node hnode cls hcls

@[simp] theorem areOutside_nil : AreOutside [] := by simp [AreOutside]

@[simp] theorem areOutside_cons {node : Markup} {nodes : List Markup} :
    AreOutside (node :: nodes) ↔ IsOutside node ∧ AreOutside nodes :=
  List.forall_mem_cons

theorem areOutside_map {α : Type} {f : α → Markup} (h : ∀ a, IsOutside (f a)) (l : List α) :
    AreOutside (l.map f) :=
  List.forall_mem_map.mpr fun a _ => h a

theorem areOutside_flatMap {α : Type} {f : α → List Markup} (h : ∀ a, AreOutside (f a))
    (l : List α) : AreOutside (l.flatMap f) :=
  List.forall_mem_flatMap.mpr fun a _ => h a

theorem isOutside_element {tag : String} {attributes : List (String × String)}
    {children : List Markup} :
    IsOutside (.element tag attributes children) ↔
      (∀ cls ∈ editorClasses, isOfClass cls attributes = false) ∧ AreOutside children := by
  simp only [IsOutside, AreOutside, Markup.ofClass_element, List.append_eq_nil_iff,
    Markup.allOfClass_eq_nil_iff]
  constructor
  · intro h
    exact ⟨fun cls hcls => by simpa using (h cls hcls).1, fun child hchild cls hcls =>
      (h cls hcls).2 child hchild⟩
  · rintro ⟨hattributes, hchildren⟩ cls hcls
    exact ⟨by simp [hattributes cls hcls], fun child hchild => hchildren child hchild cls hcls⟩

@[simp] theorem isOutside_classed {tag text : String} {children : List Markup} :
    IsOutside (.classed tag text children) ↔ IsForeign text ∧ AreOutside children :=
  isOutside_element

@[simp] theorem isOutside_say (content : String) : IsOutside (.say content) := fun _ _ => rfl

@[simp] theorem isOutside_saying {tag text content : String} :
    IsOutside (.saying tag text content) ↔ IsForeign text := by
  simp [Markup.saying]

@[simp] theorem isOutside_plain (tag content : String) : IsOutside (.plain tag content) := by
  simp [Markup.plain, isOutside_element, isOfClass]

@[simp] theorem inContext_some (s : Shell) (body : Shell → List Markup) :
    inContext (some s) body = body s := rfl

/-! ### The terminal -/

theorem isOutside_listItem (item : String) : IsOutside (listItem item) := by
  rw [listItem, isOutside_saying, itemClass]
  split <;> decide

theorem isOutside_tableRow (kind : OutputKind) (row : String × String) :
    IsOutside (tableRow (kindClass kind) row) := by
  cases kind <;> simp +decide [tableRow]

theorem isOutside_linkRow (kind : OutputKind) (link : Link) :
    IsOutside (linkRow (kindClass kind) link) := by
  cases kind <;> simp +decide [linkRow, isOutside_element]

theorem isOutside_output (o : Output) : IsOutside (output o) := by
  obtain ⟨kind, payload⟩ := o
  cases payload with
  | text content => cases kind <;> simp +decide [output]
  | ascii art => cases kind <;> simp +decide [output]
  | list items => cases kind <;> simp +decide [output, areOutside_map isOutside_listItem]
  | table rows => simp +decide [output, areOutside_map (isOutside_tableRow kind)]
  | links links => simp +decide [output, areOutside_map (isOutside_linkRow kind)]

theorem isOutside_suggestion (active : Nat) (candidate : String × Nat) :
    IsOutside (suggestion active candidate) := by
  rw [suggestion, isOutside_saying]
  split <;> decide

theorem areOutside_suggestions (p : SuggestionPane) : AreOutside (suggestions p) := by
  rw [suggestions]
  split <;> simp +decide [areOutside_map (isOutside_suggestion p.active)]

theorem areOutside_input (promptText : String) (s : Shell) :
    AreOutside (input promptText (some s)) := by
  simp +decide [input, inputField, isOutside_element, areOutside_suggestions]

theorem areOutside_historyRow (row : HistoryRow) : AreOutside (historyRow row) := by
  simp +decide [historyRow, isOutside_output]

theorem isOutside_viewBar (h : History) : IsOutside (viewBar h) := by
  rw [viewBar]
  split <;> simp +decide

theorem isOutside_banner : IsOutside banner := by
  simp +decide [banner]

theorem areOutside_terminal (s : Shell) : AreOutside (terminal (some s)) := by
  -- the rows hold any text, but a text is no element
  have hrows := areOutside_flatMap areOutside_historyRow s.history.view.rows
  rw [terminal, inContext_some]
  split <;> simp +decide [isOutside_banner, isOutside_viewBar, hrows, areOutside_input]

theorem isOutside_toolbar (s : Session) : IsOutside (toolbar s) := by
  simp +decide [toolbar]

/-! ## What is in the editor -/

/-- Of the tabs the one of the active section is marked, and no other one; and the header passes for
nothing else of the editor. -/
theorem ofClass_editorHeader (active : Section) :
    (editorHeader active).ofClass "overlay" = [] ∧
      (editorHeader active).ofClass "tabActive" =
        [.saying "button" "tab tabActive" active.fileName] ∧
      (editorHeader active).ofClass "loading" = [] ∧
      (editorHeader active).ofClass "content" = [] := by
  cases active <;> simp +decide [editorHeader, tabs, Section.all, tabClass]

/-- The page of the manual on a section is found by the name of the section. -/
theorem lookup?_name (s : Section) : Manual.lookup? s.name = some (Manual.page (.goTo s)) := by
  cases s <;> decide +kernel

/-- What the editor shows of a section, by the classes of its parts: the tab of the section is the
one that is marked, and below the tabs is the file that loads or, once it is loaded, the file and
the summary. -/
structure ShowsSection (editor : Markup) (s : Section) (summary : String) (loading : Bool) :
    Prop where
  marked : editor.ofClass "tabActive" = [.saying "button" "tab tabActive" s.fileName]
  waiting : editor.ofClass "loading" =
    if loading then [.saying "div" "loading" ("Loading " ++ s.fileName ++ "...")] else []
  shown : editor.ofClass "content" =
    if loading then []
    else [.classed "div" "content" [.saying "div" "fileName" s.fileName, .plain "div" summary]]

/-- The editor on the active section. -/
def editorOn (s : Section) (loading : Bool) : Markup :=
  .classed "div" "overlay" (editorHeader s :: editorBody (.editorOverlay s s.fileName loading))

theorem ofClass_overlay_editorOn (s : Section) (loading : Bool) :
    (editorOn s loading).ofClass "overlay" = [editorOn s loading] := by
  have hheader := (ofClass_editorHeader s).1
  cases loading <;> simp +decide [editorOn, editorBody, hheader]

theorem showsSection_editorOn (s : Section) (loading : Bool) :
    ShowsSection (editorOn s loading) s (summary s) loading := by
  obtain ⟨-, hmarked, hloading, hcontent⟩ := ofClass_editorHeader s
  constructor <;> cases loading <;>
    simp +decide [editorOn, editorBody, hmarked, hloading, hcontent]

/-! ## What is on the screen -/

/-- While the terminal is shown, whatever is of a class of the editor is in the open editor. -/
theorem allOfClass_screen {cls : String} (hcls : cls ∈ editorClasses) {s : Shell}
    (hvisible : s.session.shellVisible = true) :
    allOfClass cls (screen (some s)) =
      if s.session.mode.isOverlay then allOfClass cls (editorOverlay (some s)) else [] := by
  have hframe : ∀ text ∈ ["screen", "main"], listsClass cls text = false := by
    revert cls
    decide
  have htoolbar : (toolbar s.session).ofClass cls = [] := isOutside_toolbar s.session cls hcls
  have hterminal : allOfClass cls (terminal (some s)) = [] :=
    (areOutside_terminal s).allOfClass_eq_nil hcls
  have hmain : allOfClass cls (mainArea s) =
      if s.session.mode.isOverlay then allOfClass cls (editorOverlay (some s)) else [] := by
    rw [mainArea, if_pos hvisible, Markup.allOfClass_append, hterminal, List.nil_append]
    split <;> rfl
  simp [screen, Markup.ofClass_element, hframe, htoolbar, hmain]

/-- While the active section is shown directly, no editor is on the screen. -/
theorem overlay_screen_of_hidden {s : Shell} (hhidden : s.session.shellVisible = false) :
    allOfClass "overlay" (screen (some s)) = [] := by
  have hsection : allOfClass "overlay" (sectionView (some s)) = [] := by
    rw [sectionView, inContext_some]
    cases s.session.active <;> simp +decide
  have htoolbar : (toolbar s.session).ofClass "overlay" = [] :=
    isOutside_toolbar s.session "overlay" (by decide)
  simp +decide [screen, Markup.ofClass_element, htoolbar, mainArea, hhidden, hsection]

/-- Where the editor is bound to the active section while the terminal is shown, what it shows on
the screen is that section. -/
theorem screen_shows_section {s : Shell} (hbound : s.session.EditorBound)
    (hvisible : s.session.shellVisible = true) (hopen : s.session.mode.isOverlay = true) :
    ∃ editor target, allOfClass "overlay" (screen (some s)) = [editor] ∧
      (∀ cls ∈ editorClasses, allOfClass cls (screen (some s)) = editor.ofClass cls) ∧
      ShowsSection editor target (summary target) s.session.mode.isLoading := by
  obtain ⟨on, fileName, loading, hmode⟩ :
      ∃ on fileName loading, s.session.mode = .editorOverlay on fileName loading := by
    cases hm : s.session.mode with
    | terminalOnly => simp [hm, Mode.isOverlay] at hopen
    | editorOverlay on fileName loading => exact ⟨on, fileName, loading, rfl⟩
  -- the tabs read the active section, what is below them reads the mode: here the two meet
  have hfile : fileName = on.fileName := by simpa [hmode, Mode.OnOwnFile] using hbound.onOwnFile
  have hactive : on = s.session.active := hbound.onActive hvisible on (by rw [hmode, Mode.shown?])
  have heditor : editorOverlay (some s) = [editorOn on loading] := by
    rw [editorOverlay, inContext_some, ← hactive, hmode, hfile, editorOn]
  have hall : ∀ cls ∈ editorClasses,
      allOfClass cls (screen (some s)) = (editorOn on loading).ofClass cls := fun cls hcls => by
    rw [allOfClass_screen hcls hvisible, if_pos hopen, heditor, Markup.allOfClass_cons,
      Markup.allOfClass_nil, List.append_nil]
  refine ⟨editorOn on loading, on, ?_, hall, ?_⟩
  · rw [hall "overlay" (by decide), ofClass_overlay_editorOn]
  · rw [hmode]
    exact showsSection_editorOn on loading

end View

namespace Site

open View Markup

variable (settings : Settings) (chance : Chance) (clock : CivilTime)

/-- Whatever happens, the editor shows the file of its section, and that is the active one while the
terminal is shown. -/
theorem editorBound_happenAll (events : List Event) :
    ((start settings chance clock).happenAll events).shell.session.EditorBound := by
  refine invariant_happenAll (P := fun s => s.shell.session.EditorBound) (fun s e h => ?_) ?_ events
  · rw [shell_happen]
    cases s.operation? e with
    | none => exact h
    | some op => exact s.visit.editorBound_perform op h
  · exact Visit.editorBound_performAll settings chance []

/-- **The editor never shows two sections at once.**  Whatever happens at a site, an editor is on
the screen exactly while the terminal is shown with the editor open.  There is one then, and it
holds all on the screen that is of a class of the editor: one marked tab, and below the tabs the
file that loads, or the file and its summary, all of the same section. -/
theorem editor_shows_one_section (events : List Event) :
    let s := ((start settings chance clock).happenAll events).shell
    (allOfClass "overlay" (screen (some s)) ≠ [] ↔
      s.session.shellVisible = true ∧ s.session.mode.isOverlay = true) ∧
    ∀ editor ∈ allOfClass "overlay" (screen (some s)),
      allOfClass "overlay" (screen (some s)) = [editor] ∧
      (∀ cls ∈ editorClasses, allOfClass cls (screen (some s)) = editor.ofClass cls) ∧
      ∃ target page, Manual.lookup? target.name = some page ∧
        ShowsSection editor target page.summary s.session.mode.isLoading := by
  intro s
  have hbound : s.session.EditorBound := editorBound_happenAll settings chance clock events
  by_cases hshown : s.session.shellVisible = true ∧ s.session.mode.isOverlay = true
  · obtain ⟨hvisible, hopen⟩ := hshown
    obtain ⟨editor, target, hone, hall, hshows⟩ := screen_shows_section hbound hvisible hopen
    refine ⟨by simp [hone, hvisible, hopen], fun other hother => ?_⟩
    obtain rfl : other = editor := by simpa [hone] using hother
    exact ⟨hone, hall, target, _, lookup?_name target, hshows⟩
  · have hnone : allOfClass "overlay" (screen (some s)) = [] := by
      cases hvisible : s.session.shellVisible with
      | false => exact overlay_screen_of_hidden hvisible
      | true =>
        have hclosed : ¬ s.session.mode.isOverlay = true := fun hopen => hshown ⟨hvisible, hopen⟩
        rw [allOfClass_screen (by decide) hvisible, if_neg hclosed]
    refine ⟨by simp [hnone, hshown], fun editor heditor => ?_⟩
    simp [hnone] at heditor

end Site

end PortfolioTerminal
