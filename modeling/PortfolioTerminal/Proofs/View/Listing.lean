/-
# Kinds of rows on the screen

A listing says which of its rows are directories by a slash behind their names, and the screen reads
this off the label again.  No name of an entry holds a slash, and so nothing is lost on the way: a
label ends with a slash exactly if the row is a directory, and without that slash it is the name.

Names tell the rows of a listing apart, those of the section files too, which are added at the root
only where no entry bears the name already.  So the labels tell them apart as well, although a
directory and a file might differ in the slash alone.
-/
import Mathlib.Data.List.Nodup
import PortfolioTerminal.Evaluation
import PortfolioTerminal.Proofs.FileTree.Reading
import PortfolioTerminal.View.Output

namespace PortfolioTerminal

/-! ## Labels -/

namespace ListingRow

variable {row : ListingRow}

/-- A label without the slash at its end, if there is one. -/
def unslashed (label : String) : String :=
  if label.toList.getLast? = some '/' then String.ofList label.toList.dropLast else label

theorem label_of_directory (h : row.kind = .directory) : row.label = row.name ++ "/" := by
  rw [label, h]

theorem label_of_not_directory (h : row.kind ≠ .directory) : row.label = row.name := by
  unfold label
  split <;> trivial

theorem getLast?_label_eq_slash_iff (hname : Path.isEntryName row.name = true) :
    row.label.toList.getLast? = some '/' ↔ row.kind = .directory := by
  constructor
  · intro hlast
    by_contra hkind
    rw [label_of_not_directory hkind] at hlast
    exact (Path.isEntryName_iff.mp hname).2 (List.mem_of_getLast? hlast)
  · intro hkind
    rw [label_of_directory hkind]
    simp

theorem unslashed_label (hname : Path.isEntryName row.name = true) :
    unslashed row.label = row.name := by
  by_cases hkind : row.kind = .directory
  · rw [unslashed, if_pos ((getLast?_label_eq_slash_iff hname).mpr hkind),
      label_of_directory hkind]
    simp
  · rw [unslashed, if_neg fun hlast => hkind ((getLast?_label_eq_slash_iff hname).mp hlast),
      label_of_not_directory hkind]

theorem label_ne_empty (hname : Path.isEntryName row.name = true) : row.label ≠ "" := by
  intro hempty
  have hnone : unslashed row.label = "" := by
    rw [hempty]
    decide
  rw [unslashed_label hname] at hnone
  exact (Path.isEntryName_iff.mp hname).1 hnone

end ListingRow

/-! ## Rows -/

namespace FileTree

variable {tree : FileTree} {cwd path : String} {children : List Node} {rows : List ListingRow}

theorem isEntryName_fileName (s : Section) : Path.isEntryName s.fileName = true := by
  cases s <;> decide

theorem fileName_injective : Function.Injective Section.fileName := by
  intro s s' h
  revert h
  cases s <;> cases s' <;> decide

theorem isEntryName_of_mem_listing (h : ∀ c ∈ children, Path.isEntryName c.name = true)
    {row : ListingRow} (hrow : row ∈ listing path children) :
    Path.isEntryName row.name = true := by
  rcases mem_listing_iff.mp hrow with ⟨c, hc, rfl⟩ | ⟨-, s, rfl, -⟩
  · exact h c hc
  · exact isEntryName_fileName s

/-- The section files are added under names of their own. -/
theorem nodup_map_name_listing (h : (children.map Node.name).Nodup) :
    ((listing path children).map ListingRow.name).Nodup := by
  have hrows : (children.map rowOf).map ListingRow.name = children.map Node.name := by
    simp [Function.comp_def, rowOf]
  unfold listing
  split
  · have hsections : ((sectionRows (children.map rowOf)).map ListingRow.name).Nodup := by
      rw [sectionRows, List.map_map]
      exact (Section.all_nodup.filter _).map fileName_injective
    rw [List.map_append, hrows]
    refine h.append hsections fun name hname hnew => ?_
    obtain ⟨row, hrow, rfl⟩ := List.mem_map.mp hnew
    obtain ⟨s, rfl, hother⟩ := mem_sectionRows_iff.mp hrow
    obtain ⟨c, hc, hsame⟩ := List.mem_map.mp hname
    exact hother c hc hsame
  · rwa [hrows]

/-- The rows that `ls` lists are named as entries are, and no two of them alike. -/
theorem names_of_list_eq_ok (h : tree.WellNamed Path.isEntryName) {target : Option String}
    (hlist : tree.list cwd target = .ok rows) :
    (∀ row ∈ rows, Path.isEntryName row.name = true) ∧ (rows.map ListingRow.name).Nodup := by
  obtain ⟨name, children, hfind, rfl⟩ := list_eq_ok_iff.mp hlist
  obtain ⟨hnodup, hbelow⟩ := Node.wellNamed_iff.mp (Node.wellNamed_of_descend? h hfind)
  exact ⟨fun row => isEntryName_of_mem_listing fun c hc => (hbelow c hc).1,
    nodup_map_name_listing hnodup⟩

/-- Labels tell the rows apart, since the names are read off them. -/
theorem nodup_map_label (hnames : ∀ row ∈ rows, Path.isEntryName row.name = true)
    (h : (rows.map ListingRow.name).Nodup) : (rows.map ListingRow.label).Nodup := by
  have hread : (rows.map ListingRow.label).map ListingRow.unslashed = rows.map ListingRow.name := by
    rw [List.map_map]
    exact List.map_congr_left fun row hrow => ListingRow.unslashed_label (hnames row hrow)
  exact List.Nodup.of_map ListingRow.unslashed (hread ▸ h)

end FileTree

/-! ## The screen -/

namespace View

/-- A row as it should be shown: its label, in the style of directories exactly if it is one. -/
def listedRow (row : ListingRow) : Markup :=
  .element "span" [("class", if row.kind = .directory then directoryClass else "textFg")]
    [.text row.label]

theorem listItem_label {row : ListingRow} (hname : Path.isEntryName row.name = true) :
    listItem row.label = listedRow row := by
  have hclass : itemClass row.label =
      if row.kind = .directory then directoryClass else "textFg" := by
    simp only [itemClass, ListingRow.getLast?_label_eq_slash_iff hname]
  rw [listItem, Markup.saying, Markup.classed, Markup.say,
    if_neg (ListingRow.label_ne_empty hname), hclass, listedRow]

/-- **Kinds of rows survive to the screen.**  Where `ls` lists rows, it answers with their labels,
which tell the rows apart and from which their names and the directories among them are read; and
the screen shows one item for each row, in order, and as a directory exactly the directories. -/
theorem output_listed {s : Session} {w : Surroundings} (h : w.tree.WellNamed Path.isEntryName)
    {target : Option String} {rows : List ListingRow}
    (hlist : w.tree.list s.cwd target = .ok rows) (g : Generator) :
    let listed : Output := ⟨.system, .list (rows.map ListingRow.label)⟩
    (Command.ls (target.map TypedPath.mk)).evaluate s w g = (.shows listed, g) ∧
      (rows.map ListingRow.label).Nodup ∧
      (∀ row ∈ rows, (row.label.toList.getLast? = some '/' ↔ row.kind = .directory) ∧
        ListingRow.unslashed row.label = row.name) ∧
      output listed = .classed "div" ("list " ++ kindClass .system) (rows.map listedRow) := by
  intro listed
  obtain ⟨hnames, hnodup⟩ := FileTree.names_of_list_eq_ok h hlist
  refine ⟨?_, FileTree.nodup_map_label hnames hnodup, fun row hrow => ?_, ?_⟩
  · have houtcome : listOutcome w.tree s.cwd (target.map TypedPath.mk) = .ok (.shows listed) := by
      have htarget : (target.map TypedPath.mk).map (·.text) = target := by
        cases target <;> rfl
      rw [listOutcome, htarget, hlist]
      rfl
    rw [Command.evaluate, Command.evaluateM, houtcome, Outcome.ofExcept, Id.run_pure]
  · exact ⟨ListingRow.getLast?_label_eq_slash_iff (hnames row hrow),
      ListingRow.unslashed_label (hnames row hrow)⟩
  · have hitems : (rows.map ListingRow.label).map listItem = rows.map listedRow := by
      rw [List.map_map]
      exact List.map_congr_left fun row hrow => listItem_label (hnames row hrow)
    show Markup.classed "div" _ ((rows.map ListingRow.label).map listItem) = _
    rw [hitems]

/-- A directory that bears the name of a section file, listed from within: the section files that
are left are added behind it. -/
theorem output_listed_taken_name :
    let s : Session := { cwd := "/home.sh" }
    let w : Surroundings :=
      ⟨⟨[.file "blog" "", .directory "home.sh" [.file "..." ""]]⟩, {}, ⟨2024, 3, 9, 14, 5, 0⟩⟩
    let rows : List ListingRow := ⟨"blog", .file⟩ :: ⟨"home.sh", .directory⟩ ::
      [Section.about, .skills, .projects, .contact, .files, .blog].map fun s =>
        ⟨s.fileName, .sectionFile⟩
    w.tree.WellNamed Path.isEntryName ∧ w.tree.list s.cwd (some "..") = .ok rows ∧
      (rows.map ListingRow.label).Nodup ∧
      output ⟨.system, .list (rows.map ListingRow.label)⟩ =
        .classed "div" ("list " ++ kindClass .system) (rows.map listedRow) := by
  intro s w rows
  have hnamed : w.tree.WellNamed Path.isEntryName := by decide
  have hlist : w.tree.list s.cwd (some "..") = .ok rows := by decide +kernel
  obtain ⟨-, hnodup, -, hshown⟩ := output_listed hnamed hlist (Chance.least.generator none)
  exact ⟨hnamed, hlist, hnodup, hshown⟩

end View

end PortfolioTerminal
