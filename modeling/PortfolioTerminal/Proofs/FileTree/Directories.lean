/-
# Listed directories

In a tree whose entries are named apart from their siblings, a name leads to the child that bears
it.  The walk that writes down the paths of all directories and the lookup that takes a path apart
then agree: the walk lists the paths that lead to a directory.

What a name has to satisfy is left open.  The walk and the lookup agree when no name is empty or
holds a slash; the listed paths are canonical when no name is `.` or `..` either.
-/
import PortfolioTerminal.FileTree.Portfolio
import PortfolioTerminal.Proofs.Path

namespace PortfolioTerminal

namespace Node

/-- Induction over a node, with a hypothesis for each of its children. -/
@[induction_eliminator]
theorem inductionOn {motive : Node → Prop} (file : ∀ name content, motive (file name content))
    (directory : ∀ name children, (∀ c ∈ children, motive c) → motive (directory name children)) :
    ∀ node, motive node
  | .file name content => file name content
  | .directory name children =>
    directory name children fun c _ => inductionOn file directory c

/-! ## Well-named nodes -/

mutual

/-- Whether the entries below `node` have names that satisfy `ok` and that tell siblings apart. -/
def wellNamed (ok : String → Bool) : Node → Bool
  | file _ _ => true
  | directory _ children => decide (children.map name).Nodup && allWellNamed ok children

/-- Whether the entries and all those below them have names that satisfy `ok`, and whether the names
below them tell siblings apart. -/
def allWellNamed (ok : String → Bool) : List Node → Bool
  | [] => true
  | node :: nodes => ok node.name && node.wellNamed ok && allWellNamed ok nodes

end

variable {ok : String → Bool} {node : Node}

theorem allWellNamed_iff {nodes : List Node} :
    allWellNamed ok nodes = true ↔
      ∀ c ∈ nodes, ok c.name = true ∧ c.wellNamed ok = true := by
  induction nodes with
  | nil => simp [allWellNamed]
  | cons c nodes ih => simp [allWellNamed, ih]

theorem wellNamed_iff :
    node.wellNamed ok = true ↔ (node.children.map name).Nodup ∧
      ∀ c ∈ node.children, ok c.name = true ∧ c.wellNamed ok = true := by
  cases node with
  | file name content => simp [wellNamed, children]
  | directory name children => simp [wellNamed, Node.children, allWellNamed_iff]

/-- A weaker condition on the names holds of the same nodes. -/
theorem wellNamed_mono {weaker : String → Bool} (hok : ∀ name, ok name = true → weaker name = true)
    (h : node.wellNamed ok = true) : node.wellNamed weaker = true := by
  induction node with
  | file name content => rfl
  | directory name children ih =>
    obtain ⟨hnodup, hchildren⟩ := wellNamed_iff.mp h
    refine wellNamed_iff.mpr ⟨hnodup, fun c hc => ?_⟩
    obtain ⟨hname, hbelow⟩ := hchildren c hc
    exact ⟨hok c.name hname, ih c hc hbelow⟩

/-! ## Descending -/

/-- A name leads to the one child that bears it. -/
theorem child?_eq_some_iff (h : (node.children.map name).Nodup) {name : String} {c : Node} :
    node.child? name = some c ↔ c ∈ node.children ∧ c.name = name := by
  unfold child?
  generalize node.children = nodes at h
  induction nodes with
  | nil => simp
  | cons first nodes ih =>
    rw [List.map_cons, List.nodup_cons] at h
    by_cases hfirst : first.name = name
    · rw [List.find?_cons_of_pos (by simpa using hfirst), Option.some.injEq, List.mem_cons]
      constructor
      · rintro rfl
        exact ⟨Or.inl rfl, hfirst⟩
      · rintro ⟨rfl | hc, hname⟩
        · rfl
        · exact absurd (hfirst.trans hname.symm ▸ List.mem_map_of_mem hc) h.1
    · rw [List.find?_cons_of_neg (by simpa using hfirst), ih h.2, List.mem_cons]
      constructor
      · rintro ⟨hc, hname⟩
        exact ⟨Or.inr hc, hname⟩
      · rintro ⟨rfl | hc, hname⟩
        · exact absurd hname hfirst
        · exact ⟨hc, hname⟩

@[simp] theorem descend?_nil : node.descend? [] = some node := rfl

@[simp] theorem descend?_cons (name : String) (names : List String) :
    node.descend? (name :: names) = (node.child? name).bind fun c => c.descend? names := rfl

theorem descend?_cons_eq_some_iff (h : node.wellNamed ok = true) {name : String}
    {names : List String} {d : Node} :
    node.descend? (name :: names) = some d ↔
      ∃ c ∈ node.children, c.name = name ∧ c.descend? names = some d := by
  rw [descend?_cons, Option.bind_eq_some_iff]
  simp only [child?_eq_some_iff (wellNamed_iff.mp h).1, and_assoc]

/-- The names of a path that leads somewhere are names of entries. -/
theorem ok_of_descend? {names : List String} {d : Node} (h : node.wellNamed ok = true)
    (hd : node.descend? names = some d) : ∀ name ∈ names, ok name = true := by
  induction names generalizing node with
  | nil => simp
  | cons name names ih =>
    obtain ⟨c, hc, rfl, hdescend⟩ := (descend?_cons_eq_some_iff h).mp hd
    obtain ⟨hname, hbelow⟩ := (wellNamed_iff.mp h).2 c hc
    intro n hn
    rcases List.mem_cons.mp hn with rfl | hn
    · exact hname
    · exact ih hbelow hdescend n hn

theorem descend?_append (names more : List String) :
    node.descend? (names ++ more) = (node.descend? names).bind fun d => d.descend? more := by
  induction names generalizing node with
  | nil => rfl
  | cons name names ih =>
    rw [List.cons_append, descend?_cons, descend?_cons, Option.bind_assoc]
    simp only [ih]

/-- The last name of a path leads from a directory to its child of that name. -/
theorem exists_directory_of_descend?_concat {names : List String} {name : String} {d : Node}
    (hd : node.descend? (names ++ [name]) = some d) :
    ∃ e, node.descend? names = some e ∧ e.isDirectory = true ∧ e.child? name = some d := by
  rw [descend?_append, Option.bind_eq_some_iff] at hd
  obtain ⟨e, he, hchild⟩ := hd
  have hchild' : e.child? name = some d := by simpa using hchild
  refine ⟨e, he, ?_, hchild'⟩
  cases e with
  | file => simp [child?, children] at hchild'
  | directory => rfl

/-- What is below a well-named node is well-named. -/
theorem wellNamed_of_descend? {names : List String} {d : Node} (h : node.wellNamed ok = true)
    (hd : node.descend? names = some d) : d.wellNamed ok = true := by
  induction names generalizing node with
  | nil =>
    obtain rfl : node = d := by simpa using hd
    exact h
  | cons name names ih =>
    obtain ⟨c, hc, -, hdescend⟩ := (descend?_cons_eq_some_iff h).mp hd
    exact ih ((wellNamed_iff.mp h).2 c hc).2 hdescend

/-! ## The walk -/

theorem mem_directoryPathsIn_iff {base path : String} {nodes : List Node} :
    path ∈ directoryPathsIn base nodes ↔ ∃ c ∈ nodes, path ∈ c.directoryPaths base := by
  induction nodes with
  | nil => simp [directoryPathsIn]
  | cons c nodes ih => simp [directoryPathsIn, ih]

/-- The walk from a node lists the paths that lead from it to a directory. -/
theorem mem_directoryPaths_iff {names : List String} {path : String}
    (hnames : ∀ name ∈ names, Path.isEntryName name = true)
    (hname : Path.isEntryName node.name = true) (h : node.wellNamed Path.isEntryName = true) :
    path ∈ node.directoryPaths (Path.ofComponents names) ↔
      ∃ below d, node.descend? below = some d ∧ d.isDirectory = true ∧
        path = Path.ofComponents (names ++ node.name :: below) := by
  -- the children are walked from a longer path, so the hypothesis is for every one
  induction node generalizing names with
  | file name content =>
    constructor
    · intro hpath
      simp [directoryPaths] at hpath
    · rintro ⟨below, d, hd, hdirectory, rfl⟩
      cases below with
      | nil =>
        obtain rfl : file name content = d := by simpa using hd
        contradiction
      | cons n below =>
        obtain ⟨c, hc, -⟩ := (descend?_cons_eq_some_iff h).mp hd
        simp [children] at hc
  | directory name children ih =>
    have hbelow := (wellNamed_iff.mp h).2
    have hbase : ∀ n ∈ names ++ [name], Path.isEntryName n = true :=
      List.forall_mem_append.mpr ⟨hnames, List.forall_mem_singleton.mpr hname⟩
    rw [directoryPaths, Path.child_ofComponents hnames, List.mem_cons, mem_directoryPathsIn_iff]
    constructor
    · rintro (rfl | ⟨c, hc, hpath⟩)
      · exact ⟨[], directory name children, rfl, rfl, rfl⟩
      · obtain ⟨hcname, hcbelow⟩ := hbelow c hc
        obtain ⟨below, d, hd, hdirectory, rfl⟩ := (ih c hc hbase hcname hcbelow).mp hpath
        refine ⟨c.name :: below, d, ?_, hdirectory, by simp [Node.name]⟩
        exact (descend?_cons_eq_some_iff h).mpr ⟨c, hc, rfl, hd⟩
    · rintro ⟨below, d, hd, hdirectory, rfl⟩
      cases below with
      | nil => exact Or.inl rfl
      | cons n below =>
        obtain ⟨c, hc, rfl, hdescend⟩ := (descend?_cons_eq_some_iff h).mp hd
        obtain ⟨hcname, hcbelow⟩ := hbelow c hc
        refine Or.inr ⟨c, hc, (ih c hc hbase hcname hcbelow).mpr ?_⟩
        exact ⟨below, d, hdescend, hdirectory, by simp [Node.name]⟩

end Node

/-! ## Trees -/

namespace FileTree

variable {tree : FileTree} {ok : String → Bool}

/-- A tree whose entries have names that satisfy `ok` and that tell siblings apart. -/
def WellNamed (ok : String → Bool) (tree : FileTree) : Prop := tree.root.wellNamed ok = true

instance : Decidable (WellNamed ok tree) :=
  inferInstanceAs (Decidable (tree.root.wellNamed ok = true))

theorem wellNamed_entryName_of_plainName (h : tree.WellNamed Path.isPlainName) :
    tree.WellNamed Path.isEntryName :=
  Node.wellNamed_mono (fun _ => Path.isEntryName_of_isPlainName) h

theorem wellNamed_portfolio : portfolio.WellNamed Path.isPlainName := by decide +kernel

/-- Looking up a path made of names descends along the names. -/
theorem find?_ofComponents {names : List String}
    (h : ∀ name ∈ names, Path.isEntryName name = true) :
    tree.find? (Path.ofComponents names) = tree.root.descend? names := by
  rw [find?, Path.components_ofComponents h]

/-- The listed directories are the paths that lead to a directory. -/
theorem mem_directories_iff (h : tree.WellNamed Path.isEntryName) {path : String} :
    path ∈ tree.directories ↔
      ∃ names d, tree.root.descend? names = some d ∧ d.isDirectory = true ∧
        path = Path.ofComponents names := by
  have hbelow := (Node.wellNamed_iff.mp h).2
  rw [directories, ← Path.ofComponents_nil, List.mem_cons, Node.mem_directoryPathsIn_iff]
  constructor
  · rintro (rfl | ⟨c, hc, hpath⟩)
    · exact ⟨[], tree.root, rfl, rfl, rfl⟩
    · obtain ⟨hname, hcbelow⟩ := hbelow c hc
      obtain ⟨below, d, hd, hdirectory, rfl⟩ :=
        (Node.mem_directoryPaths_iff (by simp) hname hcbelow).mp hpath
      refine ⟨c.name :: below, d, ?_, hdirectory, rfl⟩
      exact (Node.descend?_cons_eq_some_iff h).mpr ⟨c, hc, rfl, hd⟩
  · rintro ⟨names, d, hd, hdirectory, rfl⟩
    cases names with
    | nil => exact Or.inl rfl
    | cons name below =>
      obtain ⟨c, hc, rfl, hdescend⟩ := (Node.descend?_cons_eq_some_iff h).mp hd
      obtain ⟨hname, hcbelow⟩ := hbelow c hc
      refine Or.inr ⟨c, hc, (Node.mem_directoryPaths_iff (by simp) hname hcbelow).mpr ?_⟩
      exact ⟨below, d, hdescend, hdirectory, rfl⟩

/-- A listed path is the path of a directory. -/
theorem isDirectory_of_mem_directories (h : tree.WellNamed Path.isEntryName) {path : String}
    (hpath : path ∈ tree.directories) : tree.isDirectory path = true := by
  obtain ⟨names, d, hd, hdirectory, rfl⟩ := (mem_directories_iff h).mp hpath
  rw [isDirectory, find?_ofComponents (Node.ok_of_descend? h hd), hd]
  exact hdirectory

/-- The paths listed are those that are made of names and lead to a directory. -/
theorem mem_directories_iff_isDirectory (h : tree.WellNamed Path.isEntryName) {path : String} :
    path ∈ tree.directories ↔ Path.IsEntryPath path ∧ tree.isDirectory path = true := by
  constructor
  · intro hpath
    obtain ⟨names, d, hd, -, rfl⟩ := (mem_directories_iff h).mp hpath
    exact ⟨⟨names, Node.ok_of_descend? h hd, rfl⟩, isDirectory_of_mem_directories h hpath⟩
  · rintro ⟨⟨names, hnames, rfl⟩, hdirectory⟩
    rw [isDirectory, find?_ofComponents hnames, Option.any_eq_true] at hdirectory
    obtain ⟨d, hd, hdirectory⟩ := hdirectory
    exact (mem_directories_iff h).mpr ⟨names, d, hd, hdirectory, rfl⟩

/-- A listed path other than the root is that of a child directory of the directory at its
parent. -/
theorem exists_parent_of_mem_directories (h : tree.WellNamed Path.isEntryName) {path : String}
    (hpath : path ∈ tree.directories) (hroot : path ≠ Path.root) :
    ∃ names e d, tree.root.descend? names = some e ∧ e.isDirectory = true ∧ d ∈ e.children ∧
      d.isDirectory = true ∧ path = Path.ofComponents (names ++ [d.name]) ∧
      Path.parent path = Path.ofComponents names := by
  obtain ⟨names, d, hd, hdirectory, rfl⟩ := (mem_directories_iff h).mp hpath
  rcases List.eq_nil_or_concat names with rfl | ⟨names, name, rfl⟩
  · contradiction
  · rw [List.concat_eq_append] at hd ⊢
    obtain ⟨e, he, hedirectory, hchild⟩ := Node.exists_directory_of_descend?_concat hd
    have hnodup := (Node.wellNamed_iff.mp (Node.wellNamed_of_descend? h he)).1
    obtain ⟨hmem, rfl⟩ := (Node.child?_eq_some_iff hnodup).mp hchild
    exact ⟨names, e, d, he, hedirectory, hmem, hdirectory, rfl,
      Path.parent_ofComponents_append (Node.ok_of_descend? h hd d.name (by simp))⟩

/-- The parent of a listed path is listed, the root being its own parent. -/
theorem parent_mem_directories (h : tree.WellNamed Path.isEntryName) {path : String}
    (hpath : path ∈ tree.directories) : Path.parent path ∈ tree.directories := by
  by_cases hroot : path = Path.root
  · subst hroot
    exact tree.root_mem_directories
  · obtain ⟨names, e, -, he, hdirectory, -, -, -, hparent⟩ :=
      exists_parent_of_mem_directories h hpath hroot
    rw [hparent]
    exact (mem_directories_iff h).mpr ⟨names, e, he, hdirectory, rfl⟩

/-- A listed path is canonical if no entry is named `.` or `..`. -/
theorem isCanonical_of_mem_directories (h : tree.WellNamed Path.isPlainName) {path : String}
    (hpath : path ∈ tree.directories) : Path.IsCanonical path := by
  obtain ⟨names, d, hd, -, rfl⟩ :=
    (mem_directories_iff (wellNamed_entryName_of_plainName h)).mp hpath
  exact Path.isCanonical_ofComponents (Node.ok_of_descend? h hd)

/-! ## Changing the directory -/

theorem mem_directories_of_findByName? {target path : String}
    (h : tree.findByName? target = some path) : path ∈ tree.directories := by
  unfold findByName? at h
  split at h
  · exact List.mem_of_find?_eq_some h
  · contradiction

/-- From a canonical directory, `cd` leads to a canonical path of a directory or fails. -/
theorem changeDirectory_sound (h : tree.WellNamed Path.isPlainName) {cwd path : String}
    (hcwd : Path.IsCanonical cwd) {target : Option String}
    (hpath : tree.changeDirectory cwd target = .ok path) :
    Path.IsCanonical path ∧ tree.isDirectory path = true := by
  unfold changeDirectory at hpath
  cases hfind : tree.find? (Path.resolve cwd (target.getD Path.root)) with
  | some node =>
    simp only [hfind] at hpath
    split at hpath
    · rename_i hdirectory
      obtain rfl := Except.ok.inj hpath
      refine ⟨Path.isCanonical_resolve hcwd _, ?_⟩
      rw [isDirectory, hfind]
      exact hdirectory
    · contradiction
  | none =>
    -- the known-name fallback takes a path from the list of all directories
    simp only [hfind] at hpath
    cases hname : tree.findByName? (target.getD Path.root) with
    | none =>
      rw [hname] at hpath
      contradiction
    | some found =>
      rw [hname] at hpath
      obtain rfl := Except.ok.inj hpath
      have hmem := mem_directories_of_findByName? hname
      exact ⟨isCanonical_of_mem_directories h hmem,
        isDirectory_of_mem_directories (wellNamed_entryName_of_plainName h) hmem⟩

end FileTree

end PortfolioTerminal
