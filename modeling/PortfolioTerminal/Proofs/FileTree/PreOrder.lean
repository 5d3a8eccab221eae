/-
# The order of the listed directories

The walk over a tree lists its directories in pre-order: a directory comes before all that is below
it, and what is in an earlier child comes before what is in a later one.  The order is stated on the
names of two paths, without the walk: where the paths part, either one of them ends or they go on to
different children of one directory.

In a well-named tree no path comes before itself, so that the walk lists no directory twice.
-/
import Mathlib.Data.List.Flatten
import PortfolioTerminal.Proofs.FileTree.Directories

namespace PortfolioTerminal

namespace Node

/-! ## Pre-order -/

/-- The entry that the first names lead to from `node` comes before the one that the second lead
to. -/
inductive Precedes : Node → List String → List String → Prop
  /-- A directory comes before what is below it. -/
  | above (node : Node) (name : String) (names : List String) : Precedes node [] (name :: names)
  /-- What an earlier child holds comes before what a later child holds. -/
  | apart {node : Node} {first second : String} (names more : List String)
      (hdeclared : [first, second].Sublist (node.children.map name)) :
      Precedes node (first :: names) (second :: more)
  /-- Within a child, the order is that of the child. -/
  | within {node c : Node} {names more : List String} (hc : c ∈ node.children)
      (h : Precedes c names more) : Precedes node (c.name :: names) (c.name :: more)

variable {ok : String → Bool} {node : Node}

/-- Nothing comes before itself. -/
theorem Precedes.ne {names more : List String} (h : node.wellNamed ok = true)
    (hprecedes : node.Precedes names more) : names ≠ more := by
  induction hprecedes with
  | above => simp
  | apart names more hdeclared =>
    have hnodup := (wellNamed_iff.mp h).1.sublist hdeclared
    simp_all
  | within hc _ ih =>
    have hne := ih ((wellNamed_iff.mp h).2 _ hc).2
    simpa using hne

/-! ## The walk -/

theorem directoryPathsIn_eq_flatMap (base : String) (nodes : List Node) :
    directoryPathsIn base nodes = nodes.flatMap fun c => c.directoryPaths base := by
  induction nodes with
  | nil => rfl
  | cons c nodes ih => rw [directoryPathsIn, ih, List.flatMap_cons]

/-- The paths of a directory with these names and of the directories below it. -/
def pathsFrom (names : List String) (node : Node) : List String :=
  Path.ofComponents names :: directoryPathsIn (Path.ofComponents names) node.children

/-- The walk over a child is that over a directory one name further down. -/
theorem directoryPaths_eq_pathsFrom {names : List String}
    (hnames : ∀ name ∈ names, Path.isEntryName name = true) (hdirectory : node.isDirectory = true) :
    node.directoryPaths (Path.ofComponents names) = node.pathsFrom (names ++ [node.name]) := by
  cases node with
  | file => contradiction
  | directory name children => rw [directoryPaths, Path.child_ofComponents hnames]; rfl

/-- What the walk from an entry lists goes on from the name of the entry. -/
theorem exists_components_of_mem_directoryPaths {names : List String} {path : String}
    (hnames : ∀ name ∈ names, Path.isEntryName name = true)
    (hnode : Path.isEntryName node.name = true ∧ node.wellNamed Path.isEntryName = true)
    (hpath : path ∈ node.directoryPaths (Path.ofComponents names)) :
    ∃ below, Path.components path = names ++ node.name :: below := by
  obtain ⟨hname, hwell⟩ := hnode
  obtain ⟨below, d, hd, -, rfl⟩ := (mem_directoryPaths_iff hnames hname hwell).mp hpath
  exact ⟨below, Path.components_ofComponents (List.forall_mem_append.mpr
    ⟨hnames, List.forall_mem_cons.mpr ⟨hname, ok_of_descend? hwell hd⟩⟩)⟩

/-- Two paths go on from the given names, the first one to what comes before. -/
def InOrder (names : List String) (node : Node) (first second : String) : Prop :=
  ∃ below more, Path.components first = names ++ below ∧
    Path.components second = names ++ more ∧ node.Precedes below more

/-- The order within a child is that within the node, one name further down. -/
theorem InOrder.of_child {names : List String} {c : Node} {first second : String}
    (hc : c ∈ node.children) (h : c.InOrder (names ++ [c.name]) first second) :
    node.InOrder names first second := by
  obtain ⟨below, more, hfirst, hsecond, hprecedes⟩ := h
  exact ⟨c.name :: below, c.name :: more, by simpa using hfirst, by simpa using hsecond,
    .within hc hprecedes⟩

/-- The walk from a node lists paths in pre-order. -/
theorem pairwise_pathsFrom {names : List String}
    (hnames : ∀ name ∈ names, Path.isEntryName name = true)
    (h : node.wellNamed Path.isEntryName = true) :
    (node.pathsFrom names).Pairwise (node.InOrder names) := by
  -- the children are walked from a longer path, so the hypothesis is for every one
  induction node generalizing names with
  | file name content => simp [pathsFrom, children, directoryPathsIn]
  | directory name children ih =>
    obtain ⟨-, hbelow⟩ := wellNamed_iff.mp h
    rw [pathsFrom, List.pairwise_cons]
    constructor
    · -- the directory itself comes before all that is below it
      intro path hpath
      obtain ⟨c, hc, hpath⟩ := mem_directoryPathsIn_iff.mp hpath
      obtain ⟨below, hpath⟩ := exists_components_of_mem_directoryPaths hnames (hbelow c hc) hpath
      exact ⟨[], c.name :: below, by simpa using Path.components_ofComponents hnames, hpath,
        .above _ _ _⟩
    · rw [directoryPathsIn_eq_flatMap, List.pairwise_flatMap]
      constructor
      · -- a file adds nothing, a directory its own walk
        intro c hc
        cases hdirectory : c.isDirectory with
        | false =>
          cases c with
          | file => exact List.Pairwise.nil
          | directory => contradiction
        | true =>
          have hlonger : ∀ n ∈ names ++ [c.name], Path.isEntryName n = true :=
            List.forall_mem_append.mpr ⟨hnames, List.forall_mem_singleton.mpr (hbelow c hc).1⟩
          rw [directoryPaths_eq_pathsFrom hnames hdirectory]
          exact (ih c hc hlonger (hbelow c hc).2).imp (InOrder.of_child hc)
      · -- what two different children hold is ordered as the children are declared
        refine List.pairwise_iff_forall_sublist.mpr ?_
        intro first second hdeclared path hpath path' hpath'
        obtain ⟨below, hpath⟩ := exists_components_of_mem_directoryPaths hnames
          (hbelow first (hdeclared.subset (by simp))) hpath
        obtain ⟨more, hpath'⟩ := exists_components_of_mem_directoryPaths hnames
          (hbelow second (hdeclared.subset (by simp))) hpath'
        exact ⟨first.name :: below, second.name :: more, hpath, hpath',
          .apart below more (hdeclared.map Node.name)⟩

/-! ## Children of a directory -/

/-- What leads to a directory is a directory. -/
theorem isDirectory_of_descend? {names : List String} {d : Node}
    (hd : node.descend? names = some d) (hdirectory : d.isDirectory = true) :
    node.isDirectory = true := by
  cases names with
  | nil =>
    obtain rfl : node = d := by simpa using hd
    exact hdirectory
  | cons name names =>
    -- a file has no children to go on to
    cases node with
    | file => simp [child?, children] at hd
    | directory => rfl

/-- The child directories are listed in the order of the children. -/
theorem map_child_sublist_directoryPathsIn (base : String) (nodes : List Node) :
    ((nodes.filter isDirectory).map fun c => Path.child base c.name).Sublist
      (directoryPathsIn base nodes) := by
  induction nodes with
  | nil => exact List.Sublist.slnil
  | cons c nodes ih =>
    rw [directoryPathsIn]
    cases c with
    | file => exact ih
    | directory name children =>
      exact (ih.trans (List.sublist_append_right _ _)).cons_cons _

/-- The walk from a directory further down is a part of the walk. -/
theorem pathsFrom_sublist {names below : List String} {d : Node}
    (hnames : ∀ name ∈ names, Path.isEntryName name = true)
    (h : node.wellNamed Path.isEntryName = true) (hd : node.descend? below = some d)
    (hdirectory : d.isDirectory = true) :
    (d.pathsFrom (names ++ below)).Sublist (node.pathsFrom names) := by
  induction below generalizing node names with
  | nil =>
    obtain rfl : node = d := by simpa using hd
    simp only [List.append_nil, List.Sublist.refl]
  | cons name below ih =>
    obtain ⟨c, hc, rfl, hdescend⟩ := (descend?_cons_eq_some_iff h).mp hd
    obtain ⟨hname, hbelow⟩ := (wellNamed_iff.mp h).2 c hc
    have hlonger : ∀ n ∈ names ++ [c.name], Path.isEntryName n = true :=
      List.forall_mem_append.mpr ⟨hnames, List.forall_mem_singleton.mpr hname⟩
    have hpart := ih hlonger hbelow hdescend
    rw [List.append_assoc, List.singleton_append,
      ← directoryPaths_eq_pathsFrom hnames (isDirectory_of_descend? hdescend hdirectory)] at hpart
    have hwhole := (List.singleton_sublist.mpr hc).flatMap fun n =>
      n.directoryPaths (Path.ofComponents names)
    rw [List.flatMap_singleton, ← directoryPathsIn_eq_flatMap] at hwhole
    exact (hpart.trans hwhole).cons _

end Node

/-! ## Trees -/

namespace FileTree

variable {tree : FileTree}

theorem directories_eq_pathsFrom (tree : FileTree) :
    tree.directories = tree.root.pathsFrom [] := rfl

/-- The paths are listed in pre-order. -/
theorem pairwise_directories (h : tree.WellNamed Path.isEntryName) :
    tree.directories.Pairwise fun first second =>
      tree.root.Precedes (Path.components first) (Path.components second) := by
  have hpairwise := Node.pairwise_pathsFrom (List.forall_mem_nil _) h
  rw [← directories_eq_pathsFrom] at hpairwise
  refine hpairwise.imp ?_
  rintro first second ⟨names, more, hfirst, hsecond, hprecedes⟩
  rw [hfirst, hsecond]
  exact hprecedes

/-- A directory is listed before its child directories, and these in the order in which it holds
them. -/
theorem family_sublist_directories (h : tree.WellNamed Path.isEntryName) {names : List String}
    {d : Node} (hd : tree.root.descend? names = some d) (hdirectory : d.isDirectory = true) :
    (Path.ofComponents names :: (d.children.filter Node.isDirectory).map fun c =>
      Path.child (Path.ofComponents names) c.name).Sublist tree.directories :=
  ((Node.map_child_sublist_directoryPathsIn _ _).cons_cons _).trans
    (Node.pathsFrom_sublist (List.forall_mem_nil _) h hd hdirectory)

/-- The parent of a listed path other than the root is listed before it. -/
theorem parent_sublist_directories (h : tree.WellNamed Path.isEntryName) {path : String}
    (hpath : path ∈ tree.directories) (hroot : path ≠ Path.root) :
    [Path.parent path, path].Sublist tree.directories := by
  obtain ⟨names, e, d, he, hedirectory, hd, hdirectory, hchild, hparent⟩ :=
    exists_parent_of_mem_directories h hpath hroot
  rw [hparent, hchild, ← Path.child_ofComponents (Node.ok_of_descend? h he)]
  have hchildren : Path.child (Path.ofComponents names) d.name ∈
      (e.children.filter Node.isDirectory).map fun c =>
        Path.child (Path.ofComponents names) c.name :=
    List.mem_map.mpr ⟨d, List.mem_filter.mpr ⟨hd, hdirectory⟩, rfl⟩
  exact ((List.singleton_sublist.mpr hchildren).cons_cons _).trans
    (family_sublist_directories h he hedirectory)

/-- **The directories are listed once each, in pre-order.**  The root comes first, every other one
after its parent, and siblings in the order in which they are declared; what is listed are the paths
made of names that lead to a directory. -/
theorem directories_preOrder (h : tree.WellNamed Path.isEntryName) :
    tree.directories.head? = some Path.root ∧
    tree.directories.Nodup ∧
    (∀ path, path ∈ tree.directories ↔
      Path.IsEntryPath path ∧ tree.isDirectory path = true) ∧
    (∀ path ∈ tree.directories, path ≠ Path.root →
      [Path.parent path, path].Sublist tree.directories) ∧
    (∀ path ∈ tree.directories, ∀ d, tree.find? path = some d →
      ((d.children.filter Node.isDirectory).map fun c => Path.child path c.name).Sublist
        tree.directories) ∧
    tree.directories.Pairwise fun first second =>
      tree.root.Precedes (Path.components first) (Path.components second) := by
  have hpairwise := pairwise_directories h
  refine ⟨rfl, ?_, fun path => mem_directories_iff_isDirectory h,
    fun path hpath hroot => parent_sublist_directories h hpath hroot, ?_, hpairwise⟩
  · refine hpairwise.imp ?_
    rintro first second hprecedes rfl
    exact hprecedes.ne h rfl
  · intro path hpath d hfind
    obtain ⟨names, d', hd, hdirectory, rfl⟩ := (mem_directories_iff h).mp hpath
    rw [find?_ofComponents (Node.ok_of_descend? h hd), hd] at hfind
    obtain rfl := Option.some.inj hfind
    exact List.sublist_of_cons_sublist (family_sublist_directories h hd hdirectory)

/-- Entries named like steps of a path, and a file between directories. -/
theorem directories_of_dotted_names :
    let tree : FileTree :=
      ⟨[.directory "b" [.directory ".." [.directory "b" []], .directory "." []],
        .file "c" "", .directory "a" []]⟩
    tree.WellNamed Path.isEntryName ∧
      tree.directories = ["/", "/b", "/b/..", "/b/../b", "/b/.", "/a"] ∧
      tree.directories.Nodup ∧ ["/b/..", "/b/."].Sublist tree.directories ∧
      tree.isDirectory "/b/../b" = true := by
  intro tree
  have hnamed : tree.WellNamed Path.isEntryName := by decide +kernel
  have hlist : tree.directories = ["/", "/b", "/b/..", "/b/../b", "/b/.", "/a"] := by
    decide +kernel
  obtain ⟨-, hnodup, hmem, -, hsiblings, -⟩ := directories_preOrder hnamed
  refine ⟨hnamed, hlist, hnodup, ?_, ((hmem _).mp (by rw [hlist]; decide)).2⟩
  exact hsiblings "/b" (by rw [hlist]; decide) _ rfl

end FileTree

end PortfolioTerminal
