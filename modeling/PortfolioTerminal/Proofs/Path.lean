/-
# Canonical paths

Normalising any text gives a canonical path: the components of a text are not empty and hold no
slash, and the walk along them drops `.` and `..`.  On canonical paths the shortcuts of resolution
stay canonical too, since the parent of a canonical path is the path without its last component.

A path can be taken apart again: the components of the path with given components are these.  That
needs no more than names that are not empty and hold no slash, so it also serves for trees with
entries named `.` or `..`.
-/
import PortfolioTerminal.Path

namespace PortfolioTerminal

/-! ## Pieces -/

namespace Text

variable {sep : Char}

theorem not_mem_of_mem_pieces {cs piece : List Char} (h : piece ∈ pieces sep cs) : sep ∉ piece := by
  induction cs generalizing piece with
  | nil => simp_all
  | cons c cs ih =>
    by_cases hc : c = sep
    · subst hc
      rw [pieces_cons_self, List.mem_cons] at h
      rcases h with rfl | h
      · simp
      · exact ih h
    · rw [pieces, if_neg hc] at h
      cases hp : pieces sep cs with
      | nil => exact absurd hp (pieces_ne_nil sep cs)
      | cons first more =>
        rw [hp] at h ih
        rcases List.mem_cons.mp h with rfl | h
        · have hfirst := ih (List.mem_cons_self (a := first) (l := more))
          simp only [List.mem_cons, not_or]
          exact ⟨Ne.symm hc, hfirst⟩
        · exact ih (List.mem_cons_of_mem _ h)

/-- A text without separators is its only piece. -/
theorem pieces_of_not_mem {cs : List Char} (h : sep ∉ cs) : pieces sep cs = [cs] := by
  induction cs with
  | nil => rfl
  | cons c cs ih =>
    simp only [List.mem_cons, not_or] at h
    rw [pieces, if_neg (Ne.symm h.1), ih h.2]

/-- What stands before the first separator is the first piece. -/
theorem pieces_append_cons_self {cs : List Char} (h : sep ∉ cs) (rest : List Char) :
    pieces sep (cs ++ sep :: rest) = cs :: pieces sep rest := by
  induction cs with
  | nil => exact pieces_cons_self sep rest
  | cons c cs ih =>
    simp only [List.mem_cons, not_or] at h
    rw [List.cons_append, pieces, if_neg (Ne.symm h.1), ih h.2]

end Text

namespace Path

/-! ## Names of entries -/

/-- Whether a text can be a component: it is not empty and holds no slash. -/
def isEntryName (name : String) : Bool := name != "" && !name.toList.contains '/'

theorem isEntryName_iff {name : String} :
    isEntryName name = true ↔ name ≠ "" ∧ '/' ∉ name.toList := by
  simp [isEntryName]

theorem isPlainName_iff {name : String} :
    isPlainName name = true ↔ isEntryName name = true ∧ name ≠ "." ∧ name ≠ ".." := by
  simp only [isPlainName, isEntryName, Bool.and_eq_true, bne_iff_ne]
  constructor
  · rintro ⟨⟨⟨hempty, hdot⟩, hdots⟩, hslash⟩
    exact ⟨⟨hempty, hslash⟩, hdot, hdots⟩
  · rintro ⟨⟨hempty, hslash⟩, hdot, hdots⟩
    exact ⟨⟨⟨hempty, hdot⟩, hdots⟩, hslash⟩

theorem isEntryName_of_isPlainName {name : String} (h : isPlainName name = true) :
    isEntryName name = true :=
  (isPlainName_iff.mp h).1

theorem isEntryName_of_mem_plain {names : List String}
    (h : ∀ name ∈ names, isPlainName name = true) : ∀ name ∈ names, isEntryName name = true :=
  fun name hname => isEntryName_of_isPlainName (h name hname)

theorem toList_ne_nil_of_isEntryName {name : String} (h : isEntryName name = true) :
    name.toList ≠ [] := by
  intro hnil
  exact (isEntryName_iff.mp h).1 (String.toList_inj.mp (by simpa using hnil))

/-- Every component of a text can be the name of an entry. -/
theorem isEntryName_of_mem_components {path name : String} (h : name ∈ components path) :
    isEntryName name = true := by
  simp only [components, List.mem_map, List.mem_filter] at h
  obtain ⟨piece, ⟨hpiece, hne⟩, rfl⟩ := h
  refine isEntryName_iff.mpr ⟨?_, by simpa using Text.not_mem_of_mem_pieces hpiece⟩
  intro hempty
  have hnil : piece = [] := by simpa using congrArg String.toList hempty
  simp [hnil] at hne

/-! ## Taking a path apart -/

/-- A slash and a name for each of the names. -/
def slashed (names : List String) : List Char := names.flatMap fun name => '/' :: name.toList

@[simp] theorem slashed_nil : slashed [] = [] := rfl

@[simp] theorem slashed_cons (name : String) (names : List String) :
    slashed (name :: names) = '/' :: (name.toList ++ slashed names) := by
  simp [slashed]

@[simp] theorem slashed_append (names more : List String) :
    slashed (names ++ more) = slashed names ++ slashed more := by
  simp [slashed]

theorem toList_ofComponents {names : List String} (h : names ≠ []) :
    (ofComponents names).toList = slashed names := by
  cases names with
  | nil => contradiction
  | cons name names =>
    rw [ofComponents_cons, String.toList_join, List.flatMap_map, slashed]
    congr 1
    funext n
    simp

/-- Read from its end, the path has the last name first, back to the slash in front of it. -/
theorem reverse_toList_ofComponents_append (names : List String) (name : String) :
    (ofComponents (names ++ [name])).toList.reverse =
      name.toList.reverse ++ '/' :: (slashed names).reverse := by
  rw [toList_ofComponents (by simp)]
  simp

/-- Cut at its slashes, the path has an empty piece in front of the names. -/
theorem pieces_slashed {names : List String} (h : ∀ name ∈ names, isEntryName name = true) :
    Text.pieces '/' (slashed names) = [] :: names.map String.toList := by
  induction names with
  | nil => rfl
  | cons name names ih =>
    have hname := (isEntryName_iff.mp (h name List.mem_cons_self)).2
    have hrest := ih fun n hn => h n (List.mem_cons_of_mem _ hn)
    rw [slashed_cons, Text.pieces_cons_self]
    -- the name reaches up to the slash of the next one, or to the end
    cases names with
    | nil => simp [Text.pieces_of_not_mem hname]
    | cons next names =>
      rw [slashed_cons, Text.pieces_cons_self] at hrest
      rw [slashed_cons, Text.pieces_append_cons_self hname, List.map_cons]
      simpa using hrest

/-- The components of a path made of names are the names. -/
theorem components_ofComponents {names : List String}
    (h : ∀ name ∈ names, isEntryName name = true) : components (ofComponents names) = names := by
  by_cases hnil : names = []
  · subst hnil
    decide
  · have hne : ∀ name ∈ names, name ≠ "" := fun name hn => (isEntryName_iff.mp (h name hn)).1
    rw [components, toList_ofComponents hnil, pieces_slashed h]
    simpa [List.filter_map, Function.comp_def] using hne

/-- A path made of names: `/`, or a slash before each of its components. -/
def IsEntryPath (path : String) : Prop :=
  ∃ names : List String, (∀ name ∈ names, isEntryName name = true) ∧ path = ofComponents names

theorem IsCanonical.isEntryPath {path : String} (h : IsCanonical path) : IsEntryPath path := by
  obtain ⟨names, hnames, rfl⟩ := h
  exact ⟨names, isEntryName_of_mem_plain hnames, rfl⟩

/-! ## Normal form -/

/-- A step of a walk keeps the places plain. -/
theorem isPlainName_of_mem_walk {places : List String} {name : String}
    (hplaces : ∀ place ∈ places, isPlainName place = true) (hname : isEntryName name = true) :
    ∀ place ∈ walk places name, isPlainName place = true := by
  intro place hplace
  unfold walk at hplace
  split at hplace
  · exact hplaces place (List.mem_of_mem_drop hplace)
  · rename_i hdots
    split at hplace
    · exact hplaces place hplace
    · rename_i hdot
      rcases List.mem_cons.mp hplace with rfl | hplace
      · exact isPlainName_iff.mpr ⟨hname, hdot, hdots⟩
      · exact hplaces place hplace

theorem isPlainName_of_mem_foldl_walk {names places : List String}
    (hplaces : ∀ place ∈ places, isPlainName place = true)
    (hnames : ∀ name ∈ names, isEntryName name = true) :
    ∀ place ∈ names.foldl walk places, isPlainName place = true := by
  induction names generalizing places with
  | nil => exact hplaces
  | cons name names ih =>
    have hname := hnames name List.mem_cons_self
    exact ih (isPlainName_of_mem_walk hplaces hname)
      fun n hn => hnames n (List.mem_cons_of_mem _ hn)

/-- Normalising gives a canonical path, whatever the text. -/
theorem isCanonical_normalize (path : String) : IsCanonical (normalize path) := by
  refine isCanonical_ofComponents fun name hname => ?_
  rw [List.mem_reverse] at hname
  exact isPlainName_of_mem_foldl_walk (by simp)
    (fun n hn => isEntryName_of_mem_components hn) name hname

/-! ## Parents and children -/

/-- Taking the parent removes the last component. -/
theorem parent_ofComponents_append {names : List String} {name : String}
    (hname : isEntryName name = true) :
    parent (ofComponents (names ++ [name])) = ofComponents names := by
  obtain ⟨c, cs, hcs⟩ := List.exists_cons_of_ne_nil
    (List.reverse_ne_nil_iff.mpr (toList_ne_nil_of_isEntryName hname))
  have hmem : '/' ∉ name.toList.reverse := by
    simpa using (isEntryName_iff.mp hname).2
  -- no slash stands at the end, and the last one is that in front of the name
  have hkeep : (name.toList.reverse ++ '/' :: (slashed names).reverse).dropWhile (· == '/') =
      name.toList.reverse ++ '/' :: (slashed names).reverse := by
    have hc : c ≠ '/' := by
      rintro rfl
      exact hmem (by simp [hcs])
    simp [hcs, hc]
  have hdrop : (name.toList.reverse ++ '/' :: (slashed names).reverse).dropWhile (· != '/') =
      '/' :: (slashed names).reverse := by
    rw [List.dropWhile_append_of_pos]
    · simp
    · intro x hx
      simpa using fun h : x = '/' => hmem (h ▸ hx)
  rw [parent, reverse_toList_ofComponents_append, hkeep, hdrop, List.drop_one, List.tail_cons,
    List.reverse_reverse]
  cases names with
  | nil => rfl
  | cons first names =>
    have hfirst := toList_ofComponents (List.cons_ne_nil first names)
    rw [slashed_cons] at hfirst ⊢
    show String.ofList _ = _
    rw [← hfirst, String.ofList_toList]

/-- The parent of a path made of names is the path without its last component. -/
theorem parent_ofComponents {names : List String} (h : ∀ name ∈ names, isEntryName name = true) :
    parent (ofComponents names) = ofComponents names.dropLast := by
  rcases List.eq_nil_or_concat names with rfl | ⟨names, name, rfl⟩
  · decide
  · rw [List.concat_eq_append] at h ⊢
    rw [parent_ofComponents_append (h name (by simp)), List.dropLast_concat]

/-- The parent of a canonical path is canonical. -/
theorem isCanonical_parent {path : String} (h : IsCanonical path) : IsCanonical (parent path) := by
  obtain ⟨names, hnames, rfl⟩ := h
  rw [parent_ofComponents (isEntryName_of_mem_plain hnames)]
  exact isCanonical_ofComponents fun name hname => hnames name (List.dropLast_subset names hname)

/-- Going down to an entry adds its name at the end. -/
theorem child_ofComponents {names : List String} {name : String}
    (h : ∀ n ∈ names, isEntryName n = true) :
    child (ofComponents names) name = ofComponents (names ++ [name]) := by
  cases names with
  | nil => simp [ofComponents_cons]
  | cons first names =>
    have hne : ofComponents (first :: names) ≠ root := by
      intro hroot
      have hcomponents := components_ofComponents h
      have hnone : components root = [] := by decide
      rw [hroot, hnone] at hcomponents
      contradiction
    rw [child, if_neg hne]
    apply String.toList_inj.mp
    simp [toList_ofComponents]

/-! ## Resolution -/

/-- From a canonical directory, every text resolves to a canonical path. -/
theorem isCanonical_resolve {cwd : String} (h : IsCanonical cwd) (path : String) :
    IsCanonical (resolve cwd path) := by
  unfold resolve
  split
  · exact isCanonical_root
  · split
    · exact isCanonical_parent h
    · split <;> exact isCanonical_normalize _

end Path

end PortfolioTerminal
