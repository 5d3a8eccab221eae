/-
# Walking in steps

A walk forgets how it came to a place: going on from the names of the places passed so far leads
where the whole route leads.  On texts this makes the normal form and resolution compositional.  The
normal form of two texts joined by a slash needs no more of the first than its normal form.  And a
text is resolved first, a relative one from there, and the place is the one that the two texts with
a slash between them name at once.

The texts that resolution treats apart agree with this.  The empty text, `~` and texts from the root
restart the route, which joining keeps; `..` alone is cut off as text, and on a canonical directory
the cut is the last step of a walk.
-/
import PortfolioTerminal.Proofs.Path.Route

namespace PortfolioTerminal.Path

/-! ## Places -/

/-- A walk that goes on from the places passed so far leads where the whole route leads. -/
theorem places_append_places {route : List String} (h : ∀ name ∈ route, isEntryName name = true)
    (more : List String) : places (places route ++ more) = places (route ++ more) := by
  -- the places are plain names, so that walking them passes these very places again
  have hplain := isPlainName_of_mem_places h
  rw [places, List.foldl_append, foldl_walk_of_plain hplain, List.append_nil, places,
    List.reverse_reverse, ← List.foldl_append, ← places]

/-- A route is walked along names of entries, and so its places are read off their path again. -/
theorem components_ofComponents_places {route : List String}
    (h : ∀ name ∈ route, isEntryName name = true) :
    components (ofComponents (places route)) = places route :=
  components_ofComponents (isEntryName_of_mem_plain (isPlainName_of_mem_places h))

/-- `.` at the end of a route stays at the last place. -/
theorem places_concat_dot (route : List String) : places (route ++ ["."]) = places route := by
  rw [places, List.foldl_append, List.foldl_cons, List.foldl_nil, walk, if_neg (by decide),
    if_pos rfl, places]

/-! ## Normal form -/

/-- The components of a normal form are the places that the walk passes. -/
theorem components_normalize (path : String) :
    components (normalize path) = places (components path) := by
  rw [normalize_eq, components_ofComponents_places fun _ => isEntryName_of_mem_components]

/-- The canonical paths are those that normalising leaves as they are. -/
theorem normalize_eq_self_iff {path : String} : normalize path = path ↔ IsCanonical path := by
  constructor
  · intro h
    rw [← h]
    exact isCanonical_normalize path
  · exact normalize_of_isCanonical

/-- What stands before a slash may be normalised first. -/
theorem normalize_join (before after : String) :
    normalize (before ++ "/" ++ after) = normalize (normalize before ++ "/" ++ after) := by
  rw [normalize_eq, normalize_eq, components_join, components_join, components_normalize,
    places_append_places fun _ => isEntryName_of_mem_components]

/-! ## Resolution -/

variable {cwd : String}

/-- The components of what a text resolves to are the places of its route. -/
theorem components_resolve (hcwd : IsCanonical cwd) (path : String) :
    components (resolve cwd path) = places (route cwd path) := by
  rw [resolve_eq hcwd, components_ofComponents_places isEntryName_of_mem_route]

/-- `.` is the directory itself. -/
theorem resolve_dot (hcwd : IsCanonical cwd) : resolve cwd "." = cwd := by
  obtain ⟨names, hnames, rfl⟩ := hcwd
  have hdot : components "." = ["."] := by decide
  rw [resolve_eq (isCanonical_ofComponents hnames), route_of_isRelative (by decide), hdot,
    places_concat_dot, components_ofComponents (isEntryName_of_mem_plain hnames),
    places_of_plain hnames]

theorem resolve_dots (cwd : String) : resolve cwd ".." = parent cwd := by
  rw [resolve, if_neg (by decide), if_pos rfl]

/-- The parent of a canonical directory, which is cut off as text, is where a step `..` leads. -/
theorem parent_eq_normalize (hcwd : IsCanonical cwd) : parent cwd = normalize (cwd ++ "/..") := by
  have hjoin : cwd ++ "/" ++ ".." = cwd ++ "/.." := String.append_assoc
  rw [← resolve_dots, resolve_of_isRelative hcwd (by decide), hjoin]

/-- **Normalising computes a canonical form.**  The normal form of any text is canonical, and the
texts that are their own normal form are exactly the canonical paths; joined texts may be normalised
one after the other; and a step `..` from a canonical path leads to its parent. -/
theorem normalize_canonical :
    (∀ path : String, IsCanonical (normalize path) ∧ (normalize path = path ↔ IsCanonical path) ∧
      normalize (normalize path) = normalize path) ∧
    (∀ before after : String,
      normalize (before ++ "/" ++ after) = normalize (normalize before ++ "/" ++ after)) ∧
    ∀ path : String, IsCanonical path → normalize (path ++ "/..") = parent path :=
  ⟨fun path => ⟨isCanonical_normalize path, normalize_eq_self_iff,
    normalize_of_isCanonical (isCanonical_normalize path)⟩, normalize_join,
    fun _ h => (parent_eq_normalize h).symm⟩

/-- A path whose last component is no more than dots. -/
theorem normalize_canonical_dots :
    IsCanonical "/a/..." ∧ normalize "/a/..." = "/a/..." ∧ normalize "/a/.../.." = "/a" ∧
      parent "/a/..." = "/a" := by
  have hpath : IsCanonical "/a/..." := ⟨["a", "..."], by decide, by decide⟩
  have hparent : parent "/a/..." = "/a" := by decide +kernel
  obtain ⟨hnormal, -, hdots⟩ := normalize_canonical
  exact ⟨hpath, (hnormal "/a/...").2.1.mpr hpath, (hdots "/a/..." hpath).trans hparent, hparent⟩

/-- A relative text from where another text leads leads where the two lead together. -/
theorem resolve_resolve (hcwd : IsCanonical cwd) (path : String) {more : String}
    (h : isRelative more = true) :
    resolve (resolve cwd path) more = resolve cwd (path ++ "/" ++ more) := by
  rw [resolve_eq (isCanonical_resolve hcwd path), route_of_isRelative h,
    components_resolve hcwd, places_append_places isEntryName_of_mem_route, ← route_join,
    ← resolve_eq hcwd]

/-- **Resolution is compositional**: from a canonical directory every text leads to a canonical
path, `..` is one step of a walk, `.` none, and two texts lead where their join leads. -/
theorem resolve_compositional (hcwd : IsCanonical cwd) (path : String) :
    IsCanonical (resolve cwd path) ∧
    (resolve cwd ".." = parent cwd ∧ parent cwd = normalize (cwd ++ "/..")) ∧
    resolve cwd "." = cwd ∧
    ∀ more, isRelative more = true →
      resolve (resolve cwd path) more = resolve cwd (path ++ "/" ++ more) :=
  ⟨isCanonical_resolve hcwd path, ⟨resolve_dots cwd, parent_eq_normalize hcwd⟩, resolve_dot hcwd,
    fun _ hmore => resolve_resolve hcwd path hmore⟩

/-- Climbing past the root and back, in two steps and in one; a `~` that does not begin the text is
a name. -/
theorem resolve_resolve_past_root :
    IsCanonical "/a/b" ∧ isRelative "../../..//~/./c" = true ∧
      resolve (resolve "/a/b" "../~") "../../..//~/./c" = "/~/c" ∧
      resolve "/a/b" "../~/../../..//~/./c" = "/~/c" := by
  have hcwd : IsCanonical "/a/b" := ⟨["a", "b"], by decide, by decide⟩
  have hmore : isRelative "../../..//~/./c" = true := by decide
  have hone : resolve "/a/b" "../~/../../..//~/./c" = "/~/c" := by decide +kernel
  exact ⟨hcwd, hmore, ((resolve_compositional hcwd "../~").2.2.2 _ hmore).trans hone, hone⟩

end PortfolioTerminal.Path
