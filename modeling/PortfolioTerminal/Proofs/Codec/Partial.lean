/-
# Settings given in part

Settings in JSON need not be complete.  Any of the fields may be left out, the others may stand in
any order, and fields that have no meaning may stand anywhere between them, with any values: what is
read is each setting that is given, and the default for each that is not.

A reader looks fields up by their names.  Where no name occurs twice, a look-up does not depend on
the order of the fields, and fields of other names do not change it; so what is read is found one
field after the other.
-/
import Mathlib.Data.List.Nodup
import Mathlib.Data.List.Perm.Basic
import PortfolioTerminal.Proofs.Codec.RoundTrip

namespace PortfolioTerminal

/-! ## Looking fields up -/

namespace Json

variable {α : Type} {r known unknown fields : Record} {name : String}

/-- Where no name occurs twice, a look-up finds the field of that name. -/
theorem Record.lookup_eq_some_iff (h : (r.map Prod.fst).Nodup) {value : Json} :
    r.lookup name = some value ↔ (name, value) ∈ r := by
  induction r with
  | nil => simp
  | cons field r ih =>
    obtain ⟨first, other⟩ := field
    rw [List.map_cons, List.nodup_cons] at h
    rw [List.lookup_cons, List.mem_cons, Prod.mk.injEq]
    by_cases hname : name = first
    · -- no later field has that name
      have hlater : (name, value) ∉ r := fun hmem =>
        h.1 (hname ▸ List.mem_map.mpr ⟨(name, value), hmem, rfl⟩)
      subst hname
      simp only [beq_self_eq_true, Option.some.injEq, true_and, hlater, or_false]
      exact eq_comm
    · have hbeq : (name == first) = false := beq_eq_false_iff_ne.mpr hname
      simp only [hbeq, ih h.2, hname, false_and, false_or]

theorem Record.lookup_eq_of_perm (h : (r.map Prod.fst).Nodup) (hperm : fields.Perm r)
    (name : String) : fields.lookup name = r.lookup name := by
  have hfields : (fields.map Prod.fst).Nodup := (hperm.map Prod.fst).nodup_iff.mpr h
  refine Option.ext fun value => ?_
  rw [lookup_eq_some_iff hfields, lookup_eq_some_iff h, hperm.mem_iff]

theorem Record.lookup_filter (given : String → Bool) (r : Record) (name : String) :
    (r.filter fun field => given field.1).lookup name =
      if given name then r.lookup name else none := by
  induction r with
  | nil => simp
  | cons field r ih =>
    obtain ⟨first, value⟩ := field
    rw [List.filter_cons, List.lookup_cons]
    by_cases hname : name = first
    · subst hname
      cases hgiven : given name with
      | true => simp
      | false => simp [ih, hgiven]
    · have hbeq : (name == first) = false := beq_eq_false_iff_ne.mpr hname
      cases given first with
      | true => simp [List.lookup_cons, hbeq, ih]
      | false => simp [hbeq, ih]

/-- Of the fields of an object, in any order, the known ones are read. -/
theorem record?_of_perm {names : List String} (hperm : fields.Perm (known ++ unknown))
    (hknown : ∀ field ∈ known, field.1 ∈ names) (hunknown : ∀ field ∈ unknown, field.1 ∉ names)
    (hnodup : (known.map Prod.fst).Nodup) :
    ∃ r : Record, (ofFields fields).record? names = some r ∧ r.Perm known := by
  have hall : known.filter (fun field => names.contains field.1) = known :=
    List.filter_eq_self.mpr fun field hfield => List.contains_iff_mem.mpr (hknown field hfield)
  have hnone : unknown.filter (fun field => names.contains field.1) = [] :=
    List.filter_eq_nil_iff.mpr fun field hfield hmem =>
      hunknown field hfield (List.contains_iff_mem.mp hmem)
  have hread : (fields.filter fun field => names.contains field.1).Perm known := by
    have hfilter := hperm.filter fun field => names.contains field.1
    rwa [List.filter_append, hall, hnone, List.append_nil] at hfilter
  exact ⟨_, record?_ofFields_of_nodup ((hread.map Prod.fst).nodup_iff.mpr hnodup), hread⟩

/-- The fields of an object can be told from it. -/
theorem ofFields_injective : Function.Injective ofFields := by
  intro fields fields' h
  have hnamed := named?_map fields
  rw [Json.object.inj h, named?_map] at hnamed
  exact (Option.some.inj hnamed).symm

/-- A field that is given is read as in full, and one that is not takes its default. -/
theorem Record.fieldOr?_of_lookup {given : String → Bool} {full : Record} {j : Json}
    {read : Json → Option α} {a d : α}
    (hgiven : r.lookup name = if given name then full.lookup name else none)
    (hfull : full.lookup name = some j) (hread : read j = some a) :
    r.fieldOr? name d read = some (if given name then a else d) := by
  rw [Record.fieldOr?, hgiven, hfull]
  cases given name with
  | true => exact hread
  | false => rfl

end Json

/-! ## Settings -/

namespace Settings

/-- The fields of settings. -/
def fields (s : Settings) : Json.Record :=
  [
    ("min_delay_ms", .ofNat s.minDelay.toNat), ("max_delay_ms", .ofNat s.maxDelay.toNat),
    ("editor_load_delay_ms", .ofNat s.editorLoadDelay.toNat),
    ("tour_interval_ms", .ofNat s.tourInterval.toNat),
    ("seed", s.seed.elim .null fun seed => .ofNat seed.toNat), ("theme", .ofText s.theme)
  ]

theorem toJson_eq (s : Settings) : s.toJson = .ofFields s.fields := rfl

theorem map_fst_fields (s : Settings) : s.fields.map Prod.fst = fieldNames := rfl

/-- The settings that are given, and the defaults of the others. -/
def only (given : String → Bool) (s : Settings) : Settings :=
  let d : Settings := {}
  {
    minDelay := if given "min_delay_ms" then s.minDelay else d.minDelay
    maxDelay := if given "max_delay_ms" then s.maxDelay else d.maxDelay
    editorLoadDelay := if given "editor_load_delay_ms" then s.editorLoadDelay else d.editorLoadDelay
    tourInterval := if given "tour_interval_ms" then s.tourInterval else d.tourInterval
    seed := if given "seed" then s.seed else d.seed
    theme := if given "theme" then s.theme else d.theme
  }

variable {s : Settings} {given : String → Bool} {known unknown fields : Json.Record}

/-- The fields that are given are read in any order, among fields that have no meaning. -/
theorem ofJson?_of_perm (hunknown : ∀ field ∈ unknown, field.1 ∉ fieldNames)
    (hperm : fields.Perm ((s.fields.filter fun field => given field.1) ++ unknown)) :
    ofJson? (.ofFields fields) = some (s.only given) := by
  have hsublist : (s.fields.filter fun field => given field.1).Sublist s.fields :=
    List.filter_sublist
  have hnodup : ((s.fields.filter fun field => given field.1).map Prod.fst).Nodup :=
    (hsublist.map Prod.fst).nodup (by rw [map_fst_fields]; decide)
  have hknown : ∀ field ∈ s.fields.filter (fun field => given field.1), field.1 ∈ fieldNames := by
    intro field hfield
    rw [← map_fst_fields s]
    exact List.mem_map_of_mem (hsublist.mem hfield)
  obtain ⟨r, hrecord, hread⟩ := Json.record?_of_perm hperm hknown hunknown hnodup
  have hlookup (name : String) :
      r.lookup name = if given name then s.fields.lookup name else none := by
    rw [Json.Record.lookup_eq_of_perm hnodup hread, Json.Record.lookup_filter]
  rw [ofJson?, hrecord]
  simp only [Option.bind_eq_bind, Option.bind_some,
    Json.Record.fieldOr?_of_lookup (hlookup "min_delay_ms") rfl (Json.uint64?_ofNat s.minDelay),
    Json.Record.fieldOr?_of_lookup (hlookup "max_delay_ms") rfl (Json.uint64?_ofNat s.maxDelay),
    Json.Record.fieldOr?_of_lookup (hlookup "editor_load_delay_ms") rfl
      (Json.uint64?_ofNat s.editorLoadDelay),
    Json.Record.fieldOr?_of_lookup (hlookup "tour_interval_ms") rfl
      (Json.uint32?_ofNat s.tourInterval),
    Json.Record.fieldOr?_of_lookup (hlookup "seed") rfl (Json.optional?_uint64?_elim s.seed),
    Json.Record.fieldOr?_of_lookup (hlookup "theme") rfl (Json.text?_ofText s.theme)]
  rfl

/-- **Settings given in part default what is left out and nothing else.**  Of the fields of any
settings, any may be given, in any order, and among them any fields of other names with any values:
every text of such an object gives the settings that are given and the defaults of the others, there
is such a text, and the bounds of the delay are the two delays that result, in order. -/
theorem ofText?_given (hknown : s.toJson = .ofFields known)
    (hunknown : ∀ field ∈ unknown, field.1 ∉ fieldNames)
    (hperm : fields.Perm ((known.filter fun field => given field.1) ++ unknown)) :
    (∀ text, Json.read? text = some (.ofFields fields) → ofText? text = some (s.only given)) ∧
      ofText? (Json.ofFields fields).write = some (s.only given) ∧
      (s.only given).delayBounds.1.toNat =
        min (s.only given).minDelay.toNat (s.only given).maxDelay.toNat ∧
      (s.only given).delayBounds.2.toNat =
        max (s.only given).minDelay.toNat (s.only given).maxDelay.toNat := by
  obtain rfl : s.fields = known := Json.ofFields_injective (s.toJson_eq.symm.trans hknown)
  have hread (text : String) (htext : Json.read? text = some (.ofFields fields)) :
      ofText? text = some (s.only given) := by
    rw [ofText?, htext, Option.bind_some, ofJson?_of_perm hunknown hperm]
  exact ⟨hread, hread _ (Json.read?_write _), delayBounds_toNat _⟩

/-- With one bound of the delay given above the default of the other, the two are in order all the
same.  Around it stand fields that have no meaning: their one name occurs twice, and a value holds
half of a surrogate pair and a number that is too large to measure. -/
theorem ofText?_given_min_delay :
    let s : Settings := { minDelay := 500, maxDelay := 600, theme := lightTheme }
    let given : String → Bool := fun name => name == "min_delay_ms"
    let ignored : String × Json :=
      ("Theme", .array [.string none, .number (.decimal true 1 999)])
    let unknown : Json.Record := [ignored, ("Theme", .null)]
    let fields : Json.Record := [ignored, ("min_delay_ms", .ofNat 500), ("Theme", .null)]
    s.toJson = .ofFields s.fields ∧ (∀ field ∈ unknown, field.1 ∉ fieldNames) ∧
      fields.Perm ((s.fields.filter fun field => given field.1) ++ unknown) ∧
      ofText? (Json.ofFields fields).write = some { minDelay := 500 } ∧
      (s.only given).delayBounds = (450, 500) := by
  intro s given ignored unknown fields
  have hunknown : ∀ field ∈ unknown, field.1 ∉ fieldNames := by simp [unknown, ignored, fieldNames]
  have hperm : fields.Perm ((s.fields.filter fun field => given field.1) ++ unknown) :=
    List.Perm.swap _ _ _
  exact ⟨s.toJson_eq, hunknown, hperm, (ofText?_given s.toJson_eq hunknown hperm).2.1, rfl⟩

end Settings

end PortfolioTerminal
