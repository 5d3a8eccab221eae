/-
# Values read back from JSON

A JSON text gives back the JSON value that it was written for, so what is left is to read the values
of each type back from their JSON values.  A record gives each of its fields once and in order, and
is read as its fields; the shape of a payload is written before its data; the tag of a mode stands
in front of fields that are buffered and then read as a record of their own.

The main result holds for all values of all types that have a format.  The identity of a recorded
output has to be a 64-bit word, as a reader takes no larger one.
-/
import PortfolioTerminal.Codec.Session
import PortfolioTerminal.Codec.Settings
import PortfolioTerminal.Proofs.Json.Text

namespace PortfolioTerminal

/-! ## Parts of values -/

namespace Json

/-- The value that a text stands for. -/
def decode? {α : Type} (ofJson? : Json → Option α) (text : String) : Option α :=
  (read? text).bind ofJson?

@[simp] theorem text?_ofText (s : String) : (ofText s).text? = some s := rfl

@[simp] theorem bool?_bool (b : Bool) : (Json.bool b).bool? = some b := rfl

theorem natBelow?_ofNat {n bound : Nat} (h : n < bound) : (ofNat n).natBelow? bound = some n :=
  if_pos h

@[simp] theorem uint64?_ofNat (w : UInt64) : (ofNat w.toNat).uint64? = some w := by
  rw [uint64?, natBelow?_ofNat w.toNat_lt_size, Option.map_some, UInt64.ofNat_toNat]

@[simp] theorem uint32?_ofNat (w : UInt32) : (ofNat w.toNat).uint32? = some w := by
  rw [uint32?, natBelow?_ofNat w.toNat_lt_size, Option.map_some, UInt32.ofNat_toNat]

/-- A word that need not be there is read back, null when it is not. -/
theorem optional?_uint64?_elim (w : Option UInt64) :
    optional? uint64? (w.elim .null fun w => .ofNat w.toNat) = some w := by
  cases w with
  | none => rfl
  | some w =>
    show (uint64? (.ofNat w.toNat)).map some = _
    rw [uint64?_ofNat, Option.map_some]

/-- Items that are read back one by one are read back as a list. -/
theorem mapM_map_eq_some {α β : Type} {read : β → Option α} {f : α → β}
    (h : ∀ a, read (f a) = some a) (items : List α) : (items.map f).mapM read = some items := by
  induction items with
  | nil => rfl
  | cons a items ih => simp [h, ih]

theorem list?_array_map {α : Type} {read : Json → Option α} {f : α → Json}
    (h : ∀ a, read (f a) = some a) (items : List α) :
    (Json.array (items.map f)).list? read = some items :=
  mapM_map_eq_some h items

theorem named?_map (fields : Record) :
    named? (fields.map fun (name, value) => (some name, value)) = some fields := by
  induction fields with
  | nil => rfl
  | cons field fields ih =>
    simp only [named?] at ih ⊢
    simp [ih]

/-- The known fields of an object are read, if none of them is given twice. -/
theorem record?_ofFields_of_nodup {names : List String} {fields : Record}
    (h : ((fields.filter fun field => names.contains field.1).map Prod.fst).Nodup) :
    (ofFields fields).record? names =
      some (fields.filter fun field => names.contains field.1) := by
  have hunambiguous :
      Record.isUnambiguous (fields.filter fun field => names.contains field.1) = true :=
    decide_eq_true h
  simp only [ofFields, record?]
  rw [named?_map, Option.bind_some, Record.known?, if_pos hunambiguous]

/-- A record that gives each of its fields once, and no other, is read as its fields. -/
theorem record?_ofFields {names : List String} {fields : Record}
    (hnames : fields.map Prod.fst = names) (hnodup : names.Nodup) :
    (ofFields fields).record? names = some fields := by
  have hknown : fields.filter (fun field => names.contains field.1) = fields := by
    refine List.filter_eq_self.mpr fun field hfield => ?_
    rw [List.contains_iff_mem, ← hnames]
    exact List.mem_map_of_mem hfield
  have hunambiguous :
      ((fields.filter fun field => names.contains field.1).map Prod.fst).Nodup := by
    rwa [hknown, hnames]
  rw [record?_ofFields_of_nodup hunambiguous, hknown]

end Json

/-! ## Values -/

@[simp] theorem OutputKind.ofJson?_toJson (k : OutputKind) : ofJson? k.toJson = some k := by
  cases k <;> rfl

@[simp] theorem Section.ofJson?_toJson (s : Section) : ofJson? s.toJson = some s := by
  cases s <;> rfl

@[simp] theorem Section.ofBuffered?_toJson (s : Section) : ofBuffered? s.toJson = some s := by
  cases s <;> rfl

@[simp] theorem PayloadType.ofJson?_name (t : PayloadType) : ofJson? (.ofText t.name) = some t := by
  cases t <;> rfl

@[simp] theorem Link.ofJson?_toJson (l : Link) : ofJson? l.toJson = some l := by
  rw [ofJson?, toJson, Json.record?_ofFields (by rfl) (by decide)]
  rfl

namespace Payload

/-- The data of a payload are read back in its shape. -/
theorem readData?_data (p : Payload) : PayloadType.readData? p.data p.type = some p := by
  cases p with
  | text content => rfl
  | table rows =>
    have hrow (row : String × String) :
        Json.textPair? (.array [.ofText row.1, .ofText row.2]) = some row := rfl
    simp only [type, data, PayloadType.readData?, Json.list?_array_map hrow, Option.map_some]
  | list items =>
    simp only [type, data, PayloadType.readData?, Json.list?_array_map Json.text?_ofText,
      Option.map_some]
  | ascii art => rfl
  | links items =>
    simp only [type, data, PayloadType.readData?, Json.list?_array_map Link.ofJson?_toJson,
      Option.map_some]

@[simp] theorem ofJson?_toJson (enclosing : Nat) (p : Payload) :
    ofJson? enclosing p.toJson = some p := by
  have hnamed : Json.named? [(some "type", Json.ofText p.type.name), (some "data", p.data)] =
      some [("type", .ofText p.type.name), ("data", p.data)] := rfl
  have hparts : ofParts? (.ofText p.type.name) p.data = some p := by
    rw [ofParts?, PayloadType.ofJson?_name, Option.bind_some, readData?_data]
  simp [toJson, Json.ofFields, ofJson?, hnamed, hparts]

end Payload

@[simp] theorem Output.ofJson?_toJson (o : Output) : ofJson? o.toJson = some o := by
  rw [ofJson?, toJson, Json.record?_ofFields (by rfl) (by decide)]
  simp [Json.Record.field?, List.lookup_cons]

theorem RecordedOutput.ofJson?_toJson {e : RecordedOutput} (h : e.id < UInt64.size) :
    ofJson? e.toJson = some e := by
  rw [ofJson?, toJson, Json.record?_ofFields (by rfl) (by decide)]
  simp [Json.Record.field?, List.lookup_cons, Json.natBelow?_ofNat h]

namespace Mode

/-- The fields of an overlay beside its tag are read back. -/
theorem overlayOf?_ofFields (on : Section) (fileName : String) (loading : Bool) :
    overlayOf? (.ofFields [("section", on.toJson), ("file_name", .ofText fileName),
      ("loading", .bool loading)]) = some (.editorOverlay on fileName loading) := by
  rw [overlayOf?, Json.record?_ofFields (by rfl) (by decide)]
  simp [Json.Record.field?, List.lookup_cons]

/-- A tag in front of fields that are no tags is read as the tag of the others. -/
theorem ofJson?_ofFields (enclosing : Nat) (tag : String) {content : Json.Record}
    (htags : ∀ field ∈ content, isTag field = false)
    (hbuffer : (Json.ofFields content).isBufferable (Json.depthLimit - enclosing + 1) = true) :
    ofJson? enclosing (.ofFields (("mode", .ofText tag) :: content)) =
      ofTagged? tag (.ofFields content) := by
  have hnamed := Json.named?_map (("mode", .ofText tag) :: content)
  have htag : (("mode", Json.ofText tag) :: content).filter isTag = [("mode", .ofText tag)] := by
    rw [List.filter_cons_of_pos (by rfl), List.filter_eq_nil_iff.mpr (by simpa using htags)]
  have hcontent : (("mode", Json.ofText tag) :: content).filter (fun field => !isTag field) =
      content := by
    rw [List.filter_cons_of_neg (by simp [isTag]), List.filter_eq_self.mpr (by simpa using htags)]
  rw [Json.ofFields]
  simp only [ofJson?]
  rw [hnamed]
  simp only [Option.bind_eq_bind, Option.bind_some, htag, hcontent]
  exact if_pos hbuffer

@[simp] theorem ofJson?_toJson (enclosing : Nat) (m : Mode) :
    ofJson? enclosing m.toJson = some m := by
  cases m with
  | terminalOnly => exact ofJson?_ofFields enclosing "terminal_only" (by simp) rfl
  | editorOverlay on fileName loading =>
    rw [toJson, ofJson?_ofFields enclosing "editor_overlay" (by simp [isTag]) (by rfl)]
    exact overlayOf?_ofFields on fileName loading

end Mode

@[simp] theorem Session.ofJson?_toJson (s : Session) : ofJson? s.toJson = some s := by
  rw [ofJson?, toJson, Json.record?_ofFields (by rfl) (by decide)]
  simp [Json.Record.field?, List.lookup_cons]

@[simp] theorem Settings.ofJson?_toJson (s : Settings) : ofJson? s.toJson = some s := by
  rw [ofJson?, toJson, Json.record?_ofFields (by rfl) (by decide)]
  simp [Json.Record.fieldOr?, List.lookup_cons, Json.optional?_uint64?_elim]

/-! ## Formats -/

/-- A format gives back each value that satisfies `ok` from the text that it is written as, and no
two of them are written as the same text. -/
structure RoundTripsOn {α : Type} (ok : α → Prop) (toJson : α → Json)
    (ofText? : String → Option α) : Prop where
  ofText?_write : ∀ a, ok a → ofText? (toJson a).write = some a
  eq_of_write_eq : ∀ a b, ok a → ok b → (toJson a).write = (toJson b).write → a = b

/-- A format gives back every value. -/
def RoundTrips {α : Type} (toJson : α → Json) (ofText? : String → Option α) : Prop :=
  RoundTripsOn (fun _ => True) toJson ofText?

/-- What is read back from its JSON value is read back from its text. -/
theorem roundTripsOn_of_ofJson? {α : Type} {ok : α → Prop} {toJson : α → Json}
    {ofJson? : Json → Option α} (h : ∀ a, ok a → ofJson? (toJson a) = some a) :
    RoundTripsOn ok toJson (Json.decode? ofJson?) := by
  have hread : ∀ a, ok a → Json.decode? ofJson? (toJson a).write = some a := by
    intro a ha
    rw [Json.decode?, Json.read?_write, Option.bind_some, h a ha]
  refine ⟨hread, fun a b ha hb hwrite => ?_⟩
  have hboth := hread a ha
  rw [hwrite, hread b hb] at hboth
  exact (Option.some.inj hboth).symm

theorem roundTrips_of_ofJson? {α : Type} {toJson : α → Json} {ofJson? : Json → Option α}
    (h : ∀ a, ofJson? (toJson a) = some a) : RoundTrips toJson (Json.decode? ofJson?) :=
  roundTripsOn_of_ofJson? fun a _ => h a

/-- **Every value of every type is read back from its JSON text in all its parts**, whatever texts,
numbers and lists it holds, and distinct values have distinct texts. -/
theorem roundTrips_formats :
    RoundTrips OutputKind.toJson (Json.decode? OutputKind.ofJson?) ∧
      RoundTrips Link.toJson (Json.decode? Link.ofJson?) ∧
      RoundTrips Payload.toJson (Json.decode? (Payload.ofJson? 1)) ∧
      RoundTrips Output.toJson (Json.decode? Output.ofJson?) ∧
      RoundTripsOn (fun e => e.id < UInt64.size) RecordedOutput.toJson
        (Json.decode? RecordedOutput.ofJson?) ∧
      RoundTrips Section.toJson (Json.decode? Section.ofJson?) ∧
      RoundTrips Mode.toJson (Json.decode? (Mode.ofJson? 1)) ∧
      RoundTrips Session.toJson (Json.decode? Session.ofJson?) ∧
      RoundTrips Settings.toJson Settings.ofText? := by
  refine ⟨?_, ?_, ?_, ?_, ?_, ?_, ?_, ?_, ?_⟩
  · exact roundTrips_of_ofJson? OutputKind.ofJson?_toJson
  · exact roundTrips_of_ofJson? Link.ofJson?_toJson
  · exact roundTrips_of_ofJson? (Payload.ofJson?_toJson 1)
  · exact roundTrips_of_ofJson? Output.ofJson?_toJson
  · exact roundTripsOn_of_ofJson? fun e => RecordedOutput.ofJson?_toJson
  · exact roundTrips_of_ofJson? Section.ofJson?_toJson
  · exact roundTrips_of_ofJson? (Mode.ofJson?_toJson 1)
  · exact roundTrips_of_ofJson? Session.ofJson?_toJson
  · exact roundTrips_of_ofJson? Settings.ofJson?_toJson

/-- The largest identity is read back, with texts in which everything is escaped that can be. -/
theorem decode?_largest_identity :
    let e : RecordedOutput :=
      ⟨UInt64.size - 1, ⟨.error, .table [("\"\\/\t\r\n", "\x00\x08\x0c\x1f\x7f"), ("é", "")]⟩⟩
    e.id < UInt64.size ∧
      Json.decode? RecordedOutput.ofJson? e.toJson.write = some e := by
  intro e
  have hid : e.id < UInt64.size := by decide
  exact ⟨hid, roundTrips_formats.2.2.2.2.1.ofText?_write e hid⟩

end PortfolioTerminal
