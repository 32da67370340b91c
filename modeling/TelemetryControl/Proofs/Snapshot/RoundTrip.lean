/-
TelemetryControl.Proofs.Snapshot.RoundTrip — snapshots, written and read back.

A snapshot that is written as JSON is read back as it was, field for field,
whatever texts its entries hold (`parse_toJson`), and so is each snapshot of a
table of services (`parseForService_servicesJson`).

One thing is not promised here. The reader of numbers rounds more than once, so
it can miss a double by a little even when it is given the shortest numeral.
A ratio for which it does not is said to read back (`Binary64.ReadsBack`). That is
all that is asked of a snapshot (`decode_written`).
-/
import TelemetryControl.Proofs.Json.RoundTrip
import TelemetryControl.Proofs.NameTable
import TelemetryControl.Snapshot.Decode
import TelemetryControl.Snapshot.Encode

namespace TelemetryControl

open TelemetryControl.Text (octets)

/-- The number written for a double is read as that double. -/
def Binary64.ReadsBack (x : Binary64) : Prop :=
  (Document.ofJson (.real x)).real? = some x

instance (x : Binary64) : Decidable x.ReadsBack :=
  inferInstanceAs (Decidable (_ = _))

/-- The greatest double below one does not: its sixteen digits are rounded to one. -/
example : ¬ Binary64.ReadsBack ⟨0x3FEFFFFFFFFFFFFF⟩ := by decide +kernel

/-- The ratio of a snapshot, if it has one, reads back. -/
def Snapshot.ReadsBack (s : Snapshot) : Prop :=
  ∀ r ∈ s.sampleRatio, r.ReadsBack

/-! ## 1. What is written is readable -/

theorem Json.readable_real (x : Binary64) : Readable (.real x) := by
  unfold Json.real
  split
  · exact .null
  · exact .number (Layout.json.wellFormed_numeral x)

theorem LevelEntry.readable_toJson (e : LevelEntry) : e.toJson.Readable := by
  refine .record ?_
  simp only [List.forall_mem_cons]
  exact ⟨.str e.logger, .str e.level, by simp⟩

theorem Snapshot.readable_severitiesJson (t : NameTable Severity) :
    (severitiesJson t).Readable := by
  refine .record (fun m hm => ?_)
  obtain ⟨p, -, rfl⟩ := List.mem_map.mp hm
  exact .str p.2.name

theorem Snapshot.readable_toJson (s : Snapshot) : s.toJson.Readable := by
  have entries (l : List LevelEntry) : Json.Readable (.array (l.map LevelEntry.toJson)) := by
    refine .array (fun v hv => ?_)
    obtain ⟨e, -, rfl⟩ := List.mem_map.mp hv
    exact e.readable_toJson
  refine .record ?_
  simp only [List.forall_mem_append, List.forall_mem_cons]
  refine ⟨⟨⟨entries _, entries _, by simp⟩, ?ratio⟩, ?available⟩
  case ratio =>
    cases s.sampleRatio with
    | none => simp
    | some r => simpa using Json.readable_real r
  case available =>
    cases s.availableLoggers with
    | none => simp
    | some t => simpa using readable_severitiesJson t

theorem Snapshot.readable_servicesJson (services : NameTable Snapshot) :
    (servicesJson services).Readable := by
  refine .record (fun m hm => ?_)
  obtain ⟨p, -, rfl⟩ := List.mem_map.mp hm
  exact p.2.readable_toJson

/-! ## 2. Documents of written values -/

namespace Document

theorem ofItems_eq (vs : List Json) : ofItems vs = vs.map ofJson := by
  induction vs with
  | nil => rfl
  | cons v rest ih => rw [ofItems, ih, List.map_cons]

theorem ofJson_record (ms : List (String × Json)) :
    ofJson (.record ms) = .record (ms.map (fun m => (some m.1, ofJson m.2))) := by
  rw [Json.record, ofJson]
  congr 1
  induction ms with
  | nil => rfl
  | cons m rest ih => simp [ofMembers, ih]

section Collections

variable {α : Type} (write : α → Json) (read : Document → Option α)

/-- A list is read back if its items are. -/
theorem list?_ofJson {l : List α} (h : ∀ x ∈ l, read (ofJson (write x)) = some x) :
    list? read (ofJson (.array (l.map write))) = some l := by
  rw [ofJson, list?, ofItems_eq, List.map_map]
  induction l with
  | nil => rfl
  | cons x rest ih =>
    have first := h x List.mem_cons_self
    have others := ih (fun y hy => h y (List.mem_cons_of_mem x hy))
    simp [first, others]

theorem mapM_eq_some_iff {β : Type} (f : α → Option β) (l : List α) (m : List β) :
    l.mapM f = some m ↔ List.Forall₂ (fun a b => f a = some b) l m := by
  induction l generalizing m with
  | nil => simp [eq_comm]
  | cons a rest ih =>
    simp only [List.mapM_cons, Option.bind_eq_bind, Option.bind_eq_some_iff, Option.pure_def,
      Option.some_inj, List.forall₂_cons_left_iff, ih]
    constructor
    · rintro ⟨b, first, others, further, rfl⟩
      exact ⟨b, others, first, further, rfl⟩
    · rintro ⟨b, others, first, further, rfl⟩
      exact ⟨b, first, others, further, rfl⟩

/-- A table is read where the value of every member is. -/
theorem table?_eq_some_iff {ms : List (String × Json)} {t : NameTable α} :
    table? read (ofJson (.record ms)) = some t ↔
      ∃ pairs, List.Forall₂ (fun m p => m.1 = p.1 ∧ read (ofJson m.2) = some p.2) ms pairs ∧
        .ofList pairs = t := by
  have member (m : String × Json) (p : String × α) :
      (read (ofJson m.2)).map (fun v => (m.1, v)) = some p ↔
        m.1 = p.1 ∧ read (ofJson m.2) = some p.2 := by
    obtain ⟨name, v⟩ := p
    simp only [Option.map_eq_some_iff, Prod.mk.injEq]
    constructor
    · rintro ⟨_, found, rfl, rfl⟩
      exact ⟨rfl, found⟩
    · rintro ⟨rfl, found⟩
      exact ⟨_, found, rfl, rfl⟩
  rw [ofJson_record, table?, Option.map_eq_some_iff]
  simp only [mapM_eq_some_iff, List.forall₂_map_left_iff, Option.bind_some, member]

/-- A table is read back if its values are. -/
theorem table?_ofJson {t : NameTable α} (h : ∀ p ∈ t.toList, read (ofJson (write p.2)) = some p.2) :
    table? read (ofJson (.record (t.toList.map (fun p => (p.1, write p.2))))) = some t := by
  refine (table?_eq_some_iff read).mpr ⟨t.toList, ?_, t.ofList_toList⟩
  rw [List.forall₂_map_left_iff, List.forall₂_same]
  exact fun p hp => ⟨rfl, h p hp⟩

/-- What can be read, and is not null, is there. -/
theorem optional?_of_some {d : Document} {x : α} (h : read d = some x) (present : d ≠ .null) :
    optional? read d = some (some x) := by
  cases d <;> simp_all [optional?]

end Collections

theorem severity?_ofJson (s : Severity) : (ofJson (.str s.name)).severity? = some s := by
  rw [Json.str, ofJson]
  cases s <;> decide

end Document

/-! ## 3. Snapshots -/

theorem LevelEntry.ofDocument?_toJson (strictness : Strictness) (e : LevelEntry) :
    ofDocument? strictness (Document.ofJson e.toJson) = some e := by
  rw [toJson, Document.ofJson_record]
  simp [ofDocument?, Document.fields?, Document.field?, Json.str, Document.ofJson,
    Document.required, Document.text?]

namespace Snapshot

/-- The document of a snapshot has each field that the snapshot has. -/
theorem fields?_toJson (strictness : Strictness) (s : Snapshot) :
    (Document.ofJson s.toJson).fields? strictness
        ["logLevels", "samplingLogLevels", "sampleRatio", "availableLoggers"] =
      some [some (Document.ofJson (.array (s.logLevels.map LevelEntry.toJson))),
        some (Document.ofJson (.array (s.samplingLogLevels.map LevelEntry.toJson))),
        s.sampleRatio.map (fun r => Document.ofJson (.real r)),
        s.availableLoggers.map (fun t => Document.ofJson (severitiesJson t))] := by
  rw [toJson, Document.ofJson_record]
  cases s.sampleRatio <;> cases s.availableLoggers <;> simp [Document.fields?, Document.field?]

theorem entries?_ofJson (strictness : Strictness) (l : List LevelEntry) :
    entries? strictness (some (Document.ofJson (.array (l.map LevelEntry.toJson)))) = some l := by
  have items := Document.list?_ofJson LevelEntry.toJson (LevelEntry.ofDocument? strictness)
    (fun e (_ : e ∈ l) => e.ofDocument?_toJson strictness)
  rw [entries?, Document.orDefault, Document.optional?_of_some _ items (by simp [Document.ofJson])]
  rfl

/-- A ratio that reads back is not taken for a missing one. -/
theorem ratio?_ofJson {ratio : Option Binary64} (h : ∀ r ∈ ratio, r.ReadsBack) :
    Document.orDefault none (Document.optional? Document.real?)
      (ratio.map (fun r => Document.ofJson (.real r))) = some ratio := by
  cases ratio with
  | none => rfl
  | some r =>
    have back : (Document.ofJson (.real r)).real? = some r := h r rfl
    have present : Document.ofJson (.real r) ≠ .null := fun null => by
      rw [null] at back
      cases back
    exact Document.optional?_of_some _ back present

theorem available?_ofJson (available : Option (NameTable Severity)) :
    Document.orDefault none (Document.optional? (Document.table? Document.severity?))
      (available.map (fun t => Document.ofJson (severitiesJson t))) = some available := by
  cases available with
  | none => rfl
  | some t =>
    have table := Document.table?_ofJson (fun s : Severity => .str s.name) Document.severity?
      (fun p (_ : p ∈ t.toList) => Document.severity?_ofJson p.2)
    rw [Option.map_some, severitiesJson]
    exact Document.optional?_of_some _ table (by simp [Document.ofJson_record])

theorem ofDocument?_toJson (strictness : Strictness) {s : Snapshot} (h : s.ReadsBack) :
    ofDocument? strictness (Document.ofJson s.toJson) = some s := by
  rw [ofDocument?, fields?_toJson]
  simp only [Option.bind_eq_bind, Option.bind_some, entries?_ofJson, ratio?_ofJson h,
    available?_ofJson]

/-! ## 4. Payloads -/

/-- A text of a value is a snapshot if the document of the value is one. -/
theorem parse_eq_ok_iff {text : List UInt8} {v : Json} (h : Json.parse? text = some v)
    (s : Snapshot) :
    parse .json text = .ok s ↔ ofDocument? (strictness .json) (Document.ofJson v) = some s := by
  rw [parse, Json.not_all_isAsciiSpace h, document?, h, Option.map_some, Option.bind_some]
  cases ofDocument? (strictness .json) (Document.ofJson v) <;> simp

/-- **A written snapshot is read back**, as the whole of a payload. -/
theorem parse_toJson {s : Snapshot} (h : s.ReadsBack) :
    parse .json (octets s.toJson.text) = .ok s :=
  (parse_eq_ok_iff (Json.parse?_text s.readable_toJson) s).mpr (ofDocument?_toJson _ h)

/-- **A written table of services is read back**, service by service. -/
theorem parseForService_servicesJson {services : NameTable Snapshot} {service : String}
    {s : Snapshot} (h : ∀ p ∈ services.toList, p.2.ReadsBack)
    (named : services.get? service = some s) :
    parseForService .json service (octets (servicesJson services).text) = .ok ⟨s, []⟩ := by
  have table := Document.table?_ofJson toJson (ofDocument? (strictness .json))
    (fun p hp => ofDocument?_toJson _ (h p hp))
  have read := Json.parse?_text (readable_servicesJson services)
  rw [parseForService, Json.not_all_isAsciiSpace read, document?, read, Option.map_some,
    Option.bind_some, servicesJson, table]
  simp [named]

/-- **A snapshot survives its wire form.** Whatever texts its entries hold, in
whatever order and however often, with a ratio or without and with an
inventory or without, a snapshot that is written as JSON is what a payload of
one snapshot decodes to; and where a table of services is written, every
service in it gets its own snapshot back. The ratio, if there is one, has to
be one that the reader of numbers reads as it was written. -/
theorem decode_written (service : String) :
    (∀ s : Snapshot, s.ReadsBack →
      decode .json .single service (octets s.toJson.text) = .ok ⟨s, []⟩) ∧
    (∀ services : NameTable Snapshot, (∀ p ∈ services.toList, p.2.ReadsBack) →
      ∀ s, services.get? service = some s →
        decode .json .perService service (octets (servicesJson services).text) = .ok ⟨s, []⟩) := by
  constructor
  · intro s back
    rw [decode, parse_toJson back]
    rfl
  · intro services back s named
    rw [decode, parseForService_servicesJson back named]

/-- Texts that have to be escaped, an entry given twice, and a ratio of seventeen
digits with an exponent. -/
theorem decode_written_with_escapes :
    let entry : LevelEntry := ⟨"a\"\\\n\x01é𝄞", " loud\t"⟩
    let s : Snapshot :=
      ⟨[entry, ⟨"", "WARN"⟩, entry], [⟨"ROOT", "info"⟩], some ⟨0x3E60000000000000⟩,
        some (.ofList [("b\x7f", .error), ("", .debug)])⟩
    let services : NameTable Snapshot := .ofList [("shop", s), ("ca\"rt", .empty)]
    (s.ReadsBack ∧ (∀ p ∈ services.toList, p.2.ReadsBack) ∧ services.get? "shop" = some s) ∧
    decode .json .single "shop" (octets s.toJson.text) = .ok ⟨s, []⟩ ∧
    decode .json .perService "shop" (octets (servicesJson services).text) = .ok ⟨s, []⟩ := by
  intro entry s services
  have back : s.ReadsBack := by
    intro r given
    cases given
    decide +kernel
  have found (name : String) : services.get? name =
      if "ca\"rt" = name then some .empty else if "shop" = name then some s else none := by
    simp [services, NameTable.ofList]
  have named : services.get? "shop" = some s := by simp [found]
  have backs : ∀ p ∈ services.toList, p.2.ReadsBack := by
    intro p listed
    have held := (services.mem_entries_iff p.1 p.2).mp listed
    rw [found] at held
    split at held
    · rw [← Option.some.inj held]
      intro r given
      cases given
    · split at held
      · rw [← Option.some.inj held]
        exact back
      · cases held
  obtain ⟨single, perService⟩ := decode_written "shop"
  exact ⟨⟨back, backs, named⟩, single s back, perService services backs s named⟩

end Snapshot

end TelemetryControl
