/-
TelemetryControl.Proofs.Snapshot.Services — a table of services, entry by entry.

A payload that is a JSON object (`Json.IsObject`) is decoded for a service as its
members would be, each of them alone (`decode_perService_of_object`). It decodes
if every member's text decodes as a snapshot, and gives what the last text of that
service gives. So the other members of a payload can spoil all of it or have no
effect.

What makes it so is that the text of a member, cut out of the object, is read as
the same value (`Json.parse?_iff_written`), and that the table of the members keeps
the last value of each name (`NameTable.get?_ofList`).
-/
import TelemetryControl.Proofs.Json.WellFormed
import TelemetryControl.Proofs.Snapshot.RoundTrip

namespace TelemetryControl

open TelemetryControl.Text (octets)
open NameTable (valuesOf valuesOf_cons)

namespace Snapshot

/-! ## 1. The members of an object -/

/-- The snapshots of the members, each of them alone. -/
def Tables (members : List (String × List UInt8)) (pairs : List (String × Snapshot)) : Prop :=
  List.Forall₂ (fun m p => m.1 = p.1 ∧ parse .json m.2 = .ok p.2) members pairs

theorem exists_tables_iff (members : List (String × List UInt8)) :
    (∃ pairs, Tables members pairs) ↔ ∀ m ∈ members, ∃ s, parse .json m.2 = .ok s := by
  refine Json.exists_forall₂_iff.trans (forall₂_congr fun m _ => ?_)
  constructor
  · rintro ⟨p, -, read⟩
    exact ⟨p.2, read⟩
  · rintro ⟨s, read⟩
    exact ⟨(m.1, s), rfl, read⟩

/-- Of each name, the snapshots are those of its texts. -/
theorem Tables.valuesOf {members : List (String × List UInt8)} {pairs : List (String × Snapshot)}
    (h : Tables members pairs) (service : String) :
    List.Forall₂ (fun text s => parse .json text = .ok s) (valuesOf service members)
      (valuesOf service pairs) := by
  induction h with
  | nil => exact .nil
  | @cons m p _ _ first _ ih =>
    obtain ⟨name, read⟩ := first
    rw [valuesOf_cons, valuesOf_cons, ← name]
    split
    · exact .cons read ih
    · exact ih

theorem Tables.getLast? {members : List (String × List UInt8)} {pairs : List (String × Snapshot)}
    (h : Tables members pairs) (service : String) :
    Option.Rel (fun text s => parse .json text = .ok s)
      (NameTable.valuesOf service members).getLast?
      (NameTable.valuesOf service pairs).getLast? := by
  have behind := List.forall₂_reverse_iff.mpr (h.valuesOf service)
  rw [List.getLast?_eq_head?_reverse, List.getLast?_eq_head?_reverse]
  revert behind
  generalize (NameTable.valuesOf service members).reverse = texts
  generalize (NameTable.valuesOf service pairs).reverse = snapshots
  rintro (_ | ⟨last, _⟩)
  · exact .none
  · exact .some last

/-- The values that the reader finds in an object are those of the texts, so they make
up the same table. -/
theorem tables_iff {members : List (String × List UInt8)} {ms : List (String × Json)}
    (found : List.Forall₂ (fun t m => t.1 = m.1 ∧ Json.parse? t.2 = some m.2) members ms)
    (pairs : List (String × Snapshot)) :
    Tables members pairs ↔ List.Forall₂ (fun m p => m.1 = p.1 ∧
      ofDocument? (strictness .json) (Document.ofJson m.2) = some p.2) ms pairs := by
  induction found generalizing pairs with
  | nil => simp [Tables]
  | @cons t m _ _ first _ ih =>
    obtain ⟨name, read⟩ := first
    unfold Tables at ih ⊢
    simp only [List.forall₂_cons_left_iff, ih, name, parse_eq_ok_iff read]

/-- The table of a payload has the snapshots of its members. -/
theorem table?_eq_some_iff {members : List (String × List UInt8)} {payload : List UInt8}
    (h : Json.IsObject members payload) (t : NameTable Snapshot) :
    (document? .json payload).bind (Document.table? (ofDocument? (strictness .json))) = some t ↔
      ∃ pairs, Tables members pairs ∧ .ofList pairs = t := by
  obtain ⟨ms, found, read⟩ := h.exists_parse?_eq
  rw [document?, read, Option.map_some, Option.bind_some, Document.table?_eq_some_iff]
  simp only [tables_iff found]

/-! ## 2. Payloads -/

section Payload

variable {members : List (String × List UInt8)} {payload : List UInt8}
  (h : Json.IsObject members payload) (service : String)

include h

/-- An object whose members are snapshots is decoded to the last one of the service. -/
theorem parseForService_of_tables {pairs : List (String × Snapshot)}
    (tables : Tables members pairs) :
    parseForService .json service payload = .ok
      ((valuesOf service pairs).getLast?.elim
        ⟨.empty, [.serviceMissing service (NameTable.ofList pairs).size]⟩ (⟨·, []⟩)) := by
  obtain ⟨ms, -, read⟩ := h.exists_parse?_eq
  rw [parseForService, Json.not_all_isAsciiSpace read,
    (table?_eq_some_iff h _).mpr ⟨pairs, tables, rfl⟩]
  simp only [Bool.false_eq_true, if_false, NameTable.get?_ofList]
  cases (valuesOf service pairs).getLast? <;> rfl

/-- One member that is no snapshot spoils the object, whatever service is asked for. -/
theorem parseForService_of_not_tables (none : ¬ ∃ pairs, Tables members pairs) :
    parseForService .json service payload = .error (malformed .json) := by
  obtain ⟨ms, -, read⟩ := h.exists_parse?_eq
  rw [parseForService, Json.not_all_isAsciiSpace read]
  cases found : (document? .json payload).bind
      (Document.table? (ofDocument? (strictness .json))) with
  | none => rfl
  | some t =>
    obtain ⟨pairs, tables, -⟩ := (table?_eq_some_iff h t).mp found
    exact absurd ⟨pairs, tables⟩ none

theorem exists_decode_perService_iff :
    (∃ d, decode .json .perService service payload = .ok d) ↔
      ∃ pairs, Tables members pairs := by
  rw [decode]
  constructor
  · rintro ⟨d, decoded⟩
    by_contra none
    rw [parseForService_of_not_tables h service none] at decoded
    cases decoded
  · rintro ⟨pairs, tables⟩
    exact ⟨_, parseForService_of_tables h service tables⟩

/-- What is decoded for a service hangs on nothing but the last text of that service. -/
theorem decode_eq_ok_of_object {d : Decoded}
    (decoded : decode .json .perService service payload = .ok d) :
    (∀ text ∈ (valuesOf service members).getLast?, decode .json .single service text = .ok d) ∧
      (valuesOf service members = [] → d.snapshot = .empty) := by
  obtain ⟨pairs, tables⟩ := (exists_decode_perService_iff h service).mp ⟨d, decoded⟩
  have last := tables.getLast? service
  rw [decode, parseForService_of_tables h service tables] at decoded
  rw [← List.getLast?_eq_none_iff]
  generalize (valuesOf service members).getLast? = text at last ⊢
  generalize (valuesOf service pairs).getLast? = s at last decoded
  cases last with
  | some read =>
    obtain rfl := Except.ok.inj decoded
    refine ⟨fun _ given => ?_, fun none => by cases none⟩
    obtain rfl := Option.some.inj given
    rw [decode, read]
    rfl
  | none =>
    obtain rfl := Except.ok.inj decoded
    exact ⟨fun _ given => (by cases given), fun _ => rfl⟩

end Payload

/-- A payload of one snapshot is decoded whoever asks. -/
theorem exists_decode_single_iff (service : String) (text : List UInt8) :
    (∃ d, decode .json .single service text = .ok d) ↔ ∃ s, parse .json text = .ok s := by
  rw [decode]
  cases parse .json text <;> simp [Except.map]

/-- **A payload of many services is decoded as each of its entries alone.** It decodes
if the text of every member does; what it does not decode to is always a parse fault.
What it decodes to for a service is what the last text of that service gives, and
the empty snapshot where there is none. So a payload in which the texts of the
service are the same gives the same snapshot, whatever else is in it. -/
theorem decode_perService_of_object {members : List (String × List UInt8)} {payload : List UInt8}
    (h : Json.IsObject members payload) (service : String) :
    ((∃ d, decode .json .perService service payload = .ok d) ↔
      ∀ m ∈ members, ∃ d, decode .json .single service m.2 = .ok d) ∧
    (∀ fault, decode .json .perService service payload = .error fault →
      fault = malformed .json) ∧
    (∀ d, decode .json .perService service payload = .ok d →
      (∀ text ∈ (valuesOf service members).getLast?,
        decode .json .single service text = .ok d) ∧
      (valuesOf service members = [] → d.snapshot = .empty)) ∧
    (∀ members' payload', Json.IsObject members' payload' →
      valuesOf service members' = valuesOf service members →
      ∀ d d', decode .json .perService service payload = .ok d →
        decode .json .perService service payload' = .ok d' → d'.snapshot = d.snapshot) := by
  refine ⟨?all, ?fault, fun d => decode_eq_ok_of_object h service, ?others⟩
  case all =>
    simp only [exists_decode_single_iff, ← exists_tables_iff]
    exact exists_decode_perService_iff h service
  case fault =>
    intro fault refused
    by_cases all : ∃ pairs, Tables members pairs
    · obtain ⟨d, decoded⟩ := (exists_decode_perService_iff h service).mpr all
      rw [decoded] at refused
      cases refused
    · rw [decode, parseForService_of_not_tables h service all] at refused
      exact (Except.error.inj refused).symm
  case others =>
    intro members' payload' h' same d d' decoded decoded'
    obtain ⟨last, none⟩ := decode_eq_ok_of_object h service decoded
    obtain ⟨last', none'⟩ := decode_eq_ok_of_object h' service decoded'
    rw [same] at last' none'
    cases found : (valuesOf service members).getLast? with
    | none =>
      have empty := List.getLast?_eq_none_iff.mp found
      rw [none empty, none' empty]
    | some text =>
      have both := (last text found).symm.trans (last' text found)
      rw [Except.ok.inj both]

/-- A service that is named twice, once with an escape, by a list and by a record with
space around it, and another service's entry that holds what no snapshot has. -/
theorem decode_perService_of_repeated_entry :
    let last := octets "\x7b\"sampleRatio\": 0.5\x7d"
    let cart := octets "\x7b\"x\":[1,null]\x7d"
    let members := [("shop", octets "[]"), ("cart", cart), ("shop", last)]
    let payload := octets (" \x7b\"shop\":[],\n\"cart\" : \x7b\"x\":[1,null]\x7d," ++
      "\"sh\\u006Fp\":\t\x7b\"sampleRatio\": 0.5\x7d \x7d\n")
    Json.IsObject members payload ∧
      ∃ d, decode .json .perService "shop" payload = .ok d ∧
        d.snapshot.sampleRatio = some ⟨0x3FE0000000000000⟩ := by
  intro last cart members payload
  have object : Json.IsObject members payload := by
    have list := Json.MemberText.of_text "shop" [] (octets "shop\"") [] [] (octets "[]") []
      (by decide +kernel) (by decide +kernel)
    have between := Json.MemberText.of_text "cart" (octets "\n") (octets "cart\"") (octets " ")
      (octets " ") cart [] (by decide +kernel) (by decide +kernel)
    have record := Json.MemberText.of_text "shop" [] (octets "sh\\u006Fp\"") [] (octets "\t") last
      (octets " ") (by decide +kernel) (by decide +kernel)
    refine ⟨⟨octets " ", _, octets "\n", ?_, by decide +kernel, by decide +kernel,
      .pieces (.more list (.more between (.last record)))⟩, ?_⟩
    · decide +kernel
    · decide +kernel
  obtain ⟨all, -, only, -⟩ := decode_perService_of_object object "shop"
  have snapshots : ∀ m ∈ members, ∃ d, decode .json .single "shop" m.2 = .ok d := by
    have each : ∀ m ∈ members, (parse .json m.2).isOk = true := by decide +kernel
    intro m hm
    have ok := each m hm
    rw [exists_decode_single_iff]
    cases read : parse .json m.2 with
    | ok s => exact ⟨s, rfl⟩
    | error fault => simp [read, Except.isOk, Except.toBool] at ok
  obtain ⟨d, decoded⟩ := all.mpr snapshots
  refine ⟨object, d, decoded, ?_⟩
  have same : decode .json .single "shop" last = .ok d := (only d decoded).1 last rfl
  have ratio : (parse .json last).toOption.map (·.sampleRatio) =
      some (some ⟨0x3FE0000000000000⟩) := by decide +kernel
  rw [decode] at same
  cases read : parse .json last with
  | ok s =>
    rw [read] at same ratio
    rw [← Except.ok.inj same]
    exact Option.some.inj ratio
  | error fault =>
    rw [read] at ratio
    cases ratio

end Snapshot

end TelemetryControl
