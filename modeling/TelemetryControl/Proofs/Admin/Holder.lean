/-
TelemetryControl.Proofs.Admin.Holder — who holds the key, and who gets in.

Nothing is asked of a configured key but that it is not blank
(`problems_withKey_eq_nil_iff`), and the operator's tool sends every key that
can stand in a header. The API reads less than the tool sends: an octet beyond
ASCII may stand in a header, but no header with one reads as a text
(`isVisible_iff_of_legal`). Hence of the keys that can be sent exactly the
ASCII ones open anything.

The main result is `holder_gets_in_iff_ascii`. Any other key passes for a good
one when the agent starts, and then its own holder is refused on every route
(`withKey_locks_out`).
-/
import TelemetryControl.Config.Problem
import TelemetryControl.Operator
import TelemetryControl.Proofs.Admin.Refusal

namespace TelemetryControl

/-! ## 1. Keys that a configuration may have -/

/-- A configuration with another key. -/
def Config.withKey (c : Config) (key : String) : Config :=
  { c with admin := { c.admin with apiKey := key } }

/-- Where operators may look in, a key is good if and only if it is not blank. -/
theorem Config.problems_withKey_eq_nil_iff {c : Config} (valid : c.problems = [])
    (enabled : c.admin.enabled = true) (key : String) :
    (c.withKey key).problems = [] ↔ Text.isBlankText key = false := by
  simp only [problems, List.append_eq_nil_iff] at valid
  obtain ⟨others, -⟩ := valid
  simp only [problems, withKey, List.append_eq_nil_iff, others, true_and, enabled, Bool.true_and]
  simp

namespace Admin

/-! ## 2. What reads as a text -/

/-- Of the octets that may stand in a header, exactly those of ASCII read as text. -/
theorem isVisible_iff_of_legal {b : UInt8}
    (legal : ((0x20 ≤ b && b != 0x7F) || b == 0x09) = true) : isVisible b = true ↔ b < 0x80 := by
  simp [isVisible, UInt8.le_iff_toNat_le, UInt8.lt_iff_toNat_lt, ← UInt8.toNat_inj] at legal ⊢
  omega

/-- A key that can be sent reads as a text if and only if it is ASCII. -/
theorem all_isVisible_octets_iff {key : String} (legal : Operator.isHeaderText key = true) :
    (Text.octets key).all isVisible = true ↔ Text.IsAscii key := by
  rw [Operator.isHeaderText, List.all_eq_true] at legal
  rw [List.all_eq_true, ← Text.forall_mem_octets_lt_iff]
  exact forall₂_congr fun b member => isVisible_iff_of_legal (legal b member)

/-! ## 3. Who gets in -/

/-- The only authorization header of a request is `Bearer ` and a key. -/
def Request.Carries (r : Request) (key : String) : Prop :=
  r.authorization = [Text.octets ("Bearer " ++ key)]

instance (r : Request) (key : String) : Decidable (r.Carries key) :=
  inferInstanceAs (Decidable (_ = _))

/-- A request reads one of the routes. -/
def Request.Reads (r : Request) (route : Route) : Prop :=
  r.method = "GET" ∧ route? (path r) = some route

instance (r : Request) (route : Route) : Decidable (r.Reads route) :=
  inferInstanceAs (Decidable (_ ∧ _))

theorem authorized_of_carries_iff {r : Request} {key : String} (carries : r.Carries key)
    (legal : Operator.isHeaderText key = true) :
    authorized key r.authorization = true ↔ Text.IsAscii key := by
  have opening : (Text.octets "Bearer ").all isVisible = true := by decide +kernel
  have spelt : Text.octets ("Bearer " ++ key) = Text.octets "Bearer " ++ Text.octets key := by
    simp only [Text.octets_eq, String.toList_append, Text.encode_append]
  rw [carries, authorized, beq_self_eq_true, Bool.and_true, spelt, List.all_append, opening,
    Bool.true_and, all_isVisible_octets_iff legal]

/-- A request that reads a route is answered with its view if it opens with the key. -/
theorem handle_of_authorized {r : Request} {key : String} {route : Route}
    (reads : r.Reads route) (admitted : authorized key r.authorization = true) (s : State) :
    handle key s r = (view s route, []) := by
  rw [handle, if_pos admitted, dispatch, reads.2]
  simp [reads.1]

/-- **Of the configured keys that can be sent, exactly the ASCII ones let their
holder in.** Whoever reads a route with the very key of a configuration gets
past the check if and only if all characters of the key are ASCII. The answer
is then the view of the route, and without that it is a refusal, in every
state. -/
theorem holder_gets_in_iff_ascii {c : Config}
    (legal : Operator.isHeaderText c.admin.apiKey = true) {r : Request} {route : Route}
    (carries : r.Carries c.admin.apiKey) (reads : r.Reads route) (s : State) :
    ((handle c.admin.apiKey s r).1.status ≠ 401 ↔ Text.IsAscii c.admin.apiKey) ∧
    (Text.IsAscii c.admin.apiKey → handle c.admin.apiKey s r = (view s route, [])) ∧
    (¬ Text.IsAscii c.admin.apiKey →
      handle c.admin.apiKey s r = (⟨401, none⟩, [.adminRejected (path r)])) := by
  rw [← authorized_of_carries_iff carries legal]
  by_cases admitted : authorized c.admin.apiKey r.authorization = true
  · rw [handle_of_authorized reads admitted]
    simp [admitted, status_view_ne_401]
  · simp [handle, admitted]

/-- The key has a tab and a tilde, the last of the characters that are read, and the
logger that is asked for spells no text. -/
theorem holder_gets_in_with_tab_and_tilde :
    let c := Config.default.withKey "\t~"
    let r : Request := ⟨"GET", "/admin/decision/%FF", [Text.octets "Bearer \t~"]⟩
    (Operator.isHeaderText c.admin.apiKey = true ∧ r.Carries c.admin.apiKey ∧
      r.Reads (.decision "%FF")) ∧
    ∀ s, (handle c.admin.apiKey s r).1.status ≠ 401 ∧
      handle c.admin.apiKey s r = (view s (.decision "%FF"), []) := by
  intro c r
  have legal : Operator.isHeaderText c.admin.apiKey = true := by decide +kernel
  have carries : r.Carries c.admin.apiKey := by decide +kernel
  have reads : r.Reads (.decision "%FF") := by decide +kernel
  have ascii : Text.IsAscii c.admin.apiKey := by decide +kernel
  refine ⟨⟨legal, carries, reads⟩, fun s => ?_⟩
  obtain ⟨admitted, answered, -⟩ := holder_gets_in_iff_ascii legal carries reads s
  exact ⟨admitted.mpr ascii, answered ascii⟩

/-- **A key beyond ASCII is taken and never read.** Given to any configuration
without problems, it makes none, and its own holder is refused whatever is
asked. -/
theorem withKey_locks_out {c : Config} (valid : c.problems = [])
    (enabled : c.admin.enabled = true) {key : String} (legal : Operator.isHeaderText key = true)
    (beyond : ¬ Text.IsAscii key) (filled : Text.isBlankText key = false) :
    (c.withKey key).problems = [] ∧ ∀ (s : State) (r : Request), r.Carries key →
      handle key s r = (⟨401, none⟩, [.adminRejected (path r)]) := by
  refine ⟨(Config.problems_withKey_eq_nil_iff valid enabled key).mpr filled, fun s r carries => ?_⟩
  have refused : ¬ authorized key r.authorization = true :=
    fun admitted => beyond ((authorized_of_carries_iff carries legal).mp admitted)
  simp [handle, refused]

/-- With an accented key, the default configuration is fine and answers its holder
401 in every state. -/
theorem holder_locked_out_by_accent :
    let admin : AdminConfig := { AdminConfig.default with enabled := true }
    let base : Config := { Config.default with admin := admin }
    let c := base.withKey "clé"
    let r : Request := ⟨"GET", "/admin/status", [Text.octets "Bearer clé"]⟩
    (c.admin.enabled = true ∧ c.problems = [] ∧ Operator.isHeaderText c.admin.apiKey = true) ∧
    (r.Carries c.admin.apiKey ∧ r.Reads .status) ∧
    ∀ s, (handle c.admin.apiKey s r).1.status = 401 := by
  intro admin base c r
  have legal : Operator.isHeaderText c.admin.apiKey = true := by decide +kernel
  have carries : r.Carries c.admin.apiKey := by decide +kernel
  have reads : r.Reads .status := by decide +kernel
  have valid : base.problems = [] := by decide +kernel
  have beyond : ¬ Text.IsAscii "clé" := by decide +kernel
  obtain ⟨valid, refused⟩ := withKey_locks_out valid rfl legal beyond (by decide +kernel)
  exact ⟨⟨rfl, valid, legal⟩, ⟨carries, reads⟩, fun s => by rw [refused s r carries]⟩

end Admin

end TelemetryControl
