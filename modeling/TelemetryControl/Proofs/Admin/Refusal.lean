/-
TelemetryControl.Proofs.Admin.Refusal — without the key nothing is learnt.

A request is refused for its first authorization header alone: there is none,
it reads as no text, or its text is not `Bearer ` and the key (`Refused`). All
else stands behind the key, so a refused request has the same answer whatever
the state is, and whatever is put in the place of the routes
(`behindKey`). No route answers 401 (`status_dispatch_ne_401`), so by that
status a request knows that it was refused, and it never knows more.

The main result is `refused_learns_nothing`.
-/
import TelemetryControl.Admin
import TelemetryControl.Proofs.Text.Octets

namespace TelemetryControl.Admin

/-! ## 1. What is refused -/

/-- The text of a header, if all of it is visible. -/
def headerText? (h : List UInt8) : Option String :=
  if h.all isVisible then Text.ofOctets? h else none

/-- The authorization headers do not open with the key: there is none, or the first
one reads as no text or as another one. -/
def Refused (key : String) : List (List UInt8) → Prop
  | [] => True
  | first :: _ => headerText? first ≠ some ("Bearer " ++ key)

theorem headerText?_eq_some_iff {h : List UInt8} {text : String} :
    headerText? h = some text ↔ h.all isVisible = true ∧ h = Text.octets text := by
  unfold headerText?
  split
  · next visible => simp [visible, Text.ofOctets?_eq_some_iff]
  · next hidden => simp [hidden]

theorem authorized_eq_false_iff {key : String} {headers : List (List UInt8)} :
    authorized key headers = false ↔ Refused key headers := by
  cases headers with
  | nil => simp [authorized, Refused]
  | cons first rest =>
    rw [Refused, Ne, headerText?_eq_some_iff, authorized, ← Bool.not_eq_true, Bool.and_eq_true,
      beq_iff_eq]

instance (key : String) (headers : List (List UInt8)) : Decidable (Refused key headers) :=
  decidable_of_iff _ authorized_eq_false_iff

/-! ## 2. What stands behind the key -/

/-- The answer to a request when a service stands behind the key, and what is
reported of it. -/
def behindKey (key : String) (service : Request → Response) (r : Request) :
    Response × List Notice :=
  if authorized key r.authorization then (service r, [])
  else (⟨401, none⟩, [.adminRejected (path r)])

/-- The routes stand behind the key. -/
theorem handle_eq_behindKey (key : String) (s : State) :
    handle key s = behindKey key (dispatch s) := rfl

theorem behindKey_of_refused {key : String} {r : Request} (refused : Refused key r.authorization)
    (service : Request → Response) :
    behindKey key service r = (⟨401, none⟩, [.adminRejected (path r)]) := by
  rw [behindKey, authorized_eq_false_iff.mpr refused]
  rfl

theorem behindKey_of_not_refused {key : String} {r : Request}
    (admitted : ¬ Refused key r.authorization) (service : Request → Response) :
    behindKey key service r = (service r, []) := by
  rw [← authorized_eq_false_iff, Bool.not_eq_false] at admitted
  rw [behindKey, admitted]
  rfl

theorem status_view_ne_401 (s : State) (route : Route) : (view s route).status ≠ 401 := by
  cases route with
  | decision segment =>
    simp only [view]
    split <;> simp
  | _ => simp [view]

/-- No route refuses for want of a key. -/
theorem status_dispatch_ne_401 (s : State) (r : Request) : (dispatch s r).status ≠ 401 := by
  unfold dispatch
  split
  · simp
  · next route _ =>
    split
    · exact status_view_ne_401 s route
    · split
      · exact status_view_ne_401 s route
      · simp

/-! ## 3. What a refused request learns -/

/-- **A request without the key learns that it was refused, and nothing else.** It
is refused exactly when it is answered 401. It then gets no body, the same
answer in every state, and the same one whatever service stands behind the
key, so that none is run for it. -/
theorem refused_learns_nothing (key : String) (r : Request) :
    (∀ s, (handle key s r).1.status = 401 ↔ Refused key r.authorization) ∧
    (Refused key r.authorization → ∀ s s',
      (handle key s r).1 = ⟨401, none⟩ ∧ handle key s' r = handle key s r ∧
        ∀ service, behindKey key service r = handle key s r) := by
  constructor
  · intro s
    rw [handle_eq_behindKey]
    by_cases refused : Refused key r.authorization
    · simp [behindKey_of_refused refused, refused]
    · simp [behindKey_of_not_refused refused, refused, status_dispatch_ne_401]
  · intro refused s s'
    simp [handle_eq_behindKey, behindKey_of_refused refused]

/-- The key is in the second header, the first one stops short of it, and the request
could not be served anyway. -/
theorem refused_learns_nothing_from_shorter_key :
    let r : Request :=
      ⟨"DELETE", "/admin/nowhere", [Text.octets "Bearer k", Text.octets "Bearer key"]⟩
    Refused "key" r.authorization ∧ ∀ s s', (handle "key" s r).1 = ⟨401, none⟩ ∧
      handle "key" s' r = handle "key" s r ∧
        ∀ service, behindKey "key" service r = handle "key" s r := by
  intro r
  have refused : Refused "key" r.authorization := by decide +kernel
  exact ⟨refused, (refused_learns_nothing "key" r).2 refused⟩

end TelemetryControl.Admin
