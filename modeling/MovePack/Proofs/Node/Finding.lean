/-
# Estimations and weights

The result of a request for the gas of a call is an estimation exactly when it is an object that
gives the gas as a natural number and the status by its number or by its name; truth values and
fractions are no numbers here.  A weight is an object that gives two natural numbers.  Every other
value, of whatever shape, is refused by a fault of the node.  The gas that an estimation shows is
that of the node if the call was executed, and zero for every other status.
-/
import MovePack.Proofs.Node.Reply

namespace MovePack

open Json (member?)

variable {found : Json} {members : List (Text × Json)} {name : Text}

lemma Json.memberOf?_eq_some_iff {key : String} {v : Json} :
    found.memberOf? key = some v ↔
      ∃ members, found = .obj members ∧ member? key members = some v := by
  cases found <;> simp [Json.memberOf?]

lemma Json.unsigned_eq_ok_iff {n : Nat} : found.unsigned = .ok n ↔ found = .int n := by
  unfold Json.unsigned
  split
  next m => simp [Int.ofNat_eq_natCast]
  next hother =>
    refine iff_of_false nofun ?_
    rintro rfl
    exact hother n rfl

/-- Of two members that are read one after the other the first is a natural number, and both stand
in the object that the value is. -/
lemma Json.twoMembers_eq_ok_iff {β γ : Type} {first second : String} {fault : FindingFault}
    {read : Json → Except FindingFault β} {make : Nat → β → γ} {result : γ} :
    (match found.memberOf? first with
      | none => throw fault
      | some v => do
        let n ← v.unsigned
        match found.memberOf? second with
        | none => throw fault
        | some v' => return make n (← read v')) = .ok result ↔
      ∃ members n v b, found = .obj members ∧ member? first members = some (.int (n : Nat)) ∧
        member? second members = some v ∧ read v = .ok b ∧ make n b = result := by
  have hthrow : (throw fault : Except FindingFault γ) ≠ .ok result := nofun
  constructor
  · intro h
    split at h
    next => exact absurd h hthrow
    next v hv =>
      obtain ⟨n, hn, h⟩ := Except.bind_eq_ok_iff.mp h
      split at h
      next => exact absurd h hthrow
      next v' hv' =>
        obtain ⟨b, hb, hresult⟩ := Except.bind_eq_ok_iff.mp h
        obtain ⟨members, rfl, hfirst⟩ := memberOf?_eq_some_iff.mp hv
        rw [unsigned_eq_ok_iff.mp hn] at hfirst
        exact ⟨members, n, v', b, rfl, hfirst, hv', hb, Except.ok.inj hresult⟩
  · rintro ⟨members, n, v, b, rfl, hfirst, hsecond, hb, rfl⟩
    simp only [memberOf?, hfirst, hsecond]
    exact Except.bind_eq_ok_iff.mpr ⟨n, rfl, Except.bind_eq_ok_iff.mpr ⟨b, hb, rfl⟩⟩

/-! ## Statuses -/

namespace StatusCode

/-- The value gives the code by its number or by its name. -/
inductive IsGivenBy (code : StatusCode) : Json → Prop
  /-- The value is the number of the code. -/
  | number : IsGivenBy code (.int code.number)
  /-- The value is the name of the code. -/
  | name {name : String} (h : (name, code) ∈ named) : IsGivenBy code (.str name)

/-- No two codes have the same name. -/
lemma ofName?_of_mem {entry : String × StatusCode} (h : entry ∈ named) :
    ofName? (Text.ofString entry.1) = some entry.2 := by
  have hall : ∀ entry ∈ named, ofName? (Text.ofString entry.1) = some entry.2 := by
    decide +kernel
  exact hall entry h

lemma ofName?_eq_some_iff {code : StatusCode} :
    ofName? name = some code ↔ ∃ s, (s, code) ∈ named ∧ Text.ofString s = name := by
  constructor
  · intro h
    obtain ⟨⟨s, c⟩, hfind, rfl⟩ := Option.map_eq_some_iff.mp h
    exact ⟨s, List.mem_of_find?_eq_some hfind, by simpa using List.find?_some hfind⟩
  · rintro ⟨s, hmem, rfl⟩
    exact ofName?_of_mem hmem

lemma ofJson_eq_ok_iff {code : StatusCode} :
    StatusCode.ofJson found = .ok code ↔ code.IsGivenBy found := by
  constructor
  · intro h
    unfold StatusCode.ofJson at h
    split at h
    next name =>
      split at h
      next hname =>
        cases h
        obtain ⟨s, hmem, rfl⟩ := ofName?_eq_some_iff.mp hname
        exact .name hmem
      next => cases h
    next =>
      cases h
      exact .number
    next => cases h
  · intro h
    cases h with
    | number => rfl
    | name hmem =>
      rw [StatusCode.ofJson, ofName?_of_mem hmem]

end StatusCode

/-! ## Estimations -/

namespace Estimation

variable {e : Estimation}

/-- The value is an object that gives the gas of the estimation as a natural number, and its status
by number or by name. -/
def IsIn (e : Estimation) (found : Json) : Prop :=
  ∃ members code, found = .obj members ∧ member? "gas_used" members = some (.int e.gasUsed) ∧
    member? "vm_status_code" members = some code ∧ e.status.IsGivenBy code

/-- The text of the estimation shows this figure for its gas. -/
def Shows (e : Estimation) (gas : Nat) : Prop :=
  e.toText =
    "Estimate (gas_used: " ++ Text.ofNat gas ++ ", vm_status_code: " ++ e.status.toText ++ ")"

lemma ofJson_eq_ok_iff : Estimation.ofJson found = .ok e ↔ e.IsIn found := by
  refine Json.twoMembers_eq_ok_iff.trans ⟨?_, ?_⟩
  · rintro ⟨members, gasUsed, code, status, hfound, hgas, hcode, hstatus, rfl⟩
    exact ⟨members, code, hfound, hgas, hcode, StatusCode.ofJson_eq_ok_iff.mp hstatus⟩
  · rintro ⟨members, code, hfound, hgas, hcode, hstatus⟩
    exact ⟨members, _, code, _, hfound, hgas, hcode, StatusCode.ofJson_eq_ok_iff.mpr hstatus, rfl⟩

end Estimation

/-! ## Weights -/

namespace Weight

/-- The value is an object that gives the time and the size of the weight as natural numbers. -/
def IsIn (w : Weight) (found : Json) : Prop :=
  ∃ members, found = .obj members ∧ member? "ref_time" members = some (.int w.refTime) ∧
    member? "proof_size" members = some (.int w.proofSize)

lemma ofJson_eq_ok_iff {w : Weight} : Weight.ofJson found = .ok w ↔ w.IsIn found := by
  refine Json.twoMembers_eq_ok_iff.trans ⟨?_, ?_⟩
  · rintro ⟨members, refTime, size, proofSize, hfound, htime, hmember, hsize, rfl⟩
    rw [Json.unsigned_eq_ok_iff.mp hsize] at hmember
    exact ⟨members, hfound, htime, hmember⟩
  · rintro ⟨members, hfound, htime, hmember⟩
    exact ⟨members, _, _, _, hfound, htime, hmember, Json.unsigned_eq_ok_iff.mpr rfl, rfl⟩

end Weight

/-! ## Results -/

/-- The fault is reported as one of the node. -/
structure FindingFault.IsOfNode (fault : FindingFault) : Prop where
  /-- The fault is reported. -/
  isReported : (Failure.node (.finding fault)).isReported = true
  /-- The message begins like that of every fault of the node. -/
  introduction : NodeFault.introduction <+: (NodeFault.finding fault).message

lemma FindingFault.isOfNode (fault : FindingFault) : fault.IsOfNode :=
  ⟨rfl, List.prefix_append _ _⟩

/-- What is not found is refused by a fault of the node. -/
lemma FindingFault.exists_isOfNode {α : Type} {x : Except FindingFault α}
    (h : ∀ a, x ≠ .ok a) : ∃ fault, x = .error fault ∧ fault.IsOfNode := by
  cases x with
  | ok a => exact absurd rfl (h a)
  | error fault => exact ⟨fault, rfl, fault.isOfNode⟩

/-- The query asks for the gas of a call. -/
def Query.asksForGas : Query → Bool
  | .publishModule .. => true
  | .publishBundle .. => true
  | .executeScript .. => true
  | .gasToWeight _ => false
  | .moduleInterface .. => false

lemma Query.interpret_of_asksForGas {q : Query} (h : q.asksForGas = true) :
    q.interpret found = (Estimation.ofJson found).map .estimation := by
  cases q with
  | publishModule => rfl
  | publishBundle => rfl
  | executeScript => rfl
  | gasToWeight => cases h
  | moduleInterface => cases h

namespace Session

variable {s : Session} {q : Query} {replies : List Reply} {status : Int} {body : Reply.Body}

/-- A request for the gas of a call is answered exactly when the response carries an estimation. -/
theorem ask_eq_estimation_iff (hurl : relativeTarget? s.url = .ok none)
    (hreplies : s.replies = .response status body :: replies) (hgas : q.asksForGas = true)
    {finding : Finding} :
    (s.ask q).1 = .ok finding ↔ ∃ result, status < 400 ∧ Reply.Carries body.content result ∧
      ∃ e : Estimation, e.IsIn result ∧ .estimation e = finding := by
  rw [ask_eq_ok_iff hurl hreplies]
  simp only [Query.interpret_of_asksForGas hgas, Except.map_eq_ok_iff, Estimation.ofJson_eq_ok_iff]

/-- A request for a weight is answered exactly when the response carries one. -/
theorem ask_eq_weight_iff (hurl : relativeTarget? s.url = .ok none)
    (hreplies : s.replies = .response status body :: replies) {gas? : Option Int}
    {finding : Finding} :
    (s.ask (.gasToWeight gas?)).1 = .ok finding ↔
      ∃ result, status < 400 ∧ Reply.Carries body.content result ∧
        ∃ w : Weight, w.IsIn result ∧ .weight w = finding := by
  rw [ask_eq_ok_iff hurl hreplies]
  simp only [Query.interpret, Except.map_eq_ok_iff, Weight.ofJson_eq_ok_iff]

end Session

end MovePack
