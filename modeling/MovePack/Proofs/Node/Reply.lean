/-
# Responses of a node

A response has a result exactly when its HTTP status is below those of errors and its body is a JSON
object that reports no error and has the result.  In every other case the fault keeps the status and
is reported, whatever the bytes of the body are, unless they are a text that lies too deep to be
read, which takes many brackets.  So a response whose status is neither that of a success nor that
of an error is taken for a success when its body is that of one.
-/
import Mathlib
import MovePack.Command.Workspace
import MovePack.Proofs.Json.Depth

namespace MovePack

open Json (member?)

variable {status : Int} {body : Reply.Body} {content : Bytes} {result : Json} {t : Text}
variable {members : List (Text × Json)} {fault : ReplyFault}

/-! ## Bodies -/

namespace Reply

/-- The bytes are a JSON object that reports no error and has the result. -/
def Carries (content : Bytes) (result : Json) : Prop :=
  ∃ members, Json.ofBytes content = .ok (.obj members) ∧
    (∀ error, member? "error" members = some error → error = .null) ∧
    member? "result" members = some result

lemma Carries.of_document {members : List (Text × Json)} (hdecode : Json.decode content = .ok t)
    (hread : Json.ofUnmarkedText t = .ok (.obj members))
    (herror : ∀ error, member? "error" members = some error → error = .null)
    (hresult : member? "result" members = some result) : Carries content result := by
  refine ⟨members, ?_, herror, hresult⟩
  rw [Json.ofBytes, hdecode]
  simp only [hread]

/-- The bytes are a text that lies too deep to be read. -/
def IsTooDeep (content : Bytes) : Prop :=
  ∃ container, Json.ofBytes content = .error (.malformed (.tooDeep container))

/-- A body with few brackets does not lie too deep. -/
lemma not_isTooDeep (hdecode : Json.decode content = .ok t)
    (h : t.countP Json.isOpening ≤ Json.maxNesting) : ¬ IsTooDeep content := by
  rintro ⟨container, htooDeep⟩
  rw [Json.ofBytes, hdecode] at htooDeep
  simp only at htooDeep
  split at htooDeep
  next hread =>
    cases htooDeep
    exact Json.ofUnmarkedText_ne_tooDeep h container hread
  next => cases htooDeep

lemma detail_eq_null_iff {name : String} :
    ReplyFault.detail name members = .null ↔ ∀ v, member? name members = some v → v = .null := by
  rw [ReplyFault.detail]
  cases member? name members <;> simp

lemma resultIn_eq_ok_iff {found : Json} :
    resultIn status found = .ok result ↔ ∃ members, found = .obj members ∧
      (∀ error, member? "error" members = some error → error = .null) ∧
      member? "result" members = some result := by
  simp only [← detail_eq_null_iff]
  cases found with
  | obj members =>
    simp only [resultIn, Json.obj.injEq, exists_eq_left']
    split
    next hnull =>
      simp only [hnull, true_and]
      cases member? "result" members <;> simp
    next hnull => exact iff_of_false nofun fun h => hnull h.1
  | _ => exact iff_of_false nofun (by simp)

end Reply

/-! ## Faults -/

/-- The fault keeps the HTTP status of the response, and it is reported as one of the node. -/
structure ReplyFault.IsOfResponse (fault : ReplyFault) (status : Int) : Prop where
  /-- The status is kept. -/
  status : fault.status? = some status
  /-- The fault is reported. -/
  isReported : (Failure.node (.reply fault)).isReported = true
  /-- The message begins like that of every fault of the node. -/
  introduction : NodeFault.introduction <+: (NodeFault.reply fault).message

namespace Reply

lemma isOfResponse_of_resultIn {found : Json} (h : resultIn status found = .error fault) :
    fault.IsOfResponse status := by
  have hintroduction : ∀ rest : Text, NodeFault.introduction <+: NodeFault.introduction ++ rest :=
    fun rest => List.prefix_append _ rest
  unfold resultIn at h
  split at h
  next =>
    split at h
    next =>
      split at h
      next => cases h
      next =>
        cases h
        exact ⟨rfl, rfl, hintroduction _⟩
    next =>
      cases h
      exact ⟨rfl, rfl, hintroduction _⟩
  next =>
    cases h
    exact ⟨rfl, rfl, hintroduction _⟩

/-! ## Responses -/

lemma result_response (h : status < 400) :
    (Reply.response status body).result =
      match Json.ofBytes body.content with
      | .ok found => resultIn status found
      | .error (.malformed (.tooDeep container)) => .error (.tooDeep container)
      | .error fault => .error (.invalidJson status fault) :=
  if_neg (Int.not_le.mpr h)

lemma result_response_of_le (h : 400 ≤ status) :
    (Reply.response status body).result = .error (.httpError status body.text) :=
  if_pos h

lemma result_eq_ok_iff :
    (Reply.response status body).result = .ok result ↔
      status < 400 ∧ Carries body.content result := by
  by_cases h : status < 400
  · rw [result_response h, Carries]
    split
    next found hfound => simp [hfound, resultIn_eq_ok_iff, h]
    next hdeep => simp [hdeep]
    next fault _ hfault => simp [hfault]
  · rw [result_response_of_le (Int.not_lt.mp h)]
    exact iff_of_false nofun fun hresult => h hresult.1

/-- A response without result has a fault of its own, unless its body lies too deep. -/
lemma isOfResponse_of_result (h : (Reply.response status body).result = .error fault) :
    fault.IsOfResponse status ∨
      status < 400 ∧ IsTooDeep body.content ∧ ∃ container, fault = .tooDeep container := by
  by_cases hstatus : status < 400
  · rw [result_response hstatus] at h
    split at h
    next => exact .inl (isOfResponse_of_resultIn h)
    next container hdeep =>
      cases h
      exact .inr ⟨hstatus, ⟨container, hdeep⟩, container, rfl⟩
    next =>
      cases h
      exact .inl ⟨rfl, rfl, List.prefix_append _ _⟩
  · rw [result_response_of_le (Int.not_lt.mp hstatus)] at h
    cases h
    exact .inl ⟨rfl, rfl, List.prefix_append _ _⟩

end Reply

/-! ## Answers -/

namespace Session

variable {s : Session} {q : Query} {replies : List Reply}

/-- What is found out from a response is the result that it carries. -/
lemma ask_response (hurl : relativeTarget? s.url = .ok none)
    (hreplies : s.replies = .response status body :: replies) :
    (s.ask q).1 = ((Reply.response status body).result.mapError .reply >>= fun result =>
      (q.interpret result).mapError .finding) := by
  have hreply : s.replies.headD .nothing = .response status body := by
    rw [hreplies, List.headD_cons]
  have hresult : resultOf none (.response status body) =
      (Reply.response status body).result.mapError .reply := rfl
  rw [ask, hurl]
  simp only [hreply, hresult]
  cases (Reply.response status body).result <;> rfl

lemma ask_eq_ok_iff (hurl : relativeTarget? s.url = .ok none)
    (hreplies : s.replies = .response status body :: replies) {finding : Finding} :
    (s.ask q).1 = .ok finding ↔ ∃ result, status < 400 ∧ Reply.Carries body.content result ∧
      q.interpret result = .ok finding := by
  rw [ask_response hurl hreplies, Except.bind_eq_ok_iff]
  simp only [Except.mapError_eq_ok_iff, Reply.result_eq_ok_iff, and_assoc]

/-- **A response is taken for what its status and its body say.**  It has a result exactly when the
status is below those of errors and the body is a JSON object that reports no error and has the
result.  Any other response leads to a fault that keeps the status and is reported, unless the body
lies too deep, as no text with few brackets does.  So for every status of a success or of an error a
response has a result exactly when the status is that of a success and the body has the result.  A
query is answered from the result of the response to it, and not without one. -/
theorem response_taken (status : Int) (body : Reply.Body) :
    (∀ result, (Reply.response status body).result = .ok result ↔
      status < 400 ∧ Reply.Carries body.content result) ∧
    (∀ fault, (Reply.response status body).result = .error fault →
      fault.IsOfResponse status ∨
        status < 400 ∧ Reply.IsTooDeep body.content ∧ ∃ container, fault = .tooDeep container) ∧
    (∀ t, Json.decode body.content = .ok t → t.countP Json.isOpening ≤ Json.maxNesting →
      ¬ Reply.IsTooDeep body.content) ∧
    (200 ≤ status ∧ status < 300 ∨ 400 ≤ status → ¬ Reply.IsTooDeep body.content →
      (∀ result, (Reply.response status body).result = .ok result ↔
        (200 ≤ status ∧ status < 300) ∧ Reply.Carries body.content result) ∧
      ((∀ result, ¬ ((200 ≤ status ∧ status < 300) ∧ Reply.Carries body.content result)) →
        ∃ fault, (Reply.response status body).result = .error fault ∧
          fault.IsOfResponse status)) ∧
    ∀ (s : Session) q replies finding, relativeTarget? s.url = .ok none →
      s.replies = .response status body :: replies →
      ((s.ask q).1 = .ok finding ↔ ∃ result, status < 400 ∧
        Reply.Carries body.content result ∧ q.interpret result = .ok finding) := by
  refine ⟨fun _ => Reply.result_eq_ok_iff, fun _ => Reply.isOfResponse_of_result,
    fun _ => Reply.not_isTooDeep, fun hstatus hdeep => ?_,
    fun _ _ _ _ hurl hreplies => ask_eq_ok_iff hurl hreplies⟩
  have hok : ∀ result, (Reply.response status body).result = .ok result ↔
      (200 ≤ status ∧ status < 300) ∧ Reply.Carries body.content result := by
    intro result
    rw [Reply.result_eq_ok_iff]
    refine and_congr_left fun _ => ?_
    omega
  -- there is no result only if there is a fault, and that is one of the response
  refine ⟨hok, fun hnone => ?_⟩
  cases hresult : (Reply.response status body).result with
  | ok result => exact absurd ((hok result).mp hresult) (hnone result)
  | error fault =>
    obtain hresponse | ⟨-, htooDeep, -⟩ := Reply.isOfResponse_of_result hresult
    · exact ⟨fault, rfl, hresponse⟩
    · exact absurd htooDeep hdeep

/-- An object with the result null and nothing else. -/
def nullResult : Text := "\x7b\x22result\x22:null\x7d"

lemma decode_nullResult : Json.decode (Utf8.bytes nullResult) = .ok nullResult := by
  have hform : Json.formOf (Utf8.bytes nullResult) = (.utf8, 0) := by decide +kernel
  have hdecode : Utf8.decodeFrom 0 (Utf8.bytes nullResult) = .ok nullResult := by decide +kernel
  simp only [Json.decode, hform, List.drop_zero]
  rw [Json.decodeUtf8From, hdecode]

lemma carries_nullResult : Reply.Carries (Utf8.bytes nullResult) .null := by
  have hread : Json.ofUnmarkedText nullResult = .ok (.obj [("result", .null)]) := by cbv
  refine .of_document decode_nullResult hread ?_ rfl
  intro error herror
  cases herror

/-- A result that is null says that there is no module of the name, and no error status goes with
it. -/
theorem response_taken_nullResult :
    ¬ Reply.IsTooDeep (Utf8.bytes nullResult) ∧
    (Reply.response 200 nullResult).result = .ok .null ∧
    (ReplyFault.httpError 503 nullResult).IsOfResponse 503 ∧
    (ask ⟨Workspace.usualNodeUrl, [.response 200 nullResult], [], []⟩
      (.moduleInterface (some "0x1") (some "m"))).1 = .ok (.interface none) := by
  obtain ⟨-, -, hdeep, htaken, hask⟩ := response_taken 200 nullResult
  have hshallow := hdeep _ decode_nullResult (by decide)
  have hurl : relativeTarget? Workspace.usualNodeUrl = .ok none := by cbv
  refine ⟨hshallow, ?_, ?_, ?_⟩
  · exact ((htaken (by decide) hshallow).1 _).mpr ⟨by decide, carries_nullResult⟩
  · exact ((response_taken 503 nullResult).2.1 _ rfl).resolve_right (by simp)
  · exact (hask _ _ _ _ hurl rfl).mpr ⟨.null, by decide, carries_nullResult, rfl⟩

/-- A redirection whose body is that of a success is taken for a success. -/
theorem response_taken_redirection :
    (Reply.response 302 nullResult).result = .ok .null ∧
      ¬ ((200 : Int) ≤ 302 ∧ (302 : Int) < 300) :=
  ⟨Reply.result_eq_ok_iff.mpr ⟨by decide, carries_nullResult⟩, by decide⟩

end Session

end MovePack
