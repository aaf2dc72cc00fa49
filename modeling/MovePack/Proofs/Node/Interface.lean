/-
# Interfaces of modules

The result of a request for the interface of a module is null if there is no such module, and else
the array of the bytes of the interface.  The elements of the array are read one by one: an integer
from 0 to 255 is a byte, and so is a truth value, which counts as 0 or 1.  So what is found is
exactly what is there, but for arrays of bytes in which truth values stand among the integers.  All
that is neither null nor an array of bytes is refused by a fault of the node.
-/
import MovePack.Proofs.Node.Finding

namespace MovePack

namespace ModuleInterface

variable {found element : Json} {elements : List Json} {bytes : Bytes} {b : UInt8}

/-! ## Elements -/

/-- The element of an array counts as the byte. -/
inductive CountsAs (b : UInt8) : Json → Prop
  /-- The element is the number of the byte. -/
  | number : CountsAs b (.int b.toNat)
  /-- The element is a truth value. -/
  | truth {t : Bool} (h : b = if t then 1 else 0) : CountsAs b (.bool t)

/-- The value is an array of bytes in which truth values stand among the integers. -/
def MixesTruth (found : Json) : Prop :=
  ∃ elements, found = .arr elements ∧ (∃ t, .bool t ∈ elements) ∧
    ∀ element ∈ elements, ∃ b, CountsAs b element

lemma byteOf_eq_ok_iff : byteOf element = .ok b ↔ CountsAs b element := by
  constructor
  · intro h
    cases element with
    | int i =>
      rw [byteOf] at h
      split_ifs at h with hi
      obtain ⟨n, rfl⟩ := Int.eq_ofNat_of_zero_le hi.1
      have hn : (UInt8.ofNat n).toNat = n := UInt8.toNat_ofNat_of_lt' (by simp [UInt8.size]; omega)
      cases h
      simpa [hn] using CountsAs.number (b := UInt8.ofNat n)
    | bool t =>
      cases h
      exact .truth rfl
    | _ => cases h
  · intro h
    cases h with
    | number =>
      have hb := b.toNat_lt
      rw [byteOf, if_pos (by omega), Int.toNat_natCast, UInt8.ofNat_toNat]
    | truth h => rw [byteOf, h]

/-- An element that is no truth value counts as the byte whose number it is. -/
lemma countsAs_iff_of_ne_bool (h : ∀ t, element ≠ .bool t) :
    CountsAs b element ↔ element = .int b.toNat := by
  constructor
  · intro hb
    cases hb with
    | number => rfl
    | truth => exact absurd rfl (h _)
  · rintro rfl
    exact .number

/-! ## Arrays -/

lemma mapM_byteOf_eq_ok_iff :
    elements.mapM byteOf = .ok bytes ↔ List.Forall₂ (fun e b => CountsAs b e) elements bytes := by
  simp only [Except.mapM_eq_ok_iff, byteOf_eq_ok_iff]

lemma ofJson_eq_some_iff :
    ofJson found = .ok (some bytes) ↔
      ∃ elements, found = .arr elements ∧
        List.Forall₂ (fun e b => CountsAs b e) elements bytes := by
  cases found with
  | arr elements =>
    simp only [ofJson, Except.map_eq_ok_iff, Option.some.injEq, exists_eq_right, Json.arr.injEq,
      mapM_byteOf_eq_ok_iff, exists_eq_left']
  | _ => exact iff_of_false nofun (by simp)

lemma ofJson_eq_none_iff : ofJson found = .ok none ↔ found = .null := by
  cases found with
  | arr elements => simp [ofJson, Except.map_eq_ok_iff]
  | null => simp [ofJson]
  | _ => exact iff_of_false nofun nofun

/-- The numbers of bytes count as these bytes. -/
lemma forall₂_countsAs_map (bytes : Bytes) :
    List.Forall₂ (fun e b => CountsAs b e) (bytes.map fun b => .int b.toNat) bytes := by
  rw [List.forall₂_map_left_iff, List.forall₂_same]
  exact fun _ _ => .number

lemma not_mixesTruth_byteArray : ¬ MixesTruth (Query.byteArray bytes) := by
  rintro ⟨elements, harray, ⟨t, ht⟩, -⟩
  cases harray
  simp at ht

/-- Without truth values among its integers, what counts as bytes is the array of their numbers. -/
lemma ofJson_eq_some_iff_of_not_mixesTruth (h : ¬ MixesTruth found) :
    ofJson found = .ok (some bytes) ↔ found = Query.byteArray bytes := by
  rw [ofJson_eq_some_iff]
  constructor
  · rintro ⟨elements, rfl, hbytes⟩
    have hnone : ∀ element ∈ elements, ∀ t, element ≠ .bool t := by
      rintro element helement t rfl
      refine h ⟨elements, rfl, ⟨t, helement⟩, fun other hother => ?_⟩
      obtain ⟨b, -, hb⟩ := hbytes.exists_of_mem_left hother
      exact ⟨b, hb⟩
    -- element by element the array is that of the numbers
    have hequal : elements = bytes.map fun b => Json.int b.toNat := by
      clear h
      induction hbytes with
      | nil => rfl
      | cons hb _ ih =>
        obtain ⟨hfirst, hrest⟩ := List.forall_mem_cons.mp hnone
        rw [(countsAs_iff_of_ne_bool hfirst).mp hb, ih hrest]
        rfl
    rw [hequal]
    rfl
  · rintro rfl
    exact ⟨_, rfl, forall₂_countsAs_map bytes⟩

/-- Truth values among the integers are taken for bytes. -/
lemma exists_ofJson_of_mixesTruth (h : MixesTruth found) :
    ∃ bytes, ofJson found = .ok (some bytes) := by
  obtain ⟨elements, rfl, -, hbytes⟩ := h
  obtain ⟨bytes, hbytes⟩ := List.Forall₂.exists_of_forall hbytes
  exact ⟨bytes, ofJson_eq_some_iff.mpr ⟨elements, rfl, hbytes⟩⟩

end ModuleInterface

/-! ## Answers -/

namespace Session

open ModuleInterface (MixesTruth)

variable {s : Session} {q : Query} {result : Json}

/-- The node answers the next query with the result. -/
def Receives (s : Session) (result : Json) : Prop :=
  ∃ target?, relativeTarget? s.url = .ok target? ∧
    resultOf target? (s.replies.headD .nothing) = .ok result

lemma Receives.ask (h : s.Receives result) (q : Query) :
    (s.ask q).1 = (q.interpret result).mapError .finding := by
  obtain ⟨target?, hurl, hresult⟩ := h
  rw [Session.ask, hurl]
  simp only [hresult]

lemma Receives.of_carries {status : Int} {body : Reply.Body} {replies : List Reply}
    (hurl : relativeTarget? s.url = .ok none)
    (hreplies : s.replies = .response status body :: replies)
    (hstatus : status < 400) (h : Reply.Carries body.content result) : s.Receives result := by
  refine ⟨none, hurl, ?_⟩
  rw [hreplies, List.headD_cons]
  exact Except.mapError_eq_ok_iff.mpr (Reply.result_eq_ok_iff.mpr ⟨hstatus, h⟩)

/-- **Interfaces are read exactly, but for truth values.**  There is no module exactly when the
result is null.  Unless the result is an array of bytes in which truth values stand among the
integers, an interface is found exactly when the result is the array of its bytes, and everything
else is refused by a fault of the node.  With truth values among the integers there is always an
interface, though the result is no array of bytes. -/
theorem ask_interface_exact (h : s.Receives result) (address? name? : Option Text) :
    ((s.ask (.moduleInterface address? name?)).1 = .ok (.interface none) ↔ result = .null) ∧
    (¬ MixesTruth result →
      (∀ bytes, (s.ask (.moduleInterface address? name?)).1 = .ok (.interface (some bytes)) ↔
        result = Query.byteArray bytes) ∧
      (result ≠ .null → (∀ bytes, result ≠ Query.byteArray bytes) →
        ∃ fault, (s.ask (.moduleInterface address? name?)).1 = .error (.finding fault) ∧
          fault.IsOfNode)) ∧
    (MixesTruth result → ∃ bytes,
      (s.ask (.moduleInterface address? name?)).1 = .ok (.interface (some bytes)) ∧
        result ≠ Query.byteArray bytes) := by
  have hask : (s.ask (.moduleInterface address? name?)).1 =
      ((ModuleInterface.ofJson result).map .interface).mapError .finding := h.ask _
  have hok : ∀ bytes?, (s.ask (.moduleInterface address? name?)).1 = .ok (.interface bytes?) ↔
      ModuleInterface.ofJson result = .ok bytes? := by
    intro bytes?
    rw [hask, Except.mapError_eq_ok_iff, Except.map_eq_ok_iff]
    simp
  refine ⟨(hok none).trans ModuleInterface.ofJson_eq_none_iff, fun hmixes => ⟨fun bytes => ?_, ?_⟩,
    fun hmixes => ?_⟩
  · exact (hok _).trans (ModuleInterface.ofJson_eq_some_iff_of_not_mixesTruth hmixes)
  · intro hnull hbytes
    -- what is neither null nor bytes has no other outcome than a fault
    have hnone : ∀ bytes?, ModuleInterface.ofJson result ≠ .ok bytes? := by
      rintro (_ | bytes) hresult
      · exact hnull (ModuleInterface.ofJson_eq_none_iff.mp hresult)
      · exact hbytes bytes
          ((ModuleInterface.ofJson_eq_some_iff_of_not_mixesTruth hmixes).mp hresult)
    obtain ⟨fault, hfault, hnode⟩ := FindingFault.exists_isOfNode hnone
    refine ⟨fault, ?_, hnode⟩
    rw [hask, hfault]
    rfl
  · obtain ⟨bytes, hbytes⟩ := ModuleInterface.exists_ofJson_of_mixesTruth hmixes
    refine ⟨bytes, (hok _).mpr hbytes, ?_⟩
    rintro rfl
    exact ModuleInterface.not_mixesTruth_byteArray hmixes

/-! ## Two answers -/

/-- A session in which the node answers with the text in UTF-8. -/
def answeredWith (body : Text) : Session := ⟨Workspace.usualNodeUrl, [.response 200 body], [], []⟩

/-- An object with nothing but a result is an answer. -/
lemma receives_answeredWith {t : Text} (hform : Json.formOf (Utf8.bytes t) = (.utf8, 0))
    (hdecode : Utf8.decodeFrom 0 (Utf8.bytes t) = .ok t)
    (hread : Json.ofUnmarkedText t = .ok (.obj [("result", result)])) :
    (answeredWith t).Receives result := by
  have hurl : relativeTarget? Workspace.usualNodeUrl = .ok none := by cbv
  have htext : Json.decode (Utf8.bytes t) = .ok t := by
    simp only [Json.decode, hform, List.drop_zero]
    rw [Json.decodeUtf8From, hdecode]
  refine .of_carries hurl rfl (by decide) (.of_document htext hread ?_ rfl)
  intro error herror
  cases herror

/-- The name and the integers of an object with one member, which has three of them. -/
def threeIntegers? : Except Json.Fault Json → Option (Text × Int × Int × Int)
  | .ok (.obj [(name, .arr [.int a, .int b, .int c])]) => some (name, a, b, c)
  | _ => none

lemma eq_of_threeIntegers? {read : Except Json.Fault Json} {name : Text} {a b c : Int}
    (h : threeIntegers? read = some (name, a, b, c)) :
    read = .ok (.obj [(name, .arr [.int a, .int b, .int c])]) := by
  unfold threeIntegers? at h
  split at h
  · cases h
    rfl
  · cases h

/-- An interface with several bytes, one without any, and a result that holds a digit but no
number. -/
theorem ask_interface_exact_empty :
    ((answeredWith "\x7b\x22result\x22:[161,0,255]\x7d").ask
      (.moduleInterface (some "0x1") (some "m"))).1 = .ok (.interface (some [161, 0, 255])) ∧
    ((answeredWith "\x7b\x22result\x22:[]\x7d").ask
      (.moduleInterface (some "0x1") (some "m"))).1 = .ok (.interface (some [])) ∧
    ∃ fault, ((answeredWith "\x7b\x22result\x22:[\x227\x22]\x7d").ask
      (.moduleInterface (some "0x1") (some "m"))).1 = .error (.finding fault) ∧
        fault.IsOfNode := by
  have hbytes : (answeredWith "\x7b\x22result\x22:[161,0,255]\x7d").Receives
      (Query.byteArray [161, 0, 255]) :=
    receives_answeredWith (by decide +kernel) (by decide +kernel)
      (eq_of_threeIntegers? (by decide +kernel))
  have hempty : (answeredWith "\x7b\x22result\x22:[]\x7d").Receives (.arr []) :=
    receives_answeredWith (by decide +kernel) (by decide +kernel) (by cbv)
  have hdigit : (answeredWith "\x7b\x22result\x22:[\x227\x22]\x7d").Receives
      (.arr [.str "7"]) :=
    receives_answeredWith (by decide +kernel) (by decide +kernel) (by cbv)
  have hplain : ∀ elements, (∀ element ∈ elements, element = .str "7") →
      ¬ MixesTruth (.arr elements) := by
    rintro elements hstrings ⟨_, harray, ⟨t, ht⟩, -⟩
    cases harray
    cases hstrings _ ht
  obtain ⟨-, hseveral, -⟩ := ask_interface_exact hbytes (some "0x1") (some "m")
  obtain ⟨-, hfound, -⟩ := ask_interface_exact hempty (some "0x1") (some "m")
  obtain ⟨-, hrefused, -⟩ := ask_interface_exact hdigit (some "0x1") (some "m")
  refine ⟨((hseveral ModuleInterface.not_mixesTruth_byteArray).1 _).mpr rfl,
    ((hfound (hplain [] (by simp))).1 []).mpr rfl,
    (hrefused (hplain [.str "7"] (by simp))).2 (by simp) ?_⟩
  -- the number of a byte is no string
  rintro (_ | ⟨b, bytes⟩) hequal <;> cases hequal

/-- A truth value is taken for a byte, though it is no number. -/
theorem ask_interface_truth :
    (answeredWith "\x7b\x22result\x22:[true]\x7d").Receives (.arr [.bool true]) ∧
    ((answeredWith "\x7b\x22result\x22:[true]\x7d").ask
      (.moduleInterface (some "0x1") (some "m"))).1 = .ok (.interface (some [1])) ∧
    ∀ bytes, Json.arr [.bool true] ≠ Query.byteArray bytes := by
  have htruth : (answeredWith "\x7b\x22result\x22:[true]\x7d").Receives (.arr [.bool true]) :=
    receives_answeredWith (by decide +kernel) (by decide +kernel) (by cbv)
  refine ⟨htruth, htruth.ask _, ?_⟩
  rintro bytes hequal
  have hmixes : ¬ MixesTruth (.arr [.bool true]) := by
    rw [hequal]
    exact ModuleInterface.not_mixesTruth_byteArray
  refine hmixes ⟨_, rfl, ⟨true, List.mem_singleton_self _⟩, fun element helement => ?_⟩
  obtain rfl := List.mem_singleton.mp helement
  exact ⟨1, .truth rfl⟩

end Session

end MovePack
