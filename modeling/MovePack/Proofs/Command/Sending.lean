/-
# What is sent to a node

A command that asks a node sends the body of one query at most, and that query names the account of
the request.  All other commands send nothing: what has been sent stays as it is in every step of
their work.
-/
import MovePack.Command.Report
import MovePack.Proofs.Command.Workspace

namespace MovePack

/-! ## Accounts of commands -/

/-- The account that a request names. -/
def NodeRequest.account? : NodeRequest → Option Text
  | .publishModule account? _ => account?
  | .publishBundle account? _ => account?
  | .executeScript _ payer? => payer?.bind Prod.fst
  | .gasToWeight _ => none
  | .moduleInterface .. => none

/-- The account that a command names. -/
def Command.account? : Command → Option Text
  | .ask _ request => request.account?
  | _ => none

/-- The account that a query names. -/
def Query.account? : Query → Option Text
  | .publishModule account? _ => account?
  | .publishBundle account? _ => account?
  | .executeScript _ payer? => payer?.bind Prod.fst
  | .gasToWeight _ => none
  | .moduleInterface .. => none

/-- The account of a query is its first parameter. -/
lemma Query.head?_parameters {q : Query} {account : Text} (h : q.account? = some account) :
    q.parameters.head? = some (.str account) := by
  rcases q with _ | _ | ⟨transaction, _ | ⟨account?, limit?⟩⟩ | _ | _ <;> cases h <;> rfl

/-! ## Work that sends nothing -/

namespace Work

variable {α β : Type}

/-- The work sends nothing, whatever it comes to. -/
def SendsNothing (x : Work α) : Prop := ∀ w, (x.runOn w).2.sent = w.sent

namespace SendsNothing

lemma pure (a : α) : SendsNothing (pure a : Work α) := fun _ => rfl

lemma throw (failure : Failure) : SendsNothing (throw failure : Work α) := fun _ => rfl

lemma get : SendsNothing (get : Work Workspace) := fun _ => rfl

lemma modify {f : Workspace → Workspace} (h : ∀ w, (f w).sent = w.sent) :
    SendsNothing (modify f : Work PUnit) := h

lemma orFail {ε : Type} (reason : ε → Failure) (x : Except ε α) :
    SendsNothing (orFail reason x) := by
  intro w
  rw [runOn_orFail]

lemma bind {x : Work α} {next : α → Work β} (hx : SendsNothing x)
    (hnext : ∀ a, SendsNothing (next a)) : SendsNothing (x >>= next) := by
  intro w
  have hmid := hx w
  rw [runOn_bind]
  rcases hrun : x.runOn w with ⟨failure | a, mid⟩
  · rwa [hrun] at hmid
  · rw [hrun] at hmid
    exact (hnext a mid).trans hmid

lemma mapM {step : α → Work β} (h : ∀ a, SendsNothing (step a)) (l : List α) :
    SendsNothing (l.mapM step) := by
  induction l with
  | nil => exact .pure []
  | cons a l ih =>
    rw [List.mapM_cons]
    exact (h a).bind fun _ => ih.bind fun _ => .pure _

lemma record (entries : List LogEntry) : SendsNothing (record entries) := fun _ => rfl

lemma display (line : Text) : SendsNothing (display line) :=
  .bind (.orFail _ _) fun _ => .modify fun _ => rfl

lemma read (path : Text) : SendsNothing (read path) := .bind .get fun _ => .orFail _ _

lemma write (path : Text) (content : Bytes) : SendsNothing (write path content) :=
  .bind .get fun _ => .bind (.modify fun _ => rfl) fun _ => .bind (.orFail _ _) fun _ => .record _

lemma outputPath (find : FileSystem → Except OutputFault Text × FileSystem) :
    SendsNothing (outputPath find) :=
  .bind .get fun _ => .bind (.modify fun _ => rfl) fun _ => .orFail _ _

lemma writeOutput (find : FileSystem → Except OutputFault Text × FileSystem)
    (encoded : Except Codec.WriteFault Bytes) (caption : Text) :
    SendsNothing (writeOutput find encoded caption) :=
  .bind (.outputPath find) fun _ => .bind (.orFail _ _) fun _ => .bind (.write _ _) fun _ =>
    .bind (.bind .get fun _ => .pure _) fun _ => .display _

lemma selectModules (p : Package) (excluded : List Text) :
    SendsNothing (selectModules p excluded) :=
  .bind .get fun _ => .bind (.record _) fun _ => .bind (.record _) fun _ => .pure _

lemma readModule (path : Text) : SendsNothing (readModule path) :=
  .bind (.read path) fun _ => .orFail _ _

lemma orderModules (modules : List ModuleDescriptor) : SendsNothing (orderModules modules) :=
  .bind (.record _) fun _ => .orFail _ _

lemma gatherModules (p : Package) (directory : Text) (excluded : List Text) :
    SendsNothing (gatherModules p directory excluded) := by
  refine .bind (.selectModules p excluded) fun paths => ?_
  have hordered : SendsNothing (paths.mapM Work.readModule >>= Work.orderModules) :=
    .bind (.mapM .readModule paths) .orderModules
  dsimp only
  split
  · exact .bind .get fun _ => .bind (.throw _) fun _ => hordered
  · exact hordered

lemma bundleName (p : Package) (name? : Option Text) : SendsNothing (bundleName p name?) := by
  rcases name? with _ | _ | ⟨c, name⟩
  · exact .orFail _ _
  · exact .orFail _ _
  · exact .pure _

lemma writeBundle (p : Package) (name? : Option Text) (modules : List ModuleDescriptor) :
    SendsNothing (writeBundle p name? modules) :=
  .bind (.bundleName p name?) fun _ => .writeOutput _ _ _

lemma build (directory : Text) : SendsNothing (build directory) :=
  .bind .get fun _ => .bind (.modify fun _ => rfl) fun _ => .bind (.record _) fun _ =>
    .bind (.orFail _ _) fun _ => .pure _

lemma givenPath (path? : Option Text) : SendsNothing (givenPath path?) := .orFail _ _

lemma openPackage (directory : Text) : SendsNothing (openPackage directory) :=
  .bind .get fun _ => .orFail _ _

lemma makeBundle (directory? name? : Option Text) (excluded : List Text) (builds : Bool) :
    SendsNothing (makeBundle directory? name? excluded builds) := by
  refine .bind (.givenPath _) fun directory => .bind (.openPackage _) fun p => ?_
  have hrest : SendsNothing (Work.gatherModules p directory excluded >>= Work.writeBundle p name?) :=
    .bind (.gatherModules _ _ _) fun _ => .writeBundle _ _ _
  cases builds with
  | false => exact .bind (.record _) fun _ => hrest
  | true => exact .bind (.build _) fun _ => hrest

lemma createTransaction (script : Text) (types args : List Text) :
    SendsNothing (createTransaction script types args) :=
  .bind (.read script) fun _ => .bind (.orFail _ _) fun _ => .orFail _ _

lemma makeTransaction (script? directory? : Option Text) (types args : List Text) :
    SendsNothing (makeTransaction script? directory? types args) :=
  .bind (.givenPath _) fun _ => .bind (.openPackage _) fun _ => .bind (.givenPath _) fun _ =>
    .bind (.createTransaction _ _ _) fun _ => .bind (.record _) fun _ => .writeOutput _ _ _

lemma readGiven (path? : Option Text) : SendsNothing (readGiven path?) :=
  .bind (.givenPath _) .read

lemma showCallHash (path? : Option Text) : SendsNothing (showCallHash path?) :=
  .bind (.readGiven _) fun _ => .display _

end SendsNothing

/-! ## Work that sends one query -/

/-- The work sends one query at most, of which the given is true. -/
def SendsOne (IsSent : Query → Prop) (x : Work α) : Prop :=
  ∀ w, (x.runOn w).2.sent = w.sent ∨
    ∃ q, IsSent q ∧ (x.runOn w).2.sent = q.body (w.sent.length + 1) :: w.sent

variable {IsSent : Query → Prop} {x : Work α} {next : α → Work β}

lemma SendsNothing.sendsOne (h : SendsNothing x) : SendsOne IsSent x := fun w => .inl (h w)

lemma SendsNothing.bind_sendsOne (hx : SendsNothing x)
    (hnext : ∀ w a mid, x.runOn w = (.ok a, mid) → SendsOne IsSent (next a)) :
    SendsOne IsSent (x >>= next) := by
  intro w
  have hmid := hx w
  rw [runOn_bind]
  rcases hrun : x.runOn w with ⟨failure | a, mid⟩
  · rw [hrun] at hmid
    exact .inl hmid
  · rw [hrun] at hmid
    rw [← hmid]
    exact hnext w a mid hrun mid

lemma SendsOne.bind_sendsNothing (hx : SendsOne IsSent x) (hnext : ∀ a, SendsNothing (next a)) :
    SendsOne IsSent (x >>= next) := by
  intro w
  have hmid := hx w
  rw [runOn_bind]
  rcases hrun : x.runOn w with ⟨failure | a, mid⟩
  · rwa [hrun] at hmid
  · rw [hrun] at hmid
    dsimp only
    rwa [hnext a mid]

end Work

namespace Session

lemma sent_ask_of_relativeTarget? {s : Session} {target? : Option Text}
    (h : relativeTarget? s.url = .ok target?) (q : Query) :
    (s.ask q).2.sent = q.body (s.sent.length + 1) :: s.sent := by
  rw [ask, h]
  dsimp only
  split <;> rfl

/-- A query is sent, or its address makes no sense. -/
lemma sent_ask (s : Session) (q : Query) :
    (s.ask q).2.sent = s.sent ∨ (s.ask q).2.sent = q.body (s.sent.length + 1) :: s.sent := by
  cases htarget : relativeTarget? s.url with
  | error fault =>
    rw [ask, htarget]
    exact .inl rfl
  | ok target? => exact .inr (sent_ask_of_relativeTarget? htarget q)

end Session

namespace Work

variable {IsSent : Query → Prop}

lemma sent_runOn_ask (url : Text) (q : Query) (w : Workspace) :
    ((ask url q).runOn w).2.sent = (Session.ask ⟨url, w.replies, w.sent, w.log⟩ q).2.sent := by
  simp only [ask, runOn_bind, runOn_get, runOn_modify, runOn_orFail]

lemma sendsOne_ask {q : Query} (hq : IsSent q) (url : Text) : SendsOne IsSent (ask url q) := by
  intro w
  rw [sent_runOn_ask]
  obtain hsent | hsent := Session.sent_ask ⟨url, w.replies, w.sent, w.log⟩ q
  · exact .inl hsent
  · exact .inr ⟨q, hq, hsent⟩

lemma sendsNothing_queryOf (request : NodeRequest) : SendsNothing (queryOf request) := by
  cases request with
  | publishModule account? path? => exact .bind (.readGiven path?) fun _ => .pure _
  | publishBundle account? path? => exact .bind (.readGiven path?) fun _ => .pure _
  | executeScript path? payer? => exact .bind (.readGiven path?) fun _ => .pure _
  | gasToWeight gas? => exact .pure _
  | moduleInterface address? name? => exact .pure _

lemma account?_of_queryOf {request : NodeRequest} {q : Query} {w mid : Workspace}
    (h : (queryOf request).runOn w = (.ok q, mid)) : q.account? = request.account? := by
  cases request with
  | publishModule account? path? | publishBundle account? path? =>
    obtain ⟨bytes, mid, -, h⟩ := runOn_bind_eq_ok_iff.mp h
    cases h
    rfl
  | executeScript path? payer? =>
    obtain ⟨bytes, mid, -, h⟩ := runOn_bind_eq_ok_iff.mp h
    cases h
    cases payer? <;> rfl
  | gasToWeight gas? | moduleInterface address? name? =>
    cases h
    rfl

/-- A node is sent one query at most, with the account of the request. -/
lemma sendsOne_askNode (destination : Destination) (request : NodeRequest) :
    SendsOne (fun q => q.account? = request.account?) (askNode destination request) := by
  refine SendsNothing.get.bind_sendsOne fun _ _ _ _ => ?_
  refine (SendsNothing.orFail _ _).bind_sendsOne fun _ _ _ _ => ?_
  refine (sendsNothing_queryOf request).bind_sendsOne fun _ q _ hq => ?_
  have hurl : SendsNothing (urlOf destination) := by
    cases destination with
    | usual => exact .bind .get fun _ => .pure _
    | given url? => exact .orFail _ _
  refine hurl.bind_sendsOne fun _ url _ _ => ?_
  exact (sendsOne_ask (account?_of_queryOf hq) url).bind_sendsNothing fun _ => .display _

/-- The query is sent when nothing stands in its way. -/
lemma sent_askNode {w : Workspace} {destination : Destination} {request : NodeRequest}
    {seconds : Binary64} {q : Query} {url : Text} {target? : Option Text}
    (hseconds : Timeout.ofSetting w.timeoutSetting? = .ok seconds)
    (hq : (queryOf request).runOn w = (.ok q, w)) (hurl : (urlOf destination).runOn w = (.ok url, w))
    (htarget : Session.relativeTarget? url = .ok target?) :
    ((askNode destination request).runOn w).2.sent = q.body (w.sent.length + 1) :: w.sent := by
  simp only [askNode, runOn_bind, runOn_get, runOn_orFail, hseconds, Except.mapError, hq, hurl]
  have hsent := (sent_runOn_ask url q w).trans (Session.sent_ask_of_relativeTarget? htarget q)
  rcases hrun : (ask url q).runOn w with ⟨failure | finding, mid⟩
  · rwa [hrun] at hsent
  · rw [hrun] at hsent
    exact (SendsNothing.display _ mid).trans hsent

end Work

/-! ## Runs -/

lemma Invocation.sent_run (invocation : Invocation) (w : Workspace) :
    (invocation.run w).2.sent = (invocation.command.perform.runOn w).2.sent := by
  rw [run, Work.runOn]
  rcases invocation.command.perform.run.run w with ⟨failure | _, mid⟩
  · dsimp only
    split <;> rfl
  · rfl

/-- A command sends one query at most, with the account that it names. -/
lemma Command.sendsOne_perform (command : Command) :
    Work.SendsOne (fun q => q.account? = command.account?) command.perform := by
  cases command with
  | bundle directory? name? excluded builds =>
    exact (Work.SendsNothing.makeBundle directory? name? excluded builds).sendsOne
  | createTransaction script? directory? types args =>
    exact (Work.SendsNothing.makeTransaction script? directory? types args).sendsOne
  | callHash path? => exact (Work.SendsNothing.showCallHash path?).sendsOne
  | ask destination request => exact Work.sendsOne_askNode destination request

/-- **A command line sends one query at most, and this has the account of its command.** -/
theorem Workspace.sent_run (w : Workspace) (words : List Text) :
    (w.run words).2.sent = w.sent ∨
      ∃ (invocation : Invocation) (q : Query), Invocation.ofWords words = .ok invocation ∧
        q.account? = invocation.command.account? ∧
        (w.run words).2.sent = q.body (w.sent.length + 1) :: w.sent := by
  rw [run]
  cases hwords : Invocation.ofWords words with
  | error stop => exact .inl rfl
  | ok invocation =>
    dsimp only
    rw [invocation.sent_run]
    obtain hsent | ⟨q, hq, hsent⟩ := invocation.command.sendsOne_perform w
    · exact .inl hsent
    · exact .inr ⟨invocation, q, rfl, hq, hsent⟩

end MovePack
