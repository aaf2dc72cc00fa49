/-
# Sessions with a node

In a session queries are sent to one node, one after the other, with ascending numbers.  Each
query meets the next reply.  An address that makes no sense stops a query before it is sent; one
without scheme or host is only found out when a response to the query has come back.
-/
import MovePack.LogEntry
import MovePack.Node.Query
import MovePack.Node.Reply
import MovePack.Url.Basic

namespace MovePack

/-- Why a query is not answered. -/
inductive NodeFault where
  /-- The reply has no result. -/
  | reply (fault : ReplyFault)
  /-- The result is not what was asked for. -/
  | finding (fault : FindingFault)
  /-- The address of the node is no URL. -/
  | url (fault : UrlFault)
  /-- The host in the address of the node stands for no domain name. -/
  | host (fault : Domain.NameFault)
  /-- The host in the address of the node cannot be named in a request. -/
  | unnamedHost (fault : EncodeFault)
  /-- The address of the node, of which only path and query are left, has no scheme or no host. -/
  | relativeUrl (target : Text)
deriving Repr

namespace NodeFault

/-- The words before what has gone wrong. -/
def introduction : Text := "RPC result failure: "

/-- The message of an unanswered query. -/
def message : NodeFault → Text
  | .reply (.tooDeep container) => (ReplyFault.tooDeep container).description
  | .reply (.notBegun kind text) => (ReplyFault.notBegun kind text).description
  | .reply fault => introduction ++ fault.description
  | .finding fault => introduction ++ fault.message
  | .url fault => fault.message
  | .host fault => fault.message
  | .unnamedHost fault => fault.message
  | .relativeUrl target => "unknown url type: " ++ target.quoted

/-- The HTTP status, if a response without result has come back. -/
def status? : NodeFault → Option Int
  | .reply fault => fault.status?
  | _ => none

/-- The code of the error that the node has reported. -/
def code? : NodeFault → Option Json
  | .reply fault => fault.code?
  | _ => none

end NodeFault

/-- A session with a node. -/
structure Session where
  /-- The address of the node. -/
  url : Text
  /-- What will come back. -/
  replies : List Reply
  /-- The bodies of the requests that have been sent, the last one first. -/
  sent : List Text := []
  /-- The log, the last entry first. -/
  log : List LogEntry := []
deriving Repr

namespace Session

/-- The name of the header that tells the node who asks. -/
def clientHeaderName : Text := "x-smove-client"

/-- The header of a client with the given version, if the version is known. -/
def clientHeader (version? : Option Text) : Text :=
  "smove-python/" ++ version?.getD "0.0.0"

/-- The version of this client. -/
def version : Text := "0.1.0"

/-- What is recorded before a query is sent. -/
def callEntry (url : Text) (q : Query) : LogEntry :=
  ⟨.info, "Calling " ++ Text.ofString q.method ++ " on " ++ url⟩

/-- What is recorded when a result has come back. -/
def resultEntry (q : Query) (result : Json) : LogEntry :=
  ⟨.debug, Text.ofString q.method ++ " returned " ++ result.display⟩

/-- What is left of an address without scheme or host, and nothing for one that leads to a host. -/
def relativeTarget? (url : Text) : Except NodeFault (Option Text) := do
  let parsed ← (Url.ofText url).mapError .url
  if !parsed.isAbsolute then return some (← parsed.target.mapError .url)
  if parsed.host.startsWith Domain.codeMark then
    let _ ← (Domain.decodeName parsed.host).mapError .host
  let _ ← (Charset.ascii.encode parsed.namedHost).mapError .unnamedHost
  return none

/-- The session after it has been recorded that a query is about to be sent. -/
def announce (s : Session) (q : Query) : Session :=
  { s with log := callEntry s.url q :: s.log }

/-- The session after a query has been sent. -/
def send (s : Session) (q : Query) : Session :=
  { s with
    replies := s.replies.tail
    sent := q.body (s.sent.length + 1) :: s.sent }

/-- The result in a reply from an address of which the given target is left, if it leads to no
host. -/
def resultOf (target? : Option Text) : Reply → Except NodeFault Json
  | .response status body =>
    match target? with
    | some target => .error (.relativeUrl target)
    | none => (Reply.response status body).result.mapError .reply
  | reply => reply.result.mapError .reply

/-- Asks the node. -/
def ask (s : Session) (q : Query) : Except NodeFault Finding × Session :=
  let announced := s.announce q
  match relativeTarget? s.url with
  | .error fault => (.error fault, announced)
  | .ok target? =>
    let after := announced.send q
    match resultOf target? (s.replies.headD .nothing) with
    | .error fault => (.error fault, after)
    | .ok result =>
      let after := { after with log := resultEntry q result :: after.log }
      ((q.interpret result).mapError .finding, after)

end Session

end MovePack
