/-
# Replies of a node

A request is answered by an HTTP response, or the connection fails.  The result is that of a
JSON-RPC response without error; whatever else comes back is a fault, which keeps the HTTP status
if there is one.
-/
import MovePack.Json.Display
import MovePack.Json.Encoded

namespace MovePack

/-- The body of a response. -/
structure Reply.Body where
  /-- Its bytes. -/
  content : Bytes
  /-- The text as which it is shown. -/
  text : Text
deriving Repr

/-- A text makes a body in UTF-8. -/
instance : Coe Text Reply.Body := ⟨fun t => ⟨Utf8.bytes t, t⟩⟩

/-- What comes back for a request. -/
inductive Reply where
  /-- A response with its HTTP status. -/
  | response (status : Int) (body : Reply.Body)
  /-- The connection fails in the named way. -/
  | failure (kind text : Text)
  /-- The request cannot even be begun, for the named reason. -/
  | impossible (kind text : Text)
deriving Repr

/-- What a request meets when nothing comes back. -/
def Reply.nothing : Reply := .failure "ConnectError" "no response left"

/-- Why a reply has no result. -/
inductive ReplyFault where
  /-- The connection has failed. -/
  | connection (kind text : Text)
  /-- The request could not be begun. -/
  | notBegun (kind text : Text)
  /-- The HTTP status is that of an error. -/
  | httpError (status : Int) (body : Text)
  /-- The response is no JSON text. -/
  | invalidJson (status : Int) (fault : Json.EncodedFault)
  /-- The response lies too deep to be read. -/
  | tooDeep (container : Json.Container)
  /-- The response is no object. -/
  | unexpected (status : Int) (found : Json)
  /-- The response reports an error. -/
  | reported (status : Int) (error : Json)
  /-- The response has no result. -/
  | noResult (status : Int)
deriving Repr

namespace ReplyFault

/-- The member of a reported error, or null. -/
def detail (name : String) (members : List (Text × Json)) : Json :=
  (Json.member? name members).getD .null

/-- What is said about a fault. -/
def description : ReplyFault → Text
  | .connection kind text => kind ++ ": " ++ text
  | .notBegun _ text => text
  | .httpError status body => Text.ofInt status ++ " " ++ body
  | .invalidJson _ fault => "Invalid JSON in response: " ++ fault.message
  | .tooDeep container => (Json.Fault.tooDeep container).message
  | .unexpected _ found => "Unexpected response: " ++ found.display
  | .reported _ (.obj members) =>
    (detail "message" members).plain ++ " (code: " ++ (detail "code" members).plain ++ ")"
  | .reported _ error => error.plain
  | .noResult _ => "Response has no result"

/-- The HTTP status of the response. -/
def status? : ReplyFault → Option Int
  | .httpError status _ => some status
  | .invalidJson status _ => some status
  | .unexpected status _ => some status
  | .reported status _ => some status
  | .noResult status => some status
  | .connection .. => none
  | .notBegun .. => none
  | .tooDeep _ => none

/-- The code of a reported error, if it is an integer or a truth value. -/
def code? : ReplyFault → Option Json
  | .reported _ (.obj members) =>
    match detail "code" members with
    | .int i => some (.int i)
    | .bool b => some (.bool b)
    | _ => none
  | _ => none

end ReplyFault

namespace Reply

/-- The lowest HTTP status of an error. -/
def firstErrorStatus : Int := 400

/-- The result in a JSON-RPC response. -/
def resultIn (status : Int) : Json → Except ReplyFault Json
  | .obj members =>
    match ReplyFault.detail "error" members with
    | .null =>
      match Json.member? "result" members with
      | some result => .ok result
      | none => .error (.noResult status)
    | error => .error (.reported status error)
  | found => .error (.unexpected status found)

/-- The result that a reply carries. -/
def result : Reply → Except ReplyFault Json
  | .failure kind text => .error (.connection kind text)
  | .impossible kind text => .error (.notBegun kind text)
  | .response status body =>
    if firstErrorStatus ≤ status then .error (.httpError status body.text)
    else
      match Json.ofBytes body.content with
      | .ok found => resultIn status found
      | .error (.malformed (.tooDeep container)) => .error (.tooDeep container)
      | .error fault => .error (.invalidJson status fault)

end Reply

end MovePack
