import UpdatePipeline.Json.Reader
import UpdatePipeline.Schema.Push
import UpdatePipeline.Schema.Request
import UpdatePipeline.Store.Record
set_option autoImplicit false

/-!
# Replay: transcripts

A transcript records a stretch of a client's life: the positions stored before it, the
server's replies in the order of the attempts, and the pushes that arrived.
-/

namespace UpdatePipeline.Replay

open Schema

/-- A recorded reply. -/
inductive RecordedReply where
  | ok (response : Response)
  | error (code : Int32) (message : String)
  deriving DecidableEq, Repr, Inhabited

namespace RecordedReply

/-- The reply that a value spells. -/
def ofJson? (j : Json) : Option RecordedReply := do
  let v ← j.tagged?
  match v.tag with
  | "ok" => (v.carrying Response.ofJson?).map .ok
  | "error" => v.record ["code", "message"] fun r => do
    return .error (← r.required "code" Json.int32?) (← r.required "message" Json.string?)
  | _ => none

/-- What the attempt comes to. -/
def result : RecordedReply → Except InvocationError Response
  | .ok response => .ok response
  | .error code message => .error (.rpc (RpcError.ofMessage code message))

end RecordedReply

/-- A transcript. -/
structure Transcript where
  states : List StateRecord := []
  replies : List RecordedReply := []
  pushes : List Push := []
  deriving DecidableEq, Repr, Inhabited

namespace Transcript

/-- The declared fields of a transcript. -/
def fieldNames : List String := ["states", "replies", "pushes"]

/-- The transcript that a value spells; each part may be left out. -/
def ofJson? (j : Json) : Option Transcript := do
  let r ← Json.Record.ofJson? fieldNames j
  return {
    states := ← r.withDefault "states" (Json.list? StateRecord.ofJson?) []
    replies := ← r.withDefault "replies" (Json.list? RecordedReply.ofJson?) []
    pushes := ← r.withDefault "pushes" (Json.list? Push.ofJson?) [] }

/-- The transcript that a text spells. -/
def ofText? (text : String) : Option Transcript := do ofJson? (← Json.parse? text)

end Transcript

end UpdatePipeline.Replay
