import UpdatePipeline.Schema.Peer
set_option autoImplicit false

/-!
# Schema: messages
-/

namespace UpdatePipeline.Schema

/-- What a message that is not empty consists of. -/
structure MessageData where
  id : Int32
  /-- The chat the message belongs to. -/
  peer : Peer
  sender : Option Peer := none
  date : Int32
  text : String := ""
  isOutgoing : Bool := false
  editDate : Option Int32 := none
  deriving DecidableEq, Repr, Inhabited

namespace MessageData

/-- The message as it is written, with every field. -/
def toJson (m : MessageData) : Json :=
  .object [("id", .ofInt32 m.id), ("peer_id", m.peer.toJson),
    ("from_id", .ofOption Peer.toJson m.sender), ("date", .ofInt32 m.date),
    ("message", .string m.text), ("out", .bool m.isOutgoing),
    ("edit_date", .ofOption .ofInt32 m.editDate)]

/-- The declared fields of a message. -/
def fieldNames : List String :=
  ["id", "peer_id", "from_id", "date", "message", "out", "edit_date"]

/-- The message that a value spells.  Sender, text, direction and date of the edit may be
left out. -/
def ofJson? (j : Json) : Option MessageData := do
  let r ← Json.Record.ofJson? fieldNames j
  return {
    id := ← r.required "id" Json.int32?
    peer := ← r.required "peer_id" Peer.ofJson?
    sender := ← r.optionalWithDefault "from_id" Peer.ofJson?
    date := ← r.required "date" Json.int32?
    text := ← r.withDefault "message" Json.string? ""
    isOutgoing := ← r.withDefault "out" Json.bool? false
    editDate := ← r.optionalWithDefault "edit_date" Json.int32? }

end MessageData

/-- A message, or the empty stand-in for one that is gone. -/
inductive Message where
  | message (data : MessageData)
  | empty (id : Int32) (peer : Option Peer)
  deriving DecidableEq, Repr, Inhabited

namespace Message

/-- The id, which an empty message has too. -/
def id : Message → Int32
  | .message m => m.id
  | .empty id _ => id

/-- The chat the message belongs to, as far as it is known. -/
def peer? : Message → Option Peer
  | .message m => some m.peer
  | .empty _ peer => peer

/-- Whether the server left the content out. -/
def isEmpty : Message → Bool
  | .message _ => false
  | .empty _ _ => true

/-- The message as it is written: whether it is empty over what it holds. -/
def toJson : Message → Json
  | .message m => Json.variant "Message" m.toJson
  | .empty id peer =>
    Json.variant "Empty" (.object [("id", .ofInt32 id), ("peer_id", .ofOption Peer.toJson peer)])

/-- The message that a value spells. -/
def ofJson? (j : Json) : Option Message := do
  let v ← j.tagged?
  match v.tag with
  | "Message" => (v.carrying MessageData.ofJson?).map .message
  | "Empty" => v.record ["id", "peer_id"] fun r => do
    return .empty (← r.required "id" Json.int32?) (← r.optional "peer_id" Peer.ofJson?)
  | _ => none

end Message

end UpdatePipeline.Schema
