import UpdatePipeline.Schema.Update
set_option autoImplicit false

/-!
# Schema: what the server pushes on its own
-/

namespace UpdatePipeline.Schema

/-- Updates that arrive together, with the peers they speak of. -/
structure Batch where
  updates : List Update := []
  users : List User := []
  chats : List Chat := []
  date : Int32 := 0
  seq : Int32 := 0
  deriving DecidableEq, Repr, Inhabited

namespace Batch

/-- Whether a user or chat of the batch lacks a usable access hash. -/
def hasMinPeers (b : Batch) : Bool := b.users.any User.isMin || b.chats.any Chat.isMin

/-- The batch as it is written, with every field. -/
def toJson (b : Batch) : Json :=
  .object [("updates", .ofList Update.toJson b.updates), ("users", .ofList User.toJson b.users),
    ("chats", .ofList Chat.toJson b.chats), ("date", .ofInt32 b.date), ("seq", .ofInt32 b.seq)]

/-- The declared fields of a batch. -/
def fieldNames : List String := ["updates", "users", "chats", "date", "seq"]

/-- The batch that a value spells; every field may be left out. -/
def ofJson? (j : Json) : Option Batch := do
  let r ← Json.Record.ofJson? fieldNames j
  return {
    updates := ← r.withDefault "updates" (Json.list? Update.ofJson?) []
    users := ← r.withDefault "users" (Json.list? User.ofJson?) []
    chats := ← r.withDefault "chats" (Json.list? Chat.ofJson?) []
    date := ← r.withDefault "date" Json.int32? 0
    seq := ← r.withDefault "seq" Json.int32? 0 }

end Batch

/-- A private or basic-group message pushed without the peers it speaks of. -/
structure ShortMessage where
  id : Int32
  /-- The other user, or the basic group. -/
  peer : Peer
  senderId : Option Int64
  text : String
  isOutgoing : Bool
  pts : Int32
  ptsCount : Int32
  date : Int32
  deriving DecidableEq, Repr, Inhabited

namespace ShortMessage

/-- The message as it is written, with every field. -/
def toJson (m : ShortMessage) : Json :=
  .object [("id", .ofInt32 m.id), ("peer", m.peer.toJson), ("from_id", .ofOption .ofInt64 m.senderId),
    ("message", .string m.text), ("out", .bool m.isOutgoing), ("pts", .ofInt32 m.pts),
    ("pts_count", .ofInt32 m.ptsCount), ("date", .ofInt32 m.date)]

/-- The declared fields of a short message. -/
def fieldNames : List String :=
  ["id", "peer", "from_id", "message", "out", "pts", "pts_count", "date"]

/-- The message that a value spells. -/
def ofJson? (j : Json) : Option ShortMessage := do
  let r ← Json.Record.ofJson? fieldNames j
  return {
    id := ← r.required "id" Json.int32?
    peer := ← r.required "peer" Peer.ofJson?
    senderId := ← r.optional "from_id" Json.int64?
    text := ← r.required "message" Json.string?
    isOutgoing := ← r.required "out" Json.bool?
    pts := ← r.required "pts" Json.int32?
    ptsCount := ← r.required "pts_count" Json.int32?
    date := ← r.required "date" Json.int32? }

end ShortMessage

/-- One push. -/
inductive Push where
  | updates (batch : Batch)
  | combined (batch : Batch)
  | shortMessage (message : ShortMessage)
  | shortChatMessage (message : ShortMessage)
  | short (update : Update) (date : Int32)
  /-- More happened than the server pushes. -/
  | tooLong
  deriving DecidableEq, Repr, Inhabited

namespace Push

/-- The push as it is written: its kind over its content. -/
def toJson : Push → Json
  | .updates batch => Json.variant "Updates" batch.toJson
  | .combined batch => Json.variant "Combined" batch.toJson
  | .shortMessage m => Json.variant "ShortMessage" m.toJson
  | .shortChatMessage m => Json.variant "ShortChatMessage" m.toJson
  | .short update date =>
    Json.variant "Short" (.object [("update", update.toJson), ("date", .ofInt32 date)])
  | .tooLong => .string "TooLong"

/-- The push that a value spells. -/
def ofJson? (j : Json) : Option Push := do
  let v ← j.tagged?
  match v.tag with
  | "Updates" => (v.carrying Batch.ofJson?).map .updates
  | "Combined" => (v.carrying Batch.ofJson?).map .combined
  | "ShortMessage" => (v.carrying ShortMessage.ofJson?).map .shortMessage
  | "ShortChatMessage" => (v.carrying ShortMessage.ofJson?).map .shortChatMessage
  | "Short" => v.record ["update", "date"] fun r => do
    return .short (← r.required "update" Update.ofJson?) (← r.required "date" Json.int32?)
  | "TooLong" => v.bare .tooLong
  | _ => none

end Push

end UpdatePipeline.Schema
