import UpdatePipeline.Json.Record
set_option autoImplicit false

/-!
# Schema: peers, users and chats

Users, basic groups and channels number their ids independently.  One integer names
any of them once it is *marked*: a user's id stands as it is, a basic group's is
negated, and a channel's lies below `-10 ^ 12`.  All of them are numbers of 64 bits, and
marking goes around their end.
-/

namespace UpdatePipeline.Schema

/-! ## Peers -/

/-- Whom a message or an update is about. -/
inductive Peer where
  | user (id : Int64)
  /-- A basic group. -/
  | chat (id : Int64)
  | channel (id : Int64)
  deriving DecidableEq, Repr, Inhabited

/-- How far a channel's marked id lies below the negation of its bare id. -/
def channelOffset : Int := 1000000000000

/-- The marked id of a channel.  Marking it again gives the bare id. -/
def channelMark (channelId : Int64) : Int64 := Int64.ofInt (-channelOffset) - channelId

namespace Peer

/-- The marked id. -/
def mark : Peer → Int64
  | .user id => id
  | .chat id => -id
  | .channel id => channelMark id

/-- The marked id as an integer. -/
def markedId (p : Peer) : Int := p.mark.toInt

/-- The bare id of a channel. -/
def channelId? : Peer → Option Int64
  | .channel id => some id
  | _ => none

/-- The bare id, whatever the kind. -/
def bareId : Peer → Int64
  | .user id | .chat id | .channel id => id

/-- The peer as it is written: its kind over its bare id. -/
def toJson : Peer → Json
  | .user id => Json.variant "User" (.ofInt64 id)
  | .chat id => Json.variant "Chat" (.ofInt64 id)
  | .channel id => Json.variant "Channel" (.ofInt64 id)

/-- The peer that a value spells. -/
def ofJson? (j : Json) : Option Peer := do
  let v ← j.tagged?
  match v.tag with
  | "User" => (v.carrying Json.int64?).map .user
  | "Chat" => (v.carrying Json.int64?).map .chat
  | "Channel" => (v.carrying Json.int64?).map .channel
  | _ => none

end Peer

/-! ## Users -/

/-- A user as the server describes it. -/
structure User where
  id : Int64 := 0
  accessHash : Option Int64 := none
  /-- Seen without a usable access hash. -/
  isMin : Bool := false
  isBot : Bool := false
  firstName : Option String := none
  lastName : Option String := none
  username : Option String := none
  deriving DecidableEq, Repr, Inhabited

namespace User

/-- The record as it is written, with every field. -/
def toJson (u : User) : Json :=
  .object [("id", .ofInt64 u.id), ("access_hash", .ofOption .ofInt64 u.accessHash),
    ("min", .bool u.isMin), ("bot", .bool u.isBot),
    ("first_name", .ofOption .string u.firstName), ("last_name", .ofOption .string u.lastName),
    ("username", .ofOption .string u.username)]

/-- The declared fields of a user. -/
def fieldNames : List String :=
  ["id", "access_hash", "min", "bot", "first_name", "last_name", "username"]

/-- The record that a value spells; every field may be left out. -/
def ofJson? (j : Json) : Option User := do
  let r ← Json.Record.ofJson? fieldNames j
  return {
    id := ← r.withDefault "id" Json.int64? 0
    accessHash := ← r.optionalWithDefault "access_hash" Json.int64?
    isMin := ← r.withDefault "min" Json.bool? false
    isBot := ← r.withDefault "bot" Json.bool? false
    firstName := ← r.optionalWithDefault "first_name" Json.string?
    lastName := ← r.optionalWithDefault "last_name" Json.string?
    username := ← r.optionalWithDefault "username" Json.string? }

end User

/-! ## Chats -/

/-- A basic group, channel or lost chat as the server describes it. -/
inductive Chat where
  | group (id : Int64) (title : String)
  /-- A broadcast channel, or a supergroup if `isMegagroup`. -/
  | channel (id : Int64) (accessHash : Option Int64) (isMin isMegagroup : Bool) (title : String)
      (username : Option String)
  /-- A chat that the account may no longer see. -/
  | forbidden (id : Int64) (title : String)
  deriving DecidableEq, Repr, Inhabited

namespace Chat

/-- The bare id. -/
def id : Chat → Int64
  | .group id _ | .channel id _ _ _ _ _ | .forbidden id _ => id

/-- The peer that messages address this chat by. -/
def peer : Chat → Peer
  | .group id _ => .chat id
  | .channel id _ _ _ _ _ => .channel id
  | .forbidden id _ => .chat id

/-- Whether the record lacks a usable access hash. -/
def isMin : Chat → Bool
  | .channel _ _ isMin _ _ _ => isMin
  | _ => false

/-- The title, which every record has. -/
def title : Chat → String
  | .group _ title | .channel _ _ _ _ title _ | .forbidden _ title => title

/-- The record as it is written: its kind over its fields. -/
def toJson : Chat → Json
  | .group id title =>
    Json.variant "Group" (.object [("id", .ofInt64 id), ("title", .string title)])
  | .channel id accessHash isMin isMegagroup title username =>
    Json.variant "Channel" (.object [("id", .ofInt64 id),
      ("access_hash", .ofOption .ofInt64 accessHash), ("min", .bool isMin),
      ("megagroup", .bool isMegagroup), ("title", .string title),
      ("username", .ofOption .string username)])
  | .forbidden id title =>
    Json.variant "Forbidden" (.object [("id", .ofInt64 id), ("title", .string title)])

/-- The record that a value spells. -/
def ofJson? (j : Json) : Option Chat := do
  let v ← j.tagged?
  match v.tag with
  | "Group" => v.record ["id", "title"] fun r => do
    return .group (← r.required "id" Json.int64?) (← r.required "title" Json.string?)
  | "Channel" => v.record ["id", "access_hash", "min", "megagroup", "title", "username"] fun r => do
    return .channel (← r.required "id" Json.int64?) (← r.optional "access_hash" Json.int64?)
      (← r.required "min" Json.bool?) (← r.required "megagroup" Json.bool?)
      (← r.required "title" Json.string?) (← r.optional "username" Json.string?)
  | "Forbidden" => v.record ["id", "title"] fun r => do
    return .forbidden (← r.required "id" Json.int64?) (← r.required "title" Json.string?)
  | _ => none

end Chat

end UpdatePipeline.Schema
