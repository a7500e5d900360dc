import UpdatePipeline.Schema.Message
set_option autoImplicit false

/-!
# Schema: single updates

An update that advances a sequence carries a `pts`, the position it leads to, and a
`ptsCount`, the number of positions it spans.
-/

namespace UpdatePipeline.Schema

/-- When a user was last seen. -/
inductive UserStatus where
  | empty
  | online (expires : Int32)
  | offline (wasOnline : Int32)
  | recently
  | lastWeek
  | lastMonth
  deriving DecidableEq, Repr, Inhabited

namespace UserStatus

/-- The status as it is written; only the dated ones carry a body. -/
def toJson : UserStatus → Json
  | .empty => .string "Empty"
  | .online expires => Json.variant "Online" (.object [("expires", .ofInt32 expires)])
  | .offline wasOnline => Json.variant "Offline" (.object [("was_online", .ofInt32 wasOnline)])
  | .recently => .string "Recently"
  | .lastWeek => .string "LastWeek"
  | .lastMonth => .string "LastMonth"

/-- The status that a value spells. -/
def ofJson? (j : Json) : Option UserStatus := do
  let v ← j.tagged?
  match v.tag with
  | "Empty" => v.bare .empty
  | "Online" => v.record ["expires"] fun r => return .online (← r.required "expires" Json.int32?)
  | "Offline" =>
    v.record ["was_online"] fun r => return .offline (← r.required "was_online" Json.int32?)
  | "Recently" => v.bare .recently
  | "LastWeek" => v.bare .lastWeek
  | "LastMonth" => v.bare .lastMonth
  | _ => none

end UserStatus

/-- What a user is in a chat. -/
inductive ParticipantRole where
  | member
  | admin
  | creator
  | banned
  | left
  deriving DecidableEq, Repr, Inhabited

namespace ParticipantRole

/-- The role's tag. -/
def tag : ParticipantRole → String
  | .member => "Member"
  | .admin => "Admin"
  | .creator => "Creator"
  | .banned => "Banned"
  | .left => "Left"

/-- The role as it is written: its bare tag. -/
def toJson (role : ParticipantRole) : Json := .string role.tag

/-- The role that a value spells. -/
def ofJson? (j : Json) : Option ParticipantRole := do
  let v ← j.tagged?
  match v.tag with
  | "Member" => v.bare .member
  | "Admin" => v.bare .admin
  | "Creator" => v.bare .creator
  | "Banned" => v.bare .banned
  | "Left" => v.bare .left
  | _ => none

end ParticipantRole

/-- A business account's connection to this bot. -/
structure BusinessConnection where
  connectionId : String
  userId : Int64
  dataCenter : Int32
  date : Int32
  canReply : Bool
  isDisabled : Bool
  deriving DecidableEq, Repr, Inhabited

namespace BusinessConnection

/-- The connection as it is written, with every field. -/
def toJson (c : BusinessConnection) : Json :=
  .object [("connection_id", .string c.connectionId), ("user_id", .ofInt64 c.userId),
    ("dc_id", .ofInt32 c.dataCenter), ("date", .ofInt32 c.date), ("can_reply", .bool c.canReply),
    ("disabled", .bool c.isDisabled)]

/-- The declared fields of a business connection. -/
def fieldNames : List String :=
  ["connection_id", "user_id", "dc_id", "date", "can_reply", "disabled"]

/-- The connection that a value spells. -/
def ofJson? (j : Json) : Option BusinessConnection := do
  let r ← Json.Record.ofJson? fieldNames j
  return {
    connectionId := ← r.required "connection_id" Json.string?
    userId := ← r.required "user_id" Json.int64?
    dataCenter := ← r.required "dc_id" Json.int32?
    date := ← r.required "date" Json.int32?
    canReply := ← r.required "can_reply" Json.bool?
    isDisabled := ← r.required "disabled" Json.bool? }

end BusinessConnection

/-- A change of one user's role in a chat. -/
structure Participation where
  /-- The bare id of the chat. -/
  chatId : Int64
  date : Int32
  actorId : Int64
  userId : Int64
  previous : Option ParticipantRole
  current : Option ParticipantRole
  qts : Int32
  deriving DecidableEq, Repr, Inhabited

namespace Participation

/-- The written form, the chat's id standing in the field `chatField`. -/
def toJson (chatField : String) (p : Participation) : Json :=
  .object [(chatField, .ofInt64 p.chatId), ("date", .ofInt32 p.date),
    ("actor_id", .ofInt64 p.actorId), ("user_id", .ofInt64 p.userId),
    ("prev_participant", .ofOption ParticipantRole.toJson p.previous),
    ("new_participant", .ofOption ParticipantRole.toJson p.current), ("qts", .ofInt32 p.qts)]

/-- The declared fields. -/
def fieldNames (chatField : String) : List String :=
  [chatField, "date", "actor_id", "user_id", "prev_participant", "new_participant", "qts"]

/-- The change of role that a record gives. -/
def ofRecord? (chatField : String) (r : Json.Record) : Option Participation := do
  return {
    chatId := ← r.required chatField Json.int64?
    date := ← r.required "date" Json.int32?
    actorId := ← r.required "actor_id" Json.int64?
    userId := ← r.required "user_id" Json.int64?
    previous := ← r.optional "prev_participant" ParticipantRole.ofJson?
    current := ← r.optional "new_participant" ParticipantRole.ofJson?
    qts := ← r.required "qts" Json.int32? }

end Participation

/-- The press of a button under a bot's message. -/
structure ButtonPress where
  queryId : Int64
  userId : Int64
  peer : Peer
  messageId : Int32
  chatInstance : Int64
  data : Option (List UInt8)
  deriving DecidableEq, Repr, Inhabited

/-- One update. -/
inductive Update where
  | newMessage (message : Message) (pts ptsCount : Int32)
  | newChannelMessage (message : Message) (pts ptsCount : Int32)
  | editMessage (message : Message) (pts ptsCount : Int32)
  | editChannelMessage (message : Message) (pts ptsCount : Int32)
  | deleteMessages (ids : List Int32) (pts ptsCount : Int32)
  | deleteChannelMessages (channelId : Int64) (ids : List Int32) (pts ptsCount : Int32)
  | botCallbackQuery (press : ButtonPress)
  | userStatus (userId : Int64) (status : UserStatus)
  | chatParticipant (change : Participation)
  | channelParticipant (change : Participation)
  | botBusinessConnect (connection : BusinessConnection) (qts : Int32)
  | botNewBusinessMessage (connectionId : String) (message : Message) (qts : Int32)
  /-- The channel has more pending updates than are pushed. -/
  | channelTooLong (channelId : Int64) (pts : Option Int32)
  /-- An update that nothing here looks into. -/
  | other (name : String)
  deriving DecidableEq, Repr, Inhabited

/-- The step of a sequence that an update makes. -/
structure PtsInfo where
  pts : Int32
  ptsCount : Int32
  deriving DecidableEq, Repr, Inhabited

namespace Update

/-- The step of the sequence, for the updates that advance one. -/
def ptsInfo? : Update → Option PtsInfo
  | .newMessage _ pts ptsCount | .newChannelMessage _ pts ptsCount
  | .editMessage _ pts ptsCount | .editChannelMessage _ pts ptsCount
  | .deleteMessages _ pts ptsCount | .deleteChannelMessages _ _ pts ptsCount => some ⟨pts, ptsCount⟩
  | _ => none

/-- The message inside the update. -/
def message? : Update → Option Message
  | .newMessage m _ _ | .newChannelMessage m _ _ | .editMessage m _ _ | .editChannelMessage m _ _
  | .botNewBusinessMessage _ m _ => some m
  | _ => none

/-- The channel that the update itself names. -/
def ownChannelId? : Update → Option Int64
  | .deleteChannelMessages channelId _ _ _ => some channelId
  | .channelParticipant change => some change.chatId
  | .channelTooLong channelId _ => some channelId
  | _ => none

/-- The channel the update belongs to: that of its message, else the one it names. -/
def channelId? (u : Update) : Option Int64 :=
  ((u.message?.bind Message.peer?).bind Peer.channelId?).or u.ownChannelId?

/-- The constructor's name in the server's schema. -/
def name : Update → String
  | .newMessage .. => "updateNewMessage"
  | .newChannelMessage .. => "updateNewChannelMessage"
  | .editMessage .. => "updateEditMessage"
  | .editChannelMessage .. => "updateEditChannelMessage"
  | .deleteMessages .. => "updateDeleteMessages"
  | .deleteChannelMessages .. => "updateDeleteChannelMessages"
  | .botCallbackQuery .. => "updateBotCallbackQuery"
  | .userStatus .. => "updateUserStatus"
  | .chatParticipant .. => "updateChatParticipant"
  | .channelParticipant .. => "updateChannelParticipant"
  | .botBusinessConnect .. => "updateBotBusinessConnect"
  | .botNewBusinessMessage .. => "updateBotNewBusinessMessage"
  | .channelTooLong .. => "updateChannelTooLong"
  | .other name => name

/-! ## Written form -/

/-- A message with its step, under a tag. -/
def messageToJson (tag : String) (m : Message) (pts ptsCount : Int32) : Json :=
  Json.variant tag (.object
    [("message", m.toJson), ("pts", .ofInt32 pts), ("pts_count", .ofInt32 ptsCount)])

/-- The update as it is written: its kind over its fields. -/
def toJson : Update → Json
  | .newMessage m pts ptsCount => messageToJson "NewMessage" m pts ptsCount
  | .newChannelMessage m pts ptsCount => messageToJson "NewChannelMessage" m pts ptsCount
  | .editMessage m pts ptsCount => messageToJson "EditMessage" m pts ptsCount
  | .editChannelMessage m pts ptsCount => messageToJson "EditChannelMessage" m pts ptsCount
  | .deleteMessages ids pts ptsCount =>
    Json.variant "DeleteMessages" (.object [("messages", .ofList .ofInt32 ids),
      ("pts", .ofInt32 pts), ("pts_count", .ofInt32 ptsCount)])
  | .deleteChannelMessages channelId ids pts ptsCount =>
    Json.variant "DeleteChannelMessages" (.object [("channel_id", .ofInt64 channelId),
      ("messages", .ofList .ofInt32 ids), ("pts", .ofInt32 pts), ("pts_count", .ofInt32 ptsCount)])
  | .botCallbackQuery p =>
    Json.variant "BotCallbackQuery" (.object [("query_id", .ofInt64 p.queryId),
      ("user_id", .ofInt64 p.userId), ("peer", p.peer.toJson), ("msg_id", .ofInt32 p.messageId),
      ("chat_instance", .ofInt64 p.chatInstance), ("data", .ofOption (.ofList .ofOctet) p.data)])
  | .userStatus userId status =>
    Json.variant "UserStatus" (.object [("user_id", .ofInt64 userId), ("status", status.toJson)])
  | .chatParticipant change => Json.variant "ChatParticipant" (change.toJson "chat_id")
  | .channelParticipant change => Json.variant "ChannelParticipant" (change.toJson "channel_id")
  | .botBusinessConnect connection qts =>
    Json.variant "BotBusinessConnect" (.object
      [("connection", connection.toJson), ("qts", .ofInt32 qts)])
  | .botNewBusinessMessage connectionId m qts =>
    Json.variant "BotNewBusinessMessage" (.object
      [("connection_id", .string connectionId), ("message", m.toJson), ("qts", .ofInt32 qts)])
  | .channelTooLong channelId pts =>
    Json.variant "ChannelTooLong" (.object
      [("channel_id", .ofInt64 channelId), ("pts", .ofOption .ofInt32 pts)])
  | .other name => Json.variant "Other" (.object [("name", .string name)])

/-- A message with its step, put together by `make`. -/
def messageOfTagged? (make : Message → Int32 → Int32 → Update) (v : Json.Tagged) : Option Update :=
  v.record ["message", "pts", "pts_count"] fun r => do
    return make (← r.required "message" Message.ofJson?) (← r.required "pts" Json.int32?)
      (← r.required "pts_count" Json.int32?)

/-- The update that a value spells. -/
def ofJson? (j : Json) : Option Update := do
  let v ← j.tagged?
  match v.tag with
  | "NewMessage" => messageOfTagged? .newMessage v
  | "NewChannelMessage" => messageOfTagged? .newChannelMessage v
  | "EditMessage" => messageOfTagged? .editMessage v
  | "EditChannelMessage" => messageOfTagged? .editChannelMessage v
  | "DeleteMessages" => v.record ["messages", "pts", "pts_count"] fun r => do
    return .deleteMessages (← r.required "messages" (Json.list? Json.int32?))
      (← r.required "pts" Json.int32?) (← r.required "pts_count" Json.int32?)
  | "DeleteChannelMessages" => v.record ["channel_id", "messages", "pts", "pts_count"] fun r => do
    return .deleteChannelMessages (← r.required "channel_id" Json.int64?)
      (← r.required "messages" (Json.list? Json.int32?)) (← r.required "pts" Json.int32?)
      (← r.required "pts_count" Json.int32?)
  | "BotCallbackQuery" =>
    v.record ["query_id", "user_id", "peer", "msg_id", "chat_instance", "data"] fun r => do
      return .botCallbackQuery {
        queryId := ← r.required "query_id" Json.int64?
        userId := ← r.required "user_id" Json.int64?
        peer := ← r.required "peer" Peer.ofJson?
        messageId := ← r.required "msg_id" Json.int32?
        chatInstance := ← r.required "chat_instance" Json.int64?
        data := ← r.optional "data" (Json.list? Json.octet?) }
  | "UserStatus" => v.record ["user_id", "status"] fun r => do
    return .userStatus (← r.required "user_id" Json.int64?) (← r.required "status" UserStatus.ofJson?)
  | "ChatParticipant" => v.record (Participation.fieldNames "chat_id") fun r =>
    (Participation.ofRecord? "chat_id" r).map .chatParticipant
  | "ChannelParticipant" => v.record (Participation.fieldNames "channel_id") fun r =>
    (Participation.ofRecord? "channel_id" r).map .channelParticipant
  | "BotBusinessConnect" => v.record ["connection", "qts"] fun r => do
    return .botBusinessConnect (← r.required "connection" BusinessConnection.ofJson?)
      (← r.required "qts" Json.int32?)
  | "BotNewBusinessMessage" => v.record ["connection_id", "message", "qts"] fun r => do
    return .botNewBusinessMessage (← r.required "connection_id" Json.string?)
      (← r.required "message" Message.ofJson?) (← r.required "qts" Json.int32?)
  | "ChannelTooLong" => v.record ["channel_id", "pts"] fun r => do
    return .channelTooLong (← r.required "channel_id" Json.int64?) (← r.optional "pts" Json.int32?)
  | "Other" => v.record ["name"] fun r => do
    return .other (← r.required "name" Json.string?)
  | _ => none

end Update

end UpdatePipeline.Schema
