import UpdatePipeline.Error
import UpdatePipeline.Schema.Difference
set_option autoImplicit false

/-!
# Schema: requests and responses

The pipeline sends three requests, and each promises one shape of response.
-/

namespace UpdatePipeline.Schema

/-! ## Peers and ranges inside requests -/

/-- A peer as a request names it. -/
inductive InputPeer where
  | empty
  | self
  | user (userId accessHash : Int64)
  | chat (chatId : Int64)
  | channel (channelId accessHash : Int64)
  deriving DecidableEq, Repr, Inhabited

namespace InputPeer

/-- The peer as it is written: its kind over its fields. -/
def toJson : InputPeer → Json
  | .empty => .string "Empty"
  | .self => .string "PeerSelf"
  | .user userId accessHash =>
    Json.variant "User" (.object [("user_id", .ofInt64 userId), ("access_hash", .ofInt64 accessHash)])
  | .chat chatId => Json.variant "Chat" (.object [("chat_id", .ofInt64 chatId)])
  | .channel channelId accessHash =>
    Json.variant "Channel" (.object
      [("channel_id", .ofInt64 channelId), ("access_hash", .ofInt64 accessHash)])

/-- The peer that a value spells. -/
def ofJson? (j : Json) : Option InputPeer := do
  let v ← j.tagged?
  match v.tag with
  | "Empty" => v.bare .empty
  | "PeerSelf" => v.bare .self
  | "User" => v.record ["user_id", "access_hash"] fun r => do
    return .user (← r.required "user_id" Json.int64?) (← r.required "access_hash" Json.int64?)
  | "Chat" => v.record ["chat_id"] fun r => do
    return .chat (← r.required "chat_id" Json.int64?)
  | "Channel" => v.record ["channel_id", "access_hash"] fun r => do
    return .channel (← r.required "channel_id" Json.int64?) (← r.required "access_hash" Json.int64?)
  | _ => none

end InputPeer

/-- The message ids from `first` to `last`. -/
structure MessageRange where
  first : Int32
  last : Int32
  deriving DecidableEq, Repr, Inhabited

namespace MessageRange

/-- The range as it is written. -/
def toJson (r : MessageRange) : Json :=
  .object [("min_id", .ofInt32 r.first), ("max_id", .ofInt32 r.last)]

/-- The range that a value spells. -/
def ofJson? (j : Json) : Option MessageRange := do
  let r ← Json.Record.ofJson? ["min_id", "max_id"] j
  return ⟨← r.required "min_id" Json.int32?, ← r.required "max_id" Json.int32?⟩

end MessageRange

/-- Which messages of a channel a difference is asked for. -/
inductive MessageFilter where
  /-- All of them. -/
  | empty
  | ranges (ranges : List MessageRange)
  deriving DecidableEq, Repr, Inhabited

namespace MessageFilter

/-- The filter as it is written. -/
def toJson : MessageFilter → Json
  | .empty => .string "Empty"
  | .ranges rs => Json.variant "Ranges" (.ofList MessageRange.toJson rs)

/-- The filter that a value spells. -/
def ofJson? (j : Json) : Option MessageFilter := do
  let v ← j.tagged?
  match v.tag with
  | "Empty" => v.bare .empty
  | "Ranges" => (v.carrying (Json.list? MessageRange.ofJson?)).map .ranges
  | _ => none

end MessageFilter

/-! ## Requests -/

/-- Asks what the account missed since a position. -/
structure DifferenceQuery where
  pts : Int32
  ptsTotalLimit : Option Int32 := none
  date : Int32
  qts : Int32
  deriving DecidableEq, Repr, Inhabited

/-- Asks what was missed in a channel since a position. -/
structure ChannelDifferenceQuery where
  force : Bool := false
  channel : InputPeer
  filter : MessageFilter
  pts : Int32
  limit : Int32
  deriving DecidableEq, Repr, Inhabited

/-- A request. -/
inductive Request where
  | getState
  | getDifference (query : DifferenceQuery)
  | getChannelDifference (query : ChannelDifferenceQuery)
  deriving DecidableEq, Repr, Inhabited

/-- The request's method in the server's schema. -/
def Request.method : Request → String
  | .getState => "updates.getState"
  | .getDifference _ => "updates.getDifference"
  | .getChannelDifference _ => "updates.getChannelDifference"

/-! ## Responses -/

/-- A response. -/
inductive Response where
  | state (state : AccountState)
  | difference (difference : Difference)
  | channelDifference (difference : ChannelDifference)
  deriving DecidableEq, Repr, Inhabited

namespace Response

/-- The response's type in the server's schema. -/
def name : Response → String
  | .state _ => "updates.State"
  | .difference _ => "updates.Difference"
  | .channelDifference _ => "updates.ChannelDifference"

/-- The response as it is written: its type over its content. -/
def toJson : Response → Json
  | .state s => Json.variant "State" s.toJson
  | .difference d => Json.variant "Difference" d.toJson
  | .channelDifference d => Json.variant "ChannelDifference" d.toJson

/-- The response that a value spells. -/
def ofJson? (j : Json) : Option Response := do
  let v ← j.tagged?
  match v.tag with
  | "State" => (v.carrying AccountState.ofJson?).map .state
  | "Difference" => (v.carrying Difference.ofJson?).map .difference
  | "ChannelDifference" => (v.carrying ChannelDifference.ofJson?).map .channelDifference
  | _ => none

/-- The failure of a response that is not of the type `wanted`. -/
def unexpected {α : Type} (wanted : String) (r : Response) : Except InvocationError α :=
  .error (.unexpectedShape s!"expected {wanted}, got {r.name}")

/-- The answer to `getState`. -/
def asState : Response → Except InvocationError AccountState
  | .state s => .ok s
  | r => unexpected "updates.State" r

/-- The answer to `getDifference`. -/
def asDifference : Response → Except InvocationError Difference
  | .difference d => .ok d
  | r => unexpected "updates.Difference" r

/-- The answer to `getChannelDifference`. -/
def asChannelDifference : Response → Except InvocationError ChannelDifference
  | .channelDifference d => .ok d
  | r => unexpected "updates.ChannelDifference" r

/-- Whether the response is of the type that the request promises. -/
def answers (r : Response) : Request → Bool
  | .getState => r.asState.isOk
  | .getDifference _ => r.asDifference.isOk
  | .getChannelDifference _ => r.asChannelDifference.isOk

end Response

end UpdatePipeline.Schema
