import UpdatePipeline.Schema.Update
set_option autoImplicit false

/-!
# Schema: answers about what was missed
-/

namespace UpdatePipeline.Schema

/-- Where the account's sequences stand on the server. -/
structure AccountState where
  pts : Int32 := 0
  qts : Int32 := 0
  date : Int32 := 0
  seq : Int32 := 0
  unreadCount : Int32 := 0
  deriving DecidableEq, Repr, Inhabited

namespace AccountState

/-- The state as it is written, with every field. -/
def toJson (s : AccountState) : Json :=
  .object [("pts", .ofInt32 s.pts), ("qts", .ofInt32 s.qts), ("date", .ofInt32 s.date),
    ("seq", .ofInt32 s.seq), ("unread_count", .ofInt32 s.unreadCount)]

/-- The declared fields of an account state. -/
def fieldNames : List String := ["pts", "qts", "date", "seq", "unread_count"]

/-- The state that a value spells; a field left out is 0. -/
def ofJson? (j : Json) : Option AccountState := do
  let r ← Json.Record.ofJson? fieldNames j
  return {
    pts := ← r.withDefault "pts" Json.int32? 0
    qts := ← r.withDefault "qts" Json.int32? 0
    date := ← r.withDefault "date" Json.int32? 0
    seq := ← r.withDefault "seq" Json.int32? 0
    unreadCount := ← r.withDefault "unread_count" Json.int32? 0 }

end AccountState

/-- A page of missed messages and updates, with the peers they speak of. -/
structure Page where
  newMessages : List Message := []
  otherUpdates : List Update := []
  users : List User := []
  chats : List Chat := []
  deriving DecidableEq, Repr, Inhabited

namespace Page

/-- The page as it is written, with every list. -/
def toJson (p : Page) : Json :=
  .object [("new_messages", .ofList Message.toJson p.newMessages),
    ("other_updates", .ofList Update.toJson p.otherUpdates),
    ("users", .ofList User.toJson p.users), ("chats", .ofList Chat.toJson p.chats)]

/-- The declared fields of a page. -/
def fieldNames : List String := ["new_messages", "other_updates", "users", "chats"]

/-- The page that a value spells; a list left out is empty. -/
def ofJson? (j : Json) : Option Page := do
  let r ← Json.Record.ofJson? fieldNames j
  return {
    newMessages := ← r.withDefault "new_messages" (Json.list? Message.ofJson?) []
    otherUpdates := ← r.withDefault "other_updates" (Json.list? Update.ofJson?) []
    users := ← r.withDefault "users" (Json.list? User.ofJson?) []
    chats := ← r.withDefault "chats" (Json.list? Chat.ofJson?) [] }

end Page

/-- What the account missed. -/
inductive Difference where
  | empty (date seq : Int32)
  /-- The rest of it. -/
  | difference (page : Page) (state : AccountState)
  /-- A part of it; more follows from `state` on. -/
  | slice (page : Page) (state : AccountState)
  | tooLong (pts : Int32)
  deriving DecidableEq, Repr, Inhabited

namespace Difference

/-- The answer as it is written: its kind over its content. -/
def toJson : Difference → Json
  | .empty date seq => Json.variant "Empty" (.object [("date", .ofInt32 date), ("seq", .ofInt32 seq)])
  | .difference page state =>
    Json.variant "Difference" (.object [("page", page.toJson), ("state", state.toJson)])
  | .slice page state =>
    Json.variant "Slice" (.object [("page", page.toJson), ("intermediate_state", state.toJson)])
  | .tooLong pts => Json.variant "TooLong" (.object [("pts", .ofInt32 pts)])

/-- The answer that a value spells. -/
def ofJson? (j : Json) : Option Difference := do
  let v ← j.tagged?
  match v.tag with
  | "Empty" => v.record ["date", "seq"] fun r => do
    return .empty (← r.required "date" Json.int32?) (← r.required "seq" Json.int32?)
  | "Difference" => v.record ["page", "state"] fun r => do
    return .difference (← r.required "page" Page.ofJson?) (← r.required "state" AccountState.ofJson?)
  | "Slice" => v.record ["page", "intermediate_state"] fun r => do
    return .slice (← r.required "page" Page.ofJson?)
      (← r.required "intermediate_state" AccountState.ofJson?)
  | "TooLong" => v.record ["pts"] fun r => do
    return .tooLong (← r.required "pts" Json.int32?)
  | _ => none

end Difference

/-- What was missed in a channel. -/
inductive ChannelDifference where
  | empty (pts : Int32) (isFinal : Bool) (timeout : Option Int32)
  | tooLong (dialogPts : Int32) (page : Page)
  | difference (pts : Int32) (page : Page) (isFinal : Bool) (timeout : Option Int32)
  deriving DecidableEq, Repr, Inhabited

namespace ChannelDifference

/-- The answer as it is written: its kind over its content. -/
def toJson : ChannelDifference → Json
  | .empty pts isFinal timeout =>
    Json.variant "Empty" (.object [("pts", .ofInt32 pts), ("is_final", .bool isFinal),
      ("timeout", .ofOption .ofInt32 timeout)])
  | .tooLong dialogPts page =>
    Json.variant "TooLong" (.object [("dialog_pts", .ofInt32 dialogPts), ("page", page.toJson)])
  | .difference pts page isFinal timeout =>
    Json.variant "Difference" (.object [("pts", .ofInt32 pts), ("page", page.toJson),
      ("is_final", .bool isFinal), ("timeout", .ofOption .ofInt32 timeout)])

/-- The answer that a value spells. -/
def ofJson? (j : Json) : Option ChannelDifference := do
  let v ← j.tagged?
  match v.tag with
  | "Empty" => v.record ["pts", "is_final", "timeout"] fun r => do
    return .empty (← r.required "pts" Json.int32?) (← r.required "is_final" Json.bool?)
      (← r.optional "timeout" Json.int32?)
  | "TooLong" => v.record ["dialog_pts", "page"] fun r => do
    return .tooLong (← r.required "dialog_pts" Json.int32?) (← r.required "page" Page.ofJson?)
  | "Difference" => v.record ["pts", "page", "is_final", "timeout"] fun r => do
    return .difference (← r.required "pts" Json.int32?) (← r.required "page" Page.ofJson?)
      (← r.required "is_final" Json.bool?) (← r.optional "timeout" Json.int32?)
  | _ => none

end ChannelDifference

end UpdatePipeline.Schema
