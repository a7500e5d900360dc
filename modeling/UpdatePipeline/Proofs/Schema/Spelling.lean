import UpdatePipeline.Proofs.Json.Faithful
import UpdatePipeline.Schema.Push
import UpdatePipeline.Schema.Request
import UpdatePipeline.Store.Record
set_option autoImplicit false

/-!
# Schema: faithful spelling

Everything of which transcripts consist is written and read faithfully, from peers to whole
pushes and responses (`Schema.spelling_faithful`).  Each type rests on those that its fields
are of; a variant is read behind its tag, and a record by all its fields.
-/

namespace UpdatePipeline

open Json

namespace Schema

/-! ## Peers, users and chats -/

theorem faithful_peer : Faithful Peer.toJson Peer.ofJson? := by
  refine .of_reads (fun p j h => ?_) fun p => by cases p <;> exact nofun
  cases p with
  | user id =>
    obtain ⟨body, rfl, hbody⟩ := h.of_variant rfl
    exact faithful_int64.carried Peer.user hbody
  | chat id =>
    obtain ⟨body, rfl, hbody⟩ := h.of_variant rfl
    exact faithful_int64.carried Peer.chat hbody
  | channel id =>
    obtain ⟨body, rfl, hbody⟩ := h.of_variant rfl
    exact faithful_int64.carried Peer.channel hbody

theorem faithful_user : Faithful User.toJson User.ofJson? := by
  refine .of_reads (fun a j h => ?_) fun _ => nofun
  show (Record.ofJson? User.fieldNames j).bind _ = _
  refine Record.read h rfl (by decide) (by decide)
    fun r ⟨hid, hhash, hmin, hbot, hfirst, hlast, hname, _⟩ => ?_
  rw [faithful_int64.withDefault _ hid, faithful_int64.optionalWithDefault hhash,
    faithful_bool.withDefault _ hmin, faithful_bool.withDefault _ hbot,
    faithful_string.optionalWithDefault hfirst, faithful_string.optionalWithDefault hlast,
    faithful_string.optionalWithDefault hname]
  rfl

/-- A field out of its place, one that is not a user's, and all others left out. -/
example : User.ofJson? (.object [("bot", .bool true), ("seen", .null), ("id", .int 5)]) =
    some { id := 5, isBot := true } := by decide

theorem faithful_chat : Faithful Chat.toJson Chat.ofJson? := by
  refine .of_reads (fun c j h => ?_) fun c => by cases c <;> exact nofun
  cases c with
  | group id title =>
    obtain ⟨body, rfl, hbody⟩ := h.of_variant rfl
    refine Tagged.read "Group" hbody rfl (by decide) (by decide) fun r ⟨hid, htitle, _⟩ => ?_
    rw [faithful_int64.required hid, faithful_string.required htitle]
    rfl
  | channel id accessHash isMin isMegagroup title username =>
    obtain ⟨body, rfl, hbody⟩ := h.of_variant rfl
    refine Tagged.read "Channel" hbody rfl (by decide) (by decide)
      fun r ⟨hid, hhash, hmin, hmegagroup, htitle, hname, _⟩ => ?_
    rw [faithful_int64.required hid, faithful_int64.optional hhash, faithful_bool.required hmin,
      faithful_bool.required hmegagroup, faithful_string.required htitle,
      faithful_string.optional hname]
    rfl
  | forbidden id title =>
    obtain ⟨body, rfl, hbody⟩ := h.of_variant rfl
    refine Tagged.read "Forbidden" hbody rfl (by decide) (by decide) fun r ⟨hid, htitle, _⟩ => ?_
    rw [faithful_int64.required hid, faithful_string.required htitle]
    rfl

/-! ## Messages -/

theorem faithful_messageData : Faithful MessageData.toJson MessageData.ofJson? := by
  refine .of_reads (fun a j h => ?_) fun _ => nofun
  show (Record.ofJson? MessageData.fieldNames j).bind _ = _
  refine Record.read h rfl (by decide) (by decide)
    fun r ⟨hid, hpeer, hsender, hdate, htext, hout, hedit, _⟩ => ?_
  rw [faithful_int32.required hid, faithful_peer.required hpeer,
    faithful_peer.optionalWithDefault hsender, faithful_int32.required hdate,
    faithful_string.withDefault _ htext, faithful_bool.withDefault _ hout,
    faithful_int32.optionalWithDefault hedit]
  rfl

theorem faithful_message : Faithful Message.toJson Message.ofJson? := by
  refine .of_reads (fun m j h => ?_) fun m => by cases m <;> exact nofun
  cases m with
  | message data =>
    obtain ⟨body, rfl, hbody⟩ := h.of_variant rfl
    exact faithful_messageData.carried Message.message hbody
  | empty id peer =>
    obtain ⟨body, rfl, hbody⟩ := h.of_variant rfl
    refine Tagged.read "Empty" hbody rfl (by decide) (by decide) fun r ⟨hid, hpeer, _⟩ => ?_
    rw [faithful_int32.required hid, faithful_peer.optional hpeer]
    rfl

/-! ## Updates -/

theorem faithful_userStatus : Faithful UserStatus.toJson UserStatus.ofJson? := by
  refine .of_reads (fun s j h => ?_) fun s => by cases s <;> exact nofun
  cases s with
  | empty =>
    obtain rfl := h.eq_of_plain nofun nofun
    rfl
  | online expires =>
    obtain ⟨body, rfl, hbody⟩ := h.of_variant rfl
    refine Tagged.read "Online" hbody rfl (by decide) (by decide) fun r ⟨hexpires, _⟩ => ?_
    rw [faithful_int32.required hexpires]
    rfl
  | offline wasOnline =>
    obtain ⟨body, rfl, hbody⟩ := h.of_variant rfl
    refine Tagged.read "Offline" hbody rfl (by decide) (by decide) fun r ⟨hwas, _⟩ => ?_
    rw [faithful_int32.required hwas]
    rfl
  | recently =>
    obtain rfl := h.eq_of_plain nofun nofun
    rfl
  | lastWeek =>
    obtain rfl := h.eq_of_plain nofun nofun
    rfl
  | lastMonth =>
    obtain rfl := h.eq_of_plain nofun nofun
    rfl

theorem faithful_role : Faithful ParticipantRole.toJson ParticipantRole.ofJson? := by
  refine .of_plain (fun role => ?_) nofun nofun nofun
  cases role
  all_goals rfl

theorem faithful_connection : Faithful BusinessConnection.toJson BusinessConnection.ofJson? := by
  refine .of_reads (fun a j h => ?_) fun _ => nofun
  show (Record.ofJson? BusinessConnection.fieldNames j).bind _ = _
  refine Record.read h rfl (by decide) (by decide)
    fun r ⟨hconnection, huser, hcenter, hdate, hreply, hdisabled, _⟩ => ?_
  rw [faithful_string.required hconnection, faithful_int64.required huser,
    faithful_int32.required hcenter, faithful_int32.required hdate,
    faithful_bool.required hreply, faithful_bool.required hdisabled]
  rfl

/-- A change of a participant is read from its fields, whatever the one of the chat is called. -/
theorem ofRecord?_of_gives {chatField : String} {change : Participation} {r : Record}
    (h : r.GivesAll [(chatField, .ofInt64 change.chatId), ("date", .ofInt32 change.date),
      ("actor_id", .ofInt64 change.actorId), ("user_id", .ofInt64 change.userId),
      ("prev_participant", .ofOption ParticipantRole.toJson change.previous),
      ("new_participant", .ofOption ParticipantRole.toJson change.current),
      ("qts", .ofInt32 change.qts)]) :
    Participation.ofRecord? chatField r = some change := by
  obtain ⟨hchat, hdate, hactor, huser, hprevious, hcurrent, hqts, -⟩ := h
  rw [Participation.ofRecord?, faithful_int64.required hchat, faithful_int32.required hdate,
    faithful_int64.required hactor, faithful_int64.required huser,
    faithful_role.optional hprevious, faithful_role.optional hcurrent,
    faithful_int32.required hqts]
  rfl

/-- The updates that bring a message to a position. -/
theorem messageOfTagged?_of_respelled (tag : String) (make : Message → Int32 → Int32 → Update)
    {m : Message} {pts ptsCount : Int32} {body : Json}
    (h : Respelled (.object [("message", m.toJson), ("pts", .ofInt32 pts),
      ("pts_count", .ofInt32 ptsCount)]) body) :
    Update.messageOfTagged? make ⟨tag, some body⟩ = some (make m pts ptsCount) := by
  refine Tagged.read tag h rfl (by decide) (by decide) fun r ⟨hmessage, hpts, hcount, _⟩ => ?_
  rw [faithful_message.required hmessage, faithful_int32.required hpts,
    faithful_int32.required hcount]
  rfl

theorem faithful_update : Faithful Update.toJson Update.ofJson? := by
  refine .of_reads (fun u j h => ?_) fun u => by cases u <;> exact nofun
  cases u with
  | newMessage m pts ptsCount =>
    obtain ⟨body, rfl, hbody⟩ := h.of_variant rfl
    exact messageOfTagged?_of_respelled "NewMessage" Update.newMessage hbody
  | newChannelMessage m pts ptsCount =>
    obtain ⟨body, rfl, hbody⟩ := h.of_variant rfl
    exact messageOfTagged?_of_respelled "NewChannelMessage" Update.newChannelMessage hbody
  | editMessage m pts ptsCount =>
    obtain ⟨body, rfl, hbody⟩ := h.of_variant rfl
    exact messageOfTagged?_of_respelled "EditMessage" Update.editMessage hbody
  | editChannelMessage m pts ptsCount =>
    obtain ⟨body, rfl, hbody⟩ := h.of_variant rfl
    exact messageOfTagged?_of_respelled "EditChannelMessage" Update.editChannelMessage hbody
  | deleteMessages ids pts ptsCount =>
    obtain ⟨body, rfl, hbody⟩ := h.of_variant rfl
    refine Tagged.read "DeleteMessages" hbody rfl (by decide) (by decide)
      fun r ⟨hids, hpts, hcount, _⟩ => ?_
    rw [faithful_int32.list.required hids, faithful_int32.required hpts,
      faithful_int32.required hcount]
    rfl
  | deleteChannelMessages channelId ids pts ptsCount =>
    obtain ⟨body, rfl, hbody⟩ := h.of_variant rfl
    refine Tagged.read "DeleteChannelMessages" hbody rfl (by decide) (by decide)
      fun r ⟨hchannel, hids, hpts, hcount, _⟩ => ?_
    rw [faithful_int64.required hchannel, faithful_int32.list.required hids,
      faithful_int32.required hpts, faithful_int32.required hcount]
    rfl
  | botCallbackQuery press =>
    obtain ⟨body, rfl, hbody⟩ := h.of_variant rfl
    refine Tagged.read "BotCallbackQuery" hbody rfl (by decide) (by decide)
      fun r ⟨hquery, huser, hpeer, hmessage, hchat, hdata, _⟩ => ?_
    rw [faithful_int64.required hquery, faithful_int64.required huser,
      faithful_peer.required hpeer, faithful_int32.required hmessage,
      faithful_int64.required hchat, faithful_octet.list.optional hdata]
    rfl
  | userStatus userId status =>
    obtain ⟨body, rfl, hbody⟩ := h.of_variant rfl
    refine Tagged.read "UserStatus" hbody rfl (by decide) (by decide)
      fun r ⟨huser, hstatus, _⟩ => ?_
    rw [faithful_int64.required huser, faithful_userStatus.required hstatus]
    rfl
  | chatParticipant change =>
    obtain ⟨body, rfl, hbody⟩ := h.of_variant rfl
    refine Tagged.read "ChatParticipant" hbody rfl (by decide) (by decide) fun r hgives => ?_
    rw [ofRecord?_of_gives hgives, Option.map_some]
  | channelParticipant change =>
    obtain ⟨body, rfl, hbody⟩ := h.of_variant rfl
    refine Tagged.read "ChannelParticipant" hbody rfl (by decide) (by decide) fun r hgives => ?_
    rw [ofRecord?_of_gives hgives, Option.map_some]
  | botBusinessConnect connection qts =>
    obtain ⟨body, rfl, hbody⟩ := h.of_variant rfl
    refine Tagged.read "BotBusinessConnect" hbody rfl (by decide) (by decide)
      fun r ⟨hconnection, hqts, _⟩ => ?_
    rw [faithful_connection.required hconnection, faithful_int32.required hqts]
    rfl
  | botNewBusinessMessage connectionId m qts =>
    obtain ⟨body, rfl, hbody⟩ := h.of_variant rfl
    refine Tagged.read "BotNewBusinessMessage" hbody rfl (by decide) (by decide)
      fun r ⟨hconnection, hmessage, hqts, _⟩ => ?_
    rw [faithful_string.required hconnection, faithful_message.required hmessage,
      faithful_int32.required hqts]
    rfl
  | channelTooLong channelId pts =>
    obtain ⟨body, rfl, hbody⟩ := h.of_variant rfl
    refine Tagged.read "ChannelTooLong" hbody rfl (by decide) (by decide)
      fun r ⟨hchannel, hpts, _⟩ => ?_
    rw [faithful_int64.required hchannel, faithful_int32.optional hpts]
    rfl
  | other name =>
    obtain ⟨body, rfl, hbody⟩ := h.of_variant rfl
    refine Tagged.read "Other" hbody rfl (by decide) (by decide) fun r ⟨hname, _⟩ => ?_
    rw [faithful_string.required hname]
    rfl

/-! ## Pushes -/

theorem faithful_batch : Faithful Batch.toJson Batch.ofJson? := by
  refine .of_reads (fun a j h => ?_) fun _ => nofun
  show (Record.ofJson? Batch.fieldNames j).bind _ = _
  refine Record.read h rfl (by decide) (by decide)
    fun r ⟨hupdates, husers, hchats, hdate, hseq, _⟩ => ?_
  rw [faithful_update.list.withDefault _ hupdates, faithful_user.list.withDefault _ husers,
    faithful_chat.list.withDefault _ hchats, faithful_int32.withDefault _ hdate,
    faithful_int32.withDefault _ hseq]
  rfl

theorem faithful_shortMessage : Faithful ShortMessage.toJson ShortMessage.ofJson? := by
  refine .of_reads (fun a j h => ?_) fun _ => nofun
  show (Record.ofJson? ShortMessage.fieldNames j).bind _ = _
  refine Record.read h rfl (by decide) (by decide)
    fun r ⟨hid, hpeer, hsender, htext, hout, hpts, hcount, hdate, _⟩ => ?_
  rw [faithful_int32.required hid, faithful_peer.required hpeer,
    faithful_int64.optional hsender, faithful_string.required htext,
    faithful_bool.required hout, faithful_int32.required hpts, faithful_int32.required hcount,
    faithful_int32.required hdate]
  rfl

theorem faithful_push : Faithful Push.toJson Push.ofJson? := by
  refine .of_reads (fun p j h => ?_) fun p => by cases p <;> exact nofun
  cases p with
  | updates batch =>
    obtain ⟨body, rfl, hbody⟩ := h.of_variant rfl
    exact faithful_batch.carried Push.updates hbody
  | combined batch =>
    obtain ⟨body, rfl, hbody⟩ := h.of_variant rfl
    exact faithful_batch.carried Push.combined hbody
  | shortMessage m =>
    obtain ⟨body, rfl, hbody⟩ := h.of_variant rfl
    exact faithful_shortMessage.carried Push.shortMessage hbody
  | shortChatMessage m =>
    obtain ⟨body, rfl, hbody⟩ := h.of_variant rfl
    exact faithful_shortMessage.carried Push.shortChatMessage hbody
  | short update date =>
    obtain ⟨body, rfl, hbody⟩ := h.of_variant rfl
    refine Tagged.read "Short" hbody rfl (by decide) (by decide) fun r ⟨hupdate, hdate, _⟩ => ?_
    rw [faithful_update.required hupdate, faithful_int32.required hdate]
    rfl
  | tooLong =>
    obtain rfl := h.eq_of_plain nofun nofun
    rfl

/-! ## Answers -/

theorem faithful_accountState : Faithful AccountState.toJson AccountState.ofJson? := by
  refine .of_reads (fun a j h => ?_) fun _ => nofun
  show (Record.ofJson? AccountState.fieldNames j).bind _ = _
  refine Record.read h rfl (by decide) (by decide)
    fun r ⟨hpts, hqts, hdate, hseq, hunread, _⟩ => ?_
  rw [faithful_int32.withDefault _ hpts, faithful_int32.withDefault _ hqts,
    faithful_int32.withDefault _ hdate, faithful_int32.withDefault _ hseq,
    faithful_int32.withDefault _ hunread]
  rfl

theorem faithful_page : Faithful Page.toJson Page.ofJson? := by
  refine .of_reads (fun a j h => ?_) fun _ => nofun
  show (Record.ofJson? Page.fieldNames j).bind _ = _
  refine Record.read h rfl (by decide) (by decide)
    fun r ⟨hmessages, hupdates, husers, hchats, _⟩ => ?_
  rw [faithful_message.list.withDefault _ hmessages,
    faithful_update.list.withDefault _ hupdates, faithful_user.list.withDefault _ husers,
    faithful_chat.list.withDefault _ hchats]
  rfl

theorem faithful_difference : Faithful Difference.toJson Difference.ofJson? := by
  refine .of_reads (fun d j h => ?_) fun d => by cases d <;> exact nofun
  cases d with
  | empty date seq =>
    obtain ⟨body, rfl, hbody⟩ := h.of_variant rfl
    refine Tagged.read "Empty" hbody rfl (by decide) (by decide) fun r ⟨hdate, hseq, _⟩ => ?_
    rw [faithful_int32.required hdate, faithful_int32.required hseq]
    rfl
  | difference page state =>
    obtain ⟨body, rfl, hbody⟩ := h.of_variant rfl
    refine Tagged.read "Difference" hbody rfl (by decide) (by decide)
      fun r ⟨hpage, hstate, _⟩ => ?_
    rw [faithful_page.required hpage, faithful_accountState.required hstate]
    rfl
  | slice page state =>
    obtain ⟨body, rfl, hbody⟩ := h.of_variant rfl
    refine Tagged.read "Slice" hbody rfl (by decide) (by decide) fun r ⟨hpage, hstate, _⟩ => ?_
    rw [faithful_page.required hpage, faithful_accountState.required hstate]
    rfl
  | tooLong pts =>
    obtain ⟨body, rfl, hbody⟩ := h.of_variant rfl
    refine Tagged.read "TooLong" hbody rfl (by decide) (by decide) fun r ⟨hpts, _⟩ => ?_
    rw [faithful_int32.required hpts]
    rfl

theorem faithful_channelDifference : Faithful ChannelDifference.toJson ChannelDifference.ofJson? := by
  refine .of_reads (fun d j h => ?_) fun d => by cases d <;> exact nofun
  cases d with
  | empty pts isFinal timeout =>
    obtain ⟨body, rfl, hbody⟩ := h.of_variant rfl
    refine Tagged.read "Empty" hbody rfl (by decide) (by decide)
      fun r ⟨hpts, hfinal, htimeout, _⟩ => ?_
    rw [faithful_int32.required hpts, faithful_bool.required hfinal,
      faithful_int32.optional htimeout]
    rfl
  | tooLong dialogPts page =>
    obtain ⟨body, rfl, hbody⟩ := h.of_variant rfl
    refine Tagged.read "TooLong" hbody rfl (by decide) (by decide) fun r ⟨hpts, hpage, _⟩ => ?_
    rw [faithful_int32.required hpts, faithful_page.required hpage]
    rfl
  | difference pts page isFinal timeout =>
    obtain ⟨body, rfl, hbody⟩ := h.of_variant rfl
    refine Tagged.read "Difference" hbody rfl (by decide) (by decide)
      fun r ⟨hpts, hpage, hfinal, htimeout, _⟩ => ?_
    rw [faithful_int32.required hpts, faithful_page.required hpage,
      faithful_bool.required hfinal, faithful_int32.optional htimeout]
    rfl

theorem faithful_response : Faithful Response.toJson Response.ofJson? := by
  refine .of_reads (fun a j h => ?_) fun a => by cases a <;> exact nofun
  cases a with
  | state state =>
    obtain ⟨body, rfl, hbody⟩ := h.of_variant rfl
    exact faithful_accountState.carried Response.state hbody
  | difference d =>
    obtain ⟨body, rfl, hbody⟩ := h.of_variant rfl
    exact faithful_difference.carried Response.difference hbody
  | channelDifference d =>
    obtain ⟨body, rfl, hbody⟩ := h.of_variant rfl
    exact faithful_channelDifference.carried Response.channelDifference hbody

/-! ## Positions -/

theorem faithful_stateRecord : Faithful StateRecord.toJson StateRecord.ofJson? := by
  refine .of_reads (fun a j h => ?_) fun _ => nofun
  show (Record.ofJson? StateRecord.fieldNames j).bind _ = _
  refine Record.read h rfl (by decide) (by decide)
    fun r ⟨hscope, hpts, hqts, hdate, _⟩ => ?_
  rw [faithful_int64.required hscope, faithful_int32.required hpts,
    faithful_int32.optional hqts, faithful_int32.optional hdate]
  rfl

/-! ## All of them -/

/-- Whatever a transcript can consist of is read as it was written: with every field present,
and in any other order, among fields that are not its own, or without those that are `null`,
at whatever depth. -/
theorem spelling_faithful :
    Faithful Peer.toJson Peer.ofJson? ∧
    Faithful User.toJson User.ofJson? ∧
    Faithful Chat.toJson Chat.ofJson? ∧
    Faithful Message.toJson Message.ofJson? ∧
    Faithful MessageData.toJson MessageData.ofJson? ∧
    Faithful UserStatus.toJson UserStatus.ofJson? ∧
    Faithful ParticipantRole.toJson ParticipantRole.ofJson? ∧
    Faithful Update.toJson Update.ofJson? ∧
    Faithful Batch.toJson Batch.ofJson? ∧
    Faithful ShortMessage.toJson ShortMessage.ofJson? ∧
    Faithful Push.toJson Push.ofJson? ∧
    Faithful AccountState.toJson AccountState.ofJson? ∧
    Faithful Page.toJson Page.ofJson? ∧
    Faithful Difference.toJson Difference.ofJson? ∧
    Faithful ChannelDifference.toJson ChannelDifference.ofJson? ∧
    Faithful Response.toJson Response.ofJson? ∧
    Faithful StateRecord.toJson StateRecord.ofJson? :=
  ⟨faithful_peer, faithful_user, faithful_chat, faithful_message, faithful_messageData,
    faithful_userStatus, faithful_role, faithful_update, faithful_batch, faithful_shortMessage,
    faithful_push, faithful_accountState, faithful_page, faithful_difference,
    faithful_channelDifference, faithful_response, faithful_stateRecord⟩

end Schema

end UpdatePipeline
