import UpdatePipeline.Cache.Indexed
import UpdatePipeline.Envelope
import UpdatePipeline.Parsed.Basic
set_option autoImplicit false

/-!
# Parsed updates: reading an envelope

Parsing looks up the peers of an update among those that came with it and feeds two
caches: messages by chat and id, and business connections by their id.  A deletion in
a channel and a pressed button consult the first.
-/

namespace UpdatePipeline.Parsed

open Schema (Peer)

/-! ## Looking up peers -/

/-- The user with this id, as far as the peers describe them. -/
def User.find (peers : Peers) (id : Int64) : User :=
  match peers.user? id with
  | some u =>
    { id, isBot := u.isBot, firstName := u.firstName, lastName := u.lastName, username := u.username }
  | none => { id }

/-- The kind of the chat a peer is when nothing describes it. -/
def Chat.Kind.ofPeer : Peer → Chat.Kind
  | .user _ => .direct
  | .chat _ => .group
  | .channel _ => .channel

/-- The chat that a peer is, as far as the peers describe it.  A group or channel is
looked up by its bare id. -/
def Chat.find (peers : Peers) (peer : Peer) : Chat :=
  match peer with
  | .user id =>
    let user := User.find peers id
    { id := peer.markedId, kind := .direct, title := user.fullName, username := user.username }
  | .chat id | .channel id =>
    match peers.chat? id with
    | some (.channel _ _ _ isMegagroup title username) =>
      { id := peer.markedId, kind := if isMegagroup then .supergroup else .channel,
        title := some title, username }
    | some chat => { id := peer.markedId, kind := .group, title := some chat.title, username := none }
    | none => { id := peer.markedId, kind := .ofPeer peer, title := none, username := none }

/-! ## Messages -/

/-- The sender of a message.  An incoming message of a user need not name its sender. -/
def Message.senderOf (peers : Peers) (m : Schema.MessageData) : Option User :=
  match m.sender, m.peer with
  | some (.user id), _ => some (User.find peers id)
  | none, .user id => if m.isOutgoing then none else some (User.find peers id)
  | _, _ => none

/-- The message, unless nothing says which chat it belongs to. -/
def Message.read? (peers : Peers) : Schema.Message → Option Message
  | .message m => some {
      id := m.id
      chat := Chat.find peers m.peer
      sender := Message.senderOf peers m
      date := some m.date
      editDate := m.editDate
      text := if m.text.isEmpty then none else some m.text
      isOutgoing := m.isOutgoing
      source := .message m }
  | .empty id (some peer) => some {
      id
      chat := Chat.find peers peer
      sender := none
      date := none
      editDate := none
      text := none
      isOutgoing := false
      source := .empty id (some peer) }
  | .empty _ none => none

/-! ## Caches -/

/-- The messages and business connections seen lately. -/
structure Caches where
  messages : Cache.Indexed (Int × Int32) Message
  connections : Cache.Indexed String BusinessConnection
  deriving Repr

namespace Caches

/-- Empty caches of these capacities. -/
def ofCapacities (messages connections : Nat) : Caches :=
  ⟨{ capacity := messages }, { capacity := connections }⟩

/-- The message with this id in the chat with this marked id, if still cached. -/
def message? (c : Caches) (chatId : Int) (id : Int32) : Option Message := c.messages.get? (chatId, id)

/-- The business connection with this id, if still cached. -/
def connection? (c : Caches) (id : String) : Option BusinessConnection := c.connections.get? id

/-- The caches after seeing a message. -/
def rememberMessage (c : Caches) (m : Message) : Caches :=
  { c with messages := c.messages.set (m.chat.id, m.id) m }

/-- The caches after seeing a business connection. -/
def rememberConnection (c : Caches) (b : BusinessConnection) : Caches :=
  { c with connections := c.connections.set b.id b }

end Caches

/-! ## Updates -/

/-- A change of role in the chat that `peer` is. -/
def MemberChange.read (peers : Peers) (peer : Peer) (p : Schema.Participation) : MemberChange where
  chat := Chat.find peers peer
  actor := User.find peers p.actorId
  user := User.find peers p.userId
  date := some p.date
  oldRole := p.previous
  newRole := p.current

/-- The business connection an update describes. -/
def BusinessConnection.read (peers : Peers) (c : Schema.BusinessConnection) : BusinessConnection where
  id := c.connectionId
  user := User.find peers c.userId
  dataCenter := c.dataCenter
  date := some c.date
  canReply := c.canReply
  isEnabled := !c.isDisabled

/-- A message that is seen, under the kind that `make` gives it. -/
def Caches.readMessage (c : Caches) (make : Message → Update) (m : Option Message) :
    Option Update × Caches :=
  match m with
  | some m => (some (make m), c.rememberMessage m)
  | none => (none, c)

/-- The update an envelope holds, if its kind is one that is parsed, and the caches
after seeing it. -/
def Caches.read (c : Caches) (envelope : Envelope) : Option Update × Caches :=
  let peers := envelope.peers
  match envelope.update with
  | .newMessage m _ _ | .newChannelMessage m _ _ => c.readMessage .message (Message.read? peers m)
  | .editMessage m _ _ | .editChannelMessage m _ _ =>
    c.readMessage .editedMessage (Message.read? peers m)
  | .botNewBusinessMessage connectionId m _ =>
    c.readMessage .message ((Message.read? peers m).map
      fun m => { m with businessConnectionId := some connectionId })
  | .deleteMessages ids _ _ => (some (.deletedMessages ⟨none, ids, []⟩), c)
  | .deleteChannelMessages channelId ids _ _ =>
    let chatId := (Peer.channel channelId).markedId
    (some (.deletedMessages ⟨some chatId, ids, ids.filterMap (c.message? chatId)⟩), c)
  | .botCallbackQuery p =>
    let chatId := p.peer.markedId
    (some (.callbackQuery {
      id := p.queryId
      sender := User.find peers p.userId
      chatId
      messageId := p.messageId
      message := c.message? chatId p.messageId
      chatInstance := p.chatInstance
      rawData := p.data }), c)
  | .userStatus userId status => (some (.userStatus ⟨User.find peers userId, status⟩), c)
  | .chatParticipant p => (some (.chatMemberUpdated (MemberChange.read peers (.chat p.chatId) p)), c)
  | .channelParticipant p =>
    (some (.chatMemberUpdated (MemberChange.read peers (.channel p.chatId) p)), c)
  | .botBusinessConnect connection _ =>
    let b := BusinessConnection.read peers connection
    (some (.businessConnection b), c.rememberConnection b)
  | .channelTooLong _ _ | .other _ => (none, c)

end UpdatePipeline.Parsed
