import UpdatePipeline.Proofs.Parsed.Memory
import UpdatePipeline.Proofs.Peers
set_option autoImplicit false

/-!
# Which chat an update is about

The peer that an update names decides on the marked id of the chat it is parsed with.  For the
kind and the title the directories are consulted, in which basic groups and channels go by their
bare ids; so a group is described by its own record unless the last one with its bare id is a
channel's, and a channel unless it is a group's (`Parsed.read_recognizes_chat`).
-/

namespace UpdatePipeline

open Schema (Peer)

/-- Whose chat the message or the change of role in an envelope is about. -/
def Envelope.subject? (e : Envelope) : Option Peer :=
  match e.update with
  | .chatParticipant change => some (.chat change.chatId)
  | .channelParticipant change => some (.channel change.chatId)
  | update => update.message?.bind Schema.Message.peer?

namespace Parsed

/-- The chat that a new or edited message or a change of role comes with. -/
def Update.chat? : Update → Option Chat
  | .message m | .editedMessage m => some m.chat
  | .chatMemberUpdated change => some change.chat
  | _ => none

/-- The kinds that the chat of a peer can have. -/
def Chat.Kind.Suits (kind : Chat.Kind) : Peer → Prop
  | .user _ => kind = .direct
  | .chat _ => kind = .group
  | .channel _ => kind = .supergroup ∨ kind = .channel

/-- The user that a record describes. -/
def User.described (record : Schema.User) : User where
  id := record.id
  isBot := record.isBot
  firstName := record.firstName
  lastName := record.lastName
  username := record.username

/-- The titles that a peer's own records give it. -/
def ownTitles (users : List Schema.User) (chats : List Schema.Chat) : Peer → List String
  | .user id => (users.filter (·.id = id)).filterMap fun record => (User.described record).fullName
  | peer => (chats.filter (·.peer = peer)).map Schema.Chat.title

/-- The chat is that of the peer in its id and kind, and it has no title but the peer's own. -/
structure Depicts (users : List Schema.User) (chats : List Schema.Chat) (peer : Peer)
    (chat : Chat) : Prop where
  id : chat.id = peer.markedId
  kind : chat.kind.Suits peer
  title : ∀ title, chat.title = some title → title ∈ ownTitles users chats peer

/-- The record that stands under the bare id of a group or channel, be it its own or another
peer's. -/
def standing? (chats : List Schema.Chat) : Peer → Option Schema.Chat
  | .user _ => none
  | peer => (chats.filter (·.id = peer.bareId)).getLast?

variable (users : List Schema.User) (chats : List Schema.Chat)

/-! ## Looking a peer up -/

theorem User.find_ofLists (id : Int64) :
    User.find (.ofLists users chats) id =
      ((users.filter (·.id = id)).getLast?.map User.described).getD { id } := by
  unfold User.find
  rw [Peers.user?_ofLists]
  cases hlast : (users.filter (·.id = id)).getLast? with
  | none => rfl
  | some record =>
    have hid := List.of_mem_filter (List.mem_of_getLast? hlast)
    obtain rfl : record.id = id := by simpa using hid
    rfl

theorem depicts_find_user (id : Int64) :
    Depicts users chats (.user id) (Chat.find (.ofLists users chats) (.user id)) := by
  constructor
  case id => rfl
  case kind => rfl
  case title =>
    intro title htitle
    have htitle' : (User.find (.ofLists users chats) id).fullName = some title := htitle
    rw [User.find_ofLists] at htitle'
    cases hlast : (users.filter (·.id = id)).getLast? with
    | none =>
      rw [hlast] at htitle'
      cases htitle'
    | some record =>
      rw [hlast] at htitle'
      exact List.mem_filterMap.2 ⟨record, List.mem_of_getLast? hlast, htitle'⟩

/-- Kinds tell peers with one bare id apart. -/
theorem Chat.Kind.Suits.peer_eq {kind : Chat.Kind} {p q : Peer} (hp : kind.Suits p)
    (hq : kind.Suits q) (hid : p.bareId = q.bareId) : p = q := by
  cases p <;> cases q <;> simp only [Chat.Kind.Suits, Peer.bareId] at hp hq hid
  case user.user => rw [hid]
  case chat.chat => rw [hid]
  case channel.channel => rw [hid]
  all_goals cases kind <;> simp at hp hq

/-- A group or channel takes after the record that stands under its bare id. -/
theorem find_of_standing {peer : Peer} {record : Schema.Chat}
    (h : standing? chats peer = some record) :
    (Chat.find (.ofLists users chats) peer).title = some record.title ∧
      (Chat.find (.ofLists users chats) peer).kind.Suits record.peer := by
  cases peer with
  | user id => cases h
  | chat id | channel id =>
    have hfound : (Peers.ofLists users chats).chat? id = some record := by
      rw [Peers.chat?_ofLists]
      exact h
    rw [Chat.find]
    simp only [hfound]
    cases record with
    | group => exact ⟨rfl, rfl⟩
    | forbidden => exact ⟨rfl, rfl⟩
    | channel _ _ _ isMegagroup =>
      refine ⟨rfl, ?_⟩
      cases isMegagroup with
      | false => exact .inr rfl
      | true => exact .inl rfl

/-- Without one it has no title, and the kind that the peer says. -/
theorem find_of_none {peer : Peer} (hpeer : ∀ id, peer ≠ .user id)
    (h : standing? chats peer = none) :
    (Chat.find (.ofLists users chats) peer).title = none ∧
      (Chat.find (.ofLists users chats) peer).kind.Suits peer := by
  cases peer with
  | user id => exact absurd rfl (hpeer id)
  | chat id | channel id =>
    have hfound : (Peers.ofLists users chats).chat? id = none := by
      rw [Peers.chat?_ofLists]
      exact h
    rw [Chat.find]
    simp only [hfound]
    exact ⟨trivial, by simp [Chat.Kind.ofPeer, Chat.Kind.Suits]⟩

theorem bareId_peer (record : Schema.Chat) : record.peer.bareId = record.id := by
  cases record <;> rfl

theorem of_standing {peer : Peer} {record : Schema.Chat} (h : standing? chats peer = some record) :
    record ∈ chats ∧ record.id = peer.bareId := by
  cases peer with
  | user id => cases h
  | chat id | channel id => simpa using List.mem_filter.1 (List.mem_of_getLast? h)

theorem title_mem_ownTitles {record : Schema.Chat} (h : record ∈ chats) :
    record.title ∈ ownTitles users chats record.peer := by
  have hmem : record.title ∈ (chats.filter (·.peer = record.peer)).map Schema.Chat.title :=
    List.mem_map.2 ⟨record, List.mem_filter.2 ⟨h, by simp⟩, rfl⟩
  cases record <;> exact hmem

/-- The chat of a peer is taken for what it is exactly if no other peer's record stands under its
bare id. -/
theorem depicts_find_iff (peer : Peer) :
    Depicts users chats peer (Chat.find (.ofLists users chats) peer) ↔
      ∀ record, standing? chats peer = some record → record.peer = peer := by
  constructor
  · intro hdepicts record hrecord
    have hkind := (find_of_standing users chats hrecord).2
    apply hkind.peer_eq hdepicts.kind
    rw [bareId_peer, (of_standing chats hrecord).2]
  · intro hown
    cases hstanding : standing? chats peer with
    | some record =>
      obtain ⟨htitle, hkind⟩ := find_of_standing users chats hstanding
      obtain rfl := hown record hstanding
      refine ⟨Chat.id_find _ _, hkind, fun title h => ?_⟩
      obtain rfl := Option.some.inj (htitle.symm.trans h)
      exact title_mem_ownTitles users chats (of_standing chats hstanding).1
    | none =>
      cases peer with
      | user id => exact depicts_find_user users chats id
      | chat id | channel id =>
        obtain ⟨htitle, hkind⟩ := find_of_none users chats (by simp) hstanding
        refine ⟨Chat.id_find _ _, hkind, fun title h => ?_⟩
        rw [htitle] at h
        cases h

/-! ## Parsing -/

theorem chat_read? (peers : Peers) (raw : Schema.Message) :
    (Message.read? peers raw).map (·.chat) = raw.peer?.map (Chat.find peers) := by
  cases raw with
  | message data => rfl
  | empty id peer => cases peer <;> rfl

theorem chat_readMessage (c : Caches) {make : Message → Update}
    (hmake : ∀ m, (make m).chat? = some m.chat) (m : Option Message) :
    (c.readMessage make m).1.bind Update.chat? = m.map (·.chat) := by
  cases m with
  | none => rfl
  | some m => exact hmake m

/-- A message or a change of role is parsed with the chat of its peer, and nothing else is parsed
with one. -/
theorem chat_read (c : Caches) (e : Envelope) :
    (c.read e).1.bind Update.chat? = e.subject?.map (Chat.find e.peers) := by
  obtain ⟨update, peers⟩ := e
  cases update with
  | newMessage raw | newChannelMessage raw | editMessage raw | editChannelMessage raw =>
    exact (chat_readMessage c (fun _ => rfl) _).trans (chat_read? peers raw)
  | botNewBusinessMessage connectionId raw =>
    refine (chat_readMessage c (fun _ => rfl) _).trans ?_
    rw [Option.map_map]
    exact chat_read? peers raw
  | _ => rfl

/-- What becomes of the peer that an update is about. -/
structure Recognizes (peer : Peer) (chat : Chat) : Prop where
  marked : chat.id = peer.markedId
  /-- The chat is that of the peer in kind and title, unless another peer's record stands under
  its bare id. -/
  own : Depicts users chats peer chat ↔
    ∀ record, standing? chats peer = some record → record.peer = peer
  /-- The chat takes after the record that stands there, even if it is another peer's. -/
  standing : ∀ record, standing? chats peer = some record →
    chat.title = some record.title ∧ chat.kind.Suits record.peer

/-- Whatever came with the update, and whatever was parsed before it. -/
theorem read_recognizes_chat (c : Caches) (update : Schema.Update) :
    let e : Envelope := ⟨update, .ofLists users chats⟩
    (∀ chat, (c.read e).1.bind Update.chat? = some chat →
        ∃ peer, e.subject? = some peer ∧ Recognizes users chats peer chat) ∧
      ∀ peer, e.subject? = some peer →
        ∃ chat, (c.read e).1.bind Update.chat? = some chat ∧ Recognizes users chats peer chat := by
  intro e
  have hrecognizes : ∀ peer, Recognizes users chats peer (Chat.find e.peers peer) := fun peer =>
    ⟨Chat.id_find _ _, depicts_find_iff users chats peer, fun _ => find_of_standing users chats⟩
  rw [chat_read]
  constructor
  · intro chat hchat
    obtain ⟨peer, hpeer, rfl⟩ := Option.map_eq_some_iff.1 hchat
    exact ⟨peer, hpeer, hrecognizes peer⟩
  · intro peer hpeer
    exact ⟨_, by rw [hpeer, Option.map_some], hrecognizes peer⟩

/-- A basic group and a channel with one bare id. -/
def groupAndChannel : List Schema.Chat :=
  [.group 5 "Family", .channel 5 none false false "News" none]

/-- A message in the group is parsed with its marked id, but as one of a channel, and with the
channel's title. -/
theorem group_is_taken_for_channel :
    let data : Schema.MessageData := { id := 1, peer := .chat 5, date := 0, text := "hi" }
    let e : Envelope := ⟨.newMessage (.message data) 1 1, .ofLists [] groupAndChannel⟩
    let chat : Chat := { id := -5, kind := .channel, title := some "News", username := none }
    e.subject? = some (.chat 5) ∧ (Peer.chat 5).IsProper ∧
      ((Caches.ofCapacities 100 100).read e).1.bind Update.chat? = some chat ∧
      "News" ∉ ownTitles [] groupAndChannel (.chat 5) ∧
      ¬ Depicts [] groupAndChannel (.chat 5) chat := by
  refine ⟨rfl, by decide, by decide, by decide, fun h => ?_⟩
  cases h.kind

end Parsed

end UpdatePipeline
