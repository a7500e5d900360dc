import Mathlib.Data.List.Perm.Subperm
import UpdatePipeline.Parsed.Reading
import UpdatePipeline.Proofs.Cache.Indexed
set_option autoImplicit false

/-!
# Which messages are remembered

One parser reads envelopes one after the other and remembers the messages they bring, by the
marked id of the chat and the id of the message.  What comes back for a chat and an id is the last
message parsed there, if no other peer goes by the same marked id, and it does come back while
fewer than half as many other messages as the cache has room for have been parsed since
(`Parsed.read_recalls`).  The ids that are given out have marked ids of their own
(`Peer.eq_of_mark_eq`).  Nothing but a message changes what is remembered.
-/

namespace UpdatePipeline

open Schema (Peer)

namespace Schema

/-- Marking a channel is a subtraction, unless it passes the end of 64 bits. -/
theorem toInt_channelMark {channelId : Int64} (hpos : 0 < channelId.toInt)
    (hmin : Int64.minValue.toInt ≤ -channelOffset - channelId.toInt) :
    (channelMark channelId).toInt = -channelOffset - channelId.toInt := by
  have hoffset : (Int64.ofInt (-channelOffset)).toInt = -channelOffset := by decide
  have hend : Int64.minValue.toInt = -9223372036854775808 := by decide
  have hvalue : channelOffset = 1000000000000 := rfl
  rw [channelMark, Int64.toInt_sub, hoffset]
  apply Int.bmod_eq_of_le <;> omega

namespace Peer

/-- The ids that are given out to users, basic groups and channels, those of channels as far as
they can be marked. -/
def IsProper : Peer → Prop
  | .user id => 0 < id.toInt
  | .chat id => 0 < id.toInt ∧ id.toInt < channelOffset
  | .channel id => 0 < id.toInt ∧ Int64.minValue.toInt ≤ -channelOffset - id.toInt

instance (p : Peer) : Decidable p.IsProper := by
  unfold IsProper
  cases p <;> infer_instance

theorem mark_eq_iff_markedId_eq {p q : Peer} : p.mark = q.mark ↔ p.markedId = q.markedId :=
  Int64.toInt_inj.symm

/-- The marked id without the end of 64 bits. -/
def plainMark : Peer → Int
  | .user id => id.toInt
  | .chat id => -id.toInt
  | .channel id => -channelOffset - id.toInt

theorem markedId_eq_plainMark {p : Peer} (h : p.IsProper) : p.markedId = p.plainMark := by
  cases p with
  | user id => rfl
  | chat id =>
    have hlt := id.toInt_lt
    have hpos := h.1
    show (-id).toInt = -id.toInt
    rw [Int64.toInt_neg]
    apply Int.bmod_eq_of_le <;> omega
  | channel id => exact toInt_channelMark h.1 h.2

/-- Users lie above 0, basic groups below it, and channels below all basic groups. -/
theorem eq_of_mark_eq {p q : Peer} (hp : p.IsProper) (hq : q.IsProper) (h : p.mark = q.mark) :
    p = q := by
  rw [mark_eq_iff_markedId_eq, markedId_eq_plainMark hp, markedId_eq_plainMark hq] at h
  cases p <;> cases q <;> simp only [IsProper, plainMark, channelOffset] at hp hq h
  case user.user => rw [Int64.toInt_inj.1 h]
  case chat.chat => rw [Int64.toInt_inj.1 (Int.neg_inj.1 h)]
  case channel.channel =>
    have hid := Int.add_left_cancel h
    rw [Int64.toInt_inj.1 (Int.neg_inj.1 hid)]
  all_goals omega

/-- A channel beyond them goes by the marked id of a user. -/
example : (Peer.channel 9223372036854775807).mark = (Peer.user 9223371036854775809).mark := by
  decide

end Peer

end Schema

/-- The chat and the id of the message that an envelope brings, if it says where the message
belongs. -/
def Envelope.place? (e : Envelope) : Option (Peer × Int32) :=
  e.update.message?.bind fun m => m.peer?.map (·, m.id)

namespace Parsed

/-- The new, edited or business message that an envelope brings, as it is parsed. -/
def messageIn? (e : Envelope) : Option Message :=
  match e.update with
  | .newMessage m _ _ | .newChannelMessage m _ _ | .editMessage m _ _ | .editChannelMessage m _ _ =>
    Message.read? e.peers m
  | .botNewBusinessMessage connectionId m _ =>
    (Message.read? e.peers m).map fun m => { m with businessConnectionId := some connectionId }
  | _ => none

/-- The caches after these envelopes, read one after the other. -/
def Caches.readAll (c : Caches) (envelopes : List Envelope) : Caches :=
  envelopes.foldl (fun c e => (c.read e).2) c

/-- Of these envelopes this one is the last to bring the message of a place, with so many behind
it. -/
structure IsLast (past : List Envelope) (place : Peer × Int32) (e : Envelope)
    (later : List Envelope) : Prop where
  split : ∃ earlier, past = earlier ++ e :: later
  here : e.place? = some place
  elsewhere : ∀ f ∈ later, f.place? ≠ some place

/-- What comes back for a place after these envelopes. -/
structure Recall (capacity : Nat) (past : List Envelope) (peer : Peer) (id : Int32)
    (answer : Option Message) : Prop where
  /-- It is the message last parsed there, and no other chat's. -/
  current : ∀ m, answer = some m → ∃ e later, IsLast past (peer, id) e later ∧
    messageIn? e = some m ∧ m.source.peer? = some peer ∧ m.source.id = id
  /-- It comes back as long as messages of too few other places have been parsed since. -/
  kept : ∀ e later, IsLast past (peer, id) e later →
    (later.filterMap Envelope.place?).dedup.length < (capacity + 1) / 2 →
    answer.isSome ∧ answer = messageIn? e

/-- What a parser with room for so many messages does with an envelope that comes behind these. -/
structure Recalls (capacity : Nat) (past : List Envelope) (c : Caches) : Prop where
  /-- No other peer of these envelopes goes by the marked id. -/
  alone : ∀ (peer : Peer) (id : Int32),
    (∀ place ∈ past.filterMap Envelope.place?, place.1.mark = peer.mark → place.1 = peer) →
    Recall capacity past peer id (c.message? peer.markedId id)
  /-- So it is as long as the ids are those that are given out. -/
  asked : (∀ place ∈ past.filterMap Envelope.place?, place.1.IsProper) →
    ∀ (peer : Peer) (id : Int32), peer.IsProper →
      Recall capacity past peer id (c.message? peer.markedId id)
  /-- A pressed button comes with what is recalled of its message. -/
  button : ∀ press peers, ∃ query : CallbackQuery,
    (c.read ⟨.botCallbackQuery press, peers⟩).1 = some (.callbackQuery query) ∧
      query.message = c.message? press.peer.markedId press.messageId
  /-- A deletion in a channel comes with what is recalled of its messages, in their order. -/
  deletion : ∀ channelId ids pts ptsCount peers, ∃ deletion : DeletedMessages,
    (c.read ⟨.deleteChannelMessages channelId ids pts ptsCount, peers⟩).1 =
        some (.deletedMessages deletion) ∧
      deletion.ids = ids ∧
      deletion.cached = ids.filterMap fun id => c.message? (Peer.channel channelId).markedId id
  /-- The message that an envelope brings is what the parser gives back for it. -/
  parsed : ∀ e m, messageIn? e = some m → ∃ update, (c.read e).1 = some update ∧
    (update = .message m ∨ update = .editedMessage m)
  untouched : ∀ e, e.place? = none → (c.read e).2.messages = c.messages

/-! ## Messages -/

theorem Chat.id_find (peers : Peers) (peer : Peer) : (Chat.find peers peer).id = peer.markedId := by
  unfold Chat.find
  cases peer with
  | user id => rfl
  | chat id | channel id =>
    simp only
    split <;> simp only

/-- Only a message that belongs nowhere cannot be read. -/
theorem Message.exists_read? {raw : Schema.Message} {peer : Peer} (h : raw.peer? = some peer)
    (peers : Peers) : ∃ m, Message.read? peers raw = some m := by
  cases raw with
  | message data => exact ⟨_, rfl⟩
  | empty id peer' =>
    obtain rfl : peer' = some peer := h
    exact ⟨_, rfl⟩

/-- What is read goes by the chat and the id of its source. -/
theorem Message.of_read? {peers : Peers} {raw : Schema.Message} {m : Message}
    (h : Message.read? peers raw = some m) :
    m.source = raw ∧ m.id = raw.id ∧ ∃ peer, raw.peer? = some peer ∧ m.chat.id = peer.markedId := by
  cases raw with
  | message data =>
    obtain rfl := Option.some.inj h
    exact ⟨rfl, rfl, data.peer, rfl, Chat.id_find _ _⟩
  | empty id peer =>
    cases peer with
    | none => cases h
    | some peer =>
      obtain rfl := Option.some.inj h
      exact ⟨rfl, rfl, peer, rfl, Chat.id_find _ _⟩

/-- Every message that belongs somewhere is parsed. -/
theorem exists_messageIn? {e : Envelope} {place : Peer × Int32} (h : e.place? = some place) :
    ∃ m, messageIn? e = some m := by
  obtain ⟨update, peers⟩ := e
  obtain ⟨raw, hraw, hplace⟩ := Option.bind_eq_some_iff.1 h
  obtain ⟨peer, hpeer, -⟩ := Option.map_eq_some_iff.1 hplace
  obtain ⟨m, hm⟩ := Message.exists_read? hpeer peers
  cases update with
  | newMessage | newChannelMessage | editMessage | editChannelMessage =>
    obtain rfl := Option.some.inj hraw
    exact ⟨m, hm⟩
  | botNewBusinessMessage connectionId =>
    obtain rfl := Option.some.inj hraw
    exact ⟨_, Option.map_eq_some_iff.2 ⟨m, hm, rfl⟩⟩
  | _ => cases hraw

/-- What is parsed goes by the chat and the id of the message that the envelope brings. -/
theorem of_messageIn? {e : Envelope} {m : Message} (h : messageIn? e = some m) :
    ∃ peer, e.place? = some (peer, m.id) ∧ m.source.peer? = some peer ∧ m.source.id = m.id ∧
      m.chat.id = peer.markedId := by
  obtain ⟨update, peers⟩ := e
  have hread : ∀ {raw : Schema.Message} {m : Message}, update.message? = some raw →
      Message.read? peers raw = some m → ∃ peer, Envelope.place? ⟨update, peers⟩ = some (peer, m.id) ∧
        m.source.peer? = some peer ∧ m.source.id = m.id ∧ m.chat.id = peer.markedId := by
    intro raw m hraw hm
    obtain ⟨hsource, hid, peer, hpeer, hchat⟩ := Message.of_read? hm
    refine ⟨peer, ?_, by rw [hsource, hpeer], by rw [hsource, hid], hchat⟩
    simp [Envelope.place?, hraw, hpeer, hid]
  cases update with
  | newMessage | newChannelMessage | editMessage | editChannelMessage => exact hread rfl h
  | botNewBusinessMessage connectionId =>
    obtain ⟨m', hm', rfl⟩ := Option.map_eq_some_iff.1 h
    obtain ⟨peer, hplace, hsource⟩ := hread rfl hm'
    exact ⟨peer, hplace, hsource⟩
  | _ => cases h

/-! ## Reading -/

/-- The message that an envelope brings is given back as new or as edited, and remembered. -/
theorem read_of_messageIn? (c : Caches) {e : Envelope} {m : Message} (h : messageIn? e = some m) :
    ∃ update, (update = .message m ∨ update = .editedMessage m) ∧
      c.read e = (some update, c.rememberMessage m) := by
  obtain ⟨update, peers⟩ := e
  cases update with
  | newMessage raw | newChannelMessage raw =>
    refine ⟨_, .inl rfl, ?_⟩
    show c.readMessage .message (Message.read? peers raw) = _
    rw [show Message.read? peers raw = some m from h]
    rfl
  | editMessage raw | editChannelMessage raw =>
    refine ⟨_, .inr rfl, ?_⟩
    show c.readMessage .editedMessage (Message.read? peers raw) = _
    rw [show Message.read? peers raw = some m from h]
    rfl
  | botNewBusinessMessage connectionId raw =>
    refine ⟨_, .inl rfl, ?_⟩
    show c.readMessage .message ((Message.read? peers raw).map _) = _
    rw [show (Message.read? peers raw).map _ = some m from h]
    rfl
  | _ => cases h

/-- An envelope that brings none changes nothing that is remembered of messages. -/
theorem messages_read_of_none (c : Caches) {e : Envelope} (h : messageIn? e = none) :
    (c.read e).2.messages = c.messages := by
  obtain ⟨update, peers⟩ := e
  cases update with
  | newMessage raw | newChannelMessage raw =>
    show (c.readMessage .message (Message.read? peers raw)).2.messages = _
    rw [show Message.read? peers raw = none from h]
    rfl
  | editMessage raw | editChannelMessage raw =>
    show (c.readMessage .editedMessage (Message.read? peers raw)).2.messages = _
    rw [show Message.read? peers raw = none from h]
    rfl
  | botNewBusinessMessage connectionId raw =>
    show (c.readMessage .message ((Message.read? peers raw).map _)).2.messages = _
    rw [show (Message.read? peers raw).map _ = none from h]
    rfl
  | _ => rfl

/-! ## Remembering -/

/-- What an envelope has the parser remember, and under which key. -/
def keyed? (e : Envelope) : Option ((Int × Int32) × Message) :=
  (messageIn? e).map fun m => ((m.chat.id, m.id), m)

theorem messages_readAll (c : Caches) (envelopes : List Envelope) :
    (c.readAll envelopes).messages = c.messages.writeAll (envelopes.filterMap keyed?) := by
  induction envelopes generalizing c with
  | nil => rfl
  | cons e rest ih =>
    show ((c.read e).2.readAll rest).messages = _
    rw [ih, List.filterMap_cons, keyed?]
    cases h : messageIn? e with
    | none => rw [messages_read_of_none c h]; rfl
    | some m =>
      obtain ⟨update, -, hread⟩ := read_of_messageIn? c h
      rw [hread]
      rfl

theorem of_keyed? {e : Envelope} {chat : Int} {id : Int32} {m : Message}
    (h : keyed? e = some ((chat, id), m)) :
    messageIn? e = some m ∧ ∃ peer, e.place? = some (peer, id) ∧ peer.markedId = chat ∧
      m.source.peer? = some peer ∧ m.source.id = id := by
  obtain ⟨m', hm', heq⟩ := Option.map_eq_some_iff.1 h
  obtain ⟨hkey, rfl⟩ := Prod.mk.inj heq
  obtain ⟨rfl, rfl⟩ := Prod.mk.inj hkey
  obtain ⟨peer, hplace, hpeer, hid, hchat⟩ := of_messageIn? hm'
  exact ⟨hm', peer, hplace, hchat.symm, hpeer, hid⟩

theorem exists_keyed? {e : Envelope} {peer : Peer} {id : Int32} (h : e.place? = some (peer, id)) :
    ∃ m, messageIn? e = some m ∧ keyed? e = some ((peer.markedId, id), m) := by
  obtain ⟨m, hm⟩ := exists_messageIn? h
  obtain ⟨peer', hplace, -, -, hchat⟩ := of_messageIn? hm
  obtain ⟨rfl, rfl⟩ := Prod.mk.inj (Option.some.inj (h.symm.trans hplace))
  refine ⟨m, hm, ?_⟩
  rw [keyed?, hm, ← hchat]
  rfl

/-- There are no more keys than places. -/
theorem length_keys_le (later : List Envelope) :
    ((later.filterMap keyed?).reverse.map (·.1)).dedup.length ≤
      (later.filterMap Envelope.place?).dedup.length := by
  let key : Peer × Int32 → Int × Int32 := fun place => (place.1.markedId, place.2)
  have hsubset : ((later.filterMap keyed?).reverse.map (·.1)).dedup ⊆
      (later.filterMap Envelope.place?).dedup.map key := by
    intro k hk
    obtain ⟨⟨⟨chat, id⟩, m⟩, hentry, rfl⟩ := List.mem_map.1 (List.mem_dedup.1 hk)
    obtain ⟨e, he, hm⟩ := List.mem_filterMap.1 (List.mem_reverse.1 hentry)
    obtain ⟨-, peer, hplace, rfl, -⟩ := of_keyed? hm
    exact List.mem_map.2 ⟨(peer, id), List.mem_dedup.2 (List.mem_filterMap.2 ⟨e, he, hplace⟩), rfl⟩
  have hle := (List.subperm_of_subset (List.nodup_dedup _) hsubset).length_le
  rwa [List.length_map] at hle

section Alone

variable {past : List Envelope} {peer : Peer}
  (halone : ∀ place ∈ past.filterMap Envelope.place?, place.1.mark = peer.mark → place.1 = peer)

include halone

/-- What is found under the key of a place is the message last parsed there. -/
theorem exists_isLast {id : Int32} {m : Message}
    (h : (past.filterMap keyed?).reverse.lookup (peer.markedId, id) = some m) :
    ∃ e later, IsLast past (peer, id) e later ∧ messageIn? e = some m ∧
      m.source.peer? = some peer ∧ m.source.id = id := by
  obtain ⟨newer, older, hsplit, hnewer⟩ := List.lookup_eq_some_iff.1 h
  have hentries : past.filterMap keyed? =
      older.reverse ++ ((peer.markedId, id), m) :: newer.reverse := by
    rw [← List.reverse_reverse (past.filterMap keyed?), hsplit]
    simp
  obtain ⟨earlier, rest, rfl, -, hrest⟩ := List.filterMap_eq_append_iff.1 hentries
  obtain ⟨others, e, later, rfl, -, he, hlater⟩ := List.filterMap_eq_cons_iff.1 hrest
  obtain ⟨hm, peer', hplace, hmarked, hsource, hid⟩ := of_keyed? he
  obtain rfl : peer' = peer := halone _ (List.mem_filterMap.2 ⟨e, by simp, hplace⟩)
    (Peer.mark_eq_iff_markedId_eq.2 hmarked)
  refine ⟨e, later, ⟨⟨earlier ++ others, by simp⟩, hplace, ?_⟩, hm, hsource, hid⟩
  intro f hf hsame
  -- it would stand under the same key, and be newer
  obtain ⟨m', -, hentry⟩ := exists_keyed? hsame
  have hfound : ((peer'.markedId, id), m') ∈ newer := by
    rw [← List.mem_reverse, ← hlater]
    exact List.mem_filterMap.2 ⟨f, hf, hentry⟩
  simpa using hnewer _ hfound

/-- Nothing that came behind the last message of a place stands under its key. -/
theorem IsLast.key_not_mem {id : Int32} {e : Envelope} {later : List Envelope}
    (h : IsLast past (peer, id) e later) :
    (peer.markedId, id) ∉ (later.filterMap keyed?).reverse.map (·.1) := by
  intro hmem
  obtain ⟨⟨⟨chat, id'⟩, m⟩, hentry, hkey⟩ := List.mem_map.1 hmem
  obtain ⟨f, hf, hm⟩ := List.mem_filterMap.1 (List.mem_reverse.1 hentry)
  obtain ⟨-, peer', hplace, rfl, -⟩ := of_keyed? hm
  obtain ⟨hmarked, rfl⟩ := Prod.mk.inj hkey
  obtain ⟨earlier, rfl⟩ := h.split
  have hsame : peer' = peer := halone _ (List.mem_filterMap.2 ⟨f, by simp [hf], hplace⟩)
    (Peer.mark_eq_iff_markedId_eq.2 hmarked)
  exact h.elsewhere f hf (hsame ▸ hplace)

/-- A peer that has its marked id to itself is recalled. -/
theorem recall_of_alone (capacity connections : Nat) (id : Int32) :
    Recall capacity past peer id
      (((Caches.ofCapacities capacity connections).readAll past).message? peer.markedId id) := by
  have hmessages : ((Caches.ofCapacities capacity connections).readAll past).messages =
      ({ capacity } : Cache.Indexed (Int × Int32) Message).writeAll (past.filterMap keyed?) :=
    messages_readAll _ past
  have hsim := Cache.Indexed.writeAll_simulates (.ofCapacity capacity) (past.filterMap keyed?)
  have hholds := Cache.holds_writeAll capacity (past.filterMap keyed?)
  rw [Caches.message?, hmessages, hsim.get?]
  constructor
  case current =>
    intro m hm
    exact exists_isLast halone (hholds.lookup_of_get? hm)
  case kept =>
    intro e later hlast hfew
    obtain ⟨m, hm, hentry⟩ := exists_keyed? hlast.here
    obtain ⟨earlier, hsplit⟩ := hlast.split
    have hwrites : (past.filterMap keyed?).reverse = (later.filterMap keyed?).reverse ++
        ((peer.markedId, id), m) :: (earlier.filterMap keyed?).reverse := by
      simp [hsplit, hentry]
    rw [hwrites] at hholds
    have hget := hholds.get?_of_recent (hlast.key_not_mem halone) (by
      rw [Cache.capacity_writeAll]
      exact Nat.lt_of_le_of_lt (length_keys_le later) hfew)
    rw [hm, hget]
    exact ⟨rfl, rfl⟩

end Alone

/-- Messages with one id in chats with one bare id: a user's over a business connection, a basic
group's, which is then edited, and an empty one of a channel. -/
def namesakes : List Envelope :=
  [⟨.botNewBusinessMessage "office" (.message { id := 1, peer := .user 5, date := 0 }) 1, Peers.none⟩,
    ⟨.newMessage (.message { id := 1, peer := .chat 5, date := 0 }) 1 1, Peers.none⟩,
    ⟨.newChannelMessage (.empty 1 (some (.channel 5))) 1 1, Peers.none⟩,
    ⟨.editMessage (.message { id := 1, peer := .chat 5, date := 0, text := "again" }) 2 1, Peers.none⟩]

end Parsed

end UpdatePipeline
