import UpdatePipeline.Schema.Update
import UpdatePipeline.Text.Blank
set_option autoImplicit false

/-!
# Parsed updates

What a typed handler receives: the update put into words of its own, its peers
looked up.  Chats go by their marked id.
-/

namespace UpdatePipeline.Parsed

/-! ## Peers -/

/-- A user.  Only the id is certain. -/
structure User where
  id : Int64
  isBot : Bool := false
  firstName : Option String := none
  lastName : Option String := none
  username : Option String := none
  deriving DecidableEq, Repr, Inhabited

/-- The first and the last name without blanks around them, or the username if that
leaves nothing. -/
def User.fullName (u : User) : Option String :=
  let part (name : Option String) : List Char := (name.getD "").toList
  match Text.trim (part u.firstName ++ ' ' :: part u.lastName) with
  | [] => u.username
  | name => some (String.ofList name)

/-- The kinds of chats. -/
inductive Chat.Kind where
  /-- With one user. -/
  | direct
  | group
  | supergroup
  | channel
  deriving DecidableEq, Repr, Inhabited

/-- The kind as it is shown. -/
def Chat.Kind.name : Chat.Kind → String
  | .direct => "private"
  | .group => "group"
  | .supergroup => "supergroup"
  | .channel => "channel"

/-- A chat. -/
structure Chat where
  /-- The marked id. -/
  id : Int
  kind : Chat.Kind
  title : Option String
  username : Option String
  deriving DecidableEq, Repr, Inhabited

/-! ## Messages -/

/-- A new or edited message. -/
structure Message where
  id : Int32
  chat : Chat
  /-- Absent for posts of channels and for empty messages. -/
  sender : Option User
  /-- In seconds since 1970. -/
  date : Option Int32
  editDate : Option Int32
  /-- Absent if empty. -/
  text : Option String
  isOutgoing : Bool
  /-- Set if the message came over a business account's connection. -/
  businessConnectionId : Option String := none
  source : Schema.Message
  deriving DecidableEq, Repr, Inhabited

/-- The command a text begins with: the first word behind the slash, up to a possible
at sign. -/
def commandOf? : List Char → Option (List Char)
  | '/' :: rest => (Text.firstWord? rest).map (·.takeWhile (· != '@'))
  | _ => none

namespace Message

/-- Whether the text begins with a slash. -/
def isCommand (m : Message) : Bool := m.text.any (·.toList.head? == some '/')

/-- The command the text begins with. -/
def command? (m : Message) : Option String :=
  (m.text.bind (commandOf? ·.toList)).map String.ofList

end Message

/-! ## Other contents -/

/-- Messages were deleted. -/
structure DeletedMessages where
  /-- The channel's marked id.  Deletions elsewhere do not say where. -/
  chatId : Option Int
  ids : List Int32
  /-- Those of the messages that were still cached. -/
  cached : List Message
  deriving DecidableEq, Repr, Inhabited

/-- A button under a bot's message was pressed. -/
structure CallbackQuery where
  id : Int64
  sender : User
  chatId : Int
  messageId : Int32
  /-- The message with the button, if it was still cached. -/
  message : Option Message
  chatInstance : Int64
  rawData : Option (List UInt8)
  deriving DecidableEq, Repr, Inhabited

/-- The button's data, if it is UTF-8. -/
def CallbackQuery.data? (q : CallbackQuery) : Option String :=
  q.rawData.bind fun octets => String.fromUTF8? ⟨octets.toArray⟩

/-- A user's status changed. -/
structure StatusChange where
  user : User
  status : Schema.UserStatus
  deriving DecidableEq, Repr, Inhabited

/-- A user's role in a chat changed. -/
structure MemberChange where
  chat : Chat
  actor : User
  user : User
  date : Option Int32
  oldRole : Option Schema.ParticipantRole
  newRole : Option Schema.ParticipantRole
  deriving DecidableEq, Repr, Inhabited

/-- A business account connected to the bot, or changed or ended its connection. -/
structure BusinessConnection where
  id : String
  user : User
  dataCenter : Int32
  date : Option Int32
  canReply : Bool
  isEnabled : Bool
  deriving DecidableEq, Repr, Inhabited

/-! ## Updates -/

/-- The kinds of parsed updates. -/
inductive Kind where
  | message
  | editedMessage
  | deletedMessages
  | callbackQuery
  | userStatus
  | chatMemberUpdated
  | businessConnection
  deriving DecidableEq, Repr, Inhabited

/-- The kind's name in descriptions. -/
def Kind.name : Kind → String
  | .message => "Message"
  | .editedMessage => "EditedMessage"
  | .deletedMessages => "DeletedMessages"
  | .callbackQuery => "CallbackQuery"
  | .userStatus => "UserStatus"
  | .chatMemberUpdated => "ChatMemberUpdated"
  | .businessConnection => "BusinessConnection"

/-- A parsed update. -/
inductive Update where
  | message (message : Message)
  | editedMessage (message : Message)
  | deletedMessages (deletion : DeletedMessages)
  | callbackQuery (query : CallbackQuery)
  | userStatus (change : StatusChange)
  | chatMemberUpdated (change : MemberChange)
  | businessConnection (connection : BusinessConnection)
  deriving DecidableEq, Repr, Inhabited

namespace Update

/-- The kind, by which handlers choose. -/
def kind : Update → Kind
  | .message _ => .message
  | .editedMessage _ => .editedMessage
  | .deletedMessages _ => .deletedMessages
  | .callbackQuery _ => .callbackQuery
  | .userStatus _ => .userStatus
  | .chatMemberUpdated _ => .chatMemberUpdated
  | .businessConnection _ => .businessConnection

/-- The message that is new or edited, or whose button was pressed. -/
def message? : Update → Option Message
  | .message m | .editedMessage m => some m
  | .callbackQuery q => q.message
  | _ => none

/-- The marked id of the chat that the update concerns. -/
def chatId? : Update → Option Int
  | .message m | .editedMessage m => some m.chat.id
  | .callbackQuery q => some q.chatId
  | .deletedMessages d => d.chatId
  | .chatMemberUpdated c => some c.chat.id
  | .userStatus _ | .businessConnection _ => none

end Update

end UpdatePipeline.Parsed
