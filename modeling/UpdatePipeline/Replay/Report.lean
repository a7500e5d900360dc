import UpdatePipeline.Replay.Transcript
import UpdatePipeline.Simulation.Basic
import UpdatePipeline.Text.Quoted
import UpdatePipeline.Time.Calendar
set_option autoImplicit false

/-!
# Replay: the report

What a replay writes: a line for every attempt, one for every update that reached a
handler, and a closing table of the stored positions.
-/

namespace UpdatePipeline.Replay

open Text (atLeft atRight quoted shownList shownOption)

/-! ## Lines -/

/-- A line of the report. -/
inductive Line where
  | output (text : String)
  /-- The heading of the table, which says what time it is. -/
  | tableHead
  | failure (text : String)
  | log (text : String)
  deriving DecidableEq, Repr, Inhabited

namespace Line

/-- Whether the line goes to the standard output. -/
def isOutput : Line → Bool
  | .output _ | .tableHead => true
  | .failure _ | .log _ => false

/-- The line's text, written so many seconds after midnight. -/
def text (secondsOfDay : Nat) : Line → String
  | .output text | .failure text | .log text => text
  | .tableHead => s!"💾 Stored state at {timeOfDayText secondsOfDay}:"

end Line

/-- A line and its instant. -/
structure Entry where
  instant : Instant
  line : Line
  deriving DecidableEq, Repr, Inhabited

/-! ## What handlers write -/

/-- The line of a new message. -/
def messageText (m : Parsed.Message) : String :=
  let date := (m.date.map fun seconds => dateTimeText seconds.toInt).getD ""
  let sender := (m.sender.bind (·.fullName)).getD "?"
  let content := m.text.getD ""
  s!"  💬 [{date}] {sender} in {m.chat.id}: {content}"

/-- The line of deleted messages. -/
def deletionText (d : Parsed.DeletedMessages) : String :=
  s!"  🗑  {shownList toString d.ids} deleted in {shownOption toString d.chatId} ({d.cached.length} cached)"

/-- The line of a pressed button. -/
def queryText (q : Parsed.CallbackQuery) : String :=
  s!"  🔘 callback {shownOption quoted q.data?} from {q.sender.id}"

/-- The line of an update that nobody above claimed. -/
def envelopeText (e : Envelope) : String :=
  s!"  ·  {e.update.name} ({e.peers.users.size} users, {e.peers.chats.size} chats)"

/-- The line of a callback, if its handler writes one. -/
def callText? : Argument → Option String
  | .parsed (.message m) => some (messageText m)
  | .parsed (.deletedMessages d) => some (deletionText d)
  | .parsed (.callbackQuery q) => some (queryText q)
  | .parsed _ => none
  | .envelope e => some (envelopeText e)

/-! ## Attempts and notices -/

/-- The line of an attempt: its method and what it came to. -/
def attemptText (request : Schema.Request) (reply : Reply) : String :=
  let outcome := match reply with
    | .ok response => response.name
    | .error e => e.message
  s!"  → {atLeft 30 request.method} {outcome}"

/-- The line of an occurrence. -/
def lineOf? : Occurrence → Option Line
  | .called _ argument => (callText? argument).map .output
  | .sent request reply => some (.output (attemptText request reply))
  | .reported notice => some (.log notice.line)

/-! ## The frame -/

/-- The opening line: what the transcript holds. -/
def headText (path : String) (t : Transcript) : String :=
  s!"📼 {path}: {t.states.length} stored states, {t.replies.length} replies, {t.pushes.length} pushes"

/-- A line of the table. -/
def recordText (r : StateRecord) : String :=
  let kind := if r.scope.isChannel then "channel" else "global"
  let scope := atRight 16 (toString r.scope)
  let pts := atLeft 8 (toString r.pts)
  s!"  {atLeft 8 kind} {scope}  pts={pts} date={shownOption toString r.date}"

end UpdatePipeline.Replay
