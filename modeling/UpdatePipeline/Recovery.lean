import UpdatePipeline.Config
import UpdatePipeline.Program
set_option autoImplicit false

/-!
# Recovery of gaps

Each stored scope is resumed from its position, page by page, until the server has
nothing more to tell.  What a page brings is queued just like a push.  The position
reached is written back whatever ended the scope's recovery.
-/

namespace UpdatePipeline

open Schema

namespace Recovery

/-! ## Pages -/

/-- How much a recovery queued. -/
structure Stats where
  messages : Nat := 0
  updates : Nat := 0
  deriving DecidableEq, Repr, Inhabited

/-- The counts with those of one more page. -/
def Stats.count (s : Stats) (page : Page) : Stats where
  messages := s.messages + page.newMessages.length
  updates := s.updates + page.otherUpdates.length

/-- A recovered message as an update.  Its count of positions is -1: the difference
has accounted for them. -/
def messageUpdate (scope : Scope) (pts : Int32) (m : Message) : Update :=
  if scope.isChannel then .newChannelMessage m pts (-1) else .newMessage m pts (-1)

/-- The envelopes of a page: its messages, then its updates as they came, all with the
page's peers. -/
def envelopes (scope : Scope) (pts : Int32) (page : Page) : List Envelope :=
  let peers := Peers.ofLists page.users page.chats
  (page.newMessages.map (messageUpdate scope pts) ++ page.otherUpdates).map (⟨·, peers⟩)

/-! ## One page further -/

/-- How far a scope's recovery has come. -/
structure Cursor where
  pts : Int32
  date : Option Int32
  /-- The position of the last slice taken; 0 before the first. -/
  previous : Int32 := 0
  deriving DecidableEq, Repr, Inhabited

/-- What an answer means for the pages to come. -/
inductive Step where
  /-- Queue the page and fetch the next. -/
  | more (page : Page)
  /-- Queue the page and stop. -/
  | last (page : Page)
  | stop
  deriving DecidableEq, Repr, Inhabited

/-- Fetches what the account missed from the cursor on.  A slice at the position of
the slice before it does not count. -/
def accountStep (scope : Scope) (c : Cursor) : Program (Except InvocationError Step × Cursor) := do
  match ← Program.getDifference { pts := c.pts, date := c.date.getD 0, qts := 0 } with
  | .error e => return (.error e, c)
  | .ok (.empty _ _) => return (.ok .stop, c)
  | .ok (.tooLong pts) =>
    Program.notify (.differenceTooLong scope pts)
    return (.ok .stop, c)
  | .ok (.difference page state) => return (.ok (.last page), { c with pts := state.pts })
  | .ok (.slice page state) =>
    let reached : Cursor := { c with pts := state.pts, date := some state.date }
    if reached.pts = c.previous then
      Program.notify (.sliceStalled scope reached.pts)
      return (.ok .stop, reached)
    else return (.ok (.more page), { reached with previous := reached.pts })

/-- Fetches what was missed in a channel from the cursor on, in one page. -/
def channelStep (limit : Int32) (scope : Scope) (c : Cursor) :
    Program (Except InvocationError Step × Cursor) := do
  match ← Program.resolvePeer scope with
  | .error e => return (.error e, c)
  | .ok channel =>
    match ← Program.getChannelDifference { channel, filter := .empty, pts := c.pts, limit } with
    | .error e => return (.error e, c)
    | .ok (.empty _ _ _) => return (.ok .stop, c)
    | .ok (.tooLong dialogPts _) =>
      Program.notify (.channelDifferenceTooLong scope dialogPts)
      return (.ok .stop, c)
    | .ok (.difference pts page _ _) => return (.ok (.last page), { c with pts })

/-- Fetches the next page of a scope. -/
def step (limit : Int32) (scope : Scope) (c : Cursor) :
    Program (Except InvocationError Step × Cursor) :=
  if scope.isChannel then channelStep limit scope c else accountStep scope c

/-! ## Scopes -/

/-- The notice about an error that ends a scope's recovery. -/
def failureNotice (scope : Scope) (e : InvocationError) : Notice :=
  if e.isScopeTerminal then .recoveryAborted scope e else .differenceFailed scope e

/-- Fetches at most `left` more pages of a scope. -/
def fetchPages (config : Config) (scope : Scope) : Nat → Cursor → Stats → Program (Cursor × Stats)
  | 0, c, stats => do
    Program.notify (.tooManyPages scope config.maxDifferencePages c.pts)
    return (c, stats)
  | left + 1, c, stats => do
    match ← step config.channelDifferenceLimit scope c with
    | (.error e, c) =>
      Program.notify (failureNotice scope e)
      return (c, stats)
    | (.ok .stop, c) => return (c, stats)
    | (.ok (.last page), c) =>
      Program.enqueueAll (envelopes scope c.pts page)
      return (c, stats.count page)
    | (.ok (.more page), c) =>
      Program.enqueueAll (envelopes scope c.pts page)
      fetchPages config scope left c (stats.count page)

/-- Recovers the scope of a record and writes its position back. -/
def recoverScope (config : Config) (record : StateRecord) (stats : Stats) :
    Program (Except IoError Stats) := do
  let (c, stats) ← fetchPages config record.scope config.maxDifferencePages
    { pts := record.pts, date := record.date } stats
  match ← Program.store { scope := record.scope, pts := c.pts, date := c.date } with
  | .error e => return .error e
  | .ok () => return .ok stats

/-- Recovers the scopes of these records one after the other.  A record that cannot be
written back ends it. -/
def recoverScopes (config : Config) : List StateRecord → Stats → Program (Except IoError Stats)
  | [], stats => return .ok stats
  | record :: rest, stats => do
    match ← recoverScope config record stats with
    | .error e => return .error e
    | .ok stats => recoverScopes config rest stats

/-- Recovers every stored scope. -/
def recoverGaps (config : Config) : Program (Except InvocationError Stats) := do
  match ← Program.records with
  | .error e => return .error (.io e)
  | .ok [] =>
    Program.notify .nothingToRecover
    return .ok {}
  | .ok records =>
    match ← recoverScopes config records {} with
    | .error e => return .error (.io e)
    | .ok stats =>
      Program.notify (.recovered stats.messages stats.updates)
      return .ok stats

end Recovery

end UpdatePipeline
