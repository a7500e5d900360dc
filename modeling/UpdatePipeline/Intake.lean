import UpdatePipeline.Config
import UpdatePipeline.Program
import UpdatePipeline.Schema.Push
set_option autoImplicit false

/-!
# Intake of pushes

An update that carries a `pts` moves the stored position of its scope as soon as its
push arrives; nothing is checked for gaps here.  Two kinds of push need an answer of
the server before they are complete: a short message comes without its peers, and so,
in effect, does a channel's message in a batch with `min` peers.
-/

namespace UpdatePipeline

open Schema

namespace Intake

/-! ## Batches -/

/-- What the updates of a batch have led to so far. -/
structure Progress where
  /-- The peers that all of them will travel with. -/
  peers : Peers
  /-- The first failure. -/
  failure : Option InvocationError := none

/-- The progress after a failure, which counts if it is the first. -/
def Progress.fail (p : Progress) (e : InvocationError) : Progress :=
  { p with failure := p.failure.or (some e) }

/-- The progress with what a page says about peers. -/
def Progress.learn (p : Progress) (page : Page) : Progress :=
  { p with peers := p.peers.extend page.users page.chats }

/-- Stores the position an update leads to, unless positions are not kept. -/
def storePosition (config : Config) (date : Int32) (update : Update) (p : Progress) :
    Program Progress := do
  match update.ptsInfo? with
  | none => return p
  | some info =>
    if config.skipUpdates then return p
    else
      let scope := Scope.ofChannel? update.channelId?
      match ← Program.store { scope, pts := info.pts, date := some date } with
      | .ok () => return p
      | .error e =>
        Program.notify (.notStored scope info.pts e)
        return p.fail (.io e)

/-- The errors that leave a message's peers as they are. -/
def isPeersUnavailable (e : InvocationError) : Bool :=
  e.fits "CHANNEL_PRIVATE" || e.fits "PERSISTENT_TIMESTAMP_*"

/-- Fetches a page about one message of a channel, for the sake of the peers in it. -/
def fetchPeers (channelId : Int64) (messageId pts ptsCount : Int32) :
    Program (Except InvocationError (Option Page)) := do
  match ← Program.resolvePeer (Scope.ofChannel channelId) with
  | .error e => return .error e
  | .ok channel =>
    match ← Program.getChannelDifference {
        channel, filter := .ranges [⟨messageId, messageId⟩], pts := pts - ptsCount, limit := pts } with
    | .ok (.empty _ _ _) => return .ok none
    | .ok (.tooLong _ page) | .ok (.difference _ page _ _) => return .ok (some page)
    | .error e => return if isPeersUnavailable e then .ok none else .error e

/-- Completes the peers of an update, if it is a channel's message that came with
`min` peers, and reports what is to be reported of it. -/
def completePeers (hasMinPeers : Bool) (update : Update) (p : Progress) : Program Progress := do
  match update with
  | .channelTooLong channelId pts =>
    Program.notify (.channelTooLong channelId pts)
    return p
  | .newChannelMessage message pts ptsCount =>
    match update.channelId? with
    | none => return p
    | some channelId =>
      if hasMinPeers && !message.isEmpty then
        match ← fetchPeers channelId message.id pts ptsCount with
        | .ok (some page) => return p.learn page
        | .ok none => return p
        | .error e =>
          Program.notify (.peersNotCompleted channelId e)
          return p.fail e
      else return p
  | _ => return p

/-- Goes through the updates of a batch. -/
def advance (config : Config) (batch : Batch) : List Update → Progress → Program Progress
  | [], p => return p
  | update :: rest, p => do
    let p ← storePosition config batch.date update p
    let p ← completePeers batch.hasMinPeers update p
    advance config batch rest p

/-- Takes in a batch.  Every update is queued, in order and with the same peers,
whatever failed before; the first failure is the result. -/
def takeBatch (config : Config) (batch : Batch) : Program (Except InvocationError Unit) := do
  let p ← advance config batch batch.updates { peers := Peers.ofLists batch.users batch.chats }
  Program.enqueueAll (batch.updates.map (⟨·, p.peers⟩))
  return match p.failure with
    | some e => .error e
    | none => .ok ()

/-! ## Short messages -/

/-- The envelope that completes a short message: the first message of the page, else
its first update, which travels without peers. -/
def completion? (short : ShortMessage) (page : Page) : Option Envelope :=
  match page.newMessages, page.otherUpdates with
  | m :: _, _ =>
    some ⟨.newMessage m short.pts short.ptsCount, Peers.ofLists page.users page.chats⟩
  | [], update :: _ => some ⟨update, Peers.none⟩
  | [], [] => none

/-- Fetches what completes a short message, and queues it. -/
def complete (short : ShortMessage) : Program (Except InvocationError Unit) := do
  match ← Program.getDifference
      { pts := short.pts - short.ptsCount, date := short.date, qts := -1 } with
  | .error e => return .error e
  | .ok (.empty _ _) | .ok (.tooLong _) => return .ok ()
  | .ok (.difference page _) | .ok (.slice page _) =>
    Program.enqueueAll (completion? short page).toList
    return .ok ()

/-- Takes in a short message. -/
def takeShortMessage (config : Config) (short : ShortMessage) :
    Program (Except InvocationError Unit) := do
  if config.skipUpdates then complete short
  else
    match ← Program.store { scope := Scope.account, pts := short.pts, date := some short.date } with
    | .error e => return .error (.io e)
    | .ok () => complete short

/-! ## Pushes -/

/-- Takes in a push. -/
def take (config : Config) (push : Push) : Program (Except InvocationError Unit) := do
  Program.touched
  match push with
  | .updates batch | .combined batch => takeBatch config batch
  | .shortMessage short | .shortChatMessage short => takeShortMessage config short
  | .short update _ =>
    Program.enqueueAll [⟨update, Peers.none⟩]
    return .ok ()
  | .tooLong =>
    Program.notify .pushTooLong
    return .ok ()

end Intake

end UpdatePipeline
