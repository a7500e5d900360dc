import UpdatePipeline.Replay.Report
import UpdatePipeline.Simulation.Client
set_option autoImplicit false

/-!
# Replay: running a transcript

A replay brings up a client with the transcript's positions, lets the transcript's
replies answer its attempts, hands it the pushes one after the other and stops it.
Replies that have run out count as a dropped connection.
-/

namespace UpdatePipeline.Replay

open Schema (InputPeer)

/-! ## The client -/

/-- The peer that an id is taken for. -/
def resolvePeer (id : Int64) : InputPeer :=
  if id < 0 then .channel (Schema.channelMark id) 0 else .user id 0

/-- What the client meets. -/
def Transcript.script (t : Transcript) : Script where
  replies := t.replies.map fun r => { reply := r.result }
  resolve := fun id => .ok (resolvePeer id)

/-- A transcript that is replayed on a machine. -/
structure Staging extends Transcript where
  /-- How many processors the machine has. -/
  processors : Nat

/-- The client before its start. -/
def Staging.simulation (t : Staging) : Simulation :=
  Simulation.ofConfig (.forProcessors t.processors) t.script (Records.ofList t.states)

/-- A handler for everything of a kind that a filter accepts. -/
def claimant (kind : Parsed.Kind) (filter : Option Filter := none) : Handler :=
  .typed { kind, filter, callback := fun _ => {} }

/-- The handlers and their groups: what the first three leave goes to the last. -/
def handlers : List (Handler × Int32) :=
  [(claimant .message (some (Filter.text.and Filter.incoming)), 0), (claimant .deletedMessages, 0),
    (claimant .callbackQuery, 0), (.raw fun _ => {}, 1)]

/-- Registers handlers in order. -/
def registerAll (handlers : List (Handler × Int32)) : SimulationM Unit :=
  handlers.forM fun (handler, group) => do
    let _ ← Simulation.addHandler handler group

/-! ## Writing while running -/

/-- A part of a replay, which adds to the report. -/
abbrev ReplayM := StateT (List Entry) SimulationM

/-- Writes a line. -/
def write (line : Line) : ReplayM Unit := do
  let now := (← (get : SimulationM Simulation)).clock.now
  modify (· ++ [⟨now, line⟩])

/-- Lets the client do something and writes what could be seen of it. -/
def watch {α : Type} (m : SimulationM α) : ReplayM α := do
  let a ← m
  let seen ← Simulation.takeObservations
  modify (· ++ seen.filterMap fun o => (lineOf? o.occurrence).map fun line => ⟨o.instant, line⟩)
  return a

/-- Hands over the pushes. -/
def replayPushes : List Schema.Push → ReplayM Unit
  | [] => return
  | push :: rest => do
    match ← watch (Simulation.push push) with
    | .ok () => pure ()
    | .error e => write (.failure ("  ✗ push failed: " ++ e.message))
    replayPushes rest

/-- What is left to do once the client has started. -/
def replayRest (t : Transcript) : ReplayM Unit := do
  write (.output "📨 Replaying pushes…")
  replayPushes t.pushes
  watch Simulation.stop
  write (.output "")
  write .tableHead
  let records := (← (get : SimulationM Simulation)).records
  records.values.forM fun record => write (.output (recordText record))

/-- Replays a transcript; the result is the failure of the start, if it failed. -/
def replay (path : String) (t : Transcript) : ReplayM (Option InvocationError) := do
  write (.output (headText path t))
  (registerAll handlers : SimulationM Unit)
  write (.output "🔁 Recovering gaps…")
  match ← watch Simulation.start with
  | .error e => return some e
  | .ok () =>
    replayRest t
    return none

/-! ## The command -/

/-- What the command was given. -/
inductive Input where
  | noArgument
  | unreadable (error : IoError)
  | file (path text : String)
  deriving Repr, Inhabited

/-- What the command does: the report and the exit code. -/
structure Playback where
  entries : List Entry
  exitCode : Nat
  deriving Repr, Inhabited

/-- A report that is nothing but a failure. -/
def Playback.ofFailure (text : String) : Playback := ⟨[⟨0, .failure text⟩], 1⟩

/-- Replays a transcript from its start. -/
def Staging.play (path : String) (t : Staging) : Playback :=
  let ((failure, entries), s) := ((replay path t.toTranscript).run []).run t.simulation
  match failure with
  | none => ⟨entries, 0⟩
  | some e => ⟨entries ++ [⟨s.clock.now, .failure ("✗ " ++ e.message)⟩], 1⟩

/-- What the command does with its input, on a machine with so many processors. -/
def run (input : Input) (processors : Nat := 1) : Playback :=
  match input with
  | .noArgument => ⟨[⟨0, .failure "usage: layer-replay <transcript.json>"⟩], 2⟩
  | .unreadable e => .ofFailure ("✗ " ++ e.message)
  | .file path text =>
    match Transcript.ofText? text with
    | none => .ofFailure "✗ not a transcript"
    | some t => Staging.play path ⟨t, processors⟩

end UpdatePipeline.Replay
