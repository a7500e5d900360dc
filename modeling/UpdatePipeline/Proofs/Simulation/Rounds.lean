import UpdatePipeline.Proofs.Simulation.Guarding
import UpdatePipeline.Proofs.Simulation.Session
set_option autoImplicit false

/-!
# The rounds of a session

In a session without a stop the watchdog is set at the end of the first start that succeeds, and
from then on makes its rounds, whatever the calls are and whatever the server answers
(`Simulation.session_rounds`).  Starts and pushes are all that it hears, and a probe leaves alone
everything but the server (`Simulation.leavesAlone_wakeWatchdog`).
-/

namespace UpdatePipeline

open Schema (Request)
open Watchdog (Round)

namespace Simulation

variable {config : Config} {heard : List Instant} {set? : Option Instant} {rounds : List Round}
  {s t : Simulation}

/-- The watchdog, set at this instant, has made its rounds, where something was heard at these. -/
def Guarded (config : Config) (heard : List Instant) (set? : Option Instant) (s : Simulation) :
    Prop :=
  ∃ rounds, Guarding config heard set? rounds s

/-! ## Programs -/

namespace Guarding

/-- A step that takes no time and lets the watchdog be. -/
theorem still (h : Guarding config heard set? rounds s)
    (hsame : t.config = s.config ∧ t.lastUpdate = s.lastUpdate ∧ t.clock = s.clock ∧
      t.watchdog = s.watchdog) (hprobes : t.probes = s.probes) :
    Guarding config heard set? rounds t := by
  obtain ⟨hconfig, hlast, hclock, hwatchdog⟩ := hsame
  have hnow : t.clock.now = s.clock.now := congrArg Clock.now hclock
  have haccount := h.toAccount.later hconfig hlast (Nat.le_of_eq hnow.symm) hprobes
  exact h.later haccount hwatchdog fun w hw => hnow ▸ h.due hw

theorem send (h : Guarding config heard set? rounds s) {request : Request}
    (hrequest : Program.IsForDifference request) :
    Guarding config heard set? rounds (exec (send request) s).2 := by
  refine h.still ⟨rfl, rfl, rfl, rfl⟩ ?_
  have hnoProbe : ∀ reply, Observation.isProbe ⟨s.clock.now, .sent request reply⟩ = false := by
    intro reply
    cases request with
    | getState => exact absurd hrequest id
    | getDifference query => rfl
    | getChannelDifference query => rfl
  have hseen := probes_observe (.sent request (s.script.next request).1.reply)
    { s with script := (s.script.next request).2 }
  rw [List.filter_singleton, hnoProbe] at hseen
  exact hseen.trans (List.append_nil _)

theorem storeRecord (h : Guarding config heard set? rounds s) (record : StateRecord) :
    Guarding config heard set? rounds (exec (storeRecord record) s).2 := by
  unfold Simulation.storeRecord
  rw [exec_modifyGet]
  dsimp only
  split
  · exact h.still ⟨rfl, rfl, rfl, rfl⟩ rfl
  · exact h.still ⟨rfl, rfl, rfl, rfl⟩ rfl

end Guarding

/-- What the client's programs do is nothing to the watchdog, but for the time it takes. -/
theorem executing_guarded (hinterval : 0 < config.watchdogInterval) :
    Executing Program.IsForDifference (Same (Guarded config heard set?)) where
  waitFor delay := respects_same_iff.2 fun _ ⟨_, hs⟩ => hs.waitFor hinterval delay
  retry _ _ hst := hst.congr (·.config.retry)
  script _ _ hst := hst.congr Simulation.script
  report notice := respects_same_iff.2 fun _ ⟨rounds, hs⟩ =>
    ⟨rounds, hs.later (hs.toAccount.report notice) rfl fun _ hw => hs.due hw⟩
  send _ hrequest := respects_same_iff.2 fun _ ⟨rounds, hs⟩ => ⟨rounds, hs.send hrequest⟩
  enqueue _ := respects_same_iff.2 fun _ ⟨rounds, hs⟩ =>
    ⟨rounds, hs.still ⟨rfl, rfl, rfl, rfl⟩ rfl⟩
  listRecords := respects_same_iff.2 fun _ ⟨rounds, hs⟩ =>
    ⟨rounds, hs.still ⟨rfl, rfl, rfl, rfl⟩ rfl⟩
  storeRecord record := respects_same_iff.2 fun _ ⟨rounds, hs⟩ => ⟨rounds, hs.storeRecord record⟩

namespace Guarded

theorem perform {α : Type} (h : Guarded config heard set? s)
    (hinterval : 0 < config.watchdogInterval) {p : Program α}
    (hp : p.Asks Program.IsForDifference) : Guarded config heard set? (exec (perform p) s).2 :=
  respects_same_iff.1 ((executing_guarded hinterval).perform hp) s h

/-- Something is heard. -/
theorem touch (h : Guarded config heard set? s) :
    Guarded config (heard ++ [s.clock.now]) set? { s with lastUpdate := s.clock.now } := by
  obtain ⟨rounds, hs⟩ := h
  refine ⟨rounds, hs.toAccount.hear, hs.unset, fun hset => ?_⟩
  obtain ⟨-, hw⟩ := hs.set hset
  exact ⟨by simp, hw⟩

theorem push (h : Guarded config heard set? s) (hinterval : 0 < config.watchdogInterval)
    (p : Schema.Push) :
    Guarded config (heard ++ [s.clock.now]) set? (exec (push p) s).2 := by
  obtain ⟨rest, htake, hrest⟩ := Intake.take_eq_touch s.config p
  rw [exec_push, htake]
  exact h.touch.perform hinterval hrest

/-! ## Starts -/

theorem startWorkers (h : Guarded config heard set? s) :
    Guarded config heard set? (exec startWorkers s).2 := by
  obtain ⟨rounds, hs⟩ := h
  exact ⟨rounds, hs.still ⟨rfl, rfl, rfl, rfl⟩ (probes_runDispatcher _ s)⟩

theorem catchUp (h : Guarded config heard set? s) (hinterval : 0 < config.watchdogInterval) :
    Guarded config (heard ++ [s.clock.now]) set? (exec catchUp s).2 := by
  rw [exec_catchUp]
  split
  · exact h.touch
  · exact h.touch.perform hinterval (Recovery.asks_recoverGaps _)

/-- Without a watchdog there have been no rounds, so one may be set. -/
theorem rest (h : Guarded config heard none s) (hheard : heard ≠ []) :
    Guarded config heard (some s.clock.now) (exec restWatchdog s).2 := by
  obtain ⟨rounds, hs⟩ := h
  have hnoRounds : rounds = [] := by
    cases rounds with
    | nil => rfl
    | cons r later =>
      obtain ⟨since, hsince, -⟩ := (hs.inTurn [] r later rfl).due
      cases hsince
  subst hnoRounds
  have haccount : Account config heard (some s.clock.now) [] s :=
    ⟨hs.configured, hs.lastUpdate, hs.past, hs.checked, allInTurn_nil, hs.seen⟩
  rw [restWatchdog, exec_bind, exec_get, hs.configured]
  refine ⟨[], haccount.setWatchdog _ none, ?_, fun _ => ⟨hheard, _, rfl, ?_, .nextCheck _ rfl⟩⟩
  · exact fun hnone => absurd hnone (Option.some_ne_none _)
  · exact Nat.le_add_right _ _

theorem watch (h : Guarded config heard set? s) (hheard : heard ≠ [])
    (caughtUp : Except InvocationError Unit) :
    Guarded config heard (set?.or (if caughtUp.isOk then some s.clock.now else none))
      (exec (watch caughtUp) s).2 := by
  rw [exec_watch]
  have hthere : s.watchdog.isNone ↔ set? = none := by
    obtain ⟨rounds, hs⟩ := h
    constructor
    · intro hnone
      by_contra hset
      obtain ⟨-, w, hw, -⟩ := hs.set (Option.isSome_iff_ne_none.2 hset)
      rw [hw] at hnone
      cases hnone
    · intro hset
      rw [hs.unset hset]
      rfl
  cases set? with
  | some instant =>
    have hsome : ¬ s.watchdog.isNone := by
      rw [hthere]
      exact Option.some_ne_none instant
    simp only [hsome, Bool.and_false, Bool.false_eq_true, if_false, Option.some_or]
    exact h
  | none =>
    simp only [hthere.2 rfl, Bool.and_true, Option.none_or]
    split
    · exact h.rest hheard
    · exact h

end Guarded

/-! ## Calls -/

/-- When a call lets the watchdog hear something. -/
def Call.hears (c : Call) (s : Simulation) : List Instant :=
  match c with
  | .start | .push _ => [s.clock.now]
  | _ => []

/-- When a call is over that sets the watchdog, if there is none. -/
def Call.sets? (c : Call) (s : Simulation) : Option Instant :=
  match c with
  | .start =>
    if (exec Simulation.start s).1.isOk then some (exec Simulation.start s).2.clock.now else none
  | _ => none

/-- When something is heard in the course of these calls. -/
def heardIn : List Call → Simulation → List Instant
  | [], _ => []
  | c :: rest, s => c.hears s ++ heardIn rest (exec c.carryOut s).2

/-- When the watchdog is set in the course of these calls. -/
def setIn : List Call → Simulation → Option Instant
  | [], _ => none
  | c :: rest, s => (c.sets? s).or (setIn rest (exec c.carryOut s).2)

theorem now_watch (caughtUp : Except InvocationError Unit) (s : Simulation) :
    (exec (watch caughtUp) s).2.clock.now = s.clock.now := by
  rw [exec_watch]
  dsimp only
  split
  · rfl
  · rfl

namespace Guarded

theorem start (h : Guarded config heard set? s) (hinterval : 0 < config.watchdogInterval) :
    Guarded config (heard ++ [s.clock.now]) (set?.or (Call.start.sets? s)) (exec start s).2 := by
  have hcaughtUp := h.startWorkers.catchUp hinterval
  rw [Call.sets?, exec_start, now_watch]
  have hresult := congrArg Prod.fst (exec_watch (exec Simulation.catchUp
    (exec Simulation.startWorkers s).2).1 (exec Simulation.catchUp (exec Simulation.startWorkers s).2).2)
  rw [hresult]
  exact hcaughtUp.watch (by simp) _

theorem onDispatcher {α : Type} (h : Guarded config heard set? s)
    (f : Dispatcher → α × Dispatcher) : Guarded config heard set? (exec (onDispatcher f) s).2 := by
  obtain ⟨rounds, hs⟩ := h
  exact ⟨rounds, hs.still ⟨rfl, rfl, rfl, rfl⟩ rfl⟩

/-- A call in which nothing is heard and no watchdog is set. -/
theorem unheard (h : Guarded config heard set? s) :
    Guarded config (heard ++ []) (set?.or none) s := by
  rwa [List.append_nil, Option.or_none]

theorem call (h : Guarded config heard set? s) (hinterval : 0 < config.watchdogInterval) {c : Call}
    (hc : c ≠ .stop) :
    Guarded config (heard ++ c.hears s) (set?.or (c.sets? s)) (exec c.carryOut s).2 := by
  cases c with
  | start => exact h.start hinterval
  | stop => exact absurd rfl hc
  | push p =>
    have hset : set?.or ((Call.push p).sets? s) = set? := Option.or_none
    rw [hset]
    exact h.push hinterval p
  | recover => exact (h.perform hinterval (Recovery.asks_recoverGaps s.config)).unheard
  | addHandler handler group => exact (h.onDispatcher (·.addHandler handler group)).unheard
  | removeHandler id group => exact (h.onDispatcher (·.removeHandler id group)).unheard
  | put envelope => exact (h.onDispatcher (·.put envelope)).unheard
  | wait delay =>
    obtain ⟨rounds, hs⟩ := h
    have hwaited : Guarded config heard set? (exec (waitFor delay) s).2 := hs.waitFor hinterval delay
    exact hwaited.unheard
  | settle =>
    obtain ⟨rounds, hs⟩ := h
    have hsettled : Guarded config heard set? (exec Simulation.settle s).2 := hs.settle hinterval
    exact hsettled.unheard

theorem session (h : Guarded config heard set? s) (hinterval : 0 < config.watchdogInterval)
    {calls : List Call} (hcalls : ∀ c ∈ calls, c ≠ .stop) :
    Guarded config (heard ++ heardIn calls s) (set?.or (setIn calls s)) (exec (session calls) s).2 := by
  induction calls generalizing heard set? s with
  | nil =>
    rw [heardIn, setIn, List.append_nil, Option.or_none]
    exact h
  | cons c rest ih =>
    obtain ⟨hc, hrest⟩ := List.forall_mem_cons.1 hcalls
    rw [heardIn, setIn, ← List.append_assoc, ← Option.or_assoc]
    exact ih (h.call hinterval hc) hrest

end Guarded

/-! ## What a probe leaves alone -/

/-- From one state to another the store, the queue and all that the dispatcher holds, and the time
of the last update are the same, and a watchdog is still there. -/
structure LeavesAlone (s t : Simulation) : Prop where
  records : t.records = s.records
  writes : t.writes = s.writes
  listings : t.listings = s.listings
  dispatcher : t.dispatcher = s.dispatcher
  lastUpdate : t.lastUpdate = s.lastUpdate
  watchdog : s.watchdog.isSome → t.watchdog.isSome

theorem LeavesAlone.trans {u : Simulation} (h : LeavesAlone s t) (h' : LeavesAlone t u) :
    LeavesAlone s u where
  records := h'.records.trans h.records
  writes := h'.writes.trans h.writes
  listings := h'.listings.trans h.listings
  dispatcher := h'.dispatcher.trans h.dispatcher
  lastUpdate := h'.lastUpdate.trans h.lastUpdate
  watchdog hs := h'.watchdog (h.watchdog hs)

theorem probing_leavesAlone (s : Simulation) :
    Probing (fun _ => True) (Same (LeavesAlone s)) := by
  refine .of_kept trivial (fun _ t hs => hs.trans ?_) (fun _ _ t hs => hs.trans ?_)
    fun _ _ _ t hs => hs.trans ?_
  · exact ⟨rfl, rfl, rfl, rfl, rfl, id⟩
  · exact ⟨rfl, rfl, rfl, rfl, rfl, id⟩
  · exact ⟨rfl, rfl, rfl, rfl, rfl, fun _ => rfl⟩

/-- Whatever the watchdog does when it is woken, and whatever comes of its probes. -/
theorem leavesAlone_wakeWatchdog (w : Watchdog) (s : Simulation) :
    LeavesAlone s (exec (wakeWatchdog w) s).2 :=
  respects_same_iff.1 ((probing_leavesAlone s).wakeWatchdog fun _ _ => trivial) s
    ⟨rfl, rfl, rfl, rfl, rfl, id⟩

/-! ## Sessions -/

/-- What the rounds of a watchdog are, set at this instant, where something was heard at these. -/
structure MakesRounds (config : Config) (heard : List Instant) (set? : Option Instant)
    (rounds : List Round) (s : Simulation) : Prop
    extends Guarding config heard set? rounds s where
  /-- Where something is heard at least once in an interval there are no probes. -/
  chatter : (heard.IsChain fun t t' => t' ≤ t + config.watchdogInterval) →
    (∀ t ∈ heard.getLast?, s.clock.now ≤ t + config.watchdogInterval) →
    ∀ r ∈ rounds, r.probe = none
  /-- Where nothing is heard from one check to the next, the next is followed by a probe. -/
  silence : ∀ earlier first second later, rounds = earlier ++ first :: second :: later →
    (∀ t ∈ heard, t < first.check ∨ second.check < t) → second.probe.isSome

/-- In a session without a stop the watchdog, once it is set, makes one round after the other,
whatever is called, however the server answers and however long it takes.  A round begins an
interval after the one before was over, and it has a probe exactly if nothing was heard for longer
than an interval; no check is late, and nobody else asks for the state.  What the watchdog does
leaves alone what is stored and queued and when an update was last received. -/
theorem session_rounds (config : Config) (hinterval : 0 < config.watchdogInterval) (script : Script)
    (records : Records) (calls : List Call) (hcalls : ∀ c ∈ calls, c ≠ .stop) :
    (∃ rounds, MakesRounds config (heardIn calls (ofConfig config script records))
      (setIn calls (ofConfig config script records)) rounds
      (exec (session calls) (ofConfig config script records)).2) ∧
    ∀ w s, LeavesAlone s (exec (wakeWatchdog w) s).2 := by
  refine ⟨?_, leavesAlone_wakeWatchdog⟩
  have hbegin : Guarded config [] none (ofConfig config script records) := by
    refine ⟨[], ⟨rfl, nofun, nofun, nofun, allInTurn_nil, rfl⟩, fun _ => rfl, nofun⟩
  obtain ⟨rounds, hrounds⟩ := hbegin.session hinterval hcalls
  rw [List.nil_append, Option.none_or] at hrounds
  refine ⟨rounds, hrounds, ?_, ?_⟩
  · exact Watchdog.no_probe_of_chatter hrounds.inTurn hrounds.checked
  · exact fun earlier first second later => Watchdog.probe_of_silence hrounds.inTurn

/-- A client whose watchdog has an interval of one second. -/
def everySecond : Config := { retry := RetryPolicy.never, watchdogInterval := 1000 }

/-- There is one answer, which takes its time, and then nobody answers. -/
def lateAnswer : Script where
  replies := [{ reply := .ok (.state ⟨1, 0, 0, 0, 0⟩), delay := 300 }]
  resolve _ := .error .dropped

/-- After a start one push comes in, and then nothing for three seconds. -/
def lonePush : List Call := [.start, .wait 1500, .push .tooLong, .wait 3000]

/-- The checks after one second and after two find that something has just been heard; the one
after three is followed by a probe, and so is the next, which comes later by the time that the
answer took. -/
theorem session_rounds_lonePush :
    0 < everySecond.watchdogInterval ∧ (∀ c ∈ lonePush, c ≠ .stop) ∧
      (∃ rounds, MakesRounds everySecond (heardIn lonePush (ofConfig everySecond lateAnswer ∅))
        (setIn lonePush (ofConfig everySecond lateAnswer ∅)) rounds
        (exec (session lonePush) (ofConfig everySecond lateAnswer ∅)).2) ∧
      heardIn lonePush (ofConfig everySecond lateAnswer ∅) = [0, 1500] ∧
      setIn lonePush (ofConfig everySecond lateAnswer ∅) = some 0 ∧
      (exec (session lonePush) (ofConfig everySecond lateAnswer ∅)).2.probes.map (·.instant) =
        [3000, 4300] := by
  have hinterval : 0 < everySecond.watchdogInterval := by decide
  have hcalls : ∀ c ∈ lonePush, c ≠ .stop := by simp [lonePush]
  have hrounds := session_rounds everySecond hinterval lateAnswer ∅ lonePush hcalls
  exact ⟨hinterval, hcalls, hrounds.1, rfl, rfl, by decide +kernel⟩

end Simulation

end UpdatePipeline
