import UpdatePipeline.Proofs.Simulation.Invoking
import UpdatePipeline.Proofs.Watchdog.Rounds
set_option autoImplicit false

/-!
# The watchdog in time

The account of a watchdog lists its rounds, the latest of which may have a probe under way; every
attempt that asks for the state belongs to one of them (`Simulation.Account`).  A watchdog that
is woken when it is due goes on with the account and sets its next timer to a later instant
(`Account.wake`).  So nothing that goes on in the background lets it be overdue
(`Guarding.runBackground`).
-/

namespace UpdatePipeline

open Invocation (Attempt Failure Conduct afterFailures span)
open Schema (Request Response)
open Watchdog (Probe Round rested?)

/-- Whether an attempt was seen that asks for the state. -/
def Observation.isProbe (o : Observation) : Bool :=
  match o.occurrence with
  | .sent .getState _ => true
  | _ => false

/-- What is seen of a round's attempts. -/
def Watchdog.Round.observations (r : Round) : List Observation :=
  r.attempts.map (·.observation .getState)

namespace Simulation

/-- The attempts that asked for the state, in order. -/
def probes (s : Simulation) : List Observation := s.observations.reverse.filter Observation.isProbe

theorem probes_observe (o : Occurrence) (s : Simulation) :
    probes (exec (observe o) s).2 =
      probes s ++ [(⟨s.clock.now, o⟩ : Observation)].filter Observation.isProbe := by
  show (_ :: s.observations).reverse.filter _ = _
  rw [List.reverse_cons, List.filter_append]
  rfl

/-- Workers ask for nothing. -/
theorem probes_runDispatcher (f : Dispatcher → Clock → Dispatcher.Trace × Dispatcher × Clock)
    (s : Simulation) : probes (exec (runDispatcher f) s).2 = probes s := by
  obtain ⟨more, hmore, hall⟩ : ∃ more, (exec (runDispatcher f) s).2.observations =
      more ++ s.observations ∧ ∀ o ∈ more, ¬ Observation.isProbe o := by
    refine ⟨_, rfl, ?_⟩
    intro o ho
    obtain ⟨⟨instant, event⟩, -, rfl⟩ := List.mem_map.1 (List.mem_reverse.1 ho)
    cases event <;> exact Bool.false_ne_true
  unfold probes
  rw [hmore, List.reverse_append, List.filter_append,
    List.filter_eq_nil_iff.2 fun o ho => hall o (List.mem_reverse.1 ho), List.append_nil]

/-- These are the rounds of the watchdog, set at this instant, where something was heard at
these. -/
structure Account (config : Config) (heard : List Instant) (set? : Option Instant)
    (rounds : List Round) (s : Simulation) : Prop where
  configured : s.config = config
  lastUpdate : ∀ t ∈ heard.getLast?, s.lastUpdate = t
  past : ∀ t ∈ heard, t ≤ s.clock.now
  checked : ∀ r ∈ rounds, r.check ≤ s.clock.now
  inTurn : AllInTurn (Round.Follows config heard set?) rounds
  seen : s.probes = rounds.flatMap Round.observations

/-- After these rounds the watchdog waits for its next check, for a reply that is on its way, or for
the next attempt of a probe. -/
inductive WaitsFor (config : Config) (set? : Option Instant) : List Round → Watchdog → Prop where
  | nextCheck {rounds : List Round} {since : Instant} (ticket : Nat) :
      rested? set? rounds = some since →
      WaitsFor config set? rounds ⟨⟨since + config.watchdogInterval, ticket⟩, none⟩
  | reply (earlier : List Round) (check last : Instant) (failures : List Failure) (a : Attempt)
      (ticket : Nat) :
      WaitsFor config set? (earlier ++ [.underWay check last failures (some a)])
        ⟨⟨a.arrival, ticket⟩, some (.reply (afterFailures .getState failures) a.reply)⟩
  | nextAttempt (earlier : List Round) (check last : Instant) (failures : List Failure)
      (ticket : Nat) :
      WaitsFor config set? (earlier ++ [.underWay check last failures none])
        ⟨⟨check + span failures, ticket⟩, some (.retry (afterFailures .getState failures))⟩

/-- The watchdog is set to an instant that is yet to come. -/
def Rearmed (config : Config) (heard : List Instant) (set? : Option Instant) (s : Simulation) :
    Prop :=
  ∃ rounds w, Account config heard set? rounds s ∧ s.watchdog = some w ∧
    s.clock.now < w.timer.due ∧ WaitsFor config set? rounds w

variable {config : Config} {heard : List Instant} {set? : Option Instant}
  {rounds earlier : List Round} {check last : Instant} {failures : List Failure}
  {s t : Simulation}

namespace Account

/-! ## Steps that leave the rounds as they are -/

theorem later (h : Account config heard set? rounds s) (hconfig : t.config = s.config)
    (hlast : t.lastUpdate = s.lastUpdate) (hnow : s.clock.now ≤ t.clock.now)
    (hprobes : t.probes = s.probes) : Account config heard set? rounds t where
  configured := hconfig.trans h.configured
  lastUpdate instant hinstant := hlast.trans (h.lastUpdate instant hinstant)
  past instant hinstant := Nat.le_trans (h.past instant hinstant) hnow
  checked r hr := Nat.le_trans (h.checked r hr) hnow
  inTurn := h.inTurn
  seen := hprobes.trans h.seen

theorem runDispatcher {f : Dispatcher → Clock → Dispatcher.Trace × Dispatcher × Clock}
    (h : Account config heard set? rounds s) (hnow : s.clock.now ≤ (f s.dispatcher s.clock).2.2.now) :
    Account config heard set? rounds (exec (runDispatcher f) s).2 :=
  h.later rfl rfl hnow (probes_runDispatcher f s)

theorem moveClock (h : Account config heard set? rounds s) (instant : Instant) :
    Account config heard set? rounds (exec (moveClock instant) s).2 :=
  h.later rfl rfl (s.clock.le_moveTo instant) rfl

theorem report (h : Account config heard set? rounds s) (notice : Notice) :
    Account config heard set? rounds (exec (report notice) s).2 := by
  refine h.later rfl rfl (Nat.le_refl _) ?_
  unfold Simulation.report
  rw [probes_observe]
  exact List.append_nil _

theorem reportAll (h : Account config heard set? rounds s) (notice : Option Notice) :
    Account config heard set? rounds (exec (notice.forM Simulation.report) s).2 := by
  cases notice with
  | none => exact h
  | some notice => exact h.report notice

theorem setWatchdog (h : Account config heard set? rounds s) (delay : Duration)
    (probe : Option Pending) :
    Account config heard set? rounds (exec (setWatchdog delay probe) s).2 :=
  h.later rfl rfl (Nat.le_refl _) rfl

/-- Something is heard. -/
theorem hear (h : Account config heard set? rounds s) :
    Account config (heard ++ [s.clock.now]) set? rounds { s with lastUpdate := s.clock.now } where
  configured := h.configured
  lastUpdate instant hinstant := by
    rw [List.getLast?_concat] at hinstant
    exact Option.some.inj hinstant
  past instant hinstant := by
    rcases List.mem_append.1 hinstant with hold | hnew
    · exact h.past instant hold
    · exact Nat.le_of_eq (List.mem_singleton.1 hnew)
  checked := h.checked
  inTurn := by
    rintro before r behind rfl
    exact (h.inTurn before r behind rfl).hear (h.checked r (by simp))
  seen := h.seen

/-! ## Steps of a round -/

/-- A check is made, and if it finds silence a probe begins. -/
theorem checkNow (h : Account config heard set? rounds s) (hheard : heard ≠ []) {since : Instant}
    (hsince : rested? set? rounds = some since)
    (hdue : s.clock.now = since + config.watchdogInterval) (probe : Option Probe)
    (hprobed : probe.isSome ↔ config.watchdogInterval < s.clock.now - s.lastUpdate)
    (hbegun : ∀ p ∈ probe, p = ⟨[], none, none⟩) :
    Account config heard set? (rounds ++ [⟨s.clock.now, s.lastUpdate, probe⟩]) s where
  configured := h.configured
  lastUpdate := h.lastUpdate
  past := h.past
  checked := by
    intro r hr
    rcases List.mem_append.1 hr with hold | hnew
    · exact h.checked r hold
    · exact Nat.le_of_eq (congrArg Round.check (List.mem_singleton.1 hnew))
  inTurn := by
    refine allInTurn_concat.2 ⟨h.inTurn, ?_⟩
    constructor
    case due => exact ⟨since, hsince, hdue⟩
    case last =>
      refine ⟨heard, [], (List.append_nil _).symm, ?_, h.past, nofun⟩
      obtain ⟨instant, hinstant⟩ := Option.ne_none_iff_exists'.1 (mt List.getLast?_eq_none_iff.1 hheard)
      rw [hinstant, h.lastUpdate instant hinstant]
    case probed => exact hprobed
    case proceeds =>
      intro p hp
      rw [hbegun p hp]
      exact ⟨.nil, nofun, nofun⟩
  seen := by
    have hnothing : Round.observations ⟨s.clock.now, s.lastUpdate, probe⟩ = [] := by
      cases probe with
      | none => rfl
      | some p =>
        rw [hbegun p rfl]
        rfl
    rw [List.flatMap_append, List.flatMap_singleton, hnothing, List.append_nil]
    exact h.seen

/-- The probe of the latest round goes on, and so many more attempts are seen. -/
theorem goOn {p p' : Probe} {more : List Attempt}
    (h : Account config heard set? (earlier ++ [⟨check, last, some p⟩]) s)
    (hstill : t.config = s.config ∧ t.lastUpdate = s.lastUpdate ∧ t.clock = s.clock)
    (hseen : t.probes = s.probes ++ more.map (·.observation .getState))
    (hattempts : p'.attempts = p.attempts ++ more) (hproceeds : p'.Proceeds config.retry check) :
    Account config heard set? (earlier ++ [⟨check, last, some p'⟩]) t := by
  obtain ⟨hconfig, hlast, hclock⟩ := hstill
  obtain ⟨hearlier, hlatest⟩ := allInTurn_concat.1 h.inTurn
  constructor
  case configured => exact hconfig.trans h.configured
  case lastUpdate => exact fun instant hinstant => hlast.trans (h.lastUpdate instant hinstant)
  case past => exact hclock ▸ h.past
  case checked =>
    intro r hr
    rw [hclock]
    rcases List.mem_append.1 hr with hold | hnew
    · exact h.checked r (List.mem_append_left _ hold)
    · rw [List.mem_singleton.1 hnew]
      exact h.checked ⟨check, last, some p⟩ (by simp)
  case inTurn => exact allInTurn_concat.2 ⟨hearlier, hlatest.goOn hproceeds⟩
  case seen =>
    have hobservations : ∀ q : Probe,
        Round.observations ⟨check, last, some q⟩ = q.attempts.map (·.observation .getState) := by
      intro q
      simp [Round.observations, Round.attempts]
    rw [hseen, h.seen, List.flatMap_append, List.flatMap_append, List.flatMap_singleton,
      List.flatMap_singleton, hobservations, hobservations, hattempts, List.map_append,
      List.append_assoc]

/-- The next attempt is sent. -/
theorem send (h : Account config heard set? (earlier ++ [.underWay check last failures none]) s)
    (hnow : s.clock.now = check + span failures) :
    Account config heard set?
      (earlier ++ [.underWay check last failures (some (nextAttempt .getState s))])
      (exec (send .getState) s).2 := by
  have hconduct := ((allInTurn_concat.1 h.inTurn).2.proceeds _ rfl).conduct
  have hseen : (exec (Simulation.send .getState) s).2.probes =
      s.probes ++ [nextAttempt .getState s].map (·.observation .getState) :=
    probes_observe _ { s with script := (s.script.next .getState).2 }
  refine h.goOn ⟨rfl, rfl, rfl⟩ hseen ?_ ⟨hconduct, ?_, nofun⟩
  · simp [Probe.attempts]
  · intro a ha
    obtain rfl := Option.mem_some.1 ha
    exact hnow

/-! ## The watchdog wakes -/

/-- The watchdog goes to sleep when a round is over. -/
theorem rest (h : Account config heard set? rounds s) (hinterval : 0 < config.watchdogInterval)
    (hended : rested? set? rounds = some s.clock.now) :
    Rearmed config heard set? (exec restWatchdog s).2 := by
  rw [restWatchdog, exec_bind, exec_get, h.configured]
  refine ⟨rounds, _, h.setWatchdog _ none, rfl, ?_, .nextCheck s.clock.ticket hended⟩
  exact Nat.lt_add_of_pos_right hinterval

theorem endProbe (h : Account config heard set? rounds s) (hinterval : 0 < config.watchdogInterval)
    (hended : rested? set? rounds = some s.clock.now) (result : Reply) :
    Rearmed config heard set? (exec (endProbe result) s).2 := by
  unfold Simulation.endProbe
  dsimp only
  split
  · exact h.rest hinterval hended
  · exact (h.report _).rest hinterval hended

/-- A reply has come that ends the probe. -/
theorem finish {a : Attempt} {result : Reply}
    (h : Account config heard set? (earlier ++ [.underWay check last failures (some a)]) s)
    (hends : Invocation.Concludes config.retry .ok failures a.reply result) :
    Account config heard set?
      (earlier ++ [⟨check, last, some ⟨failures, some a, some a.arrival⟩⟩]) s := by
  have hproceeds := (allInTurn_concat.1 h.inTurn).2.proceeds _ rfl
  refine h.goOn ⟨rfl, rfl, rfl⟩ (List.append_nil _).symm (List.append_nil _).symm
    ⟨hproceeds.conduct, hproceeds.sentAt, ?_⟩
  intro instant hinstant
  obtain rfl := Option.mem_some.1 hinstant
  exact .inl ⟨a, rfl, rfl, _, hends.bind⟩

/-- A reply has come after which the probe waits for its next attempt. -/
theorem fail {f : Failure}
    (h : Account config heard set? (earlier ++ [.underWay check last failures (some f.attempt)]) s)
    (hgranted : config.retry (Invocation.question failures f.error) = .retryAfter f.wait f.notice) :
    Account config heard set? (earlier ++ [.underWay check last (failures ++ [f]) none]) s ∧
      check + span (failures ++ [f]) = f.attempt.arrival + f.wait := by
  have hproceeds := (allInTurn_concat.1 h.inTurn).2.proceeds _ rfl
  have hinstant : f.instant = check + span failures := hproceeds.sentAt f.attempt rfl
  have hattempts : Probe.attempts ⟨failures ++ [f], none, none⟩ =
      Probe.attempts ⟨failures, some f.attempt, none⟩ ++ [] := by
    simp [Probe.attempts]
  exact ⟨h.goOn ⟨rfl, rfl, rfl⟩ (List.append_nil _).symm hattempts
    ⟨hproceeds.conduct.concat hgranted hinstant, nofun, nofun⟩, Invocation.add_span_concat hinstant⟩

/-- A reply has come: either it ends the probe, or it is one failure more. -/
theorem receiveProbe {a : Attempt} {again : Invocation → SimulationM Unit}
    (h : Account config heard set? (earlier ++ [.underWay check last failures (some a)]) s)
    (hinterval : 0 < config.watchdogInterval) (hnow : s.clock.now = a.arrival)
    (hagain : ∀ f t,
      Account config heard set? (earlier ++ [.underWay check last (failures ++ [f]) none]) t →
      t.clock.now = check + span (failures ++ [f]) →
      Rearmed config heard set? (exec (again (afterFailures .getState (failures ++ [f]))) t).2) :
    Rearmed config heard set?
      (exec (receiveProbe again (afterFailures .getState failures) a.reply) s).2 := by
  rw [Simulation.receiveProbe, exec_bind, exec_get, h.configured]
  dsimp only
  cases hnext : (afterFailures .getState failures).onReply config.retry a.reply with
  | finished result =>
    refine (h.finish (Invocation.concludes_of_onReply hnext)).endProbe hinterval ?_ result
    rw [Watchdog.rested?_concat, hnow]
    rfl
  | retry delay notice next =>
    obtain ⟨f, rfl, rfl, hgranted, rfl⟩ := Invocation.granted_of_onReply hnext
    obtain ⟨hwaiting, hspan⟩ := h.fail hgranted
    have hreported := hwaiting.reportAll notice
    have hclock := now_reportAll notice s
    dsimp only
    rw [exec_bind]
    generalize (exec (notice.forM Simulation.report) s).2 = t at hreported hclock ⊢
    have hthen : check + span (failures ++ [f]) = t.clock.now + f.wait := by
      rw [hspan, hclock, hnow]
    split
    · rename_i hatOnce
      refine hagain f t hreported ?_
      rw [hthen, hatOnce, Nat.add_zero]
    · rename_i hwait
      have hstage : WaitsFor config set? (earlier ++ [.underWay check last (failures ++ [f]) none])
          ⟨t.clock.timer f.wait, some (.retry (afterFailures .getState (failures ++ [f])))⟩ := by
        unfold Clock.timer
        rw [← hthen]
        exact .nextAttempt _ _ _ _ _
      exact ⟨_, _, hreported.setWatchdog f.wait _, rfl,
        Nat.lt_add_of_pos_right (Nat.pos_of_ne_zero hwait), hstage⟩

/-- The next attempt of a probe is sent. -/
theorem sendProbe (h : Account config heard set? (earlier ++ [.underWay check last failures none]) s)
    (hinterval : 0 < config.watchdogInterval) (hnow : s.clock.now = check + span failures)
    (left : Nat) (hleft : Invocation.maxFailCount < failures.length + left) :
    Rearmed config heard set? (exec (sendProbe left (afterFailures .getState failures)) s).2 := by
  induction left generalizing failures s with
  | zero =>
    -- nothing but a policy that grants any number of attempts without a wait comes here
    have hproceeds := (allInTurn_concat.1 h.inTurn).2.proceeds _ rfl
    have hended : Account config heard set?
        (earlier ++ [⟨check, last, some ⟨failures, none, some s.clock.now⟩⟩]) s := by
      refine h.goOn ⟨rfl, rfl, rfl⟩ (List.append_nil _).symm (List.append_nil _).symm
        ⟨hproceeds.conduct, nofun, ?_⟩
      intro instant hinstant
      obtain rfl := Option.mem_some.1 hinstant
      exact .inr ⟨rfl, hnow, hleft⟩
    exact hended.endProbe hinterval Watchdog.rested?_concat _
  | succ left ih =>
    have hsent := h.send hnow
    rw [Simulation.sendProbe, exec_bind]
    split
    · rename_i hatOnce
      have harrival : (exec (Simulation.send .getState) s).2.clock.now =
          (nextAttempt .getState s).arrival := by
        rw [now_send]
        exact (congrArg (s.clock.now + ·) hatOnce).symm
      refine hsent.receiveProbe hinterval harrival fun f t ht hnow' => ih ht hnow' ?_
      rw [List.length_append, List.length_singleton]
      omega
    · rename_i htravel
      exact ⟨_, _, hsent.setWatchdog _ _, rfl,
        Nat.lt_add_of_pos_right (Nat.pos_of_ne_zero htravel), .reply _ _ _ _ _ _⟩

/-- A watchdog that is woken when it is due goes on with the account. -/
theorem wake (h : Account config heard set? rounds s) (hheard : heard ≠ [])
    (hinterval : 0 < config.watchdogInterval) {w : Watchdog} (hstage : WaitsFor config set? rounds w)
    (hnow : s.clock.now = w.timer.due) :
    Rearmed config heard set? (exec (wakeWatchdog w) s).2 := by
  have hlimit : Invocation.maxFailCount < s.attemptLimit := by
    unfold attemptLimit
    omega
  rw [wakeWatchdog, exec_bind, exec_get]
  cases hstage with
  | nextCheck ticket hsince =>
    dsimp only
    rw [h.configured]
    split
    · rename_i hsilent
      have hsilence : config.watchdogInterval < s.clock.now - s.lastUpdate :=
        of_decide_eq_true hsilent
      have hbegun := h.checkNow hheard hsince hnow (some ⟨[], none, none⟩)
        (by simpa using hsilence) (fun p hp => (Option.mem_some.1 hp).symm)
      exact hbegun.sendProbe hinterval rfl s.attemptLimit (by simpa using hlimit)
    · rename_i hlively
      have hnoSilence : ¬ config.watchdogInterval < s.clock.now - s.lastUpdate :=
        fun hsilence => hlively (decide_eq_true hsilence)
      have hchecked := h.checkNow hheard hsince hnow none (by simpa using hnoSilence) nofun
      exact hchecked.rest hinterval Watchdog.rested?_concat
  | reply earlier check last failures a ticket =>
    exact h.receiveProbe hinterval hnow fun f t ht hnow' =>
      ht.sendProbe hinterval hnow' s.attemptLimit (Nat.lt_add_left _ hlimit)
  | nextAttempt earlier check last failures ticket =>
    exact h.sendProbe hinterval hnow s.attemptLimit (Nat.lt_add_left _ hlimit)

end Account

/-! ## The background -/

/-- The account of the watchdog is kept, and it is not overdue; until it is set there is none. -/
structure Guarding (config : Config) (heard : List Instant) (set? : Option Instant)
    (rounds : List Round) (s : Simulation) : Prop
    extends Account config heard set? rounds s where
  unset : set? = none → s.watchdog = none
  set : set?.isSome → heard ≠ [] ∧ ∃ w, s.watchdog = some w ∧ s.clock.now ≤ w.timer.due ∧
    WaitsFor config set? rounds w

namespace Guarding

/-- As long as the watchdog is left alone, it must not become overdue. -/
theorem later (h : Guarding config heard set? rounds s)
    (haccount : Account config heard set? rounds t) (hwatchdog : t.watchdog = s.watchdog)
    (hnow : ∀ w ∈ s.watchdog, t.clock.now ≤ w.timer.due) : Guarding config heard set? rounds t where
  toAccount := haccount
  unset hset := hwatchdog.trans (h.unset hset)
  set hset := by
    obtain ⟨hheard, w, hw, -, hstage⟩ := h.set hset
    exact ⟨hheard, w, hwatchdog.trans hw, hnow w hw, hstage⟩

theorem isSet (h : Guarding config heard set? rounds s) {w : Watchdog} (hw : s.watchdog = some w) :
    set?.isSome := by
  cases hset : set? with
  | none =>
    rw [h.unset hset] at hw
    cases hw
  | some instant => rfl

theorem due (h : Guarding config heard set? rounds s) {w : Watchdog} (hw : w ∈ s.watchdog) :
    s.clock.now ≤ w.timer.due := by
  obtain ⟨-, w', hw', hdue, -⟩ := h.set (h.isSet hw)
  obtain rfl := Option.some.inj (hw'.symm.trans hw)
  exact hdue

theorem moveClock (h : Guarding config heard set? rounds s) {instant : Instant}
    (hdue : ∀ w ∈ s.watchdog, instant ≤ w.timer.due) :
    Guarding config heard set? rounds (exec (moveClock instant) s).2 :=
  h.later (h.toAccount.moveClock instant) rfl fun w hw => Nat.max_le.2 ⟨h.due hw, hdue w hw⟩

theorem runUntil (h : Guarding config heard set? rounds s) {limit : Instant}
    (hdue : ∀ w ∈ s.watchdog, limit ≤ w.timer.due) :
    Guarding config heard set? rounds
      (exec (Simulation.runDispatcher (Dispatcher.runUntil limit)) s).2 := by
  have haccount := h.toAccount.runDispatcher (s.dispatcher.le_now_runUntil limit s.clock)
  refine h.later haccount rfl fun w hw => ?_
  have hlater := s.dispatcher.now_runUntil_lt (Nat.le_succ_of_le (hdue w hw))
    (Nat.lt_succ_of_le (h.due hw))
  exact Nat.le_of_lt_succ hlater

/-- Once the watchdog is woken, it is set to a later instant. -/
theorem wake (h : Guarding config heard set? rounds s) (hinterval : 0 < config.watchdogInterval)
    {w : Watchdog} (hw : s.watchdog = some w) :
    ∃ rounds' w', Guarding config heard set? rounds' (exec (wakeWatchdog w)
        (exec (Simulation.moveClock w.timer.due)
          (exec (Simulation.runDispatcher (Dispatcher.runUntil w.timer.due)) s).2).2).2 ∧
      (exec (wakeWatchdog w) (exec (Simulation.moveClock w.timer.due)
          (exec (Simulation.runDispatcher (Dispatcher.runUntil w.timer.due)) s).2).2).2.watchdog =
        some w' ∧ w.timer.due < w'.timer.due := by
  have hset := h.isSet hw
  obtain ⟨hheard, w₀, hw₀, -, hstage⟩ := h.set hset
  obtain rfl : w₀ = w := Option.some.inj (hw₀.symm.trans hw)
  have hsame : ∀ w' ∈ s.watchdog, w₀.timer.due ≤ w'.timer.due := by
    intro w' hw'
    obtain rfl := Option.some.inj (hw.symm.trans hw')
    exact Nat.le_refl _
  have hbefore := h.runUntil hsame
  have hpast := hbefore.due hw
  generalize (exec (Simulation.runDispatcher (Dispatcher.runUntil w₀.timer.due)) s).2 = t
    at hbefore hpast ⊢
  have hnow : (exec (Simulation.moveClock w₀.timer.due) t).2.clock.now = w₀.timer.due :=
    Clock.now_moveTo_of_le hpast
  obtain ⟨rounds', w', haccount, hw', hdue, hstage'⟩ :=
    (hbefore.toAccount.moveClock w₀.timer.due).wake hheard hinterval hstage hnow
  have hlater : w₀.timer.due < w'.timer.due := by
    rwa [now_wakeWatchdog, hnow] at hdue
  refine ⟨rounds', w', ⟨haccount, ?_, ?_⟩, hw', hlater⟩
  · intro hnone
    rw [hnone] at hset
    cases hset
  · exact fun _ => ⟨hheard, w', hw', Nat.le_of_lt hdue, hstage'⟩

/-- Nothing is left that was due before the limit, if there is time enough to wake the watchdog. -/
theorem runBackground (h : Guarding config heard set? rounds s)
    (hinterval : 0 < config.watchdogInterval) (limit : Instant) (count : Nat)
    (hcount : ∀ w ∈ s.watchdog, limit - w.timer.due ≤ count) :
    ∃ rounds', Guarding config heard set? rounds' (exec (runBackground count limit) s).2 ∧
      ∀ w ∈ (exec (runBackground count limit) s).2.watchdog, limit ≤ w.timer.due := by
  induction count generalizing rounds s with
  | zero =>
    have hdue : ∀ w ∈ s.watchdog, limit ≤ w.timer.due :=
      fun w hw => Nat.sub_eq_zero_iff_le.1 (Nat.le_zero.1 (hcount w hw))
    exact ⟨rounds, h.runUntil hdue, hdue⟩
  | succ count ih =>
    rw [Simulation.runBackground, exec_bind, exec_get]
    dsimp only
    cases hw : s.watchdog with
    | none =>
      have hdue : ∀ w ∈ s.watchdog, limit ≤ w.timer.due := by simp [hw]
      exact ⟨rounds, h.runUntil hdue, hdue⟩
    | some w =>
      dsimp only
      split
      · rename_i hearly
        rw [exec_bind, exec_bind, exec_bind]
        obtain ⟨rounds', w', hguarding, hw', hlater⟩ := h.wake hinterval hw
        refine ih hguarding fun w'' hw'' => ?_
        obtain rfl := Option.some.inj (hw'.symm.trans hw'')
        rw [Nat.sub_le_iff_le_add]
        calc limit
          _ ≤ count + 1 + w.timer.due := Nat.sub_le_iff_le_add.1 (hcount w hw)
          _ = count + (w.timer.due + 1) := by rw [Nat.add_assoc, Nat.add_comm 1]
          _ ≤ count + w'.timer.due := Nat.add_le_add_left hlater count
      · rename_i hdue
        have hdue : ∀ w' ∈ s.watchdog, limit ≤ w'.timer.due := by
          intro w' hw'
          obtain rfl := Option.some.inj (hw.symm.trans hw')
          exact Nat.le_of_not_lt hdue
        exact ⟨rounds, h.runUntil hdue, hdue⟩

theorem passUntil (h : Guarding config heard set? rounds s)
    (hinterval : 0 < config.watchdogInterval) (limit : Instant) :
    ∃ rounds', Guarding config heard set? rounds' (exec (passUntil limit) s).2 ∧
      ∀ w ∈ (exec (passUntil limit) s).2.watchdog, limit ≤ w.timer.due := by
  rw [exec_passUntil]
  exact h.runBackground hinterval limit _ fun w hw => Nat.sub_le_sub_left (h.due hw) limit

theorem settle (h : Guarding config heard set? rounds s) (hinterval : 0 < config.watchdogInterval) :
    ∃ rounds', Guarding config heard set? rounds' (exec settle s).2 := by
  obtain ⟨rounds', hguarding, -⟩ := h.passUntil hinterval (s.clock.now + 1)
  rw [exec_settle]
  generalize (exec (Simulation.passUntil (s.clock.now + 1)) s).2 = t at hguarding ⊢
  have hnow := now_drainQueue t
  have haccount : Account config heard set? rounds' (exec drainQueue t).2 :=
    hguarding.toAccount.runDispatcher (Nat.le_of_eq hnow.symm)
  exact ⟨rounds', hguarding.later haccount rfl fun w hw => hnow ▸ hguarding.due hw⟩

theorem waitFor (h : Guarding config heard set? rounds s)
    (hinterval : 0 < config.watchdogInterval) (delay : Duration) :
    ∃ rounds', Guarding config heard set? rounds' (exec (waitFor delay) s).2 := by
  by_cases hdelay : delay = 0
  · rw [hdelay, exec_waitFor_zero]
    exact ⟨rounds, h⟩
  · rw [exec_waitFor_of_pos hdelay]
    obtain ⟨rounds₁, hsettled⟩ := h.settle hinterval
    obtain ⟨rounds₂, hpassed, hdue⟩ := hsettled.passUntil hinterval (s.clock.now + delay)
    exact ⟨rounds₂, hpassed.moveClock hdue⟩

end Guarding

end Simulation

end UpdatePipeline
