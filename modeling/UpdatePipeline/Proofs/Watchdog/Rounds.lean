import Mathlib.Data.List.Chain
import UpdatePipeline.Config
import UpdatePipeline.Proofs.Invocation.Conduct
import UpdatePipeline.Watchdog
set_option autoImplicit false

/-!
# The rounds of a watchdog

A round begins with a check, one interval after the round before was over, and the first one
interval after the watchdog was set.  If at the check nothing has been heard for longer than an
interval, a probe follows, which is one invocation; the round is over with it, or else at once
(`Watchdog.Round.Follows`).  So as long as something is heard at least once in an interval no
round has a probe (`Watchdog.no_probe_of_chatter`), and in silence every round has one that
follows another round (`Watchdog.probe_of_silence`).
-/

namespace UpdatePipeline

open Schema (Request Response)

namespace Watchdog

open Invocation (Attempt Failure Conduct Concludes span)

/-- One invocation of `getState`, as far as it has come. -/
structure Probe where
  failures : List Failure
  /-- The attempt after them, once it is sent. -/
  sent : Option Attempt
  ended : Option Instant

/-- A check, and the probe that followed it, if one did. -/
structure Round where
  check : Instant
  /-- When something was last heard before. -/
  heard : Instant
  probe : Option Probe

/-- Its attempts, in order. -/
def Probe.attempts (p : Probe) : List Attempt := p.failures.map (·.attempt) ++ p.sent.toList

namespace Round

/-- The attempts of its probe. -/
def attempts (r : Round) : List Attempt := r.probe.toList.flatMap Probe.attempts

/-- When a round was over, if it is. -/
def ended? (r : Round) : Option Instant :=
  match r.probe with
  | none => some r.check
  | some p => p.ended

/-- A round with a probe that is under way. -/
def underWay (check heard : Instant) (failures : List Failure) (sent : Option Attempt) : Round where
  check
  heard
  probe := some { failures, sent, ended := none }

end Round

/-- When the watchdog, set at this instant, began to sleep after these rounds, if it sleeps. -/
def rested? (set? : Option Instant) (rounds : List Round) : Option Instant :=
  match rounds.getLast? with
  | none => set?
  | some r => r.ended?

/-- How a probe proceeds that was begun at this instant.  It is over with the reply that ends the
invocation; only a policy that grants more attempts than can be counted is cut short. -/
structure Probe.Proceeds (policy : RetryPolicy) (begun : Instant) (p : Probe) : Prop where
  conduct : Conduct policy begun p.failures
  sentAt : ∀ a ∈ p.sent, a.instant = begun + span p.failures
  ended : ∀ t ∈ p.ended,
    (∃ a ∈ p.sent, t = a.arrival ∧
      ∃ result, Concludes policy Response.asState p.failures a.reply result) ∨
    (p.sent = none ∧ t = begun + span p.failures ∧
      Invocation.maxFailCount < p.failures.length)

/-- How a round follows others, where something was heard at these instants. -/
structure Round.Follows (config : Config) (heard : List Instant) (set? : Option Instant)
    (earlier : List Round) (r : Round) : Prop where
  due : ∃ since, rested? set? earlier = some since ∧ r.check = since + config.watchdogInterval
  last : ∃ before behind, heard = before ++ behind ∧ before.getLast? = some r.heard ∧
    (∀ t ∈ before, t ≤ r.check) ∧ ∀ t ∈ behind, r.check ≤ t
  probed : r.probe.isSome ↔ config.watchdogInterval < r.check - r.heard
  proceeds : ∀ p ∈ r.probe, p.Proceeds config.retry r.check

variable {config : Config} {heard : List Instant} {set? : Option Instant} {rounds earlier : List Round}
  {r : Round}

theorem rested?_concat : rested? set? (rounds ++ [r]) = r.ended? := by
  unfold rested?
  rw [List.getLast?_concat]

theorem Probe.Proceeds.le_ended {policy : RetryPolicy} {begun t : Instant} {p : Probe}
    (h : p.Proceeds policy begun) (ht : t ∈ p.ended) : begun ≤ t := by
  rcases h.ended t ht with ⟨a, ha, rfl, -⟩ | ⟨-, rfl, -⟩
  · unfold Attempt.arrival
    rw [h.sentAt a ha, Nat.add_assoc]
    exact Nat.le_add_right _ _
  · exact Nat.le_add_right _ _

namespace Round.Follows

theorem le_ended (h : r.Follows config heard set? earlier) {t : Instant} (ht : t ∈ r.ended?) :
    r.check ≤ t := by
  unfold ended? at ht
  cases hprobe : r.probe with
  | none =>
    rw [hprobe] at ht
    exact Nat.le_of_eq (Option.mem_some.1 ht)
  | some p =>
    rw [hprobe] at ht
    exact (h.proceeds p hprobe).le_ended ht

/-- What is heard later makes no difference. -/
theorem hear (h : r.Follows config heard set? earlier) {t : Instant} (ht : r.check ≤ t) :
    r.Follows config (heard ++ [t]) set? earlier := by
  obtain ⟨before, behind, rfl, hlast, hbefore, hbehind⟩ := h.last
  refine { h with last := ⟨before, behind ++ [t], List.append_assoc .., hlast, hbefore, ?_⟩ }
  intro t' ht'
  rcases List.mem_append.1 ht' with hold | hnew
  · exact hbehind t' hold
  · rwa [List.mem_singleton.1 hnew]

/-- The probe of a round goes on. -/
theorem goOn {check last : Instant} {p p' : Probe}
    (h : Round.Follows config heard set? earlier ⟨check, last, some p⟩)
    (hp' : p'.Proceeds config.retry check) :
    Round.Follows config heard set? earlier ⟨check, last, some p'⟩ where
  due := h.due
  last := h.last
  probed := h.probed
  proceeds := by
    intro q hq
    obtain rfl := Option.some.inj hq
    exact hp'

end Round.Follows

/-- As long as something is heard at least once in an interval, no round has a probe. -/
theorem no_probe_of_chatter (h : AllInTurn (Round.Follows config heard set?) rounds) {now : Instant}
    (hpast : ∀ r ∈ rounds, r.check ≤ now)
    (hoften : heard.IsChain fun t t' => t' ≤ t + config.watchdogInterval)
    (hlately : ∀ t ∈ heard.getLast?, now ≤ t + config.watchdogInterval) :
    ∀ r ∈ rounds, r.probe = none := by
  intro r hr
  obtain ⟨earlier, later, hsplit⟩ := List.append_of_mem hr
  have hfollows := h earlier r later hsplit
  obtain ⟨before, behind, rfl, hlast, -, hbehind⟩ := hfollows.last
  have hrecent : r.check ≤ r.heard + config.watchdogInterval := by
    cases behind with
    | nil =>
      rw [List.append_nil] at hlately
      exact Nat.le_trans (hpast r hr) (hlately r.heard hlast)
    | cons t behind =>
      have hnext := (List.isChain_append.1 hoften).2.2 r.heard hlast t rfl
      exact Nat.le_trans (hbehind t List.mem_cons_self) hnext
  rw [← Option.not_isSome_iff_eq_none, hfollows.probed]
  exact Nat.not_lt.2 (Nat.sub_le_iff_le_add'.2 hrecent)

/-- Where nothing is heard from one check to the next, the next is followed by a probe. -/
theorem probe_of_silence (h : AllInTurn (Round.Follows config heard set?) rounds)
    {first second : Round} {later : List Round}
    (hsplit : rounds = earlier ++ first :: second :: later)
    (hsilence : ∀ t ∈ heard, t < first.check ∨ second.check < t) : second.probe.isSome := by
  have hfirst := h earlier first (second :: later) hsplit
  have hsecond := h (earlier ++ [first]) second later (by rw [hsplit, List.append_assoc]; rfl)
  obtain ⟨since, hsince, hdue⟩ := hsecond.due
  rw [rested?_concat] at hsince
  obtain ⟨before, behind, rfl, hlast, hbefore, -⟩ := hsecond.last
  have hmem : second.heard ∈ before := List.mem_of_getLast? hlast
  have hearlier : second.heard < first.check :=
    (hsilence _ (List.mem_append_left _ hmem)).resolve_right (Nat.not_lt.2 (hbefore _ hmem))
  rw [hsecond.probed, Nat.lt_sub_iff_add_lt, hdue, Nat.add_comm]
  exact Nat.add_lt_add_right (Nat.lt_of_lt_of_le hearlier (hfirst.le_ended hsince)) _

end Watchdog

end UpdatePipeline
