import UpdatePipeline.Proofs.Invocation.Conduct
set_option autoImplicit false

/-!
# What patience bears

A policy with patience tries again after a flood wait that is not too long, and after a failure
of the network if nothing has failed before (`RetryPolicy.autoSleep_eq_retryAfter_iff`).  So an
invocation has at most one attempt more than the failures at its beginning that are borne
(`Invocation.Conduct.length_le_borne`), and of its failures only the first can be one of the
network (`Invocation.Conduct.network_first`).
-/

namespace UpdatePipeline

/-- The network failed. -/
def InvocationError.IsOfNetwork (e : InvocationError) : Prop := ∃ failure, e = .io failure

instance : DecidablePred InvocationError.IsOfNetwork
  | .io failure => .isTrue ⟨failure, rfl⟩
  | .rpc _ | .unexpectedShape _ | .dropped => .isFalse (by rintro ⟨_, h⟩; cases h)

namespace RetryPolicy

namespace Patience

variable (p : Patience)

/-- The server asks to wait, and for no longer than the threshold. -/
def BearsFlood (e : InvocationError) : Prop :=
  ∃ seconds ∈ e.floodWait?, seconds.toNat ≤ p.threshold / 1000

instance : DecidablePred p.BearsFlood := fun e =>
  match h : e.floodWait? with
  | none => .isFalse (by rintro ⟨_, hseconds, -⟩; simp [h] at hseconds)
  | some seconds => decidable_of_iff (seconds.toNat ≤ p.threshold / 1000) (by simp [BearsFlood, h])

/-- The reply to an attempt after so many others is a failure that may be borne: a flood wait
that is not too long, or a failure of the network at the first attempt. -/
def Bears (earlier : Nat) : Reply → Prop
  | .ok _ => False
  | .error e => p.BearsFlood e ∨ e.IsOfNetwork ∧ earlier = 0

instance (earlier : Nat) : DecidablePred (p.Bears earlier)
  | .ok _ => .isFalse id
  | .error e => inferInstanceAs (Decidable (p.BearsFlood e ∨ e.IsOfNetwork ∧ earlier = 0))

/-- How many replies at the beginning are failures that may be borne. -/
def borne (replies : List Reply) : Nat :=
  (replies.zipIdx.takeWhile fun (reply, earlier) => p.Bears earlier reply).length

end Patience

variable {p : Patience}

/-- What makes a policy with patience try again, and after which wait. -/
theorem autoSleep_eq_retryAfter_iff {attempt : FailedAttempt} {delay : Duration}
    {notice : Option Notice} :
    autoSleep p attempt = .retryAfter delay notice ↔
      (∃ seconds ∈ attempt.error.floodWait?, seconds.toNat ≤ p.threshold / 1000 ∧
        delay = Duration.ofSeconds seconds.toNat ∧ notice = some (.waitingForFlood seconds)) ∨
      (attempt.error.IsOfNetwork ∧ attempt.failCount = 1 ∧ p.networkDelay = some delay ∧
        notice = some (.waitingForNetwork delay)) := by
  obtain ⟨failCount, waited, error⟩ := attempt
  unfold autoSleep
  cases error with
  | rpc error =>
    have hserver : ¬ (InvocationError.rpc error).IsOfNetwork := by
      rintro ⟨_, h⟩
      cases h
    have hflood : (InvocationError.rpc error).floodWait? = error.floodWait? := rfl
    simp only [hserver, false_and, or_false, hflood]
    cases error.floodWait? with
    | none => simp
    | some seconds =>
      by_cases hborne : seconds.toNat ≤ p.threshold / 1000
      · simp [hborne, eq_comm]
      · simp [hborne]
  | io failure =>
    have hnetwork : (InvocationError.io failure).IsOfNetwork := ⟨failure, rfl⟩
    have hflood : (InvocationError.io failure).floodWait? = none := rfl
    simp only [hnetwork, true_and, hflood, Option.not_mem_none, false_and, exists_false, false_or]
    cases p.networkDelay with
    | none => simp
    | some d =>
      by_cases hfirst : failCount = 1
      · simp only [hfirst, if_true, true_and]
        constructor
        · intro h
          obtain ⟨rfl, rfl⟩ := Verdict.retryAfter.inj h
          exact ⟨rfl, rfl⟩
        · rintro ⟨hsame, rfl⟩
          obtain rfl := Option.some.inj hsame
          rfl
      · simp [hfirst]
  | unexpectedShape explanation =>
    simp [InvocationError.floodWait?, InvocationError.IsOfNetwork]
  | dropped => simp [InvocationError.floodWait?, InvocationError.IsOfNetwork]

end RetryPolicy

namespace Invocation

open RetryPolicy

variable {p : Patience} {begun : Instant} {failures : List Failure}

/-- Counting stops far behind the first attempt. -/
theorem failCount_question_eq_one_iff {e : InvocationError} :
    (question failures e).failCount = 1 ↔ failures = [] := by
  rw [← List.length_eq_zero_iff]
  show min (failures.length + 1) (UInt32.size - 1) = 1 ↔ _
  have hlimit : 1 < UInt32.size - 1 := by decide
  omega

/-- All failures but the last attempt's are borne. -/
theorem Conduct.bears (h : Conduct (autoSleep p) begun failures) :
    AllInTurn (fun earlier f => p.Bears earlier.length (.error f.error)) failures := by
  refine h.granted.imp fun earlier f hgranted => ?_
  rcases autoSleep_eq_retryAfter_iff.1 hgranted with ⟨seconds, hflood, hborne, -⟩ | ⟨hnetwork, hfirst, -⟩
  · exact .inl ⟨seconds, hflood, hborne⟩
  · exact .inr ⟨hnetwork, List.length_eq_zero_iff.2 (failCount_question_eq_one_iff.1 hfirst)⟩

/-- The replies to attempts that failed are among those at the beginning that are borne. -/
theorem Conduct.length_le_borne (h : Conduct (autoSleep p) begun failures) (rest : List Reply) :
    failures.length ≤ p.borne (failures.map (·.attempt.reply) ++ rest) := by
  have hall : ∀ r ∈ (failures.map (·.attempt.reply)).zipIdx, decide (p.Bears r.2 r.1) := by
    rintro ⟨reply, n⟩ hr
    rw [List.mem_zipIdx_iff_getElem?, List.getElem?_map] at hr
    obtain ⟨f, hf, rfl⟩ : ∃ f, failures[n]? = some f ∧ f.attempt.reply = reply :=
      Option.map_eq_some_iff.1 hr
    obtain ⟨hn, hget⟩ := List.getElem?_eq_some_iff.1 hf
    have hsplit : failures = failures.take n ++ f :: failures.drop (n + 1) := by simp [← hget]
    have hbears : p.Bears (failures.take n).length (.error f.error) := h.bears _ _ _ hsplit
    rw [List.length_take_of_le (Nat.le_of_lt hn)] at hbears
    exact decide_eq_true hbears
  unfold Patience.borne
  rw [List.zipIdx_append, List.takeWhile_append_of_pos hall, List.length_append, List.length_zipIdx,
    List.length_map]
  exact Nat.le_add_right _ _

/-- Of the failures only the first can be one of the network, and it is followed by its wait. -/
theorem Conduct.network_first (h : Conduct (autoSleep p) begun failures) :
    AllInTurn (fun earlier f => f.error.IsOfNetwork → earlier = [] ∧ p.networkDelay = some f.wait)
      failures := by
  refine h.granted.imp fun earlier f hgranted hnetwork => ?_
  rcases autoSleep_eq_retryAfter_iff.1 hgranted with ⟨seconds, hflood, -⟩ | ⟨-, hfirst, hdelay, -⟩
  · obtain ⟨failure, hfailure⟩ := hnetwork
    have hserver : f.error.floodWait? = some seconds := hflood
    rw [hfailure] at hserver
    cases hserver
  · exact ⟨failCount_question_eq_one_iff.1 hfirst, hdelay⟩

/-- A failure of the network at the first attempt does not end an invocation. -/
theorem ne_giveUp_of_network {e : InvocationError} {delay : Duration} (he : e.IsOfNetwork)
    (hdelay : p.networkDelay = some delay) : autoSleep p (question [] e) ≠ .giveUp := by
  have hgranted : autoSleep p (question [] e) =
      .retryAfter delay (some (.waitingForNetwork delay)) :=
    autoSleep_eq_retryAfter_iff.2
      (.inr ⟨he, failCount_question_eq_one_iff.2 rfl, hdelay, rfl⟩)
  rw [hgranted]
  exact Verdict.noConfusion

end Invocation

end UpdatePipeline
