import UpdatePipeline.Handler
set_option autoImplicit false

/-!
# How filters are evaluated

The rules of evaluation say which predicates are asked about an update and what the answer is:
from left to right, no further than to the first that fails, and past the first part of a
conjunction or disjunction only if that leaves the answer open (`Filter.Evaluates`).  Evaluation
follows them, whatever is noted of the predicates on the way (`Filter.Evaluates.run`).

The laws of De Morgan, double negation and associativity keep the order of the predicates, so an
expression rewritten by them, be it into its negation normal form, is evaluated as it was
(`Filter.Rewritten.evaluate_eq`); filters given to a handler one after the other are such a
conjunction (`Filter.evaluation_shortCircuits`).
-/

namespace UpdatePipeline

namespace Filter

variable {u : Parsed.Update} {f g a b : Filter} {asked : List Predicate}
  {answer : Except String Bool}

/-! ## Evaluation by rules -/

/-- The predicates of a filter, from left to right. -/
def leaves : Filter → List Predicate
  | .leaf p => [p]
  | .and a b | .or a b => a.leaves ++ b.leaves
  | .not a => a.leaves

/-- The truth of a filter, given that of its predicates. -/
def holds (truth : Predicate → Bool) : Filter → Bool
  | .leaf p => truth p
  | .and a b => a.holds truth && b.holds truth
  | .or a b => a.holds truth || b.holds truth
  | .not a => !a.holds truth

/-- An evaluation about an update: which predicates are asked, one after the other, and what the
answer is. -/
inductive Evaluates (u : Parsed.Update) : Filter → List Predicate → Except String Bool → Prop
  | leaf (p : Predicate) : Evaluates u (.leaf p) [p] (p u)
  /-- Unless the first part is true, the answer is its answer. -/
  | andFirst {a b : Filter} {asked : List Predicate} {answer : Except String Bool} :
    Evaluates u a asked answer → answer ≠ .ok true → Evaluates u (.and a b) asked answer
  | andBoth {a b : Filter} {asked asked' : List Predicate} {answer : Except String Bool} :
    Evaluates u a asked (.ok true) → Evaluates u b asked' answer →
      Evaluates u (.and a b) (asked ++ asked') answer
  /-- Unless the first part is false, the answer is its answer. -/
  | orFirst {a b : Filter} {asked : List Predicate} {answer : Except String Bool} :
    Evaluates u a asked answer → answer ≠ .ok false → Evaluates u (.or a b) asked answer
  | orBoth {a b : Filter} {asked asked' : List Predicate} {answer : Except String Bool} :
    Evaluates u a asked (.ok false) → Evaluates u b asked' answer →
      Evaluates u (.or a b) (asked ++ asked') answer
  /-- A failure stays what it is. -/
  | not {a : Filter} {asked : List Predicate} {answer : Except String Bool} :
    Evaluates u a asked answer → Evaluates u (.not a) asked (answer.map (!·))

/-- By the rules every filter has an answer about every update. -/
theorem exists_evaluates (u : Parsed.Update) (f : Filter) :
    ∃ asked answer, Evaluates u f asked answer := by
  induction f with
  | leaf p => exact ⟨_, _, .leaf p⟩
  | and a b iha ihb =>
    obtain ⟨asked, answer, ha⟩ := iha
    obtain ⟨asked', answer', hb⟩ := ihb
    by_cases hanswer : answer = .ok true
    · exact ⟨_, _, .andBoth (hanswer ▸ ha) hb⟩
    · exact ⟨_, _, .andFirst ha hanswer⟩
  | or a b iha ihb =>
    obtain ⟨asked, answer, ha⟩ := iha
    obtain ⟨asked', answer', hb⟩ := ihb
    by_cases hanswer : answer = .ok false
    · exact ⟨_, _, .orBoth (hanswer ▸ ha) hb⟩
    · exact ⟨_, _, .orFirst ha hanswer⟩
  | not a ih =>
    obtain ⟨asked, answer, ha⟩ := ih
    exact ⟨_, _, .not ha⟩

/-- Of the predicates asked only the last can fail, and the answer is a failure exactly if it is
that one's. -/
def FailsLast (u : Parsed.Update) (asked : List Predicate) (answer : Except String Bool) : Prop :=
  ∃ before last, asked = before ++ [last] ∧ (∀ p ∈ before, ∃ accepted, p u = .ok accepted) ∧
    ∀ message, answer = .error message ↔ last u = .error message

/-- More is only asked behind predicates that have not failed. -/
theorem FailsLast.append {asked' : List Predicate} {accepted : Bool}
    (h : FailsLast u asked (.ok accepted)) (h' : FailsLast u asked' answer) :
    FailsLast u (asked ++ asked') answer := by
  obtain ⟨before, last, rfl, hbefore, hlast⟩ := h
  obtain ⟨before', last', rfl, hbefore', hlast'⟩ := h'
  have hpassed : ∃ accepted, last u = .ok accepted := by
    cases hanswer : last u with
    | ok accepted => exact ⟨accepted, rfl⟩
    | error message => cases (hlast message).2 hanswer
  refine ⟨before ++ [last] ++ before', last', by simp, ?_, hlast'⟩
  intro p hp
  rcases List.mem_append.1 hp with hp | hp
  · rcases List.mem_append.1 hp with hp | hp
    · exact hbefore p hp
    · rwa [List.mem_singleton.1 hp]
  · exact hbefore' p hp

theorem FailsLast.negated (h : FailsLast u asked answer) :
    FailsLast u asked (answer.map (!·)) := by
  obtain ⟨before, last, hasked, hbefore, hlast⟩ := h
  refine ⟨before, last, hasked, hbefore, fun message => ?_⟩
  rw [← hlast]
  cases answer with
  | ok accepted => simp [Except.map]
  | error message' => simp [Except.map]

/-- The answer of a predicate about an update, which is noted down. -/
def noting {m : Type → Type} [Monad m] (u : Parsed.Update) (note : Predicate → m Unit)
    (p : Predicate) : ExceptT String m Bool :=
  ExceptT.mk do
    note p
    return p u

namespace Evaluates

/-- No predicate is asked out of its order, and none twice. -/
theorem sublist (h : Evaluates u f asked answer) : asked.Sublist f.leaves := by
  induction h with
  | leaf p => exact .refl _
  | andFirst _ _ ih => exact ih.trans (List.sublist_append_left _ _)
  | andBoth _ _ ih ih' => exact ih.append ih'
  | orFirst _ _ ih => exact ih.trans (List.sublist_append_left _ _)
  | orBoth _ _ ih ih' => exact ih.append ih'
  | not _ ih => exact ih

theorem failsLast (h : Evaluates u f asked answer) : FailsLast u asked answer := by
  induction h with
  | leaf p => exact ⟨[], p, rfl, List.forall_mem_nil _, fun _ => Iff.rfl⟩
  | andFirst _ _ ih => exact ih
  | andBoth _ _ ih ih' => exact ih.append ih'
  | orFirst _ _ ih => exact ih
  | orBoth _ _ ih ih' => exact ih.append ih'
  | not _ ih => exact ih.negated

/-- If none of the predicates asked fails, the answer is the truth of the filter, whatever the
others would have been. -/
theorem eq_holds (h : Evaluates u f asked answer) {truth : Predicate → Bool}
    (htruth : ∀ p ∈ asked, p u = .ok (truth p)) : answer = .ok (f.holds truth) := by
  induction h with
  | leaf p => exact htruth p (List.mem_singleton_self p)
  | @andFirst a b asked answer _ hanswer ih =>
    have hfalse : a.holds truth = false := by simpa [ih htruth] using hanswer
    rw [ih htruth, holds, hfalse, Bool.false_and]
  | andBoth _ _ ih ih' =>
    have hfirst := ih fun p hp => htruth p (List.mem_append_left _ hp)
    have hsecond := ih' fun p hp => htruth p (List.mem_append_right _ hp)
    rw [hsecond, holds, ← Except.ok.inj hfirst, Bool.true_and]
  | @orFirst a b asked answer _ hanswer ih =>
    have htrue : a.holds truth = true := by simpa [ih htruth] using hanswer
    rw [ih htruth, holds, htrue, Bool.true_or]
  | orBoth _ _ ih ih' =>
    have hfirst := ih fun p hp => htruth p (List.mem_append_left _ hp)
    have hsecond := ih' fun p hp => htruth p (List.mem_append_right _ hp)
    rw [hsecond, holds, ← Except.ok.inj hfirst, Bool.false_or]
  | not _ ih =>
    rw [ih htruth]
    rfl

/-- Evaluation follows the rules: it asks what they say, and nothing else has an effect. -/
theorem run {m : Type → Type} [Monad m] [LawfulMonad m] (h : Evaluates u f asked answer)
    (note : Predicate → m Unit) :
    (f.evaluate (noting u note)).run = (do asked.forM note; return answer) := by
  induction h with
  | leaf p => simp [evaluate, noting]
  | @andFirst a b asked answer _ hanswer ih =>
    cases answer with
    | error message => simp [evaluate, ExceptT.run_bind, ih]
    | ok accepted => simp_all [evaluate, ExceptT.run_bind]
  | andBoth _ _ ih ih' => simp [evaluate, ExceptT.run_bind, ih, ih', List.forM_append]
  | @orFirst a b asked answer _ hanswer ih =>
    cases answer with
    | error message => simp [evaluate, ExceptT.run_bind, ih]
    | ok accepted => simp_all [evaluate, ExceptT.run_bind]
  | orBoth _ _ ih ih' => simp [evaluate, ExceptT.run_bind, ih, ih', List.forM_append]
  | @not a asked answer _ ih =>
    cases answer with
    | error message => simp [evaluate, ih, Except.map]
    | ok accepted => simp [evaluate, ih, Except.map]

theorem check_eq (h : Evaluates u f asked answer) : f.check u = answer := by
  have hrun := h.run fun _ => (pure () : Id Unit)
  have hnothing : ∀ predicates : List Predicate,
      predicates.forM (fun _ => (pure () : Id Unit)) = pure () := fun predicates => by
    induction predicates with
    | nil => rfl
    | cons p rest ih => exact ih
  rw [hnothing] at hrun
  exact hrun

end Evaluates

/-- The predicates that evaluation asks about an update, one after the other. -/
def asks (f : Filter) (u : Parsed.Update) : List Predicate :=
  ((f.evaluate (m := StateM (List Predicate)) (noting u fun p => modify (· ++ [p]))).run.run []).2

theorem run_forM_modify (predicates log : List Predicate) :
    ((predicates.forM fun p => (modify (· ++ [p]) : StateM (List Predicate) Unit)).run log) =
      ((), log ++ predicates) := by
  induction predicates generalizing log with
  | nil =>
    rw [List.append_nil]
    rfl
  | cons p rest ih =>
    have hrest := ih (log ++ [p])
    rw [List.append_assoc, List.singleton_append] at hrest
    exact hrest

theorem Evaluates.asks_eq (h : Evaluates u f asked answer) : f.asks u = asked := by
  unfold asks
  rw [h.run, StateT.run_bind, run_forM_modify, List.nil_append]
  rfl

/-- What evaluation asks and answers is what the rules say. -/
theorem evaluates_iff : Evaluates u f asked answer ↔ asked = f.asks u ∧ answer = f.check u := by
  constructor
  · exact fun h => ⟨h.asks_eq.symm, h.check_eq.symm⟩
  · rintro ⟨rfl, rfl⟩
    obtain ⟨asked, answer, h⟩ := exists_evaluates u f
    rw [h.asks_eq, h.check_eq]
    exact h

theorem evaluates_check (f : Filter) (u : Parsed.Update) : Evaluates u f (f.asks u) (f.check u) :=
  evaluates_iff.2 ⟨rfl, rfl⟩

/-! ## Rewriting -/

/-- The filters that one becomes by De Morgan's laws, by dropping double negations and by moving
brackets, at any depth and in both directions. -/
inductive Rewritten : Filter → Filter → Prop
  | notNot (a : Filter) : Rewritten (.not (.not a)) a
  | notAnd (a b : Filter) : Rewritten (.not (.and a b)) (.or (.not a) (.not b))
  | notOr (a b : Filter) : Rewritten (.not (.or a b)) (.and (.not a) (.not b))
  | andAssoc (a b c : Filter) : Rewritten (.and (.and a b) c) (.and a (.and b c))
  | orAssoc (a b c : Filter) : Rewritten (.or (.or a b) c) (.or a (.or b c))
  | refl (a : Filter) : Rewritten a a
  | symm {a b : Filter} : Rewritten a b → Rewritten b a
  | trans {a b c : Filter} : Rewritten a b → Rewritten b c → Rewritten a c
  | and {a a' b b' : Filter} : Rewritten a a' → Rewritten b b' → Rewritten (.and a b) (.and a' b')
  | or {a a' b b' : Filter} : Rewritten a a' → Rewritten b b' → Rewritten (.or a b) (.or a' b')
  | not {a a' : Filter} : Rewritten a a' → Rewritten (.not a) (.not a')

/-- Rewriting changes nothing of an evaluation, whatever a predicate does when it is asked. -/
theorem Rewritten.evaluate_eq {m : Type → Type} [Monad m] [LawfulMonad m] (h : Rewritten f g)
    (ask : Predicate → ExceptT String m Bool) : f.evaluate ask = g.evaluate ask := by
  induction h with
  | notNot a => simp [evaluate]
  | notAnd a b =>
    simp only [evaluate, bind_assoc, pure_bind]
    refine bind_congr fun accepted => ?_
    cases accepted <;> simp
  | notOr a b =>
    simp only [evaluate, bind_assoc, pure_bind]
    refine bind_congr fun accepted => ?_
    cases accepted <;> simp
  | andAssoc a b c =>
    simp only [evaluate, bind_assoc]
    refine bind_congr fun accepted => ?_
    cases accepted <;> simp
  | orAssoc a b c =>
    simp only [evaluate, bind_assoc]
    refine bind_congr fun accepted => ?_
    cases accepted <;> simp
  | refl a => rfl
  | symm _ ih => exact ih.symm
  | trans _ _ ih ih' => exact ih.trans ih'
  | and _ _ ih ih' => simp only [evaluate, ih, ih']
  | or _ _ ih ih' => simp only [evaluate, ih, ih']
  | not _ ih => simp only [evaluate, ih]

/-- Whether only predicates are negated. -/
def IsNormal : Filter → Prop
  | .leaf _ | .not (.leaf _) => True
  | .and a b | .or a b => a.IsNormal ∧ b.IsNormal
  | .not _ => False

/-- The negation normal form of a filter, or of its negation. -/
def normalForm (negated : Bool) : Filter → Filter
  | .leaf p => if negated then .not (.leaf p) else .leaf p
  | .and a b =>
    if negated then .or (a.normalForm true) (b.normalForm true)
    else .and (a.normalForm false) (b.normalForm false)
  | .or a b =>
    if negated then .and (a.normalForm true) (b.normalForm true)
    else .or (a.normalForm false) (b.normalForm false)
  | .not a => a.normalForm (!negated)

theorem isNormal_normalForm (f : Filter) (negated : Bool) : (f.normalForm negated).IsNormal := by
  induction f generalizing negated with
  | leaf p => cases negated <;> trivial
  | and a b iha ihb => cases negated <;> exact ⟨iha _, ihb _⟩
  | or a b iha ihb => cases negated <;> exact ⟨iha _, ihb _⟩
  | not a ih => exact ih _

theorem rewritten_normalForm (f : Filter) : Rewritten f (f.normalForm false) ∧
    Rewritten (.not f) (f.normalForm true) := by
  induction f with
  | leaf p => exact ⟨.refl _, .refl _⟩
  | and a b iha ihb => exact ⟨.and iha.1 ihb.1, .trans (.notAnd a b) (.or iha.2 ihb.2)⟩
  | or a b iha ihb => exact ⟨.or iha.1 ihb.1, .trans (.notOr a b) (.and iha.2 ihb.2)⟩
  | not a ih => exact ⟨ih.2, .trans (.notNot a) ih.1⟩

/-- How a filter is evaluated about an update. -/
structure ShortCircuits (u : Parsed.Update) (f : Filter) : Prop where
  byRules : ∀ asked answer, Evaluates u f asked answer ↔ asked = f.asks u ∧ answer = f.check u
  /-- Nothing is done but to ask these predicates in their order, whatever is noted of it. -/
  inTurn : ∀ {m : Type → Type} [Monad m] [LawfulMonad m] (note : Predicate → m Unit),
    (f.evaluate (noting u note)).run = (do (f.asks u).forM note; return f.check u)
  leftToRight : (f.asks u).Sublist f.leaves
  /-- The first predicate that fails is the last one asked, and its failure is the answer. -/
  firstFailure : FailsLast u (f.asks u) (f.check u)
  /-- If none fails, the answer is the truth of the filter, whatever those not asked would say. -/
  truth : ∀ truth, (∀ p ∈ f.asks u, p u = .ok (truth p)) → f.check u = .ok (f.holds truth)
  /-- Rewriting changes neither the answer nor what is asked, nor anything else that predicates
  might do. -/
  rewritten : ∀ g, Rewritten f g → g.check u = f.check u ∧ g.asks u = f.asks u ∧
    ∀ {m : Type → Type} [Monad m] [LawfulMonad m] (ask : Predicate → ExceptT String m Bool),
      g.evaluate ask = f.evaluate ask
  normalForm : (f.normalForm false).IsNormal ∧ Rewritten f (f.normalForm false)

theorem shortCircuits (u : Parsed.Update) (f : Filter) : ShortCircuits u f := by
  have hevaluates := evaluates_check f u
  constructor
  case byRules => exact fun _ _ => evaluates_iff
  case inTurn => exact hevaluates.run
  case leftToRight => exact hevaluates.sublist
  case firstFailure => exact hevaluates.failsLast
  case truth => exact fun _ htruth => hevaluates.eq_holds htruth
  case rewritten =>
    intro g h
    refine ⟨?_, ?_, fun ask => (h.evaluate_eq ask).symm⟩
    · rw [check, check, h.evaluate_eq]
    · rw [asks, asks, h.evaluate_eq]
  case normalForm => exact ⟨f.isNormal_normalForm false, f.rewritten_normalForm.1⟩

/-! ## Filters of a handler -/

theorem check_and_of_true (ha : a.check u = .ok true) (b : Filter) :
    (a.and b).check u = b.check u :=
  (Evaluates.andBoth (ha ▸ evaluates_check a u) (evaluates_check b u)).check_eq

theorem check_and_of_ne (ha : a.check u ≠ .ok true) (b : Filter) : (a.and b).check u = a.check u :=
  (Evaluates.andFirst (evaluates_check a u) ha).check_eq

section

variable {h : TypedHandler}

/-- A handler that wants an update leaves it to one more filter. -/
theorem wants_addFilter_of_true (hwants : h.wants u = .ok true) (f : Filter) :
    (h.addFilter f).wants u = f.check u := by
  obtain ⟨kind, filter, callback⟩ := h
  unfold TypedHandler.wants at hwants ⊢
  split at hwants
  case isFalse => cases hwants
  case isTrue hkind =>
    rw [TypedHandler.addFilter, if_pos hkind]
    cases filter with
    | none => rfl
    | some g => exact check_and_of_true hwants f

/-- Otherwise one more filter changes nothing. -/
theorem wants_addFilter_of_ne (hwants : h.wants u ≠ .ok true) (f : Filter) :
    (h.addFilter f).wants u = h.wants u := by
  obtain ⟨kind, filter, callback⟩ := h
  unfold TypedHandler.wants at hwants ⊢
  by_cases hkind : u.kind = kind
  · simp only [TypedHandler.addFilter, hkind, if_true] at hwants ⊢
    cases filter with
    | none => exact absurd rfl hwants
    | some g => exact check_and_of_ne hwants f
  · simp only [TypedHandler.addFilter, hkind, if_false]

theorem wants_foldl_of_true (hwants : h.wants u = .ok true) {filters : List Filter}
    (hfilters : ∀ f ∈ filters, f.check u = .ok true) :
    (filters.foldl TypedHandler.addFilter h).wants u = .ok true := by
  induction filters generalizing h with
  | nil => exact hwants
  | cons f rest ih =>
    obtain ⟨hf, hrest⟩ := List.forall_mem_cons.1 hfilters
    exact ih ((wants_addFilter_of_true hwants f).trans hf) hrest

theorem wants_foldl_of_ne (hwants : h.wants u ≠ .ok true) (filters : List Filter) :
    (filters.foldl TypedHandler.addFilter h).wants u = h.wants u := by
  induction filters generalizing h with
  | nil => rfl
  | cons f rest ih =>
    have hsame := wants_addFilter_of_ne hwants f
    rw [List.foldl_cons, ih (hsame ▸ hwants), hsame]

/-- The first filter that does not let the update pass answers for all. -/
theorem wants_foldl_of_split (hwants : h.wants u = .ok true) {before after : List Filter}
    (hbefore : ∀ g ∈ before, g.check u = .ok true) (hf : f.check u ≠ .ok true) :
    ((before ++ f :: after).foldl TypedHandler.addFilter h).wants u = f.check u := by
  rw [List.foldl_append, List.foldl_cons]
  have hadded := wants_addFilter_of_true (wants_foldl_of_true hwants hbefore) f
  rw [wants_foldl_of_ne (hadded ▸ hf), hadded]

theorem foldl_addFilter (hg : h.filter = some g) (filters : List Filter) :
    filters.foldl TypedHandler.addFilter h = { h with filter := some (filters.foldl .and g) } := by
  induction filters generalizing h g with
  | nil => rw [List.foldl_nil, List.foldl_nil, ← hg]
  | cons f rest ih =>
    have hadded : (h.addFilter f).filter = some (g.and f) := by rw [TypedHandler.addFilter, hg]
    exact ih hadded

end

/-- What a handler of a kind makes of an update that was given these filters in turn. -/
structure GivenInTurn (u : Parsed.Update) (kind : Parsed.Kind)
    (callback : Parsed.Update → Reaction) (filters : List Filter) (h : TypedHandler) : Prop where
  /-- It has their conjunction for a filter. -/
  joined : ∀ f rest, filters = f :: rest → h = ⟨kind, some (rest.foldl .and f), callback⟩
  otherKind : u.kind ≠ kind → h.wants u = .ok false
  /-- It answers what the conjunction does, however this is bracketed. -/
  asConjunction : u.kind = kind → ∀ f rest g, filters = f :: rest →
    Rewritten (rest.foldl .and f) g → h.wants u = g.check u
  accepts : u.kind = kind → (∀ f ∈ filters, f.check u = .ok true) → h.wants u = .ok true
  /-- The first filter that rejects the update or fails answers for all. -/
  stops : u.kind = kind → ∀ before f after, filters = before ++ f :: after →
    (∀ g ∈ before, g.check u = .ok true) → f.check u ≠ .ok true → h.wants u = f.check u

theorem givenInTurn (u : Parsed.Update) (kind : Parsed.Kind) (callback : Parsed.Update → Reaction)
    (filters : List Filter) : GivenInTurn u kind callback filters
      (filters.foldl TypedHandler.addFilter { kind, callback }) := by
  have hjoined : ∀ f rest, filters = f :: rest →
      filters.foldl TypedHandler.addFilter { kind, callback } =
        ⟨kind, some (rest.foldl .and f), callback⟩ := by
    rintro f rest rfl
    exact foldl_addFilter rfl rest
  have hwants : u.kind = kind → TypedHandler.wants { kind, callback } u = .ok true :=
    fun hkind => if_pos hkind
  constructor
  case joined => exact hjoined
  case otherKind =>
    intro hkind
    have hnot : TypedHandler.wants { kind, callback } u = .ok false := if_neg hkind
    rw [wants_foldl_of_ne (by rw [hnot]; exact nofun), hnot]
  case asConjunction =>
    intro hkind f rest g hfilters hg
    rw [hjoined f rest hfilters, (shortCircuits u _).rewritten g hg |>.1]
    exact if_pos hkind
  case accepts => exact fun hkind => wants_foldl_of_true (hwants hkind)
  case stops =>
    rintro hkind before f after rfl hbefore hf
    exact wants_foldl_of_split (hwants hkind) hbefore hf

/-- About any update, filters are evaluated from left to right and no further than the answer is
open; so are those given to a handler one after the other. -/
theorem evaluation_shortCircuits (u : Parsed.Update) :
    (∀ f, ShortCircuits u f) ∧
      ∀ kind callback filters, GivenInTurn u kind callback filters
        (filters.foldl TypedHandler.addFilter { kind, callback }) :=
  ⟨shortCircuits u, givenInTurn u⟩

end Filter

end UpdatePipeline
