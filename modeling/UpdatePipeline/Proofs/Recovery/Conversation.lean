import UpdatePipeline.Proofs.Recovery.Scope
set_option autoImplicit false

/-!
# What a recovery asks and is told

Against a server whose answers depend on the request alone, the requests that were
granted are the stations of a path that the server lays out (`Slices`).  They tell what a
recovery queued and where it got to (`Conversation.acceptedPages_eq`,
`Conversation.reached_eq`), and two recoveries which reach the end of the path have gone
the same way (`Settles.unique`).
-/

namespace UpdatePipeline

open Schema Program

namespace Recovery

/-! ## The server -/

/-- A server whose answer depends on the request alone. -/
abbrev Server := DifferenceQuery → Difference

/-- The slices of this server have positive positions, each beyond the one asked for. -/
def Advances (server : Server) : Prop :=
  ∀ q page state, server q = .slice page state → 0 < state.pts ∧ q.pts < state.pts

/-- Every request for a difference was answered by this server, unless it failed. -/
def ServedBy (server : Server) (ds : List (DifferenceQuery × Answer)) : Prop :=
  ∀ d ∈ ds, d.2 = .ok (server d.1) ∨ ∃ e, d.2 = .error e

/-- An answer that is a slice. -/
def IsSlice (answer : Answer) : Prop := ∃ page state, answer = .ok (.slice page state)

/-- Where a recovery has got to: the position and the date. -/
abbrev Place := Int32 × Option Int32

/-- The request made at a place. -/
def Place.query (p : Place) : DifferenceQuery := queryAt p.1 (p.2.getD 0)

/-- The place at which a record lies. -/
def placeOf (record : StateRecord) : Place := (record.pts, record.date)

variable {server : Server} {p q : Place} {qs : List DifferenceQuery}

/-- These requests are made on the way from one place to another, each answered by a
slice. -/
inductive Slices (server : Server) : Place → List DifferenceQuery → Place → Prop where
  | none (p : Place) : Slices server p [] p
  | more {p q : Place} {qs : List DifferenceQuery} {page : Page} {state : AccountState} :
      server p.query = .slice page state →
      Slices server (state.pts, some state.date) qs q → Slices server p (p.query :: qs) q

/-- These requests are made from a place on until an answer is no slice. -/
def Settles (server : Server) (p : Place) (qs : List DifferenceQuery) : Prop :=
  ∃ asked q, Slices server p asked q ∧ ¬ IsSlice (.ok (server q.query)) ∧ qs = asked ++ [q.query]

/-- A path from one place to a second and one from there till the end make one till the
end. -/
theorem Slices.settles_append {rest : List DifferenceQuery} (h : Slices server p qs q)
    (hrest : Settles server q rest) : Settles server p (qs ++ rest) := by
  induction h with
  | none p => exact hrest
  | more hslice _ ih =>
    obtain ⟨asked, r, hasked, hend, heq⟩ := ih hrest
    refine ⟨_, r, .more hslice hasked, hend, ?_⟩
    rw [List.cons_append, heq, List.cons_append]

/-- A path of slices does not lead past the end. -/
theorem Slices.length_lt {all : List DifferenceQuery} (h : Slices server p qs q)
    (hall : Settles server p all) : qs.length < all.length := by
  induction h generalizing all with
  | none p =>
    -- the path to the end has its last request at least
    obtain ⟨asked, r, -, -, rfl⟩ := hall
    simp
  | @more p q qs page state hslice _ ih =>
    obtain ⟨asked, r, hasked, hend, rfl⟩ := hall
    cases hasked with
    | none => exact absurd ⟨page, state, congrArg Except.ok hslice⟩ hend
    | more hslice' hasked =>
      obtain ⟨rfl, rfl⟩ := Difference.slice.inj (hslice.symm.trans hslice')
      have hlt := ih ⟨_, r, hasked, hend, rfl⟩
      simpa using hlt

/-- There is one path till the end. -/
theorem Settles.unique {qs' : List DifferenceQuery} (h : Settles server p qs)
    (h' : Settles server p qs') : qs = qs' := by
  obtain ⟨asked, q, hasked, hend, rfl⟩ := h
  obtain ⟨asked', q', hasked', hend', rfl⟩ := h'
  -- at every place the server has one answer, so neither path ends before the other
  induction hasked generalizing asked' with
  | none p =>
    cases hasked' with
    | none => rfl
    | more hslice _ => exact absurd ⟨_, _, congrArg Except.ok hslice⟩ hend
  | more hslice _ ih =>
    cases hasked' with
    | none => exact absurd ⟨_, _, congrArg Except.ok hslice⟩ hend'
    | more hslice' hasked' =>
      obtain ⟨rfl, rfl⟩ := Difference.slice.inj (hslice.symm.trans hslice')
      rw [List.cons_append, List.cons_append, ih hend _ hasked']

/-! ## What a path brings -/

/-- The answers of the server to these requests. -/
def replies (server : Server) (qs : List DifferenceQuery) : List Answer :=
  qs.map fun q => .ok (server q)

/-- The pages of these answers, whatever came before each. -/
def pagesOf (answers : List Answer) : List (Int32 × Page) :=
  answers.filterMap fun
    | .ok (.slice page state) | .ok (.difference page state) => some (state.pts, page)
    | _ => none

theorem pagesOf_append (as bs : List Answer) : pagesOf (as ++ bs) = pagesOf as ++ pagesOf bs :=
  List.filterMap_append

theorem replies_append (qs qs' : List DifferenceQuery) :
    replies server (qs ++ qs') = replies server qs ++ replies server qs' :=
  List.map_append

theorem reached_append (pts : Int32) (date : Option Int32) (as bs : List Answer) :
    reached pts date (as ++ bs) = reached (reached pts date as).1 (reached pts date as).2 bs := by
  induction as generalizing pts date with
  | nil => rfl
  | cons a as ih => rcases a with e | (_ | _ | _ | _) <;> exact ih _ _

/-- What follows upon these answers is compared with the position that they reach. -/
theorem allAccepted_append (previous : Int32) (date : Option Int32) (as bs : List Answer) :
    allAccepted previous (as ++ bs) =
      (allAccepted previous as && allAccepted (reached previous date as).1 bs) := by
  induction as generalizing previous date with
  | nil => simp [allAccepted, reached]
  | cons a as ih =>
    rcases a with e | (_ | _ | ⟨page, state⟩ | _)
    case ok.slice =>
      rw [List.cons_append, allAccepted, allAccepted, ih, Bool.and_assoc]
      rfl
    all_goals simp [allAccepted]

/-- Of slices that all count, all pages count. -/
theorem acceptedPages_append {previous : Int32} (date : Option Int32) {as : List Answer}
    (has : allAccepted previous as) (bs : List Answer) :
    acceptedPages previous (as ++ bs) =
      pagesOf as ++ acceptedPages (reached previous date as).1 bs := by
  induction as generalizing previous date with
  | nil => rfl
  | cons a as ih =>
    rcases a with e | (_ | _ | ⟨page, state⟩ | _)
    case ok.slice =>
      rw [allAccepted, Bool.and_eq_true, bne_iff_ne] at has
      obtain ⟨hnew, hrest⟩ := has
      rw [List.cons_append, acceptedPages_slice hnew, ih (some state.date) hrest]
      rfl
    all_goals simp [allAccepted] at has

theorem replies_slice {page : Page} {state : AccountState}
    (hslice : server q.query = .slice page state) (qs : List DifferenceQuery) :
    replies server (q.query :: qs) = .ok (.slice page state) :: replies server qs := by
  rw [← hslice]
  rfl

theorem Slices.reached_eq (h : Slices server p qs q) : reached p.1 p.2 (replies server qs) = q := by
  induction h with
  | none p => rfl
  | more hslice _ ih =>
    rw [replies_slice hslice]
    exact ih

/-- Where slices advance, one that follows upon another differs from it in position, and
so does the first from 0. -/
theorem Advances.ne {page : Page} {state : AccountState} {previous : Int32}
    (hadvances : Advances server) (hslice : server p.query = .slice page state)
    (hprevious : previous = 0 ∨ previous = p.1) : state.pts ≠ previous := by
  obtain ⟨hpositive, hfurther⟩ := hadvances _ _ _ hslice
  rcases hprevious with rfl | rfl
  · exact (Int32.ne_of_lt hpositive).symm
  · exact (Int32.ne_of_lt hfurther).symm

/-- There every slice counts. -/
theorem Slices.allAccepted {previous : Int32} (hadvances : Advances server)
    (h : Slices server p qs q) (hprevious : previous = 0 ∨ previous = p.1) :
    allAccepted previous (replies server qs) := by
  -- the slice before is where the request was made, except for the first
  induction h generalizing previous with
  | none p => rfl
  | more hslice _ ih =>
    rw [replies_slice hslice, allAccepted_slice (hadvances.ne hslice hprevious)]
    exact ih (.inr rfl)

/-- So all their pages count, and those of what follows upon them as before. -/
theorem Slices.acceptedPages_eq {previous : Int32} {rest : List Answer}
    (hadvances : Advances server) (h : Slices server p qs q)
    (hprevious : previous = 0 ∨ previous = p.1)
    (hrest : ∀ pts, acceptedPages pts rest = pagesOf rest) :
    acceptedPages previous (replies server qs ++ rest) = pagesOf (replies server qs ++ rest) := by
  rw [acceptedPages_append p.2 (h.allAccepted hadvances hprevious), hrest, pagesOf_append]

/-! ## Conversations with the server -/

/-- The requests that were granted. -/
def granted (ds : List (DifferenceQuery × Answer)) : List DifferenceQuery :=
  (ds.filter (·.2.isOk)).map (·.1)

/-- A request and the server's answer to it. -/
def reply (server : Server) (q : DifferenceQuery) : DifferenceQuery × Answer :=
  (q, .ok (server q))

/-- What a recovery asks from a place on and what it is told: slices, and behind them
nothing, or a failure, or an answer that is no slice. -/
inductive Conversation (server : Server) (p : Place) : List (DifferenceQuery × Answer) → Prop where
  | capped {qs : List DifferenceQuery} {q : Place} :
      Slices server p qs q → Conversation server p (qs.map (reply server))
  | failed {qs : List DifferenceQuery} {q : Place} (e : InvocationError) :
      Slices server p qs q → Conversation server p (qs.map (reply server) ++ [(q.query, .error e)])
  | settled {qs : List DifferenceQuery} {q : Place} :
      Slices server p qs q → ¬ IsSlice (.ok (server q.query)) →
      Conversation server p ((qs ++ [q.query]).map (reply server))

theorem Conversation.more {ds : List (DifferenceQuery × Answer)} {page : Page}
    {state : AccountState} (hslice : server p.query = .slice page state)
    (h : Conversation server (state.pts, some state.date) ds) :
    Conversation server p (reply server p.query :: ds) := by
  cases h with
  | capped hslices => exact .capped (.more hslice hslices)
  | failed e hslices => exact .failed e (.more hslice hslices)
  | settled hslices hend => exact .settled (.more hslice hslices) hend

/-- Requests that follow their answers make a conversation. -/
theorem conversation_of_isChain {ds : List (DifferenceQuery × Answer)}
    (hserved : ServedBy server ds) (hfirst : ∀ d ∈ ds.head?, d.1 = p.query)
    (hlater : ds.IsChain FollowsSlice) : Conversation server p ds := by
  induction ds generalizing p with
  | nil => exact .capped (.none p)
  | cons d ds ih =>
    obtain ⟨asked, answer⟩ := d
    obtain rfl : asked = p.query := hfirst _ rfl
    rw [List.isChain_cons] at hlater
    obtain ⟨hnext, hlater⟩ := hlater
    -- only behind a slice there can be another request
    by_cases hslice : IsSlice answer
    · obtain ⟨page, state, rfl⟩ := hslice
      have hanswer : server p.query = .slice page state := by
        rcases hserved _ List.mem_cons_self with hok | ⟨e, he⟩
        · exact (Except.ok.inj hok).symm
        · cases he
      have hrest : Conversation server (state.pts, some state.date) ds := by
        refine ih (fun d hd => hserved d (List.mem_cons_of_mem _ hd)) (fun d hd => ?_) hlater
        obtain ⟨_, _, hsame, hquery⟩ := hnext d hd
        obtain ⟨rfl, rfl⟩ := Difference.slice.inj (Except.ok.inj hsame)
        exact hquery
      have hmore := Conversation.more hanswer hrest
      rwa [reply, hanswer] at hmore
    · have hlast : ds = [] := by
        cases ds with
        | nil => rfl
        | cons d' ds =>
          obtain ⟨page, state, hanswer, -⟩ := hnext d' rfl
          exact absurd ⟨page, state, hanswer⟩ hslice
      subst hlast
      rcases hserved _ List.mem_cons_self with hok | ⟨e, he⟩
      · obtain rfl : answer = .ok (server p.query) := hok
        exact .settled (.none p) hslice
      · obtain rfl : answer = .error e := he
        exact .failed e (.none p)

theorem granted_replied (qs : List DifferenceQuery) : granted (qs.map (reply server)) = qs := by
  induction qs with
  | nil => rfl
  | cons q qs ih => exact congrArg (q :: ·) ih

theorem granted_failed (qs : List DifferenceQuery) (q : DifferenceQuery) (e : InvocationError) :
    granted (qs.map (reply server) ++ [(q, .error e)]) = qs := by
  have hsplit : granted (qs.map (reply server) ++ [(q, .error e)]) =
      granted (qs.map (reply server)) ++ granted [(q, .error e)] := by
    simp only [granted, List.filter_append, List.map_append]
  rw [hsplit, granted_replied]
  exact List.append_nil qs

theorem answers_replied (qs : List DifferenceQuery) :
    (qs.map (reply server)).map (·.2) = replies server qs := by
  rw [List.map_map]
  rfl

theorem acceptedPages_singleton {answer : Answer} (hend : ¬ IsSlice answer) (previous : Int32) :
    acceptedPages previous [answer] = pagesOf [answer] := by
  rcases answer with e | (_ | _ | ⟨page, state⟩ | _)
  case ok.slice => exact absurd ⟨page, state, rfl⟩ hend
  all_goals rfl

/-- The pages that count are those of the requests that were granted. -/
theorem Conversation.acceptedPages_eq {ds : List (DifferenceQuery × Answer)}
    (hadvances : Advances server) (h : Conversation server p ds) :
    acceptedPages 0 (ds.map (·.2)) = pagesOf (replies server (granted ds)) := by
  cases h with
  | @capped qs q hslices =>
    rw [granted_replied, answers_replied, ← List.append_nil (replies server qs)]
    exact hslices.acceptedPages_eq hadvances (.inl rfl) fun _ => rfl
  | @failed qs q e hslices =>
    have hpages : pagesOf (replies server qs ++ [.error e]) = pagesOf (replies server qs) := by
      rw [pagesOf_append]
      exact List.append_nil _
    rw [granted_failed, List.map_append, answers_replied, ← hpages]
    exact hslices.acceptedPages_eq hadvances (.inl rfl) fun _ => rfl
  | @settled qs q hslices hend =>
    rw [granted_replied, answers_replied, replies_append]
    exact hslices.acceptedPages_eq hadvances (.inl rfl) (acceptedPages_singleton hend)

theorem Conversation.reached_eq {ds : List (DifferenceQuery × Answer)}
    (h : Conversation server p ds) :
    reached p.1 p.2 (ds.map (·.2)) = reached p.1 p.2 (replies server (granted ds)) := by
  cases h with
  | capped => rw [granted_replied, answers_replied]
  | failed e =>
    rw [granted_failed, List.map_append, answers_replied, reached_append]
    rfl
  | settled => rw [granted_replied, answers_replied]

/-! ## Conversations cut short -/

/-- Of these answers so many are slices, and then no more may be asked for or a request
fails. -/
def CutAfter (most k : Nat) (as : List Answer) : Prop :=
  ∃ slices last, as = slices ++ last ∧ slices.length = k ∧ (∀ a ∈ slices, IsSlice a) ∧
    ((last = [] ∧ k = most) ∨ ∃ e, last = [.error e])

theorem Slices.isSlice (h : Slices server p qs q) : ∀ a ∈ replies server qs, IsSlice a := by
  induction h with
  | none p => simp [replies]
  | more hslice _ ih =>
    rw [replies_slice hslice]
    intro a ha
    rcases List.mem_cons.1 ha with rfl | hlater
    · exact ⟨_, _, rfl⟩
    · exact ih a hlater

theorem length_replies (qs : List DifferenceQuery) : (replies server qs).length = qs.length :=
  List.length_map _

theorem error_not_mem_replies (e : InvocationError) (qs : List DifferenceQuery) :
    .error e ∉ replies server qs := by
  intro h
  obtain ⟨q, -, heq⟩ := List.mem_map.1 h
  cases heq

/-- What a conversation comes to that was cut short: a path of slices. -/
theorem Conversation.slices_of_cutAfter {ds : List (DifferenceQuery × Answer)} {most k : Nat}
    (h : Conversation server p ds) (hcut : CutAfter most k (ds.map (·.2))) :
    Slices server p (granted ds) (reached p.1 p.2 (replies server (granted ds))) ∧
      (granted ds).length = k := by
  obtain ⟨slices, last, hanswers, rfl, hslice, hlast⟩ := hcut
  cases h with
  | @capped qs q hslices =>
    rw [answers_replied] at hanswers
    rw [granted_replied, hslices.reached_eq]
    rcases hlast with ⟨rfl, -⟩ | ⟨e, rfl⟩
    · rw [List.append_nil] at hanswers
      exact ⟨hslices, by rw [← hanswers, length_replies]⟩
    · have hmem : .error e ∈ replies server qs := by
        rw [hanswers]
        exact List.mem_append_right _ List.mem_cons_self
      exact absurd hmem (error_not_mem_replies e qs)
  | @failed qs q e hslices =>
    rw [List.map_append, answers_replied] at hanswers
    rw [granted_failed, hslices.reached_eq]
    rcases hlast with ⟨rfl, -⟩ | ⟨e', rfl⟩
    · have hmem : .error e ∈ slices := by
        rw [List.append_nil] at hanswers
        rw [← hanswers]
        exact List.mem_append_right _ List.mem_cons_self
      obtain ⟨page, state, heq⟩ := hslice _ hmem
      cases heq
    · obtain ⟨hreplies, -⟩ := List.append_inj' hanswers rfl
      exact ⟨hslices, by rw [← hreplies, length_replies]⟩
  | @settled qs q hslices hend =>
    rw [answers_replied] at hanswers
    rcases hlast with ⟨rfl, -⟩ | ⟨e, rfl⟩
    · refine absurd (hslice _ ?_) hend
      rw [List.append_nil] at hanswers
      rw [← hanswers, replies_append]
      exact List.mem_append_right _ List.mem_cons_self
    · have hmem : .error e ∈ replies server (qs ++ [q.query]) := by
        rw [hanswers]
        exact List.mem_append_right _ List.mem_cons_self
      exact absurd hmem (error_not_mem_replies e _)

/-- And one that was not: a path till the end. -/
theorem Conversation.settles_of_not_cutAfter {ds : List (DifferenceQuery × Answer)} {most : Nat}
    (hadvances : Advances server) (h : Conversation server p ds)
    (hexhaustive : allAccepted 0 (ds.map (·.2)) → ds.length = most)
    (huncut : ∀ k, ¬ CutAfter most k (ds.map (·.2))) : Settles server p (granted ds) := by
  cases h with
  | @capped qs q hslices =>
    have hlength : qs.length = most := by
      rw [answers_replied, List.length_map] at hexhaustive
      exact hexhaustive (hslices.allAccepted hadvances (.inl rfl))
    refine absurd ⟨replies server qs, [], ?_, ?_, hslices.isSlice, .inl ⟨rfl, rfl⟩⟩ (huncut most)
    · rw [answers_replied, List.append_nil]
    · rw [length_replies, hlength]
  | @failed qs q e hslices =>
    refine absurd ⟨replies server qs, [.error e], ?_, length_replies qs, hslices.isSlice,
      .inr ⟨e, rfl⟩⟩ (huncut qs.length)
    rw [List.map_append, answers_replied]
    rfl
  | settled hslices hend =>
    rw [granted_replied]
    exact ⟨_, _, hslices, hend, rfl⟩

/-- A conversation without failures is not cut short if more may be asked for than there
is. -/
theorem Conversation.not_cutAfter {ds : List (DifferenceQuery × Answer)} {most k : Nat}
    {all : List DifferenceQuery} (h : Conversation server p ds) (hall : Settles server p all)
    (hmost : all.length ≤ most) (hgranted : ∀ d ∈ ds, d.2.isOk) :
    ¬ CutAfter most k (ds.map (·.2)) := by
  intro hcut
  obtain ⟨hslices, hk⟩ := h.slices_of_cutAfter hcut
  have hshort := hslices.length_lt hall
  obtain ⟨slices, last, hanswers, -, -, ⟨-, hlimit⟩ | ⟨e, rfl⟩⟩ := hcut
  · omega
  · have hmem : .error e ∈ ds.map (·.2) := by
      rw [hanswers]
      exact List.mem_append_right _ List.mem_cons_self
    obtain ⟨d, hd, he⟩ := List.mem_map.1 hmem
    have hok := hgranted d hd
    rw [he] at hok
    cases hok

end Recovery

end UpdatePipeline
