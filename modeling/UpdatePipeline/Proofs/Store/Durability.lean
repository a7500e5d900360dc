import Mathlib.Data.List.Induction
import Mathlib.Data.List.Infix
import UpdatePipeline.Proofs.Store.Binary
set_option autoImplicit false

/-!
# What a record file keeps

A change of the records is made in memory first and then written to the file, which may fail
and then leaves the file as it was.  A change that was written is there when the file is opened
afresh, and what is found there is always what memory held at some time before.  Only the
removal of a scope that memory does not hold is not written at all: it is done at once, and
after a failure the file still lags behind (`done_changes_are_kept`).  So a removal that
failed and is tried again is reported as done, and is not
(`repeated_removal_is_not_kept`).
-/

namespace UpdatePipeline

namespace Store

/-! ## Changes -/

/-- A change of the records. -/
inductive Change where
  | set (record : StateRecord)
  | remove (scope : Scope)
  deriving DecidableEq

/-- The records once they are changed. -/
def Change.applyTo : Change → Records → Records
  | .set record, m => m.set record
  | .remove scope, m => m.remove scope

theorem Change.isKeyed_applyTo {m : Records} (h : m.IsKeyed) (c : Change) :
    (c.applyTo m).IsKeyed := by
  cases c with
  | set record => exact h.set record
  | remove scope => exact h.remove scope

/-- Whether there is nothing to change, as there is no record to remove. -/
def Change.isIdle : Change → Store → Bool
  | .set _, _ => false
  | .remove scope, s => (s.state? scope).isNone

theorem Change.isIdle_remove {scope : Scope} {s : Store} :
    (Change.remove scope).isIdle s ↔ s.state? scope = none := by
  simp [isIdle, Option.isNone_iff_eq_none]

/-- A store's changes by what they do. -/
def change (s : Store) : Change → Except IoError Unit × Store
  | .set record => s.set record
  | .remove scope => s.remove scope

/-- A record file answers out of memory. -/
theorem state?_recordFile {s : Store} (hkind : s.kind = .recordFile) (scope : Scope) :
    s.state? scope = s.records.find? scope := by
  simp only [state?, find, hkind]
  rfl

theorem change_recordFile {s : Store} (hkind : s.kind = .recordFile) (c : Change) :
    s.change c = if c.isIdle s then (.ok (), s)
      else { s with records := c.applyTo s.records }.flush := by
  cases c with
  | set record => simp [change, Store.set, hkind, Change.isIdle, Change.applyTo]
  | remove scope =>
    simp only [change, Store.remove, hkind, Change.isIdle, state?_recordFile hkind,
      Change.applyTo]
    cases s.records.find? scope <;> rfl

/-- A record file is rewritten where it can be. -/
theorem flush_eq (s : Store) :
    s.flush = if s.volume.isWritable then
        (.ok (), { s with
          volume := { s.volume with content := some (.octets (Binary.encode s.records)) } })
      else (.error IoError.missingFile, s) := by
  unfold flush Volume.write
  by_cases hwritable : s.volume.isWritable
  · simp [hwritable]
  · simp [hwritable]

/-! ## Changes that may fail to be written -/

/-- A change, and whether the file can be written at that time. -/
structure Attempt where
  change : Change
  isWritable : Bool

/-- The store while its file can, or cannot, be written. -/
def allowing (s : Store) (isWritable : Bool) : Store :=
  { s with volume := { s.volume with isWritable } }

theorem Change.isIdle_allowing (c : Change) (s : Store) (isWritable : Bool) :
    c.isIdle (s.allowing isWritable) = c.isIdle s := by
  cases c with
  | set record => rfl
  | remove scope => rfl

/-- What comes of an attempt. -/
def attempt (s : Store) (a : Attempt) : Except IoError Unit × Store :=
  (s.allowing a.isWritable).change a.change

/-- The store after these changes have been tried. -/
def after (s : Store) (attempts : List Attempt) : Store :=
  attempts.foldl (fun s a => (s.attempt a).2) s

theorem after_concat (s : Store) (attempts : List Attempt) (a : Attempt) :
    s.after (attempts ++ [a]) = ((s.after attempts).attempt a).2 := by
  unfold after
  rw [List.foldl_append]
  rfl

/-- Opening the file afresh gives these records. -/
def ReopensTo (s : Store) (m : Records) : Prop := ∃ fresh, s.reopen = .ok fresh ∧ fresh.records = m

/-- What a change of a record file can come to. -/
inductive Step (s : Store) (a : Attempt) : Except IoError Unit → Store → Prop where
  /-- There is nothing to change, and nothing is written. -/
  | idle : a.change.isIdle s → Step s a (.ok ()) (s.allowing a.isWritable)
  | written : a.isWritable → Step s a (.ok ())
      { s with
        records := a.change.applyTo s.records
        volume := ⟨true, some (.octets (Binary.encode (a.change.applyTo s.records)))⟩ }
  /-- Memory has changed and the file has not. -/
  | lost : a.isWritable = false → Step s a (.error IoError.missingFile)
      { s with records := a.change.applyTo s.records, volume := ⟨false, s.volume.content⟩ }

theorem step_of_attempt {s : Store} (hkind : s.kind = .recordFile) (a : Attempt) :
    Step s a (s.attempt a).1 (s.attempt a).2 := by
  obtain ⟨c, isWritable⟩ := a
  have hallowed : (s.allowing isWritable).kind = .recordFile := hkind
  rw [attempt, change_recordFile hallowed, Change.isIdle_allowing]
  by_cases h : c.isIdle s
  · rw [if_pos h]
    exact .idle h
  · rw [if_neg h, flush_eq]
    cases isWritable with
    | false => exact .lost rfl
    | true => exact .written (a := ⟨c, true⟩) rfl

/-! ## What is found when the file is opened afresh -/

/-- A record file that opens is one. -/
theorem kind_of_load {v : Volume} {engine : Sqlite.Engine} {s : Store}
    (h : load .recordFile v engine = .ok s) : s.kind = .recordFile := by
  unfold load at h
  cases hfile : loadRecordFile v with
  | error e =>
    rw [hfile] at h
    cases h
  | ok records =>
    rw [hfile] at h
    obtain rfl := Except.ok.inj h
    rfl

theorem reopensTo_iff {s : Store} (hkind : s.kind = .recordFile) {m : Records} :
    s.ReopensTo m ↔ loadRecordFile s.volume = .ok m := by
  unfold ReopensTo reopen load
  rw [hkind]
  cases loadRecordFile s.volume with
  | error e => simp [bind, Except.bind]
  | ok records => simp [bind, Except.bind, pure, Except.pure]

/-- It depends on nothing but the content of the file. -/
theorem ReopensTo.congr {s t : Store} {m : Records} (h : s.ReopensTo m)
    (hs : s.kind = .recordFile) (ht : t.kind = .recordFile)
    (hcontent : t.volume.content = s.volume.content) : t.ReopensTo m := by
  rw [reopensTo_iff hs] at h
  rw [reopensTo_iff ht, ← h]
  unfold loadRecordFile
  rw [hcontent]

/-- What has been written is found. -/
theorem reopensTo_written {s : Store} (hkind : s.kind = .recordFile) {m : Records}
    (hkeyed : m.IsKeyed) (hsize : m.size < UInt32.size) :
    ReopensTo { s with records := m, volume := ⟨true, some (.octets (Binary.encode m))⟩ } m := by
  rw [reopensTo_iff]
  · simp [loadRecordFile, Binary.decode_encode hkeyed hsize]
  · exact hkind

/-- A change was lost to the file, and since then there has been nothing to change. -/
inductive Lags (s : Store) : List Attempt → Prop where
  | lost {attempts : List Attempt} {a : Attempt} :
      ((s.after attempts).attempt a).1 ≠ .ok () → Lags s (attempts ++ [a])
  | idle {attempts : List Attempt} {a : Attempt} :
      Lags s attempts → a.change.isIdle (s.after attempts) → Lags s (attempts ++ [a])

/-- A change that was done although the file lags behind had nothing to change. -/
theorem Lags.of_concat {s : Store} {attempts : List Attempt} {last : Attempt}
    (h : Lags s (attempts ++ [last])) (hok : ((s.after attempts).attempt last).1 = .ok ()) :
    last.change.isIdle (s.after attempts) ∧ Lags s attempts := by
  generalize hall : attempts ++ [last] = all at h
  cases h with
  | lost hfailed =>
    obtain ⟨rfl, hlast⟩ := List.append_inj' hall rfl
    obtain rfl := List.singleton_inj.1 hlast
    exact absurd hok hfailed
  | idle hbefore hidle =>
    obtain ⟨rfl, hlast⟩ := List.append_inj' hall rfl
    obtain rfl := List.singleton_inj.1 hlast
    exact ⟨hidle, hbefore⟩

/-- What a store with a record file has come to when these changes have been tried. -/
structure Kept (s : Store) (attempts : List Attempt) (now : Store) : Prop where
  kind : now.kind = .recordFile
  keyed : now.records.IsKeyed
  /-- The file holds what memory held at some time. -/
  past : ∃ start, start <+: attempts ∧ now.ReopensTo (s.after start).records
  /-- It holds what memory holds now, unless it lags behind. -/
  current : now.ReopensTo now.records ∨ Lags s attempts

theorem Kept.step {s : Store} {attempts : List Attempt} (h : Kept s attempts (s.after attempts))
    (a : Attempt) (hsize : (s.after (attempts ++ [a])).records.size < UInt32.size) :
    Kept s (attempts ++ [a]) (s.after (attempts ++ [a])) := by
  obtain ⟨start, hstart, hpast⟩ := h.past
  have hstart' : start <+: attempts ++ [a] := hstart.trans (List.prefix_append _ _)
  have hstep := step_of_attempt h.kind a
  rw [← after_concat] at hstep
  generalize hresult : ((s.after attempts).attempt a).1 = result at hstep
  generalize hnow : s.after (attempts ++ [a]) = now at hstep hsize ⊢
  cases hstep with
  | idle hidle =>
    refine ⟨h.kind, h.keyed, ⟨start, hstart', hpast.congr h.kind h.kind rfl⟩, ?_⟩
    rcases h.current with hcurrent | hlags
    · exact .inl (hcurrent.congr h.kind h.kind rfl)
    · exact .inr (.idle hlags hidle)
  | written _ =>
    have hkeyed := a.change.isKeyed_applyTo h.keyed
    have hreopens := reopensTo_written h.kind hkeyed hsize
    refine ⟨h.kind, hkeyed, ⟨attempts ++ [a], List.prefix_rfl, ?_⟩, .inl hreopens⟩
    rw [hnow]
    exact hreopens
  | lost _ =>
    have hfailed : ((s.after attempts).attempt a).1 ≠ .ok () := by
      rw [hresult]
      simp
    refine ⟨h.kind, a.change.isKeyed_applyTo h.keyed, ?_, .inr (.lost hfailed)⟩
    exact ⟨start, hstart', hpast.congr h.kind h.kind rfl⟩

theorem isKeyed_of_loadRecordFile {v : Volume} {records : Records}
    (h : loadRecordFile v = .ok records) : records.IsKeyed := by
  unfold loadRecordFile at h
  cases hcontent : v.content with
  | none =>
    rw [hcontent] at h
    obtain rfl := Except.ok.inj h
    exact Records.isKeyed_empty
  | some content =>
    rw [hcontent] at h
    cases content with
    | database _ => cases h
    | octets octets =>
      cases hdecode : Binary.decode octets with
      | error fault =>
        simp only [hdecode] at h
        cases h
      | ok decoded =>
        simp only [hdecode] at h
        obtain rfl := Except.ok.inj h
        exact Binary.isKeyed_of_decode hdecode

theorem kept_opened {v : Volume} {s : Store} (h : load .recordFile v = .ok s) : Kept s [] s := by
  cases hfile : loadRecordFile v with
  | error e =>
    unfold load at h
    rw [hfile] at h
    cases h
  | ok records =>
    unfold load at h
    rw [hfile] at h
    obtain rfl := Except.ok.inj h
    have hreopens : ReopensTo { kind := .recordFile, records, volume := v } records :=
      (reopensTo_iff rfl).2 hfile
    exact ⟨rfl, isKeyed_of_loadRecordFile hfile, ⟨[], List.prefix_rfl, hreopens⟩, .inl hreopens⟩

theorem kept_after {v : Volume} {s : Store} (hopen : load .recordFile v = .ok s)
    (attempts : List Attempt)
    (hsize : ∀ start, start <+: attempts → (s.after start).records.size < UInt32.size) :
    Kept s attempts (s.after attempts) := by
  induction attempts using List.reverseRecOn with
  | nil => exact kept_opened hopen
  | append_singleton attempts a ih =>
    have hbefore := ih fun start hstart => hsize start (hstart.trans (List.prefix_append _ _))
    exact hbefore.step a (hsize _ List.prefix_rfl)

/-- What opening a record file afresh finds behind a change that was reported as done, when
these were tried before it. -/
structure Durable (s : Store) (attempts : List Attempt) (last : Attempt) : Prop where
  /-- Records that memory held at some time, so that no change is found in part. -/
  past : ∃ start, start <+: attempts ++ [last] ∧
    (s.after (attempts ++ [last])).ReopensTo (s.after start).records
  /-- They are what memory holds now, unless there was nothing to change and the file lags. -/
  current : ¬ (last.change.isIdle (s.after attempts) ∧ Lags s attempts) →
    (s.after (attempts ++ [last])).ReopensTo (s.after (attempts ++ [last])).records
  /-- A record that was in memory until it was removed does not come back. -/
  removed : ∀ scope, last.change = .remove scope → ((s.after attempts).state? scope).isSome →
    ∃ fresh, (s.after (attempts ++ [last])).reopen = .ok fresh ∧ fresh.state? scope = none

/-- Memory does not hold a scope behind its removal, whatever came of it. -/
theorem state?_attempt_remove {s : Store} (hkind : s.kind = .recordFile) {a : Attempt}
    {scope : Scope} (ha : a.change = .remove scope) : (s.attempt a).2.state? scope = none := by
  have hstep := step_of_attempt hkind a
  generalize (s.attempt a).1 = result at hstep
  generalize (s.attempt a).2 = now at hstep
  have hremoved : (a.change.applyTo s.records).find? scope = none := by
    rw [ha, Change.applyTo, Records.find?_remove, if_pos rfl]
  cases hstep with
  | idle hidle =>
    rw [ha] at hidle
    exact Change.isIdle_remove.1 hidle
  | written _ =>
    rw [state?_recordFile]
    · exact hremoved
    · exact hkind
  | lost _ =>
    rw [state?_recordFile]
    · exact hremoved
    · exact hkind

/-- A change of a record file is durable once it is reported as done, however many were lost
before it. -/
theorem done_changes_are_kept {v : Volume} {s : Store} (hopen : load .recordFile v = .ok s)
    (attempts : List Attempt) (last : Attempt)
    (hsize : ∀ start, start <+: attempts ++ [last] →
      (s.after start).records.size < UInt32.size)
    (hok : ((s.after attempts).attempt last).1 = .ok ()) : Durable s attempts last := by
  have hkept := kept_after hopen (attempts ++ [last]) hsize
  have hkind : (s.after attempts).kind = .recordFile :=
    (kept_after hopen attempts fun start hstart =>
      hsize start (hstart.trans (List.prefix_append _ _))).kind
  have hcurrent : ¬ (last.change.isIdle (s.after attempts) ∧ Lags s attempts) →
      (s.after (attempts ++ [last])).ReopensTo (s.after (attempts ++ [last])).records := by
    intro hnot
    rcases hkept.current with hcurrent | hlags
    · exact hcurrent
    · exact absurd (hlags.of_concat hok) hnot
  refine ⟨hkept.past, hcurrent, fun scope hlast hheld => ?_⟩
  obtain ⟨fresh, hfresh, hrecords⟩ := hcurrent fun hlags => by
    have hidle := hlags.1
    rw [hlast, Change.isIdle_remove] at hidle
    rw [hidle] at hheld
    cases hheld
  refine ⟨fresh, hfresh, ?_⟩
  have hgone := state?_attempt_remove hkind hlast
  rw [← after_concat, state?_recordFile hkept.kind] at hgone
  rw [reopen, hkept.kind] at hfresh
  rw [state?_recordFile (kind_of_load hfresh), hrecords]
  exact hgone

/-- An account's record, written to a file that was not there. -/
def accountWritten : Attempt := ⟨.set { scope := .account, pts := 10, date := some 1 }, true⟩

/-- A channel's record that is lost to the file. -/
def channelLost : Attempt := ⟨.set { scope := Scope.ofChannel 123, pts := 500 }, false⟩

/-- The loss of a channel's record is made up for when the account's is removed. -/
theorem done_changes_are_kept_behindLoss :
    Durable { kind := .recordFile } [accountWritten, channelLost] ⟨.remove .account, true⟩ := by
  have hopen : load .recordFile {} = .ok { kind := .recordFile } := rfl
  have hsmall : ∀ start ∈ [accountWritten, channelLost, ⟨.remove .account, true⟩].inits,
      (after { kind := .recordFile } start).records.size < UInt32.size := by decide
  exact done_changes_are_kept hopen [accountWritten, channelLost] ⟨.remove .account, true⟩
    (fun start hstart => hsmall start ((List.mem_inits _ _).2 hstart)) rfl

/-- The removal of a record fails and is tried again when the file can be written: it is
reported as done, as memory holds the record no more, and the file brings it back. -/
theorem repeated_removal_is_not_kept :
    load .recordFile {} = .ok { kind := .recordFile } ∧
    let before := after { kind := .recordFile } [accountWritten, ⟨.remove .account, false⟩]
    let last : Attempt := ⟨.remove .account, true⟩
    (before.attempt last).1 = .ok () ∧ (before.attempt last).2.states = [] ∧
      ∃ fresh, (before.attempt last).2.reopen = .ok fresh ∧
        fresh.states = [{ scope := .account, pts := 10, date := some 1 }] := by
  refine ⟨rfl, rfl, rfl, ?_⟩
  exact ⟨_, rfl, rfl⟩

end Store

end UpdatePipeline
