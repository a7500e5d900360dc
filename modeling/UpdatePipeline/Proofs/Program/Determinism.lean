import UpdatePipeline.Proofs.Program.Run
set_option autoImplicit false

/-!
# What the answers settle

A program leaves nothing open but the answers it gets.  Surroundings that give the answers
recorded in a trace (`Surroundings.Answers`) therefore run a program by that very trace, if
it has such a run at all (`Program.Runs.run_eq`), no matter what else sets them apart from
the surroundings in which the trace was taken down.
-/

namespace UpdatePipeline

open Schema Program

variable {α : Type} {policy : RetryPolicy}

/-- The answer that a step got is the one of these surroundings after all that is past.
Steps that ask for nothing get it anywhere. -/
def Program.Event.IsAnswer (w : Surroundings policy) (past : Trace) : Event → Prop
  | .invoked request attempts reply =>
    (w.invoke past request).attempts = attempts ∧ (w.invoke past request).reply = reply
  | .resolved peer answer => w.resolve past peer = answer
  | .listed answer => w.listing past = answer
  | .stored record answer => w.writing past record = answer
  | .enqueued _ | .reported _ | .touched => True

/-- After all that is past these surroundings give every answer that a trace records. -/
def Surroundings.Answers (w : Surroundings policy) : Trace → Trace → Prop
  | _, [] => True
  | past, e :: rest => e.IsAnswer w past ∧ w.Answers (past ++ [e]) rest

/-- Where the answers are those of a run the program takes the course of that run. -/
theorem Program.Runs.run_eq {w : Surroundings policy} {p : Program α} {past t : Trace} {a : α}
    (h : p.Runs policy t a) (hanswers : w.Answers past t) : w.run p past = (t, a) := by
  induction h generalizing past with
  | done a => rfl
  | invoke _ _ ih =>
    obtain ⟨⟨rfl, rfl⟩, hrest⟩ := hanswers
    rw [Surroundings.run, Surroundings.andThen, ih hrest]
  | resolve _ ih =>
    obtain ⟨rfl, hrest⟩ := hanswers
    rw [Surroundings.run, Surroundings.andThen, ih hrest]
  | listRecords _ ih =>
    obtain ⟨rfl, hrest⟩ := hanswers
    rw [Surroundings.run, Surroundings.andThen, ih hrest]
  | storeRecord _ ih =>
    obtain ⟨rfl, hrest⟩ := hanswers
    rw [Surroundings.run, Surroundings.andThen, ih hrest]
  | enqueue _ ih | report _ ih | touch _ ih =>
    obtain ⟨-, hrest⟩ := hanswers
    rw [Surroundings.run, Surroundings.andThen, ih hrest]

end UpdatePipeline
