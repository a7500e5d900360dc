import UpdatePipeline.Envelope
import UpdatePipeline.Invocation
import UpdatePipeline.Store.Record
set_option autoImplicit false

/-!
# Programs

What an operation of the client does is a program: a tree of requests to its
surroundings, each with a continuation for every answer.  A program fixes the order
of everything that can be seen and leaves open what the answers are and how much time
passes before them.
-/

namespace UpdatePipeline

open Schema

/-- An operation of the client with a result in `α`. -/
inductive Program (α : Type) where
  | done (result : α)
  /-- Invokes a request, repeated attempts included. -/
  | invoke (request : Request) (next : Reply → Program α)
  /-- Asks for the input peer of a marked id. -/
  | resolve (peer : Int64) (next : Except InvocationError InputPeer → Program α)
  /-- Lists the stored records. -/
  | listRecords (next : Except IoError (List StateRecord) → Program α)
  /-- Stores a record. -/
  | storeRecord (record : StateRecord) (next : Except IoError Unit → Program α)
  /-- Queues an envelope for the handlers. -/
  | enqueue (envelope : Envelope) (next : Program α)
  | report (notice : Notice) (next : Program α)
  /-- Takes down that an update has just been received. -/
  | touch (next : Program α)

namespace Program

variable {α β : Type}

/-- The program that goes on with `f` from the result. -/
def bind (f : α → Program β) : Program α → Program β
  | .done a => f a
  | .invoke request next => .invoke request fun r => (next r).bind f
  | .resolve peer next => .resolve peer fun r => (next r).bind f
  | .listRecords next => .listRecords fun r => (next r).bind f
  | .storeRecord record next => .storeRecord record fun r => (next r).bind f
  | .enqueue envelope next => .enqueue envelope (next.bind f)
  | .report notice next => .report notice (next.bind f)
  | .touch next => .touch (next.bind f)

instance : Monad Program where
  pure := .done
  bind p f := p.bind f

@[simp] theorem bind_done (a : α) (f : α → Program β) : (Program.done a).bind f = f a := rfl

theorem bind_done_right (p : Program α) : p.bind .done = p := by
  induction p <;> simp_all [bind]

theorem bind_assoc {γ : Type} (p : Program α) (f : α → Program β) (g : β → Program γ) :
    (p.bind f).bind g = p.bind fun a => (f a).bind g := by
  induction p <;> simp_all [bind]

instance : LawfulMonad Program :=
  LawfulMonad.mk' Program bind_done_right (fun _ _ => rfl) bind_assoc

/-! ## Single steps -/

/-- Invokes a request and reads the response by `convert`. -/
def invokeAs (request : Request) (convert : Response → Except InvocationError α) :
    Program (Except InvocationError α) :=
  .invoke request fun reply => .done (reply.bind convert)

/-- Invokes `getDifference`. -/
def getDifference (query : DifferenceQuery) : Program (Except InvocationError Difference) :=
  invokeAs (.getDifference query) Response.asDifference

/-- Invokes `getChannelDifference`. -/
def getChannelDifference (query : ChannelDifferenceQuery) :
    Program (Except InvocationError ChannelDifference) :=
  invokeAs (.getChannelDifference query) Response.asChannelDifference

/-- Asks for the input peer of a scope's channel. -/
def resolvePeer (peer : Int64) : Program (Except InvocationError InputPeer) := .resolve peer .done

/-- Lists the stored records. -/
def records : Program (Except IoError (List StateRecord)) := .listRecords .done

/-- Stores a record. -/
def store (record : StateRecord) : Program (Except IoError Unit) := .storeRecord record .done

/-- Queues envelopes in order. -/
def enqueueAll : List Envelope → Program Unit
  | [] => .done ()
  | e :: rest => .enqueue e (enqueueAll rest)

/-- Reports a notice. -/
def notify (notice : Notice) : Program Unit := .report notice (.done ())

/-- Takes down that an update has just been received. -/
def touched : Program Unit := .touch (.done ())

end Program

end UpdatePipeline
