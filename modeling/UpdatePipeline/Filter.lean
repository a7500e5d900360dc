import UpdatePipeline.Parsed.Basic
set_option autoImplicit false

/-!
# Filters

A filter decides whether a typed handler runs.  Filters are built from predicates,
which may fail, by conjunction, disjunction and negation.  Evaluation goes from left
to right and stops as soon as the answer is known; the first failing predicate that
it reaches is the answer.
-/

namespace UpdatePipeline

/-- A condition on parsed updates that may fail with a message. -/
abbrev Predicate := Parsed.Update → Except String Bool

/-- A combination of predicates. -/
inductive Filter where
  | leaf (predicate : Predicate)
  | and (a b : Filter)
  | or (a b : Filter)
  | not (a : Filter)
  deriving Inhabited

namespace Filter

/-- Evaluation by means of `ask`, which answers for single predicates. -/
def evaluate {m : Type → Type} [Monad m] (ask : Predicate → ExceptT String m Bool) :
    Filter → ExceptT String m Bool
  | .leaf p => ask p
  | .and a b => do if ← a.evaluate ask then b.evaluate ask else return false
  | .or a b => do if ← a.evaluate ask then return true else b.evaluate ask
  | .not a => return !(← a.evaluate ask)

/-- Whether the filter accepts an update. -/
def check (f : Filter) (u : Parsed.Update) : Except String Bool :=
  Id.run (f.evaluate fun p => ExceptT.mk (m := Id) (p u))

/-! ## Filters that never fail -/

/-- The filter that accepts what satisfies `p`. -/
def ofBool (p : Parsed.Update → Bool) : Filter := .leaf fun u => .ok (p u)

/-- The filter that always answers `b`. -/
def const (b : Bool) : Filter := ofBool fun _ => b

/-- Updates with a message that has a text. -/
def text : Filter := ofBool fun u => u.message?.any (·.text.isSome)

/-- Updates whose message is the command `name`. -/
def command (name : String) : Filter :=
  ofBool fun u => u.message?.bind Parsed.Message.command? == some name

/-- Updates that concern the chat with this marked id. -/
def chat (chatId : Int) : Filter := ofBool fun u => u.chatId? == some chatId

/-- Updates with a message of somebody else. -/
def incoming : Filter := ofBool fun u => u.message?.any (!·.isOutgoing)

/-- Updates with a message of this account. -/
def outgoing : Filter := ofBool fun u => u.message?.any (·.isOutgoing)

/-- Pressed buttons with this data. -/
def callbackData (data : String) : Filter := ofBool fun
  | .callbackQuery q => q.data? == some data
  | _ => false

end Filter

end UpdatePipeline
