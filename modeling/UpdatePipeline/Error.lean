set_option autoImplicit false

/-!
# Errors

What can go wrong, by cause, with the wording in one function each.  The server's
errors carry their number apart: `FLOOD_WAIT_30` has the name `FLOOD_WAIT` and the
value 30.
-/

namespace UpdatePipeline

/-! ## Errors of the server -/

/-- A request refused by the server. -/
structure RpcError where
  code : Int32
  name : String
  value : Option UInt32 := none
  deriving DecidableEq, Repr, Inhabited

namespace RpcError

/-- The name and the number of a message, if what follows its last underscore is a
number below `2 ^ 32` in decimal digits. -/
def splitNumber? (message : List Char) : Option (List Char × UInt32) :=
  let reversed := message.reverse
  let digits := (reversed.takeWhile Char.isDigit).reverse
  match reversed.dropWhile Char.isDigit with
  | '_' :: name =>
    let value := Nat.ofDigitChars 10 digits 0
    if digits ≠ [] ∧ value < UInt32.size then some (name.reverse, UInt32.ofNat value) else none
  | _ => none

/-- The error that a code and the server's message name. -/
def ofMessage (code : Int32) (message : String) : RpcError :=
  match splitNumber? message.toList with
  | some (name, value) => { code, name := String.ofList name, value := some value }
  | none => { code, name := message }

/-- Whether the error's name fits a pattern: a star at its end stands for any rest,
otherwise a star in front for any beginning, and nothing else stands for more than
itself. -/
def fits (e : RpcError) (pattern : String) : Bool :=
  match pattern.toList.reverse, pattern.toList with
  | '*' :: stem, _ => stem.reverse.isPrefixOf e.name.toList
  | _, '*' :: ending => ending.isSuffixOf e.name.toList
  | _, _ => e.name == pattern

/-- How many seconds the server asks to wait, if that is what the error says. -/
def floodWait? (e : RpcError) : Option UInt32 :=
  if e.code = 420 ∧ e.name = "FLOOD_WAIT" then e.value else none

/-- The wording. -/
def message (e : RpcError) : String :=
  let number := match e.value with
    | some v => s!" (value: {v})"
    | none => ""
  s!"RPC {e.code}: {e.name}" ++ number

end RpcError

/-! ## Errors of input and output -/

/-- The kinds of input and output errors that arise here. -/
inductive IoError.Kind where
  | notFound
  | invalidData
  | other
  deriving DecidableEq, Repr, Inhabited

/-- A failure of input or output. -/
structure IoError where
  kind : IoError.Kind := .other
  message : String
  deriving DecidableEq, Repr, Inhabited

namespace IoError

/-- The kind's name. -/
def Kind.name : Kind → String
  | .notFound => "NotFound"
  | .invalidData => "InvalidData"
  | .other => "Other"

/-- A file or directory is not there. -/
def missingFile : IoError := ⟨.notFound, "No such file or directory (os error 2)"⟩

end IoError

/-! ## Errors of an invocation -/

/-- Why a request, or an operation built on requests, failed. -/
inductive InvocationError where
  | rpc (error : RpcError)
  | io (error : IoError)
  /-- The answer is not of the shape that the request promised. -/
  | unexpectedShape (explanation : String)
  /-- Nobody answered. -/
  | dropped
  deriving DecidableEq, Repr, Inhabited

namespace InvocationError

/-- Whether this is a server error whose name fits the pattern. -/
def fits (e : InvocationError) (pattern : String) : Bool :=
  match e with
  | .rpc e => e.fits pattern
  | _ => false

/-- How many seconds the server asks to wait. -/
def floodWait? : InvocationError → Option UInt32
  | .rpc e => e.floodWait?
  | _ => none

/-- The server errors after which a scope's difference cannot be fetched. -/
def scopeTerminal : List String :=
  ["CHANNEL_PRIVATE", "CHANNEL_INVALID", "PERSISTENT_TIMESTAMP_OUTDATED",
    "PERSISTENT_TIMESTAMP_INVALID"]

/-- Whether this error ends the recovery of one scope for good. -/
def isScopeTerminal (e : InvocationError) : Bool := scopeTerminal.any e.fits

/-- The wording. -/
def message : InvocationError → String
  | .rpc e => e.message
  | .io e => s!"I/O error: {e.message}"
  | .unexpectedShape explanation => s!"deserialize error: {explanation}"
  | .dropped => "request dropped"

end InvocationError

/-! ## Errors of registration -/

/-- Names one registration of a handler; numbered from 1. -/
abbrev HandlerId := Nat

/-- The id as it is shown. -/
def HandlerId.show (id : HandlerId) : String := s!"#{id}"

/-- Why the dispatcher refused an operation. -/
inductive DispatchError where
  | unknownGroup (group : Int32)
  | unknownHandler (id : HandlerId)
  | closed
  deriving DecidableEq, Repr, Inhabited

/-- The wording. -/
def DispatchError.message : DispatchError → String
  | .unknownGroup group => s!"group {group} does not exist"
  | .unknownHandler id => s!"handler {HandlerId.show id} is not registered in that group"
  | .closed => "dispatcher is closed"

end UpdatePipeline
