import UpdatePipeline.Retry
import UpdatePipeline.Store.Backend
set_option autoImplicit false

/-!
# The configuration of a client
-/

namespace UpdatePipeline

/-- What a client may be told at the start. -/
structure Config where
  /-- The number of workers; 0 counts as 1. -/
  workers : Nat := 5
  /-- Neither store positions nor recover gaps. -/
  skipUpdates : Bool := false
  retry : RetryPolicy := RetryPolicy.autoSleep {}
  storage : StoreKind := .memory
  messageCacheSize : Nat := 1000
  connectionCacheSize : Nat := 1000
  /-- The silence after which the watchdog asks the server for its state. -/
  watchdogInterval : Duration := Duration.ofSeconds (15 * 60)
  /-- The limit of a channel difference asked for during recovery. -/
  channelDifferenceLimit : Int32 := 10000
  /-- The most pages fetched for one scope during one recovery. -/
  maxDifferencePages : Nat := 1000

/-- The configuration for a machine with this many processors: four workers more, but
at most 32. -/
def Config.forProcessors (processors : Nat) : Config := { workers := min 32 (processors + 4) }

instance : Inhabited Config := ⟨{}⟩

end UpdatePipeline
