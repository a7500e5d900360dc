import Std.Time.DateTime.Timestamp
import UpdatePipeline.Replay.Run
set_option autoImplicit false

/-!
# The command line

Replays the transcript in a file.  The report is computed at once; its lines are
written when their instants have come.
-/

namespace UpdatePipeline.Replay

/-- Why a file could not be read. -/
def readFailure : IO.Error → IoError
  | .noFileOrDirectory _ _ _ => IoError.missingFile
  | .permissionDenied _ _ _ => { message := "Permission denied (os error 13)" }
  | .inappropriateType _ _ _ => { message := "Is a directory (os error 21)" }
  | e => { message := toString e }

/-- What the arguments and the file system give. -/
def Input.read : List String → IO Input
  | [] => return .noArgument
  | path :: _ => do
    try
      let content ← IO.FS.readBinFile path
      return .file path ((String.fromUTF8? content).getD "")
    catch e => return .unreadable (readFailure e)

/-- The seconds since midnight, in universal time. -/
def currentSecondsOfDay : IO Nat := do
  return secondsOfDay (← Std.Time.Timestamp.now).toSecondsSinceUnixEpoch.val

/-- Waits until so many milliseconds have passed since the start. -/
def waitUntil (start : Nat) (instant : Instant) : IO Unit := do
  let passed := (← IO.monoMsNow) - start
  if passed < instant then IO.sleep (UInt32.ofNat (instant - passed))

/-- Writes a line where it belongs. -/
def Line.put (line : Line) : IO Unit := do
  let text := line.text (← currentSecondsOfDay)
  if line.isOutput then IO.println text else IO.eprintln text

/-- Writes a report. -/
def Playback.perform (p : Playback) : IO UInt32 := do
  let start ← IO.monoMsNow
  for e in p.entries do
    waitUntil start e.instant
    e.line.put
  return UInt32.ofNat p.exitCode

end UpdatePipeline.Replay

/-- The command. -/
def main (arguments : List String) : IO UInt32 := do
  (UpdatePipeline.Replay.run (← UpdatePipeline.Replay.Input.read arguments)).perform
