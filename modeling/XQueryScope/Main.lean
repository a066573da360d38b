import XQueryScope.Command.Program

/-!
# Running the program

The thin outer layer: files, clock and memory are those of the real world, and outcomes are printed.
-/

namespace XQueryScope

/-- The text of a file, if it can be read as text. -/
def readRealFile (path : String) : IO (Option String) :=
  try
    return some (← IO.FS.readFile path)
  catch _ => return none

/-- Whether a path can be opened. -/
def isReallyPresent (path : String) : IO Bool :=
  try
    let _ ← IO.FS.Handle.mk path .read
    return true
  catch _ => return false

/-- The peak memory that a process status tells, in bytes. -/
def peakBytesOf? (status : String) : Option Nat := do
  let line ← (status.splitOn "\n").find? (·.startsWith "VmHWM:")
  let digits := line.toList.filter Char.isDigit
  (Text.readNat? digits).map (· * 1024)

/-- What the clock and the process show now. -/
def readClock : IO Reading := do
  let nanoseconds ← IO.monoNanosNow
  let status ← readRealFile "/proc/self/status"
  return { nanoseconds, peakBytes := status.bind peakBytesOf? }

/-- Runs a script in the real world, and prints its timing notes if they are asked for. -/
def Script.perform {α : Type} (timing : Bool) : Script α → IO α
  | .done a => return a
  | .read path next => do
    let text ← readRealFile path
    (next text).perform timing
  | .present path next => do
    let there ← isReallyPresent path
    (next there).perform timing
  | .clock next => do
    let reading ← readClock
    (next reading).perform timing
  | .log note next => do
    if timing then
      for line in note.timingLines .plain do
        IO.eprintln line
    next.perform timing

end XQueryScope

open XQueryScope in
/-- Runs the program, prints what it prints, and ends with its exit code. -/
def main (args : List String) : IO UInt32 := do
  let timing := ((← IO.getEnv "XQSTATIC_PERF").map asksForTiming).getD false
  let outcome ← (runProgram args).perform timing
  IO.print (outcome.output.render .plain)
  match outcome.failure with
  | some chain => IO.eprint (failureText chain)
  | none => pure ()
  return outcome.exitCode.toUInt32
