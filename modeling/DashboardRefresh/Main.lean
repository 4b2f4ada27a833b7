import DashboardRefresh.Board.CommandLine
import Std.Time.DateTime.Timestamp
import Std.Time.Zoned.Database

/-!
# The program

Gathers what a run finds, follows the course that it takes and prints. It has no way to a network.
-/

namespace DashboardRefresh.Program

/-- The variables that the program looks at. -/
def readEnvironment : IO Environment := do
  let names := ["FEEDBOARD_CONFIG", "FEEDBOARD_LOG_DIR", "FEEDBOARD_ONCE", "RUST_LOG"]
  names.filterMapM fun name => return (← IO.getEnv name).map fun value => (name, value.toUTF8)

/-- What is wrong with a path. -/
def faultOf : IO.Error → FileFault
  | .noFileOrDirectory .. => .missing
  | .inappropriateType _ 20 _ => .notDirectory
  | .resourceExhausted _ 36 _ | .invalidArgument _ 36 _ => .nameTooLong
  | _ => .directory

/-- What the file at a path holds. -/
def readContent (path : String) : IO (Except FileFault ByteArray) := do
  try
    return .ok (← IO.FS.readBinFile path)
  catch e => return .error (faultOf e)

/-- Set up the log, and open the log file of the day if the settings ask for one. -/
def setUpLog (e : Environment) (c : Clock) : IO Bool := do
  if !e.logFilter.isOk then return false
  try
    if let some directory := (Settings.ofEnvironment e).logDir then
      IO.FS.createDirAll directory
      IO.FS.withFile (directory ++ "/" ++ FileTree.logName c) .append fun _ => pure ()
    return true
  catch _ => return false

def readClock : IO Clock := return ⟨(← Std.Time.Timestamp.now).toNanosecondsSinceUnixEpoch.val⟩

/-- The minutes that local time is ahead of universal time, nothing where the zone is not known. -/
def readOffset : IO Int := do
  try
    let rules ← Std.Time.Database.defaultGetLocalZoneRules
    let zone := rules.findLocalTimeTypeForTimestamp (← Std.Time.Timestamp.now)
    return zone.gmtOffset.second.val / 60
  catch _ => return 0

/-- The timer counts nanoseconds in 64 bits, and keeps the longest period that it has in place of a
longer one. -/
def timer : Timer :=
  ⟨Word.unsignedLimit / 1000000, Word.unsignedLimit / 1000000, by decide⟩

/-- Go on with a ticker for as long as it has not come to its end. Nothing is shut down here, and so
no answer meets a cancellation. -/
partial def tick (offset : Int) (t : Ticker) : IO Unit := do
  unless t.finished do
    let before ← IO.monoMsNow
    IO.sleep (UInt32.ofNat (min t.period 4294967295))
    let situation : Ticker.Situation := ⟨offset, .unreachable, fun _ _ => true⟩
    tick offset (t.advance situation ((← IO.monoMsNow) - before))

def run : IO UInt32 := do
  let environment ← readEnvironment
  let clock ← readClock
  let offset ← readOffset
  let ready ← setUpLog environment clock
  let content ← readContent (Settings.ofEnvironment environment).configPath
  let course := Invocation.course ⟨environment, ready, fun _ => content,
    ⟨clock, offset, Network.unreachable, fun _ => true⟩, timer⟩
  match course with
  | .failed report => IO.eprintln report
  | .broken => IO.eprintln "the log or the clock cannot be used"
  | .printed snapshots => IO.println ((Json.list snapshots).pretty 0)
  | .ticking ticker => tick offset ticker
  return UInt32.ofNat course.exitCode

end DashboardRefresh.Program

def main : IO UInt32 := DashboardRefresh.Program.run
