import TabTools.Debug.Message
import TabTools.Debug.Cursor
import TabTools.Debug.Handles
import TabTools.Files.Basic

/-!
# Debug sessions

The state of one session with one client. A session starts `uninitialized`; launching a program
makes it run, and running ends in a stop or in termination.

**Scanning.** Running a program means visiting the lines beyond the cursor until one halts it
(`scan`). A step halts at every line that is not blank. A continue halts at the breakpoints of the
program and at lines that mention `exception`; a breakpoint wins over an exception on its line.
-/

namespace TabTools.Debug

inductive Phase where
  | uninitialized
  | initialized
  | running
  | stopped (reason : StopReason)
  | terminated
  | disconnected
deriving DecidableEq, Repr

/-- The tab server that belongs to a session. -/
inductive Link where
  | absent
  | listening
  | closed
deriving DecidableEq, Repr

structure Session where
  phase : Phase := .uninitialized
  base : LineBase := {}
  /-- The path under which the launched program is known. -/
  program : Option Files.Path := none
  source : Source := .empty
  cursor : Cursor := {}
  breakpoints : BreakpointTable := {}
  handles : Handles := {}
  link : Link := .absent
deriving DecidableEq, Repr

/-- What makes a scan halt. -/
inductive Probe where
  /-- Breakpoints and exceptions. -/
  | events
  /-- Any line that is not blank. -/
  | steps
deriving DecidableEq, Repr

inductive Halt where
  | breakpoint (hit : Hit)
  | exception
  | step
deriving DecidableEq, Repr

def Halt.reason : Halt → StopReason
  | .breakpoint _ => .breakpoint
  | .exception => .exception
  | .step => .step

/-- The breakpoint that stopped the program. -/
def Halt.hitId : Halt → Option Nat
  | .breakpoint hit => some hit.id
  | _ => none

/-- The breakpoint that the halt has verified. -/
def Halt.verified : Halt → Option Breakpoint
  | .breakpoint hit => hit.verifiedNow
  | _ => none

/-- A line that mentions this raises an exception. -/
def exceptionMarker : List Char := "exception".toList

namespace Session

/-- Reaching a line of the program: the breakpoint hit there and the table after it. -/
def hitAt (s : Session) (line : Nat) : Option (Hit × BreakpointTable) :=
  s.program.bind fun path =>
    s.breakpoints.hit (Files.components path) (s.base.toClient line)

/-- Whether a line halts the program, and the breakpoint table after reaching it. -/
def probe (s : Session) (probe : Probe) (line : Nat) : Option (Halt × BreakpointTable) :=
  match s.source.get? line with
  | none => none
  | some text =>
    match probe with
    | .steps => if (Text.trim text).isEmpty then none else some (.step, s.breakpoints)
    | .events =>
      match s.hitAt line with
      | some (hit, table) => some (.breakpoint hit, table)
      | none =>
        if Text.mentions exceptionMarker text then some (.exception, s.breakpoints) else none

/-- Where a scan halts: the line, the cause and the breakpoint table afterwards. -/
structure Stop where
  line : Nat
  halt : Halt
  table : BreakpointTable

/-- Visits lines in order until one halts. -/
def firstStop (s : Session) (p : Probe) : List Nat → Option Stop
  | [] => none
  | line :: rest =>
    match s.probe p line with
    | some (halt, table) => some ⟨line, halt, table⟩
    | none => firstStop s p rest

/-- Scans from the cursor in one direction. -/
def scan (s : Session) (direction : Direction) (p : Probe) : Option Stop :=
  s.firstStop p (s.cursor.candidates direction s.source.length)

/-- Whether a program is under way. -/
def isLive (s : Session) : Bool :=
  match s.phase with
  | .running => true
  | .stopped _ => true
  | _ => false

end Session

/-- The frames from the first to the last of a page, the end not included. A page without a length,
or with length zero, reaches to the end. -/
def frameWindow (total : Nat) (start levels : Option Nat) : Nat × Nat :=
  let first := min (start.getD 0) total
  match levels with
  | none => (first, total)
  | some 0 => (first, total)
  | some n => (first, min (first + n) total)

end TabTools.Debug
