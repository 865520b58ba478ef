import TabTools.Adapter.Process
import TabTools.Editor.Server

/-!
# The program

The program is a debug adapter, whose options are its arguments, or with the one argument `lsp` a
language server. Both talk over the standard streams. Clients on a network are left to whoever
starts the program and connects its streams.
-/

namespace TabTools

/-! ## Messages on a stream -/

/-- Reads the header lines of a message, up to the empty line, a faulty one or the end. -/
partial def readBlock (input : IO.FS.Stream) (block line : List UInt8) : IO (List UInt8) := do
  match (← input.read 1).toList with
  | [] => return block ++ line
  | b :: _ =>
    let line := line ++ [b]
    if b ≠ 10 then readBlock input block line
    else
      match Wire.parseHeader line with
      | .ok .blank => return block ++ line
      | .error _ => return block ++ line
      | _ => readBlock input (block ++ line) []

/-- Reads `size` bytes, or fewer at the end of the stream. -/
partial def readBody (input : IO.FS.Stream) (size : Nat) (seen : ByteArray) : IO ByteArray := do
  if size ≤ seen.size then return seen
  let chunk ← input.read (USize.ofNat (min (size - seen.size) 65536))
  if chunk.isEmpty then return seen
  readBody input size (seen ++ chunk)

/-- Reads the next message. -/
def readMessage (input : IO.FS.Stream) : IO (Except Wire.ReadError Json) := do
  let block ← readBlock input [] []
  match Wire.readHeaders none block with
  | (.ok (some size), _) =>
    let body ← readBody input size ByteArray.empty
    return (Wire.read (block ++ body.toList)).1
  | _ => return (Wire.read block).1

def writeBytes (output : IO.FS.Stream) (bytes : List UInt8) : IO Unit := do
  output.write bytes.toByteArray
  output.flush

/-! ## Files -/

def fileError : IO.Error → Files.FileError
  | .noFileOrDirectory _ _ _ => .notFound
  | e => .other (toString e)

/-- A file as it is now. -/
structure Snapshot where
  path : String
  content : Except Files.FileError (List UInt8)
  canonical : Option Files.Path

def snapshot (path : String) : IO Snapshot := do
  let content ← (IO.FS.readBinFile path).toBaseIO
  let canonical ← (IO.FS.realPath path).toBaseIO
  return {
    path
    content := match content with
      | .ok bytes => .ok bytes.toList
      | .error e => .error (fileError e)
    canonical := match content, canonical with
      | .ok _, .ok place => some (.ofText place.toString)
      | _, _ => none }

/-- The files that were looked at. -/
def viewOf (shots : List Snapshot) : Files.View where
  read path :=
    match shots.find? fun s => s.path == path with
    | some s => s.content
    | none => .error .notFound
  canonical path := (shots.find? fun s => s.path == path).bind Snapshot.canonical

/-! ## The debug adapter -/

/-- Adds text to the log, if there is one. -/
def addToLog (log : Option IO.FS.Handle) (text : List Char) : IO Unit := do
  if let some handle := log then
    handle.putStr (String.ofList text)
    handle.flush

/-- The files that the next message may make the session look at. -/
def filesFor (inbound : Except Wire.ReadError Json) : IO Files.View := do
  match inbound with
  | .error _ => return viewOf []
  | .ok message =>
    match Debug.Run.request? message with
    | none => return viewOf []
    | some req => return viewOf (← req.paths.mapM snapshot)

/-- Serves a session to its end. -/
partial def debugLoop (input output : IO.FS.Stream) (log : Option IO.FS.Handle) (trace : Bool)
    (run : Debug.Run) : IO UInt32 := do
  let inbound ← readMessage input
  let files ← filesFor inbound
  let (run, outcome) := run.serve Debug.Faults.none { inbound, files }
  let traffic := run.entries.map Debug.Entry.traffic
  writeBytes output (Wire.outputBytes traffic)
  addToLog log (Wire.logLines trace traffic)
  match outcome with
  | .goOn => debugLoop input output log (Wire.traceAfter trace traffic) { run with entries := [] }
  | _ =>
    if let some note := Adapter.endNote? outcome then addToLog log (Wire.noteLine note.toList)
    return (Adapter.endStatus outcome).toUInt32

/-- Opens the log that options name. -/
def openLogFile (options : Adapter.Options) : IO (Option IO.FS.Handle) :=
  match options.logFile with
  | none => return none
  | some path => return some (← IO.FS.Handle.mk path .append)

def debugMain (arguments : List String) : IO UInt32 := do
  let environment ← IO.getEnv "TABASM_LINK_PORT"
  match Adapter.Options.parse arguments environment with
  | .error stop =>
    IO.print (stop.output environment)
    return stop.status.toUInt32
  | .ok options =>
    let log ← openLogFile options
    match options.mode? with
    | some .stdio =>
      debugLoop (← IO.getStdin) (← IO.getStdout) log options.traceDap (.start .absent)
    | some (.network _) =>
      IO.eprintln "sessions are served over the standard streams: give --stdio"
      return 1
    | none =>
      IO.eprintln "Invalid listen address"
      return 1

/-! ## The language server -/

/-- Takes calls until the editor leaves. -/
partial def editorLoop (input output : IO.FS.Stream) (server : Editor.Server) : IO Unit := do
  let incoming ← match ← readMessage input with
    | .ok message => pure (Editor.Incoming.ofJson message)
    | .error .badJson => pure (.refused .unreadable)
    | .error _ => return
  match server.receive incoming with
  | none => return
  | some (server, reply) =>
    for sent in Editor.Server.outgoing reply do
      writeBytes output (Wire.frame sent)
    if server.phase ≠ .exited then editorLoop input output server

def editorMain : IO UInt32 := do
  let home := (← IO.getEnv "HOME").getD ""
  let files := viewOf [← snapshot (Editor.Settings.homePath home)]
  editorLoop (← IO.getStdin) (← IO.getStdout) (.start (Editor.Settings.load files home))
  return 0

end TabTools

/-- Starts the language server with the argument `lsp`, else the debug adapter. -/
def main (arguments : List String) : IO UInt32 :=
  match arguments with
  | ["lsp"] => TabTools.editorMain
  | _ => TabTools.debugMain arguments
