import TabTools.Adapter.Address
import TabTools.Adapter.Options
import TabTools.Debug.Run
import TabTools.Files.Tree

/-!
# The debug adapter as a program

The program reads its options, opens its log and serves a session over its standard streams, or
listens for clients. It ends with status 2 when the options are faulty, and with status 1 when the
log cannot be opened or the address to listen on is none. A session that crashes takes the program
with it. How any other session ended does not show in the status; it is noted in the log.
-/

namespace TabTools.Adapter

/-- How the adapter is introduced, given the value of its environment variable. -/
def usage (environment : Option String) : String :=
  String.intercalate "\n"
    ["Editor tooling and a line-stepping debug adapter for tab assembly sources.",
     "",
     "",
     "Usage: tabasm-dap [OPTIONS]",
     "",
     "Options:",
     "      --listen <LISTEN>        Address to listen on (default: 127.0.0.1:4711) " ++
       "[default: 127.0.0.1:4711]",
     "      --stdio                  Serve a single debug session over stdin/stdout instead of TCP",
     "      --oneshot                Exit after the first debug session ends (single-client mode)",
     "      --log-file <LOG_FILE>    Optional log file for adapter diagnostics " ++
       "(no output to stdout)",
     "      --trace-dap              Trace DAP traffic (requests/responses/events) into the log " ++
       "file. Requires --log-file",
     "      --link-port <LINK_PORT>  Port of the tab server the player connects to (0 picks a " ++
       "free port) [env: TABASM_LINK_PORT=" ++ environment.getD "" ++ "] [default: 4712]",
     "  -h, --help                   Print help",
     "  -V, --version                Print version",
     ""]

def versionLine : String := "tabasm 0.2.3\n"

/-- The status that the program ends with when there are no options to go by. -/
def OptionStop.status : OptionStop → Nat
  | .help => 0
  | .version => 0
  | _ => 2

/-- What the program prints when there are no options to go by. -/
def OptionStop.output (environment : Option String) : OptionStop → String
  | .help => usage environment
  | .version => versionLine
  | _ => ""

/-- How clients reach the adapter. -/
inductive Mode where
  | stdio
  | network (address : Address)

/-- The mode that options ask for. The address does not matter over the standard streams. -/
def Options.mode? (options : Options) : Option Mode :=
  if options.stdio then some .stdio else (Address.parse? options.listen).map .network

/-- The note on the end of a session. A crash ends the program before there is one. -/
def endNote? : Debug.Outcome → Option String
  | .readFailed cause => some ("session error: " ++ cause.message)
  | .writeFailed cause => some ("session error: " ++ cause)
  | .panicked => none
  | _ => some "session finished OK"

/-- The status that the program ends with after a session. -/
def endStatus : Debug.Outcome → Nat
  | .panicked => 101
  | _ => 0

/-- The files with what a session has logged so far. -/
def logged (tree : Files.Tree) (log : Option String) (trace : Bool) (entries : List Debug.Entry) :
    Files.Tree :=
  tree.appendLog log (Wire.logLines trace (entries.map Debug.Entry.traffic))

/-- Serves a session whose client sends the given bytes, with its traffic logged among the files.
Gives the session, how it ended and the files afterwards. -/
def serve (link : Debug.Link) (tree : Files.Tree) (log : Option String) (trace : Bool)
    (input : List UInt8) : Debug.Run × Debug.Outcome × Files.Tree :=
  let (run, outcome) :=
    Debug.runStream link (fun entries => (logged tree log trace entries).view) input
  (run, outcome, logged tree log trace run.entries)

/-- The program at its end. -/
structure Finished where
  status : Nat
  output : List UInt8 := []
  files : Files.Tree

/-- Opens the log that options name. -/
def openLog (options : Options) (tree : Files.Tree) : Except Files.FileError Files.Tree :=
  match options.logFile with
  | none => .ok tree
  | some path => tree.openAppend path

/-- Runs the program over a tree of files, with the given bytes on its standard input. A program
that listens for clients does not end: `none`. -/
def run (tree : Files.Tree) (arguments : List String) (environment : Option String)
    (input : List UInt8) : Option Finished :=
  match Options.parse arguments environment with
  | .error stop =>
    some { status := stop.status, output := Text.encode (stop.output environment).toList,
           files := tree }
  | .ok options =>
    match openLog options tree with
    | .error _ => some { status := 1, files := tree }
    | .ok tree =>
      match options.mode? with
      | none => some { status := 1, files := tree }
      | some (.network _) => none
      | some .stdio =>
        let (session, outcome, files) :=
          serve .listening tree options.logFile options.traceDap input
        let note := (endNote? outcome).elim [] fun text => Wire.noteLine text.toList
        some {
          status := endStatus outcome
          output := Wire.outputBytes (session.entries.map Debug.Entry.traffic)
          files := files.appendLog options.logFile note }

end TabTools.Adapter
