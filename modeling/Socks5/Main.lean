import Std.Time.DateTime.Timestamp
import Socks5.Client.Run

/-!
# The command line

Runs the client once. The connection to the proxy is a recording: standard input holds all that the
proxy sends. The answer goes to standard output, and the log to standard error and to its file.
-/

open Socks5 Socks5.Client

def usage : String :=
  "usage: socks5 [-h] [--config CONFIG] [--proxy PROXY] [--network \x7btcp,udp\x7d] " ++
    "[--timeout TIMEOUT] [--wait WAIT] [--data DATA] [--hex] [--debug] target"

/-- The variables of the environment that settings come from. -/
def variableNames : List String :=
  ["SOCKS_PROXY", "SOCKS_TIMEOUT", "SOCKS_HANDSHAKE_TIMEOUT", "SOCKS_INTERFACE", "LOG_LEVEL",
    "LOG_DIR", "LOG_FILE", "LOG_MAX_BYTES", "LOG_BACKUP_COUNT", "LOG_ROTATION_TYPE", "LOG_FORMAT",
    "LOG_ENABLE_CONSOLE", "LOG_ENABLE_FILE"]

/-- The environment, as far as it matters. -/
def environment : IO Environment :=
  variableNames.filterMapM fun name => do return (← IO.getEnv name).map fun s => (name, s)

/-- A text as it is shown: a surrogate by its number. -/
def shown (t : Text) : String :=
  String.ofList (t.flatMap fun
    | .char c => [c]
    | p => Text.escape p.toNat)

/-- A file with its name, if it can be read. -/
def fileAt (path : Text) : IO (List (Text × Bytes)) := do
  try return [(path, (← IO.FS.readBinFile (shown path)).toList)]
  catch _ => return []

/-- The log file that a settings file names. -/
def logFile (env : Environment) (files : Files) (config : Text) : List Text :=
  match Settings.load files config >>= Settings.log env with
  | .ok s => if s.toFile then [s.folder.plain ++ "/" ++ s.file.plain] else []
  | .error _ => []

/-- Writes the files that are new or different. -/
def writeFiles (before after : Files) : IO Unit :=
  after.files.forM fun (path, file) => do
    if (before.find? path).all (·.content ≠ file.content) then
      if !path.dropLast.isEmpty then IO.FS.createDirAll (shown (Path.text path.dropLast))
      IO.FS.writeBinFile (shown path.text) file.content.toByteArray

def recording : IO Script := do
  let bytes := (← fileAt ("/dev/stdin" : String)).flatMap (·.2)
  return { stream := { arrivals := [(0, .data bytes), (0, .ended)] } }

/-- Runs the client, and gives the exit code. -/
def runClient (o : Options) : IO UInt32 := do
  let env ← environment
  let now := (← Std.Time.Timestamp.now).toSecondsSinceUnixEpoch.val
  let config ← fileAt o.config
  let log ← (logFile env (Files.ofList now config) o.config).flatMapM fileAt
  let files := Files.ofList now (config ++ log)
  let isTerminal ← (← IO.getStderr).isTty
  let r := run o env (← recording) { clock := now, files, isTerminal }
  writeFiles files r.journal.files
  IO.eprint (shown r.journal.printed)
  let output ← IO.getStdout
  output.write r.output.toByteArray
  output.flush
  match r.ending with
  | .exit code => return code.toUInt32
  | .failure f => IO.eprintln (shown f.message); return 1
  | .never => IO.eprintln "no end"; return 1

/-- Reads the command line and runs the client. -/
def main (words : List String) : IO UInt32 :=
  match Options.ofWords (words.map Text.ofString) with
  | .ok o => runClient o
  | .error .help => do IO.println usage; return 0
  | .error _ => do IO.eprintln usage; return 2
