import RoleGrants.Http.Routes
import RoleGrants.Startup
import Std.Time.DateTime

/-! # The program

Starts the service in the environment of the process, then answers requests
that are read from standard input, one on a line: a method, a target, and a
JSON body where there is one.  An answer is a line with the status and the
body.  The model, the policy and its backup are kept on the disk. -/

set_option autoImplicit false

namespace RoleGrants.Program

def variableNames : List String :=
  ["BIND", "METRICS_BIND", "ENABLED", "WORK_DIR", "MODEL_FILE", "POLICY_FILE", "LOAD_WORKERS",
    "QUEUE_DEPTH", "RELOAD_INTERVAL_MS", "SIGNAL_NAMESPACE", "SIGNAL_KEY", "STORAGE", "CACHE",
    "PG_URL", "PG_MAX_CONNECTIONS", "PG_ACQUIRE_TIMEOUT_MS", "SEED_FILE",
    "ALLOWED_PATH_PREFIXES", "SKIPPED_PATH_PREFIXES", "CONFIG"].map fun name => "POLICYD_" ++ name

def readEnvironment : IO Environment := do
  let found ← variableNames.mapM fun name => do
    return (← IO.getEnv name).map fun value => (name, value)
  return found.filterMap id

/-! ## The disk -/

def takeStep (entry : Files × PathName) (name : String) : IO (Files × PathName) := do
  let (files, above) := entry
  let path := above ++ "/" ++ name
  let place := (← IO.currentDir) / path
  if ← place.isDir then return ((files.makeFolder path).toOption.getD files, path)
  else if ← place.pathExists then
    return ((files.writeText path (← IO.FS.readFile place)).toOption.getD files, path)
  else return (files, path)

def takeIn (files : Files) (path : PathName) : IO Files := do
  let whole := ((← IO.currentDir) / path).toString
  let names := (Text.pieces '/' whole).filter fun name => name != ""
  return (← names.foldlM takeStep (files, "")).1

def openFiles (paths : List PathName) : IO Files := do
  let names := (Text.pieces '/' (← IO.currentDir).toString).filter fun name => name != ""
  let here := names.foldl Place.child .root
  let files ← takeIn {} "."
  paths.foldlM takeIn { files with working := here }

/-- What has changed at a path is written down; a file with a mark is made anew. -/
def writeBack (before after : Files) (path : PathName) : IO Unit := do
  match after.status path with
  | .ok (.file text readOnly) =>
      if (before.status path).toOption ≠ some (.file text readOnly) then
        let place := (← IO.currentDir) / path
        if ← place.pathExists then IO.FS.removeFile place
        else if let some parent := place.parent then IO.FS.createDirAll parent
        IO.FS.writeFile place text
        if readOnly then
          let reading : IO.AccessRight := { read := true }
          IO.setAccessRights place { user := reading, group := reading, other := reading }
  | _ => return

def ownPaths (settings : PassSettings) : List PathName :=
  [settings.modelPath, settings.policyPath, backupPath settings.policyPath]

def keep (before after : Service) : IO Unit :=
  (ownPaths after.settings).forM (writeBack before.files after.files)

/-! ## Requests -/

def readClock : IO Clock := do
  let now ← Std.Time.Timestamp.now
  return ⟨← IO.monoMsNow, now.toNanosecondsSinceUnixEpoch.val / 1000⟩

def requestOfLine (line : String) : HttpRequest :=
  let isWord := fun (character : Char) => character != ' '
  let characters := (Text.trim line).toList
  let rest := (characters.dropWhile isWord).drop 1
  let body := String.ofList ((rest.dropWhile isWord).drop 1)
  { method := String.ofList (characters.takeWhile isWord)
    target := String.ofList (rest.takeWhile isWord)
    contentType := if body = "" then none else some "application/json"
    body := body }

def answerLine : Reply → String
  | .aborted => "aborted"
  | .response response =>
      toString response.status ++ " " ++
        (match response.body with
        | .json document => Json.render document
        | .text text => text)

def answer (service : Service) (request : HttpRequest) : Service × Reply :=
  if request.path = "/metrics" then (service, .response (service.showMetrics request))
  else service.respond request

/-- The time that went by since the last request, with the ticks that fell due. -/
def catchUp (service : Service) : IO Service := do
  let now ← readClock
  let clock := { service.clock with wall := max service.clock.wall now.wall }
  return ({ service with clock := clock } : Service).wait (now.instant - clock.instant)

partial def serve (service : Service) (input output : IO.FS.Stream) : IO Unit := do
  let line ← input.getLine
  if line.isEmpty then return
  let current ← catchUp service
  let (after, reply) := answer current (requestOfLine line)
  keep service after
  output.putStrLn (answerLine reply)
  output.flush
  serve after input output

def run : IO UInt32 := do
  let environment ← readEnvironment
  let named := ["POLICYD_CONFIG", "POLICYD_SEED_FILE"].filterMap environment.value?
  let given ← openFiles named
  let paths := match Settings.read environment given with
    | .ok settings =>
        settings.seedFile.toList ++
          [settings.modelPath, settings.policyPath, backupPath settings.policyPath]
    | .error _ => []
  let files ← paths.foldlM takeIn given
  match Service.startIn environment files (← readClock) with
  | .error error =>
      error.report.forM IO.eprintln
      return 1
  | .ok service =>
      keep { service with files := files } service
      serve service (← IO.getStdin) (← IO.getStdout)
      return 0

end RoleGrants.Program

def main : IO UInt32 :=
  RoleGrants.Program.run
