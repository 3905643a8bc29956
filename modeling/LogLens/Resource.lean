import LogLens.Document

/-!
# Resources

Texts that can be read by address: a list of the addresses, small sample logs,
the schema of a summary, and the log files below a base directory.  A path to a
log file is made absolute and its `..` are collapsed before anything is looked
up; one that leads out of the base directory is refused whatever files exist.
-/

namespace LogLens

namespace Resource

def samples : List (Text × Text) :=
  [ ("web-access",
      "127.0.0.1 - - [10/Oct/2023:13:55:36 +0000] \"GET /index.html HTTP/1.1\" 200 612\n" ++
      "10.0.0.7 - - [10/Oct/2023:13:55:40 +0000] \"POST /api/login HTTP/1.1\" 401 38\n" ++
      "10.0.0.9 - - [10/Oct/2023:13:56:02 +0000] \"GET /report HTTP/1.1\" 500 0\n"),
    ("syslog",
      "Jan 15 10:30:00 web01 sshd[1234]: Accepted publickey for deploy\n" ++
      "Jan 15 10:30:05 web01 cron[88]: job failed with status 1\n"),
    ("structured",
      "2024-01-15 10:30:00.123 INFO [main] App - service started\n" ++
      "2024-01-15 10:30:02.456 WARN [pool-1] Pool - queue is 90% full\n" ++
      "2024-01-15 10:30:04.789 ERROR [main] Worker - disk full\n") ]

def sampleList : Text :=
  "structured, syslog, web-access"

def sample (name : Text) : Except Failure Text :=
  match samples.lookup name with
  | some text => .ok text
  | none => .error (.unknownSample name sampleList)

def textSchema (title : Text) (description : Text) : Json :=
  .object [
    ("description", .text description),
    ("title", .text title),
    ("type", .text "string") ]

def countSchema (title : Text) (description : List (Text × Json)) : Json :=
  .object (description ++
    [ (("minimum" : Text), Json.number 0),
      ("title", .text title),
      ("type", .text "integer") ])

def timeSchema (title : Text) : Json :=
  .object [
    ("anyOf", .list [
      .object [("type", .text "string")],
      .object [("type", .text "null")] ]),
    ("default", .null),
    ("title", .text title) ]

def summaryMembers : List (Text × Json) :=
  [ ("Name", textSchema "Name" "Document name."),
    ("ContentSize",
      countSchema "Contentsize" [("description", .text "Document size in bytes.")]),
    ("Format", textSchema "Format" "Detected format display name."),
    ("TotalLines",
      countSchema "Totallines" [("description", .text "Number of parsed records.")]),
    ("ErrorCount", countSchema "Errorcount" []),
    ("WarningCount", countSchema "Warningcount" []),
    ("InfoCount", countSchema "Infocount" []),
    ("FirstTimestamp", timeSchema "Firsttimestamp"),
    ("LastTimestamp", timeSchema "Lasttimestamp") ]

def requiredMembers : List Json :=
  [ .text "Name", .text "ContentSize", .text "Format", .text "TotalLines",
    .text "ErrorCount", .text "WarningCount", .text "InfoCount" ]

def summarySchema : Json :=
  .object [
    ("description",
      .text "Document overview; keys are serialized by alias."),
    ("properties", .object summaryMembers),
    ("required", .list requiredMembers),
    ("title", .text "LogSummary"),
    ("type", .text "object") ]

def pathTo (location : List Text) : FilePath :=
  { root := .slash, parts := location }

/-- The way from the root to the base directory, which is the working directory
unless a variable of the environment names another one. -/
def baseLocation (workingDirectory : List Text) (base : Option Text) : List Text :=
  ((pathTo workingDirectory).join (FilePath.ofText (base.getD []))).collapse

def sampleAddress (name : Text) : Text :=
  "app://log-inspector/examples/" ++ name

def logHelp : Text :=
  "log://\x7bpath\x7d (restricted to " ++ baseDirectoryVariable ++ "; allowed: " ++
    Eligibility.extensionList ++ ", .gz)"

def addresses : List Text :=
  ("app://log-inspector/help" : Text) ::
    ("app://log-inspector/schemas/log-summary" : Text) ::
    samples.map (fun (name, _) => sampleAddress name) ++ [logHelp]

def listItem (text : Text) : Text :=
  "- " ++ text ++ ['\n']

def help (base : List Text) : Text :=
  "Resources:\n" ++ addresses.flatMap listItem ++
    "\nBase directory: " ++ (pathTo base).toText ++ ['\n']

/-- Replaces an account at the start of a relative path by its home directory.
`homes` gives the homes by account, the nameless account being one's own. -/
def expandHome (homes : List (Text × Text)) (path : FilePath) :
    Except Failure FilePath :=
  match path.root, path.parts with
  | .relative, ('~' :: account) :: rest =>
      if account.contains '\x00' then .error .forbiddenCharacter
      else match homes.lookup account with
        | some home =>
            .ok ((FilePath.ofText home).join { root := .relative, parts := rest })
        | none => .error .unknownHome
  | _, _ => .ok path

/-- The location that a path leads to, if it is not outside of the base
directory. -/
def confine (base : List Text) (path : FilePath) : Except Failure (List Text) :=
  let location := ((pathTo base).join path).collapse
  if base.isPrefixOf location then .ok location else .error .escapesBase

def logLocation (files : FileStore) (base : List Text)
    (homes : List (Text × Text)) (path : Text) : Except Failure (List Text) := do
  let expanded ← expandHome homes (FilePath.ofText path)
  if expanded.isForbidden then .error .forbiddenCharacter
  else
    let location ← confine base expanded
    let resolved := pathTo location
    match files.look resolved with
    | .nothing => .error (.resourceNotFound resolved.toText)
    | .tooLong => .error (.nameTooLong resolved.toText)
    | .file _ =>
        if Eligibility.defaultExtensions.contains resolved.effectiveExtension then
          return location
        else .error (.resourceNotAllowed Eligibility.extensionList)

def readLog (files : FileStore) (base : List Text) (homes : List (Text × Text))
    (override : Option Text) (path : Text) : Except Failure Text := do
  let location ← logLocation files base homes path
  let settings ← Settings.standard.resolve override
  let data ← files.readPrefix .single (pathTo location) settings.parseCap
  return Utf8.decode data

end Resource

end LogLens
