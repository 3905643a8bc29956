import LogLens.FilePath
import LogLens.Text.Basic

/-!
# Log formats

A format is a convention that a log may follow.  It is recognised by byte
sequences that occur anywhere in a bounded sample of the document, so a longer
sample never loses a format that a shorter one shows.

A file is worth inspecting as a log, which is tested cheaply, if its extension
is one of those allowed and the beginning of its content shows a sign of a web
request, of a date or of a severity.
-/

namespace LogLens

/-- A logging convention.  Windows events and IIS logs have a name but are
never recognised. -/
inductive LogFormat where
  | unknown
  | webAccess
  | webError
  | syslog
  | windowsEvent
  | iis
  | structured
  | json
  | custom
  deriving DecidableEq, Repr

namespace LogFormat

def all : List LogFormat :=
  [unknown, webAccess, webError, syslog, windowsEvent, iis, structured, json,
    custom]

def identifier : LogFormat → Text
  | unknown => "unknown"
  | webAccess => "web_access"
  | webError => "web_error"
  | syslog => "syslog"
  | windowsEvent => "windows_event"
  | iis => "iis"
  | structured => "structured_framework"
  | json => "json"
  | custom => "custom"

def displayName : LogFormat → Text
  | unknown => "Unknown"
  | webAccess => "Apache/Nginx Access Log"
  | webError => "Apache/Nginx Error Log"
  | syslog => "Syslog"
  | windowsEvent => "Windows Event Log"
  | iis => "IIS Log"
  | structured => "Log4j/Log4net"
  | json => "JSON Structured Log"
  | custom => "Generic/Custom"

end LogFormat

def monthNames : List Bytes :=
  ["Jan", "Feb", "Mar", "Apr", "May", "Jun", "Jul", "Aug", "Sep", "Oct", "Nov",
    "Dec"].map ascii

def anyOccursIn (needles : List Bytes) (sample : Bytes) : Bool :=
  needles.any (occursIn · sample)

namespace LogFormat

/-- Signs of an access log after the client's address and identity. -/
def accessSigns : List Bytes :=
  ["\" 200 ", "\" 404 ", "\" 500 ", "GET ", "POST "].map ascii

def webErrorSigns : List Bytes :=
  ["[error]", "[warn]", "[notice]", "[crit]"].map ascii

def syslogMonths : List Bytes :=
  monthNames.map (· ++ ascii " ")

def structuredSeverities : List Bytes :=
  [" INFO ", " DEBUG ", " ERROR ", " WARN ", "[INFO]", "[DEBUG]", "[ERROR]",
    "[WARN]"].map ascii

def objectKeys : List Bytes :=
  ["\"timestamp\"", "\"level\"", "\"message\""].map ascii

def recognises (format : LogFormat) (sample : Bytes) : Bool :=
  match format with
  | webAccess =>
      occursIn (ascii " - - [") sample && anyOccursIn accessSigns sample
  | webError => anyOccursIn webErrorSigns sample
  | syslog => anyOccursIn syslogMonths sample && occursIn (ascii "]: ") sample
  | structured =>
      anyOccursIn structuredSeverities sample && occursIn (ascii " - ") sample
  | json => occursIn (ascii "\x7b\"") sample && anyOccursIn objectKeys sample
  | unknown | windowsEvent | iis | custom => false

/-- The formats that can be recognised, in the order in which they are tried. -/
def recognisable : List LogFormat :=
  [webAccess, webError, syslog, structured, json]

def defaultSampleSize : Nat := 4096

def recognised (candidates : List LogFormat) (sampleSize : Int)
    (content : Bytes) : List LogFormat :=
  candidates.filter (·.recognises (takeSigned sampleSize content))

def detectAmong (candidates : List LogFormat) (sampleSize : Int)
    (content : Bytes) : LogFormat :=
  let sample := takeSigned sampleSize content
  (candidates.find? (·.recognises sample)).getD custom

/-- The format of a document, judged by a sample of it. -/
def detect (sampleSize : Int) (content : Bytes) : LogFormat :=
  detectAmong recognisable sampleSize content

end LogFormat

namespace Eligibility

def defaultExtensions : List Text :=
  [".log", ".txt", ".logs"]

/-- The same extensions in alphabetical order, as they are listed to people. -/
def extensionList : Text :=
  ".log, .logs, .txt"

def probeSize : Nat := LogFormat.defaultSampleSize

def requestSigns : List Bytes :=
  ["GET ", "POST ", "HTTP/", "\" 200 ", "\" 404 ", "\" 500 "].map ascii

/-- Signs of a date: a year of the twenties, or a month between slashes or
before a space. -/
def dateSigns : List Bytes :=
  [ascii "202"] ++ monthNames.map (fun month => ascii "/" ++ month ++ ascii "/") ++
    monthNames.map (· ++ ascii " ")

def severitySigns : List Bytes :=
  ["ERROR", "WARN", "INFO", "DEBUG", "TRACE", "FATAL", "error", "warn", "info",
    "debug"].map ascii

def showsSign (content : Bytes) : Bool :=
  let sample := content.take probeSize
  anyOccursIn requestSigns sample || anyOccursIn dateSigns sample ||
    anyOccursIn severitySigns sample

def isEligible (allowed : List Text) (extension : Text) (content : Bytes) : Bool :=
  allowed.contains extension.lower && showsSign content

end Eligibility

end LogLens
