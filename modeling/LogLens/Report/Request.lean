import LogLens.Document
import LogLens.Session
import LogLens.Statistics
import LogLens.Text.Numeral
import LogLens.Token

/-!
# Requests and reports

Assistants ask for reports on a log file: its overview, a page of its entries,
its problems, and a page of its tokens.  What is asked for is checked before the
file is read, except for the offset into the entries.

Reports are given as structured values.  An entry shows the fields of a web
request only where it has a status or a client.
-/

namespace LogLens

structure Overview where
  eligible : Bool
  format : LogFormat
  statistics : Statistics
  summary : Summary
  deriving DecidableEq, Repr

structure EntryPage where
  format : LogFormat
  entries : List Entry
  deriving DecidableEq, Repr

structure ProblemPage where
  entries : List Entry
  text : Text
  deriving DecidableEq, Repr

structure TokenPage where
  total : Nat
  tokens : List Token
  text : Text
  deriving DecidableEq, Repr

namespace Report

def webJson (web : WebRequest) : Json :=
  .object [
    ("ip_address", .text web.clientAddress),
    ("http_method", .text web.method),
    ("url", .text web.url),
    ("http_status", .number web.status),
    ("response_size", .number web.responseSize),
    ("referer", .text web.referer),
    ("user_agent", .text web.userAgent) ]

def entryFields (entry : Entry) : List (Text × Json) :=
  [ ("line_no", .number entry.lineNumber),
    ("line_start", .number entry.lineStart),
    ("line_end", .number entry.lineStop),
    ("timestamp", .ofFilled entry.timestamp),
    ("level", .text entry.severity.name.lower),
    ("source", .ofFilled entry.source),
    ("message", .text entry.message) ]

def showsWeb (entry : Entry) : Bool :=
  entry.web.status ≠ 0 || entry.web.clientAddress ≠ []

def webFields (entry : Entry) : List (Text × Json) :=
  if showsWeb entry then [("web", webJson entry.web)] else []

def entryJson (entry : Entry) : Json :=
  .object (entryFields entry ++ webFields entry)

def tokenJson (token : Token) (spanned : Text) : Json :=
  .object [
    ("kind", .text token.kind.displayName),
    ("start", .number token.start),
    ("end", .number token.stop),
    ("color", .text token.color.identifier),
    ("text", .text spanned) ]

def statisticsJson (statistics : Statistics) : Json :=
  .object [
    ("total_lines", .number statistics.total),
    ("error_count", .number statistics.errors),
    ("warning_count", .number statistics.warnings),
    ("info_count", .number statistics.infos),
    ("debug_count", .number statistics.debugs),
    ("trace_count", .number statistics.traces),
    ("fatal_count", .number statistics.fatals),
    ("unknown_count", .number statistics.unknowns),
    ("http_2xx_count", .number statistics.successes),
    ("http_3xx_count", .number statistics.redirections),
    ("http_4xx_count", .number statistics.clientErrors),
    ("http_5xx_count", .number statistics.serverErrors),
    ("first_timestamp", .text statistics.firstTimestamp),
    ("last_timestamp", .text statistics.lastTimestamp) ]

end Report

def Overview.toJson (overview : Overview) : Json :=
  .object [
    ("eligible", .bool overview.eligible),
    ("format", .text overview.format.identifier),
    ("format_name", .text overview.format.displayName),
    ("statistics", Report.statisticsJson overview.statistics),
    ("summary", overview.summary.toJson) ]

def EntryPage.toJson (page : EntryPage) : Json :=
  .object [
    ("format", .text page.format.identifier),
    ("count", .number page.entries.length),
    ("entries", .list (page.entries.map Report.entryJson)) ]

def ProblemPage.toJson (page : ProblemPage) : Json :=
  .object [
    ("count", .number page.entries.length),
    ("entries", .list (page.entries.map Report.entryJson)),
    ("buffer", .text page.text) ]

def TokenPage.toJson (page : TokenPage) : Json :=
  .object [
    ("total", .number page.total),
    ("count", .number page.tokens.length),
    ("tokens",
      .list (List.zipWith Report.tokenJson page.tokens
        (Token.textsIn page.text page.tokens))) ]

namespace Report

def defaultLimit : Nat := 200

def maxLimit : Nat := 5000

def pageSize (limit : Option Int) : Except Failure Int :=
  match limit with
  | none => .ok defaultLimit
  | some limit =>
      if limit ≤ 0 then .error .limitNotPositive else .ok (min limit maxLimit)

/-- The severity of a name, whatever its case and the blanks around it.  A blank
name names none. -/
def severityOf (given : Text) : Except Failure (Option Severity) :=
  let name := given.trim.upper
  if name = [] then .ok none
  else match Severity.ofName? name with
    | some severity => .ok (some severity)
    | none => .error (.unknownSeverity given)

def severitiesOf (given : List Text) : Except Failure (List Severity) := do
  return (← given.mapM severityOf).filterMap id

end Report

namespace FileStore

/-- Loads the document of a file while other requests are served, which puts a
second buffer in front of a compressed file. -/
def loadStandard (files : FileStore) (override : Option Text) (path : FilePath) :
    Except Failure Document :=
  files.loadThrough .double .standard override path

def inspect (files : FileStore) (override : Option Text) (path : FilePath) :
    Except Failure Overview := do
  let document ← files.loadStandard override path
  let summary ← document.summary
  return {
    eligible :=
      Eligibility.isEligible Eligibility.defaultExtensions
        path.effectiveExtension document.content
    format := document.format
    statistics := document.statistics
    summary := summary }

def listEntries (files : FileStore) (override : Option Text) (path : FilePath)
    (severities : List Text) (contained : Text) (offset : Int)
    (limit : Option Int) : Except Failure EntryPage := do
  let wanted ← Report.severitiesOf severities
  let size ← Report.pageSize limit
  let document ← files.loadStandard override path
  let selection : Selection :=
    { severities := wanted
      contained := contained
      offset := offset
      limit := some size }
  return { format := document.format, entries := ← selection.run document.entries }

/-- The first problems of a log file, with as many of their lines. -/
def extractProblems (files : FileStore) (override : Option Text) (path : FilePath)
    (limit : Option Int) : Except Failure ProblemPage := do
  let size ← Report.pageSize limit
  let document ← files.loadStandard override path
  let extract := Extraction.problems.run document
  let entries := extract.entries.take size.toNat
  let lines := (extract.text.splitOn '\n').take size.toNat
  return {
    entries := entries
    text := if entries = [] then [] else ['\n'].intercalate lines }

def listTokens (files : FileStore) (override : Option Text) (path : FilePath)
    (offset : Int) (limit : Option Int) : Except Failure TokenPage := do
  if offset < 0 then .error .negativeOffset
  else
    let size ← Report.pageSize limit
    let document ← files.loadStandard override path
    let tokens := document.tokens
    return {
      total := tokens.length
      tokens := (tokens.drop offset.toNat).take size.toNat
      text := document.text }

end FileStore

end LogLens
