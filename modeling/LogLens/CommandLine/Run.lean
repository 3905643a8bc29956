import LogLens.CommandLine.Invocation
import LogLens.Document
import LogLens.Session
import LogLens.Text.Quoted

/-!
# The command

The command shows a log file: its facts line by line, then, where they are asked
for, its entries, its problems and its tokens, each under a heading with their
number.  A fault of the arguments and a failure that the user can mend end it
with a complaint and nothing else.
-/

namespace LogLens

namespace Listing

def number (value : Nat) : Text :=
  decimal value

/-- A fact: its label, padded to a common width, and its value. -/
def fact (label value : Text) : Text :=
  label ++ value ++ ['\n']

/-- A fact that is only shown where its value is not empty. -/
def filledFact (label value : Text) : Text :=
  if value = [] then [] else fact label value

def counted (name : Text) (count : Int) : Text :=
  name ++ "=" ++ decimal count

def severityCounts (statistics : Statistics) : Text :=
  [' '].intercalate [
    counted "fatal" statistics.fatals,
    counted "error" statistics.errors,
    counted "warning" statistics.warnings,
    counted "info" statistics.infos,
    counted "debug" statistics.debugs,
    counted "trace" statistics.traces,
    counted "unknown" statistics.unknowns ]

def statusCounts (statistics : Statistics) : Text :=
  [' '].intercalate [
    counted "2xx" statistics.successes,
    counted "3xx" statistics.redirections,
    counted "4xx" statistics.clientErrors,
    counted "5xx" statistics.serverErrors ]

def information (document : Document) (eligible : Bool) : Text :=
  let statistics := document.statistics
  fact "Name:        " document.name ++
    fact "Size:        " (number document.size ++ " bytes") ++
    fact "Format:      " document.format.displayName ++
    fact "Eligible:    " (if eligible then "yes" else "no") ++
    fact "Total lines: " (decimal statistics.total) ++
    fact "Levels:      " (severityCounts statistics) ++
    (if statistics.statusTotal = 0 then []
      else fact "HTTP:        " (statusCounts statistics)) ++
    filledFact "First:       " statistics.firstTimestamp ++
    filledFact "Last:        " statistics.lastTimestamp

def timeOrDash (timestamp : Text) : Text :=
  if timestamp = [] then ['-'] else timestamp

def sourcePart (source : Text) : Text :=
  if source = [] then [] else [' '] ++ source ++ [':']

def entryLine (entry : Entry) : Text :=
  decimal entry.lineNumber ++ " " ++ timeOrDash entry.timestamp ++
    " [" ++ entry.severity.name ++ "]" ++ sourcePart entry.source ++
    " " ++ entry.message ++ ['\n']

def entries (title : Text) (shown : List Entry) : Text :=
  ['\n'] ++ title ++ " (" ++ number shown.length ++ "):\n" ++
    shown.flatMap entryLine

def tokenLine (token : Token) (spanned : Text) : Text :=
  number token.start ++ "-" ++ number token.stop ++ " " ++
    token.kind.displayName ++ ": " ++ spanned.quoted ++ ['\n']

def tokens (text : Text) (all shown : List Token) : Text :=
  "\nTokens (" ++ number shown.length ++ " of " ++ number all.length ++ "):\n" ++
    (List.zipWith tokenLine shown (Token.textsIn text shown)).flatten

end Listing

namespace CommandLine

/-- How the command ends.  Of what goes to the standard error only the complaint
is told: the option parser's usage lines in front of it, and the line that is
logged where a file has no readable data, are left out. -/
structure Outcome where
  exit : Nat
  output : Text
  complaint : Text
  deriving DecidableEq, Repr

def complaintExit : Nat := 2

def commandName : Text := "mcp-log-inspector"

/-- Ends with a complaint, which is the last line on the standard error. -/
def complain (text : Text) : Outcome :=
  { exit := complaintExit, output := [], complaint := text ++ ['\n'] }

def succeed (text : Text) : Outcome :=
  { exit := 0, output := text, complaint := [] }

def usageComplaint (fault : UsageFault) : Text :=
  commandName ++ ": error: " ++ fault.message

/-- The complaint about a failure, if it is of a kind that the command expects. -/
def failureComplaint? (failure : Failure) : Option Text :=
  match failure.kind with
  | .missing => some failure.message
  | .refused => some ("Error: " ++ failure.message)
  | .other => none

/-- What help says about the command and its arguments.  It stands for the text
that the option parser lays out, whose usage, headings, line about help itself and
line breaks are left out. -/
def helpText : Text :=
  "Detect a log file's format, parse it and summarize it.\n\n" ++
    "  log_path\n" ++
    "  --entries             List parsed entries\n" ++
    "  --errors              List warning/error/fatal entries\n" ++
    "  --tokens              List highlight tokens\n" ++
    "  --levels LEVELS       Comma-separated filter for --entries (e.g., ERROR,WARNING)\n" ++
    "  --contains CONTAINS   Substring filter for --entries\n" ++
    "  --max MAX_RESULTS     Max results per listing\n"

def limited {α : Type} (limit : MaxResults) (items : List α) :
    Except Failure (List α) :=
  match limit with
  | .unlimited => .ok items
  | .atMost count => .ok (takeSigned count items)
  | .unnumbered => .error (.limitNotNumber .cut)

def selectionLimit : MaxResults → Except Failure (Option Int)
  | .unlimited => .ok none
  | .atMost count => .ok (some count)
  | .unnumbered => .error (.limitNotNumber .comparison)

def selectionOf (invocation : Invocation) : Except Failure Selection := do
  return {
    severities := invocation.levels.getD []
    contained := invocation.contained.getD []
    limit := ← selectionLimit invocation.limit }

def selectedEntries (invocation : Invocation) (document : Document) :
    Except Failure (Option (List Entry)) := do
  if invocation.entries then
    let selection ← selectionOf invocation
    return some (← selection.run document.entries)
  else return none

def entriesPart : Option (List Entry) → Text
  | some entries => Listing.entries "Entries" entries
  | none => []

def problemsPart (invocation : Invocation) (document : Document) :
    Except Failure Text := do
  if invocation.errors then
    return Listing.entries "Errors"
      (← limited invocation.limit (Extraction.problems.run document).entries)
  else return []

def tokensPart (invocation : Invocation) (document : Document) :
    Except Failure Text := do
  if invocation.tokens then
    return Listing.tokens document.text document.tokens
      (← limited invocation.limit document.tokens)
  else return []

def render (invocation : Invocation) (document : Document) (eligible : Bool)
    (selected : Option (List Entry)) : Except Failure Text := do
  return Listing.information document eligible ++ entriesPart selected ++
    (← problemsPart invocation document) ++ (← tokensPart invocation document)

/-- What the command shows.  The environment is asked for the settings that the
file is loaded under, and again while it is loaded. -/
def present (files : FileStore) (override : Option Text) (invocation : Invocation) :
    Except Failure Text := do
  let path := FilePath.ofText invocation.path
  let settings ← Settings.standard.resolve override
  let document ← files.load settings override path
  let eligible :=
    Eligibility.isEligible settings.allowedExtensions path.effectiveExtension
      document.content
  let selected ← selectedEntries invocation document
  render invocation document eligible selected

/-- Runs the command.  A failure that there is no complaint for is passed on. -/
def run (files : FileStore) (override : Option Text) (arguments : List Text)
    (release : ParserRelease := .installed) : Except Failure Outcome :=
  match read arguments release with
  | .error fault => .ok (complain (usageComplaint fault))
  | .ok .showHelp => .ok (succeed helpText)
  | .ok (.run invocation) =>
      match present files override invocation with
      | .ok text => .ok (succeed text)
      | .error failure =>
          match failureComplaint? failure with
          | some text => .ok (complain text)
          | none => .error failure

end CommandLine

end LogLens
