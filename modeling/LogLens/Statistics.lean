import LogLens.Entry
import LogLens.Failure
import LogLens.LogFormat
import LogLens.Text.Basic

/-!
# Statistics

Statistics are counts over a sequence of entries: one for each severity, one for
each class of HTTP statuses, and the first and the last time that any entry
gives.

A summary is a flat overview of a document for external assistants.  No count of
a summary is negative, and a time that no entry gives is left out.
-/

namespace LogLens

inductive StatusClass where
  | success
  | redirection
  | clientError
  | serverError
  deriving DecidableEq, Repr

/-- The class of a status.  A status below 200 belongs to none, and everything
from 500 on is a server error. -/
def StatusClass.ofStatus? (status : Int) : Option StatusClass :=
  if 200 ≤ status ∧ status < 300 then some .success
  else if 300 ≤ status ∧ status < 400 then some .redirection
  else if 400 ≤ status ∧ status < 500 then some .clientError
  else if 500 ≤ status then some .serverError
  else none

/-- Counts over entries.  They are integers, so that a summary can refuse a
negative one. -/
structure Statistics where
  total : Int := 0
  errors : Int := 0
  warnings : Int := 0
  infos : Int := 0
  debugs : Int := 0
  traces : Int := 0
  fatals : Int := 0
  unknowns : Int := 0
  successes : Int := 0
  redirections : Int := 0
  clientErrors : Int := 0
  serverErrors : Int := 0
  firstTimestamp : Text := []
  lastTimestamp : Text := []
  deriving DecidableEq, Repr

namespace Statistics

def severityTotal (statistics : Statistics) : Int :=
  statistics.errors + statistics.warnings + statistics.infos +
    statistics.debugs + statistics.traces + statistics.fatals +
    statistics.unknowns

def statusTotal (statistics : Statistics) : Int :=
  statistics.successes + statistics.redirections + statistics.clientErrors +
    statistics.serverErrors

/-- One more entry of the severity.  Critical entries count as fatal ones. -/
def countSeverity (statistics : Statistics) : Severity → Statistics
  | .trace => { statistics with traces := statistics.traces + 1 }
  | .debug => { statistics with debugs := statistics.debugs + 1 }
  | .info => { statistics with infos := statistics.infos + 1 }
  | .warning => { statistics with warnings := statistics.warnings + 1 }
  | .error => { statistics with errors := statistics.errors + 1 }
  | .fatal | .critical => { statistics with fatals := statistics.fatals + 1 }
  | .unknown => { statistics with unknowns := statistics.unknowns + 1 }

def countStatus (statistics : Statistics) : Option StatusClass → Statistics
  | none => statistics
  | some .success => { statistics with successes := statistics.successes + 1 }
  | some .redirection =>
      { statistics with redirections := statistics.redirections + 1 }
  | some .clientError =>
      { statistics with clientErrors := statistics.clientErrors + 1 }
  | some .serverError =>
      { statistics with serverErrors := statistics.serverErrors + 1 }

def noteTimestamp (statistics : Statistics) (timestamp : Text) : Statistics :=
  if timestamp = [] then statistics
  else
    { statistics with
      firstTimestamp :=
        if statistics.firstTimestamp = [] then timestamp
        else statistics.firstTimestamp
      lastTimestamp := timestamp }

def count (statistics : Statistics) (entry : Entry) : Statistics :=
  let counted :=
    (statistics.countSeverity entry.severity).countStatus
      (StatusClass.ofStatus? entry.web.status)
  { counted.noteTimestamp entry.timestamp with total := statistics.total + 1 }

def ofEntries (entries : List Entry) : Statistics :=
  entries.foldl count {}

end Statistics

structure Summary where
  name : Text
  contentSize : Nat
  format : Text
  totalLines : Nat
  errorCount : Nat
  warningCount : Nat
  infoCount : Nat
  firstTimestamp : Option Text
  lastTimestamp : Option Text
  deriving DecidableEq, Repr

namespace Summary

def natural (count : Int) : Except Failure Nat :=
  if count < 0 then .error .negativeCount else .ok count.toNat

def filled? (text : Text) : Option Text :=
  if text = [] then none else some text

def build (name : Text) (contentSize : Int) (format : LogFormat)
    (statistics : Statistics) : Except Failure Summary := do
  let contentSize ← natural contentSize
  let totalLines ← natural statistics.total
  let errorCount ← natural statistics.errors
  let warningCount ← natural statistics.warnings
  let infoCount ← natural statistics.infos
  return {
    name := name
    contentSize := contentSize
    format := format.displayName
    totalLines := totalLines
    errorCount := errorCount
    warningCount := warningCount
    infoCount := infoCount
    firstTimestamp := filled? statistics.firstTimestamp
    lastTimestamp := filled? statistics.lastTimestamp }

def timeMember (key : Text) : Option Text → List (Text × Json)
  | none => []
  | some time => [(key, .text time)]

def facts (summary : Summary) : List (Text × Json) :=
  [ ("Name", .text summary.name),
    ("ContentSize", .number summary.contentSize),
    ("Format", .text summary.format),
    ("TotalLines", .number summary.totalLines),
    ("ErrorCount", .number summary.errorCount),
    ("WarningCount", .number summary.warningCount),
    ("InfoCount", .number summary.infoCount) ]

def toJson (summary : Summary) : Json :=
  .object (summary.facts ++
    timeMember "FirstTimestamp" summary.firstTimestamp ++
    timeMember "LastTimestamp" summary.lastTimestamp)

end Summary

end LogLens
