import LogLens.Text.Basic
import LogLens.Text.Case

/-!
# Severities

The severity of a record, the words that name one, and the search for keywords
in running text.  A keyword search takes the first rule of a chain that has a
keyword anywhere in the text, whatever the case of its letters.
-/

namespace LogLens

inductive Severity where
  | unknown
  | trace
  | debug
  | info
  | warning
  | error
  | fatal
  | critical
  deriving DecidableEq, Repr

namespace Severity

/-- Every severity, from the least to the most serious. -/
def all : List Severity :=
  [unknown, trace, debug, info, warning, error, fatal, critical]

def name : Severity → Text
  | unknown => "UNKNOWN"
  | trace => "TRACE"
  | debug => "DEBUG"
  | info => "INFO"
  | warning => "WARNING"
  | error => "ERROR"
  | fatal => "FATAL"
  | critical => "CRITICAL"

def ofName? (name : Text) : Option Severity :=
  all.find? fun severity => severity.name = name

theorem mem_all (severity : Severity) : severity ∈ all := by
  cases severity <;> decide

theorem ofName?_name (severity : Severity) :
    ofName? severity.name = some severity := by
  cases severity <;> decide

/-- The words that stand for a severity.  A critical record counts as fatal. -/
def words : List (Text × Severity) :=
  [ ("TRACE", trace), ("TRC", trace),
    ("DEBUG", debug), ("DBG", debug), ("DEBU", debug),
    ("INFO", info), ("INF", info), ("INFORMATION", info), ("NOTICE", info),
    ("WARN", warning), ("WARNING", warning), ("WRN", warning),
    ("ERROR", error), ("ERR", error), ("ERRO", error),
    ("FATAL", fatal), ("FTL", fatal), ("CRIT", fatal), ("CRITICAL", fatal) ]

/-- The severity that a word stands for, in any case; unknown if none. -/
def ofWord (word : Text) : Severity :=
  (words.lookup word.upper).getD unknown

end Severity

/-- A severity and the keywords, in capitals, any of which announces it. -/
structure KeywordRule where
  keywords : List Text
  severity : Severity

def KeywordRule.holds (rule : KeywordRule) (capitals : Text) : Bool :=
  rule.keywords.any (occursIn · capitals)

namespace Severity

/-- The severity announced by the first rule with a keyword in the text. -/
def infer (rules : List KeywordRule) (fallback : Severity) (text : Text) :
    Severity :=
  let capitals := text.upper
  match rules.find? (·.holds capitals) with
  | some rule => rule.severity
  | none => fallback

def syslogKeywords : List KeywordRule :=
  [ ⟨["ERROR", "FAIL"], error⟩,
    ⟨["WARN"], warning⟩,
    ⟨["DEBUG"], debug⟩ ]

def genericKeywords : List KeywordRule :=
  [ ⟨["FATAL", "CRITICAL"], fatal⟩,
    ⟨["ERROR", "EXCEPTION", "FAIL"], error⟩,
    ⟨["WARN"], warning⟩,
    ⟨["DEBUG"], debug⟩,
    ⟨["TRACE"], trace⟩,
    ⟨["INFO"], info⟩ ]

end Severity

end LogLens
