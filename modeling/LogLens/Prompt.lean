import LogLens.Text.Basic
import LogLens.Text.Case
import LogLens.Text.Numeral

/-!
# Prompts

A conversation that asks an assistant to explain a log file.  The severities to
look for are shown as a list of quoted names.
-/

namespace LogLens

namespace Prompt

def defaultSeverities : List Text :=
  ["ERROR", "WARNING", "FATAL"]

def defaultLimit : Int := 50

/-- The names of severities in capitals, blank ones left out. -/
def severityNames (given : List Text) : List Text :=
  (given.map Text.trim).filter (· ≠ []) |>.map Text.upper

def splitNames (given : Text) : List Text :=
  given.splitOn ','

/-- The severities as they are shown: quoted names, separated by commas,
between brackets. -/
def showSeverities (given : List Text) : Text :=
  let quoted := (severityNames given).map fun name => ['"'] ++ name ++ ['"']
  ['['] ++ [',', ' '].intercalate quoted ++ [']']

def systemText : Text :=
  "You are an operations assistant browsing log files of unknown format. " ++
    "Base every statement on tool output; the format detection is heuristic, " ++
    "so say so when fields look misparsed."

def requestText (path : Text) (severities : List Text) (limit : Int) : Text :=
  "Explain this log file. Follow this workflow:\n" ++
    "- Call inspect_log with log_path=" ++ path ++
    " to get the detected format and statistics.\n" ++
    "- Call list_entries with levels=" ++ showSeverities severities ++
    " and limit=" ++ decimal limit ++ ".\n" ++
    "- If there are no such entries, say so and call extract_errors once to confirm.\n\n" ++
    "Return this structure:\n" ++
    "1) Format and time range (first/last timestamp)\n" ++
    "2) Severity breakdown (and HTTP status classes for web logs)\n" ++
    "3) Notable entries (2-5, quoted with line_no)\n" ++
    "4) Suggested next steps (1-3 bullets)\n"

def logAddress (path : Text) : Text :=
  "log://" ++ path

def messageJson (role : Text) (content : Json) : Json :=
  .object [("role", .text role), ("content", content)]

def resourceContent (path : Text) : Json :=
  .list [
    .object [
      ("type", .text "text"),
      ("text",
        .text "Optional: if you need raw context, you can read the log via:") ],
    .object [
      ("type", .text "resource"),
      ("uri", .text (logAddress path)) ] ]

def messages (path : Text) (severities : List Text) (limit : Int) : Json :=
  .list [
    messageJson "system" (.text systemText),
    messageJson "user" (.text (requestText path severities limit)),
    messageJson "user" (resourceContent path) ]

end Prompt

end LogLens
