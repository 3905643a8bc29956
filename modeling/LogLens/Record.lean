import LogLens.Entry
import LogLens.LogFormat
import LogLens.Text.Basic

/-!
# Records

A record is what the text of one line says.  Three formats have readers of their
own; every other one is read as lines of no known convention.

A line may open with a date of ten characters or a date and time of nineteen,
the latter with or without a fraction of three digits.  The tests look only at
the separators, at the positions that the layout fixes for them.

In a line of no known convention the whole line is the message.  A time is taken
from leading brackets or from a leading date, and the severity from keywords
anywhere in the line.

A line of a logging framework gives a date and time, a severity near its start,
a source and, behind a dash between spaces, the message.  Severities are sought
one after the other, so of two that are near enough the one listed first
decides, not the one that stands first.

A line of syslog opens with a time of fixed width, a space and a host, followed
by the process and, behind a colon and a space, the message.  The severity is
announced by keywords of the message.

A line of a web server's access log gives, in this order, the client's address,
a time in brackets, the request between quotes, the status, the size of the
response and, possibly, the referer and the user agent between quotes.  Reading
is forgiving: a missing delimiter only leaves out the fields that depend on it.
-/

namespace LogLens

namespace DatePrefix

def dateLength : Nat := 10

def dateTimeLength : Nat := 19

def fractionLength : Nat := 23

/-- Whether two separators stand where a date has them: after the year and
after the month. -/
def isDate (separators : List Text) (text : Text) : Bool :=
  match text[4]?, text[7]? with
  | some first, some second =>
      separators.contains [first] && separators.contains [second]
  | _, _ => false

/-- Whether the text continues a date and time with a point or a comma and has
further characters after a fraction. -/
def hasFraction (text : Text) : Bool :=
  fractionLength < text.length &&
    (text[dateTimeLength]? == some '.' || text[dateTimeLength]? == some ',')

/-- The date and time that opens a text, with its fraction if it has one. -/
def dateTime (text : Text) : Text :=
  text.take (if hasFraction text then fractionLength else dateTimeLength)

end DatePrefix

namespace Generic

/-- Whether a date is followed by a time of the usual layout. -/
def hasTime (text : Text) : Bool :=
  DatePrefix.dateTimeLength < text.length && text[10]? == some ' ' &&
    text[13]? == some ':'

def timestamp (text : Text) : Text :=
  match text with
  | '[' :: rest =>
      match cutAt [']'] rest with
      | some (time, _) => time
      | none => []
  | _ =>
      if DatePrefix.dateLength ≤ text.length ∧
          DatePrefix.isDate ["-"] text = true then
        if hasTime text then DatePrefix.dateTime text
        else text.take DatePrefix.dateLength
      else []

def read (text : Text) : Record :=
  { message := text
    timestamp := timestamp text
    severity := Severity.infer Severity.genericKeywords .unknown text }

end Generic

namespace Structured

/-- The severities that are sought, in this order.  A longer word of which
another one is a part is found by the latter. -/
def severityWords : List Text :=
  ["TRACE", "DEBUG", "INFO", "WARN", "WARNING", "ERROR", "FATAL", "CRITICAL"]

/-- A severity has to begin before this position. -/
def searchWindow : Nat := 20

def sourceDelimiter : Text := " - "

def timestamp (text : Text) : Text :=
  if DatePrefix.dateTimeLength ≤ text.length ∧
      DatePrefix.isDate ["-", "/"] text = true then
    DatePrefix.dateTime text
  else []

structure FoundWord where
  word : Text
  after : Text

/-- The word, if its first occurrence in the text is near enough. -/
def findWord? (text word : Text) : Option FoundWord :=
  match cutAt word text with
  | some (before, after) =>
      if before.length < searchWindow then some ⟨word, after⟩ else none
  | none => none

def findSeverity? (text : Text) : Option FoundWord :=
  severityWords.findSome? (findWord? text)

/-- Drops spaces and opening brackets at the start and spaces and closing
brackets at the end. -/
def trimSource (text : Text) : Text :=
  let opened := text.dropWhile fun char => char = ' ' ∨ char = '['
  (opened.reverse.dropWhile fun char => char = ' ' ∨ char = ']').reverse

def sourceAndMessage (text : Text) : Text × Text :=
  match cutAt sourceDelimiter text with
  | some (source, message) => (trimSource source, message)
  | none => ([], text)

/-- Reads a line of a logging framework.  An empty message is replaced by the
whole line. -/
def read (text : Text) : Record :=
  let time := timestamp text
  match findSeverity? (text.drop time.length) with
  | none => { message := text, timestamp := time }
  | some found =>
      let (source, message) := sourceAndMessage found.after
      { message := if message = [] then text else message
        timestamp := time
        severity := Severity.ofWord found.word
        source := source }

end Structured

namespace Syslog

def timestampLength : Nat := 15

def hostOffset : Nat := 16

/-- The process that follows the host and a space. -/
def processOf (hostAndProcess : Text) : Text :=
  match cutAt [' '] hostAndProcess with
  | some (_, process) => process
  | none => []

/-- The source and the body of a line.  A colon within the time does not end
the source. -/
def sourceAndBody (text : Text) : Text × Text :=
  match cutAt [':', ' '] text with
  | some (before, after) =>
      if timestampLength < before.length then
        (processOf (before.drop hostOffset), after)
      else ([], text)
  | none => ([], text)

/-- Reads a line of syslog.  The severity is that of the body even where the
body is empty and the whole line becomes the message. -/
def read (text : Text) : Record :=
  let (source, body) := sourceAndBody text
  { message := if body = [] then text else body
    timestamp :=
      if timestampLength ≤ text.length then text.take timestampLength else []
    severity := Severity.infer Severity.syslogKeywords .info body
    source := source }

end Syslog

namespace Access

def maxStatusDigits : Nat := 9

def maxSizeDigits : Nat := 18

def isDigit (char : Char) : Bool :=
  '0' ≤ char && char ≤ '9'

def numberOf (digits : Text) : Nat :=
  digits.foldl (fun value digit => value * 10 + (digit.toNat - '0'.toNat)) 0

def severityOfStatus (status : Int) : Severity :=
  if 500 ≤ status then .error
  else if 400 ≤ status then .warning
  else .info

def clientAddress (text : Text) : Text :=
  match cutAt [' '] text with
  | some (address, _) => address
  | none => []

/-- What stands between the first opening and the first closing bracket, if
they come in that order. -/
def timestamp (text : Text) : Text :=
  match cutAt ['['] text with
  | some (before, after) =>
      if before.contains ']' then []
      else match cutAt [']'] after with
        | some (time, _) => time
        | none => []
  | none => []

def request? (text : Text) : Option (Text × Text) := do
  let (_, opened) ← cutAt ['"'] text
  cutAt ['"'] opened

/-- The method and the address that a request asks for: its first two words,
the last word of the request never being one of them. -/
def methodAndUrl (request : Text) : Text × Text :=
  match cutAt [' '] request with
  | none => ([], [])
  | some (method, rest) =>
      match cutAt [' '] rest with
      | none => (method, [])
      | some (url, _) => (method, url)

/-- The response size that opens a text after spaces, zero where it is a dash,
and the text behind it.  Where there is neither, nothing is read. -/
def sizeAndRest (text : Text) : Nat × Text :=
  let opened := text.dropWhile (· = ' ')
  let digits := opened.takeWhile isDigit
  if digits ≠ [] then
    (numberOf (digits.take maxSizeDigits), opened.dropWhile isDigit)
  else match opened with
    | '-' :: rest => (0, rest)
    | _ => (0, text)

def quoted? (text : Text) : Option (Text × Text) :=
  request? text

def refererAndAgent (text : Text) : Text × Text :=
  match quoted? text with
  | none => ([], [])
  | some (referer, rest) =>
      match quoted? rest with
      | none => (referer, [])
      | some (agent, _) => (referer, agent)

/-- Reads what follows the request.  Without a status nothing is read. -/
def readResponse (request : WebRequest) (tail : Text) : WebRequest × Severity :=
  let opened := tail.dropWhile (!isDigit ·)
  if opened = [] then (request, .unknown)
  else
    let status := numberOf ((opened.takeWhile isDigit).take maxStatusDigits)
    let (size, rest) := sizeAndRest (opened.dropWhile isDigit)
    let (referer, agent) := refererAndAgent rest
    ({ request with
        status := status
        responseSize := size
        referer := referer
        userAgent := agent },
      severityOfStatus status)

def read (text : Text) : Record :=
  let client : WebRequest := { clientAddress := clientAddress text }
  let (web, severity) :=
    match request? text with
    | none => (client, .unknown)
    | some (request, tail) =>
        let (method, url) := methodAndUrl request
        readResponse { client with method := method, url := url } tail
  { message := text
    timestamp := timestamp text
    severity := severity
    web := web }

end Access

def LogFormat.read : LogFormat → Text → Record
  | .webAccess => Access.read
  | .syslog => Syslog.read
  | .structured => Structured.read
  | .unknown | .webError | .windowsEvent | .iis | .json | .custom =>
      Generic.read

def LogFormat.entries (format : LogFormat) (content : Bytes) : List Entry :=
  Entry.ofContent format.read content

end LogLens
