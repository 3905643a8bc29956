import LogLens.Document
import LogLens.Entry
import LogLens.Failure
import LogLens.Text.Basic

/-!
# Actions on documents

A selection keeps the entries of certain severities whose message holds a
certain text, and of those one page.  It reads the entries one by one and stops
as soon as the page is full.

An extraction takes entries of certain severities out of a document together
with the lines that they were read from, joined into a new text.

A session applies steps to one document.  Only a refresh changes the document;
every other step looks at it and answers, or fails and leaves it as it is.
-/

namespace LogLens

/-- What to select.  No severities mean all of them, an empty text means any
message, and without a limit the page is open. -/
structure Selection where
  severities : List Severity := []
  contained : Text := []
  offset : Int := 0
  limit : Option Int := none
  deriving DecidableEq, Repr

namespace Selection

/-- Whether the selection is for an entry, its page left aside. -/
def keeps (selection : Selection) (entry : Entry) : Bool :=
  (selection.severities.isEmpty ||
      selection.severities.contains entry.severity) &&
    occursIn selection.contained entry.message

/-- Passes over `skip` of the wanted entries and collects the next ones, at most
`room` of them.  What is already collected is kept newest first. -/
def collect (wanted : Entry → Bool) (collected : List Entry) (skip : Nat)
    (room : Option Nat) : List Entry → List Entry
  | [] => collected.reverse
  | entry :: rest =>
      if room = some 0 then collected.reverse
      else if wanted entry then
        match skip with
        | skip + 1 => collect wanted collected skip room rest
        | 0 => collect wanted (entry :: collected) 0 (room.map (· - 1)) rest
      else collect wanted collected skip room rest

/-- A page of the entries, cut out of all of them at once. -/
def page (skip : Nat) (room : Option Nat) (entries : List Entry) : List Entry :=
  match room with
  | none => entries.drop skip
  | some room => (entries.drop skip).take room

@[simp] theorem page_nil (skip : Nat) (room : Option Nat) :
    page skip room [] = [] := by
  cases room <;> simp [page]

/-- Reading the entries one by one gives a page of the wanted ones. -/
theorem collect_eq (wanted : Entry → Bool) (collected : List Entry) (skip : Nat)
    (room : Option Nat) (entries : List Entry) :
    collect wanted collected skip room entries =
      collected.reverse ++ page skip room (entries.filter wanted) := by
  induction entries generalizing collected skip room with
  | nil => simp [collect]
  | cons entry rest induction =>
      by_cases full : room = some 0
      · simp [collect, full, page]
      · by_cases kept : wanted entry = true
        · cases skip <;> rcases room with _ | _ | room <;>
            simp_all [collect, page]
        · simp [collect, full, kept, induction]

/-- The selected entries.  A negative offset is refused before a limit that is
not positive. -/
def run (selection : Selection) (entries : List Entry) :
    Except Failure (List Entry) :=
  if selection.offset < 0 then .error .negativeOffset
  else if selection.limit.any (· ≤ 0) then .error .limitNotPositive
  else
    .ok (collect selection.keeps [] selection.offset.toNat
      (selection.limit.map Int.toNat) entries)

end Selection

inductive Extraction where
  | bySeverity (severities : List Severity)
  | problems
  deriving DecidableEq, Repr

structure Extract where
  entries : List Entry
  text : Text
  deriving DecidableEq, Repr

def problemSeverities : List Severity :=
  [.warning, .error, .fatal, .critical]

namespace Extraction

def severities : Extraction → List Severity
  | bySeverity severities => severities
  | problems => problemSeverities

def identifier : Extraction → Text
  | bySeverity _ => "filter_by_level"
  | problems => "extract_errors"

def displayName : Extraction → Text
  | bySeverity _ => "Filter by Level"
  | problems => "Extract Errors"

def description : Extraction → Text
  | bySeverity _ =>
      "Filter log entries to show only specific severity levels"
  | problems => "Extract all error and warning entries to a new buffer"

def isApplicable (extraction : Extraction) (document : Document) : Bool :=
  !document.entries.isEmpty &&
    match extraction with
    | bySeverity severities => !severities.isEmpty
    | problems => true

def rangeOf (entry : Entry) : Nat × Nat :=
  (entry.lineStart.toNat, entry.lineStop.toNat)

/-- The lines that entries were read from, without a carriage return at the end
of a line. -/
def linesOf (content : Bytes) (entries : List Entry) : List Text :=
  (slices content (entries.map rangeOf)).map fun bytes =>
    dropFinal '\r' (Utf8.decode bytes)

def run (extraction : Extraction) (document : Document) : Extract :=
  if extraction.isApplicable document then
    let selected := document.entries.filter fun entry =>
      extraction.severities.contains entry.severity
    { entries := selected
      text := ['\n'].intercalate (linesOf document.content selected) }
  else { entries := [], text := [] }

end Extraction

inductive Step where
  | refresh (source : Option Bytes) (totalSize : Option Int)
  | entries
  | summary
  | text
  | content
  | tokens
  | extract (extraction : Extraction)
  | eligible (extension : Text)
  | select (selection : Selection)
  deriving DecidableEq, Repr

inductive Answer where
  | found (data : Bool)
  | entries (entries : List Entry)
  | summary (summary : Summary)
  | text (text : Text)
  | content (content : Bytes)
  | tokens (tokens : List Token)
  | extract (applicable : Bool) (extract : Extract)
  | verdict (eligible : Bool)
  | selected (entries : List Entry)
  deriving DecidableEq, Repr

namespace Document

def after (document : Document) : Step → Document
  | .refresh source totalSize => document.refresh source totalSize
  | .entries | .summary | .text | .content | .tokens | .extract _ | .eligible _
  | .select _ => document

def answer (document : Document) : Step → Except Failure Answer
  | .refresh source _ => .ok (.found (hasData source))
  | .entries => .ok (.entries document.entries)
  | .summary => document.summary.map .summary
  | .text => .ok (.text document.text)
  | .content => .ok (.content document.content)
  | .tokens => .ok (.tokens document.tokens)
  | .extract extraction =>
      .ok (.extract (extraction.isApplicable document) (extraction.run document))
  | .eligible extension =>
      .ok (.verdict (Eligibility.isEligible document.settings.allowedExtensions
        extension document.content))
  | .select selection => (selection.run document.entries).map .selected

def afterAll (document : Document) (steps : List Step) : Document :=
  steps.foldl after document

/-- What each of a sequence of steps answers, and the document after it. -/
def answers (document : Document) :
    List Step → List (Except Failure Answer × Document)
  | [] => []
  | step :: rest =>
      (document.answer step, document.after step) ::
        (document.after step).answers rest

@[simp] theorem afterAll_nil (document : Document) :
    document.afterAll [] = document := rfl

@[simp] theorem afterAll_append (document : Document) (first second : List Step) :
    document.afterAll (first ++ second) =
      (document.afterAll first).afterAll second := by
  simp [afterAll]

end Document

end LogLens
