import Mathlib.Tactic.SplitIfs
import LogLens.Proofs.Statistics.Counts
import LogLens.Record

/-!
# The status of a line of an access log

The status of a line settles its severity, and it settles the class that its
entry is counted in.  Both are decided at the same numbers, also where digits
beyond the ninth are left out and where the status is zero.  A line without a
status is in no class and of no known severity.
-/

namespace LogLens

namespace Access

/-- The status that a line gives: the number that the first digits behind the
request write, of which no more than nine count. -/
def status? (text : Text) : Option Nat := do
  let (_, tail) ← request? text
  let opened := tail.dropWhile (!isDigit ·)
  if opened = [] then none
  else some (numberOf ((opened.takeWhile isDigit).take maxStatusDigits))

/-- The severity that comes with a status, which may be missing. -/
def severityOf (status : Option Nat) : Severity :=
  status.elim .unknown fun status => severityOfStatus status

/-- The class that an entry of a status is counted in.  A status that is missing
is noted as zero. -/
def classOf? (status : Option Nat) : Option StatusClass :=
  StatusClass.ofStatus? (status.getD 0 : Nat)

theorem readResponse_status (request : WebRequest) (tail : Text)
    (blank : request.status = 0) :
    let opened := tail.dropWhile (!isDigit ·)
    let status :=
      if opened = [] then none
      else some (numberOf ((opened.takeWhile isDigit).take maxStatusDigits))
    (readResponse request tail).1.status = (status.getD 0 : Nat) ∧
      (readResponse request tail).2 = severityOf status := by
  intro opened status
  by_cases none : opened = []
  · simp only [readResponse, status, opened] at none ⊢
    simp [none, blank, severityOf]
  · simp only [readResponse, status, opened] at none ⊢
    simp [none, severityOf]

theorem read_status (text : Text) :
    (read text).web.status = ((status? text).getD 0 : Nat) ∧
      (read text).severity = severityOf (status? text) := by
  cases found : request? text with
  | none => simp [read, status?, found, severityOf]
  | some parts =>
      obtain ⟨request, tail⟩ := parts
      simp only [read, status?, found]
      exact readResponse_status
        { clientAddress := clientAddress text
          method := (methodAndUrl request).1
          url := (methodAndUrl request).2 } tail rfl

theorem classOf?_read (text : Text) :
    StatusClass.ofStatus? (read text).web.status = classOf? (status? text) := by
  rw [(read_status text).1, classOf?]

/-- Whether a status is there and below those of success. -/
def isLow (status : Option Nat) : Bool :=
  status.any (· < 200)

end Access

/-- The severity of the entries of a class. -/
def StatusClass.severity : StatusClass → Severity
  | success => .info
  | redirection => .info
  | clientError => .warning
  | serverError => .error

namespace Access

/-- A status is in a class and has the severity of the class, or it is too low
for any class and informative, or it is missing. -/
theorem severityOf_cases (status : Option Nat) :
    (∃ found, classOf? status = some found ∧
      severityOf status = found.severity ∧ isLow status = false) ∨
    (classOf? status = none ∧ severityOf status = .info ∧
      isLow status = true) ∨
    (classOf? status = none ∧ severityOf status = .unknown ∧
      isLow status = false) := by
  cases status with
  | none => decide
  | some status =>
      simp only [severityOf, classOf?, isLow, Option.elim_some,
        Option.getD_some, Option.any_some, decide_eq_true_eq,
        decide_eq_false_iff_not]
      unfold StatusClass.ofStatus? severityOfStatus
      split_ifs <;> simp [StatusClass.severity] <;> omega

theorem severityOf_mem (status : Option Nat) :
    severityOf status ∈ [.error, .warning, .info, .unknown] := by
  rcases severityOf_cases status with
    ⟨found, _, severity, _⟩ | ⟨_, severity, _⟩ | ⟨_, severity, _⟩
  · rw [severity]
    cases found <;> decide
  · simp [severity]
  · simp [severity]

theorem severityOf_countedAs (status : Option Nat) :
    (severityOf status).countedAs = severityOf status := by
  have member := severityOf_mem status
  simp only [List.mem_cons, List.not_mem_nil, or_false] at member
  rcases member with same | same | same | same <;> rw [same] <;> rfl

theorem severityOf_eq_iff {status : StatusClass}
    (only : status = .clientError ∨ status = .serverError) (given : Option Nat) :
    severityOf given = status.severity ↔ classOf? given = some status := by
  rcases severityOf_cases given with
    ⟨found, own, severity, _⟩ | ⟨none, severity, _⟩ | ⟨none, severity, _⟩
  · rw [own, severity]
    rcases only with rfl | rfl <;> cases found <;> decide
  · rw [none, severity]
    rcases only with rfl | rfl <;> decide
  · rw [none, severity]
    rcases only with rfl | rfl <;> decide

/-- What is informative is of exactly one of three kinds: successful, redirected,
or of a status below both. -/
theorem severityOf_eq_info_weight (given : Option Nat) :
    (if severityOf given = .info then 1 else 0) =
      (if classOf? given = some .success then 1 else 0) +
        (if classOf? given = some .redirection then 1 else 0) +
        (if isLow given = true then 1 else 0) := by
  rcases severityOf_cases given with
    ⟨found, own, severity, low⟩ | ⟨none, severity, low⟩ | ⟨none, severity, low⟩
  · rw [own, severity, low]
    cases found <;> rfl
  · rw [none, severity, low]
    rfl
  · rw [none, severity, low]
    rfl

end Access

theorem LogFormat.read_web {format : LogFormat} (other : format ≠ .webAccess)
    (text : Text) : (format.read text).web = {} := by
  cases format with
  | webAccess => exact absurd rfl other
  | structured =>
      simp only [read, Structured.read]
      split <;> rfl
  | _ => rfl

end LogLens
