import LogLens.Proofs.Text.Search
import LogLens.Record

/-!
# Syslog lines that are written and read

A line of syslog is put together from its fields and read as these fields again.
Only the first colon before a space ends the source, so the message may hold
further ones, and the process may hold spaces and colons.
-/

namespace LogLens

namespace Syslog

/-- What a line of syslog states. -/
structure Fields where
  time : Text
  host : Text
  process : Text
  message : Text
  deriving DecidableEq, Repr

namespace Fields

/-- What stands in front of the message. -/
def header (fields : Fields) : Text :=
  fields.time ++ " " ++ fields.host ++ " " ++ fields.process

def line (fields : Fields) : Text :=
  fields.header ++ ": " ++ fields.message

/-- The time has its fixed width, the host ends at the first space behind it, and
nothing in front of the message looks like its start. -/
structure Separable (fields : Fields) : Prop where
  timeFills : fields.time.length = 15
  hostUndivided : ' ' ∉ fields.host
  headerOpen : occursIn [':', ' '] fields.header = false

end Fields

section Line

variable {fields : Fields} (separable : fields.Separable)

include separable

theorem cutAt_line :
    cutAt [':', ' '] fields.line = some (fields.header, fields.message) := by
  have absent : occursIn [':', ' '] (fields.header ++ [':']) = false := by
    rw [← separable.headerOpen]
    exact occursIn_concat_of_ne [':'] (by decide)
  exact cutAt_of_not_occursIn [':'] absent fields.message

theorem timestampLength_lt_header : timestampLength < fields.header.length := by
  have width := separable.timeFills
  have space : (" " : Text).length = 1 := rfl
  simp only [Fields.header, timestampLength, List.length_append]
  omega

theorem processOf_header :
    processOf (fields.header.drop hostOffset) = fields.process := by
  have shape : fields.header =
      (fields.time ++ [' ']) ++ (fields.host ++ ' ' :: fields.process) := by
    simp [Fields.header]
  have offset : hostOffset = (fields.time ++ [' ']).length := by
    simp [separable.timeFills, hostOffset]
  rw [shape, offset, List.drop_left, processOf,
    cutAt_append separable.hostUndivided]

theorem sourceAndBody_line :
    sourceAndBody fields.line = (fields.process, fields.message) := by
  rw [sourceAndBody, cutAt_line separable]
  simp only [if_pos (timestampLength_lt_header separable),
    processOf_header separable]

theorem timestamp_line :
    timestampLength ≤ fields.line.length ∧
      fields.line.take timestampLength = fields.time := by
  have shape : fields.line =
      fields.time ++ (" " ++ fields.host ++ " " ++ fields.process ++ ": " ++
        fields.message) := by
    simp [Fields.line, Fields.header]
  have width : timestampLength = fields.time.length :=
    separable.timeFills.symm
  constructor
  · rw [shape, width, List.length_append]
    exact Nat.le_add_right _ _
  · rw [shape, width, List.take_left]

end Line

/-- A line that is put together from separable fields is read as exactly these
fields.  Where the message is empty, the whole line stands for it, but the
severity is not sought in the line. -/
theorem syslog_read_line {fields : Fields} (separable : fields.Separable) :
    LogFormat.syslog.read fields.line =
      { message := if fields.message = [] then fields.line else fields.message
        timestamp := fields.time
        severity :=
          if fields.message = [] then .info
          else Severity.infer Severity.syslogKeywords .info fields.message
        source := fields.process } := by
  obtain ⟨long, time⟩ := timestamp_line separable
  have silent : Severity.infer Severity.syslogKeywords .info [] = .info := by
    decide
  change read fields.line = _
  simp only [read, sourceAndBody_line separable, if_pos long, time]
  by_cases empty : fields.message = []
  · simp only [empty, if_true, silent]
  · simp only [empty, if_false]

theorem syslog_read_line_colons :
    let talking : Fields :=
      { time := "Jan 15 10:30:00"
        host := ""
        process := "fail 2:x:"
        message := ": disk: Warning" }
    let silent : Fields :=
      { time := "Jan 15 10:30:00"
        host := "error"
        process := "ERRORd[1]"
        message := "" }
    talking.Separable ∧
      talking.line = ("Jan 15 10:30:00  fail 2:x:: : disk: Warning" : String) ∧
      LogFormat.syslog.read talking.line =
        { message := ": disk: Warning"
          timestamp := "Jan 15 10:30:00"
          severity := .warning
          source := "fail 2:x:" } ∧
      silent.Separable ∧
      LogFormat.syslog.read silent.line =
        { message := "Jan 15 10:30:00 error ERRORd[1]: "
          timestamp := "Jan 15 10:30:00"
          severity := .info
          source := "ERRORd[1]" } := by
  intro talking silent
  have talkingSeparable : talking.Separable := by
    constructor <;> decide +kernel
  have silentSeparable : silent.Separable := by
    constructor <;> decide +kernel
  refine ⟨talkingSeparable, by decide +kernel, ?_, silentSeparable, ?_⟩
  · rw [syslog_read_line talkingSeparable]
    decide +kernel
  · rw [syslog_read_line silentSeparable]
    decide +kernel

end Syslog

end LogLens
