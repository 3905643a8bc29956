import LogLens.Proofs.Document.Extraction
import LogLens.Proofs.Record.Access
import LogLens.Proofs.Record.Severities
import LogLens.Proofs.Report.Requests
import LogLens.Proofs.Statistics.Counts

/-!
# The counts of a document

A document can be summarised in every state of a session.  Its statistics are
those of its entries, so no count is negative, no entry is counted twice, and the
first and the last time are there together.  Its size is at least that of the
bytes kept, whatever size of the whole a refresh was told.

The counts of an access log are those of the statuses that its lines give, so
the count of a severity and the counts of the classes that have it come to the
same.  In a log of any other format no entry is in a class.

An entry of a severity is counted under it and passes the filters for it.  Only
a critical entry would be counted as fatal without passing the filter for fatal
ones, and no reader gives a critical entry.
-/

namespace LogLens

theorem Severity.tally_add_le (entries : List Entry) :
    Severity.error.tally entries + Severity.warning.tally entries +
      Severity.info.tally entries ≤ entries.length := by
  have total := Statistics.ofEntries_severityTotal entries
  rw [Statistics.severityTotal_eq, Statistics.ofEntries_total] at total
  simp only [Statistics.ofEntries_ofSeverity] at total
  omega

namespace Summary

theorem filled?_getD {picked : Option Text}
    (filled : ∀ time ∈ picked, time ≠ []) :
    filled? (picked.getD []) = picked := by
  cases picked with
  | none => rfl
  | some time => exact if_neg (filled time rfl)

/-- A summary of entries gives the first and the last time that these give. -/
theorem filled?_ofEntries (entries : List Entry) :
    filled? (Statistics.ofEntries entries).firstTimestamp =
        (Entry.times entries).head? ∧
      filled? (Statistics.ofEntries entries).lastTimestamp =
        (Entry.times entries).getLast? := by
  obtain ⟨first, last⟩ := Prod.mk.inj (Statistics.ofEntries_period entries)
  have filled : ∀ time ∈ Entry.times entries, time ≠ [] :=
    fun time member => of_decide_eq_true (List.mem_filter.mp member).2
  constructor
  · rw [first]
    exact filled?_getD fun time given =>
      filled time (List.mem_of_mem_head? given)
  · rw [last]
    exact filled?_getD fun time given =>
      filled time (List.mem_of_getLast? given)

theorem member?_timestamps (summary : Summary) :
    summary.toJson.member? "FirstTimestamp" =
        summary.firstTimestamp.map .text ∧
      summary.toJson.member? "LastTimestamp" =
        summary.lastTimestamp.map .text := by
  cases first : summary.firstTimestamp <;> cases last : summary.lastTimestamp <;>
    simp only [toJson, first, last] <;> exact ⟨rfl, rfl⟩

/-- A summary of the times that entries give exports both of them if any entry
gives one, and neither otherwise. -/
theorem isSome_member?_timestamps {summary : Summary} {entries : List Entry}
    (first : summary.firstTimestamp = (Entry.times entries).head?)
    (last : summary.lastTimestamp = (Entry.times entries).getLast?) :
    ((summary.toJson.member? "FirstTimestamp").isSome ↔
      ∃ entry ∈ entries, entry.timestamp ≠ []) ∧
    ((summary.toJson.member? "LastTimestamp").isSome ↔
      ∃ entry ∈ entries, entry.timestamp ≠ []) := by
  obtain ⟨firstMember, lastMember⟩ := member?_timestamps summary
  rw [firstMember, lastMember, first, last, Option.isSome_map, Option.isSome_map,
    List.isSome_head?, List.getLast?_isSome, ← Entry.times_ne_nil_iff]
  exact ⟨Iff.rfl, Iff.rfl⟩

end Summary

namespace Document

theorem afterAll_blank_content_length_le (name : Text) (settings : Settings)
    (steps : List Step) :
    ((blank name settings).afterAll steps).content.length ≤
      ((blank name settings).afterAll steps).size := by
  rcases afterAll_blank_cases name settings steps with
    stillBlank | ⟨source, totalSize, _, holds⟩
  · rw [stillBlank]
    exact Nat.le_refl 0
  · rw [holds]
    exact (ofSource_reflects _ _ _ _).content_length_le

/-- In every state of a session the document has a summary.  It exports the
number of entries, of which errors, warnings and informative ones are parts that
do not overlap; a size that is at least that of the bytes kept; and the first and
the last time, both if any entry gives one and neither otherwise. -/
theorem afterAll_summary (name : Text) (settings : Settings)
    (steps : List Step) :
    let document := (blank name settings).afterAll steps
    ∃ summary, document.summary = .ok summary ∧
      let member := fun key : Text => summary.toJson.member? key
      member "TotalLines" = some (.number document.entries.length) ∧
      (∃ errors warnings infos : Nat,
        member "ErrorCount" = some (.number errors) ∧
        member "WarningCount" = some (.number warnings) ∧
        member "InfoCount" = some (.number infos) ∧
        errors + warnings + infos ≤ document.entries.length) ∧
      (∃ size : Nat, member "ContentSize" = some (.number size) ∧
        document.content.length ≤ size) ∧
      ((member "FirstTimestamp").isSome ↔
        ∃ entry ∈ document.entries, entry.timestamp ≠ []) ∧
      ((member "LastTimestamp").isSome ↔
        ∃ entry ∈ document.entries, entry.timestamp ≠ []) := by
  intro document
  have statistics : document.statistics =
      Statistics.ofEntries document.entries :=
    afterAll_blank_statistics name settings steps
  have built := Summary.build_ofEntries document.name document.size
    document.format document.entries
  obtain ⟨first, last⟩ := Summary.filled?_ofEntries document.entries
  rw [← statistics, statistics, first, last, ← statistics] at built
  exact ⟨_, built, rfl,
    ⟨_, _, _, rfl, rfl, rfl, Severity.tally_add_le document.entries⟩,
    ⟨_, rfl, afterAll_blank_content_length_le name settings steps⟩,
    Summary.isSome_member?_timestamps rfl rfl⟩

end Document

namespace Access

/-- The statuses of the lines of a content that become entries. -/
def statuses (content : Bytes) : List (Option Nat) :=
  ((Line.scan content).filter fun line => line.text ≠ []).map fun line =>
    status? line.text

theorem tally_severity (content : Bytes) (severity : Severity) :
    severity.tally (Entry.ofContent read content) =
      (statuses content).countP fun status =>
        severityOf status = severity.countedAs := by
  rw [Severity.tally, Entry.ofContent, statuses, List.countP_map,
    List.countP_map]
  apply List.countP_congr
  intro line _
  simp only [Function.comp_apply, Entry.ofLine, (read_status line.text).2,
    severityOf_countedAs]

theorem tally_class (content : Bytes) (status : StatusClass) :
    status.tally (Entry.ofContent read content) =
      (statuses content).countP fun given => classOf? given = some status := by
  rw [StatusClass.tally, Entry.ofContent, statuses, List.countP_map,
    List.countP_map]
  apply List.countP_congr
  intro line _
  simp only [Function.comp_apply, Entry.ofLine, classOf?_read]

theorem tally_eq (status : StatusClass)
    (only : status = .clientError ∨ status = .serverError) (content : Bytes) :
    status.severity.tally (Entry.ofContent read content) =
      status.tally (Entry.ofContent read content) := by
  have counted : status.severity.countedAs = status.severity := by
    cases status <;> rfl
  rw [tally_severity, tally_class, counted]
  apply List.countP_congr
  intro given _
  simpa using severityOf_eq_iff only given

theorem tally_eq_zero (severity : Severity)
    (never : severity.countedAs ∉ [.error, .warning, .info, .unknown])
    (content : Bytes) :
    severity.tally (Entry.ofContent read content) = 0 := by
  rw [tally_severity]
  apply List.countP_eq_zero.mpr
  intro given _
  rw [decide_eq_true_eq]
  intro equality
  exact never (equality ▸ severityOf_mem given)

/-- Informative entries are those of success, of redirection, and of a status
below both. -/
theorem tally_info (content : Bytes) :
    Severity.info.tally (Entry.ofContent read content) =
      StatusClass.success.tally (Entry.ofContent read content) +
        StatusClass.redirection.tally (Entry.ofContent read content) +
        (statuses content).countP isLow := by
  rw [tally_severity, tally_class, tally_class,
    show Severity.info.countedAs = .info from rfl]
  induction statuses content with
  | nil => rfl
  | cons status rest induction =>
      have weight := severityOf_eq_info_weight status
      simp only [List.countP_cons, decide_eq_true_eq]
      omega

/-- Without the entries of a status that is too low for any class, the counts of
classes are those of the severities that go with them. -/
theorem counts_eq (content : Bytes) :
    let statistics := Statistics.ofEntries (Entry.ofContent read content)
    statistics.errors = statistics.serverErrors ∧
    statistics.warnings = statistics.clientErrors ∧
    statistics.infos = statistics.successes + statistics.redirections +
      ((statuses content).countP isLow : Nat) ∧
    statistics.fatals = 0 ∧ statistics.debugs = 0 ∧ statistics.traces = 0 := by
  intro statistics
  have severities := Statistics.ofEntries_ofSeverity
    (Entry.ofContent read content)
  have classes := Statistics.ofEntries_ofClass (Entry.ofContent read content)
  refine ⟨?_, ?_, ?_, ?_, ?_, ?_⟩
  · have same := tally_eq .serverError (.inr rfl) content
    exact (severities .error).trans (same ▸ (classes .serverError).symm)
  · have same := tally_eq .clientError (.inl rfl) content
    exact (severities .warning).trans (same ▸ (classes .clientError).symm)
  · have infos : statistics.infos = _ := severities .info
    have successes : statistics.successes = _ := classes .success
    have redirections : statistics.redirections = _ := classes .redirection
    rw [infos, successes, redirections, tally_info]
    simp
  · have never := tally_eq_zero .fatal (by decide) content
    exact (severities .fatal).trans (by rw [never]; rfl)
  · have never := tally_eq_zero .debug (by decide) content
    exact (severities .debug).trans (by rw [never]; rfl)
  · have never := tally_eq_zero .trace (by decide) content
    exact (severities .trace).trans (by rw [never]; rfl)

end Access

namespace Document

/-- Whether the line that an entry was read from gives a status below those of
success. -/
def hasLowStatus (document : Document) (entry : Entry) : Bool :=
  (Line.numbered? document.content entry.lineNumber).any fun line =>
    Access.isLow (Access.status? line.text)

theorem countP_hasLowStatus {document : Document}
    (derived : document.entries =
      Entry.ofContent Access.read document.content) :
    document.entries.countP document.hasLowStatus =
      (Access.statuses document.content).countP Access.isLow := by
  rw [derived, Entry.ofContent, Access.statuses, List.countP_map,
    List.countP_map]
  apply List.countP_congr
  intro line kept
  have member : line ∈ Line.scan document.content := List.mem_of_mem_filter kept
  have own : Line.numbered? document.content
      (Entry.ofLine Access.read line).lineNumber = some line :=
    Line.numbered?_of_mem member
  simp only [Function.comp_apply, hasLowStatus, own, Option.any_some]

theorem ofContent_web {read : Text → Record} (silent : ∀ text, (read text).web = {})
    {content : Bytes} {entry : Entry}
    (member : entry ∈ Entry.ofContent read content) : entry.web = {} := by
  obtain ⟨line, _, equality⟩ := List.mem_map.mp member
  rw [← equality]
  exact silent line.text

/-- In every state of a session the counts of an access log agree: those of
severities are those of the classes of statuses, statuses below all classes
counting as informative, and together with the lines of unknown severity they
make up the log.  A log of any other format counts no classes. -/
theorem statusCounts_agree (name : Text) (settings : Settings)
    (steps : List Step) :
    let document := (blank name settings).afterAll steps
    let statistics := document.statistics
    (document.format = .webAccess →
      statistics.errors = statistics.serverErrors ∧
      statistics.warnings = statistics.clientErrors ∧
      statistics.successes + statistics.redirections ≤ statistics.infos ∧
      statistics.infos - (statistics.successes + statistics.redirections) =
        (document.entries.countP document.hasLowStatus : Nat) ∧
      statistics.fatals = 0 ∧ statistics.debugs = 0 ∧ statistics.traces = 0 ∧
      statistics.errors + statistics.warnings + statistics.infos +
        statistics.unknowns = statistics.total) ∧
    (document.format ≠ .webAccess →
      statistics.successes = 0 ∧ statistics.redirections = 0 ∧
      statistics.clientErrors = 0 ∧ statistics.serverErrors = 0) := by
  intro document statistics
  have entries : document.entries =
      document.format.entries document.content :=
    afterAll_blank_entries name settings steps
  have counts : statistics = Statistics.ofEntries document.entries :=
    afterAll_blank_statistics name settings steps
  constructor
  · intro format
    have derived : document.entries =
        Entry.ofContent Access.read document.content := by
      rw [entries, format]
      rfl
    have total := Statistics.ofEntries_severityTotal document.entries
    have agree := Access.counts_eq document.content
    rw [← derived, ← countP_hasLowStatus derived] at agree
    rw [Statistics.severityTotal] at total
    rw [counts]
    obtain ⟨errors, warnings, infos, fatals, debugs, traces⟩ := agree
    refine ⟨errors, warnings, ?_, ?_, fatals, debugs, traces, ?_⟩
    · omega
    · omega
    · omega
  · intro other
    have silent : ∀ entry ∈ document.entries, entry.web = {} := by
      rw [entries]
      exact fun entry => ofContent_web (LogFormat.read_web other)
    have none : ∀ status, statistics.ofClass status = 0 := by
      intro status
      rw [counts, Statistics.ofEntries_ofClass, StatusClass.tally,
        List.countP_eq_zero.mpr]
      · rfl
      · intro entry member
        rw [silent entry member]
        cases status <;> decide
    exact ⟨none .success, none .redirection, none .clientError,
      none .serverError⟩

theorem statusCounts_agree_long :
    let source := ascii ("h - - [t] \"GET /\" 000000000404\n" ++
      "h - - [t] \"GET /\" 0000004041\nh - - [t] \"GET /\" -")
    let document :=
      (blank "a.log" Settings.standard).afterAll [.refresh (some source) none]
    document.format = .webAccess ∧
      document.statistics.errors = document.statistics.serverErrors ∧
      document.statistics.warnings = document.statistics.clientErrors ∧
      document.statistics.infos -
        (document.statistics.successes + document.statistics.redirections) =
          (document.entries.countP document.hasLowStatus : Nat) ∧
      document.entries.countP document.hasLowStatus = 1 ∧
      document.statistics.warnings = 1 := by
  intro source document
  have evaluated : document.format = .webAccess ∧
      document.entries.countP document.hasLowStatus = 1 ∧
      document.statistics.warnings = 1 := by
    decide +kernel
  clear_value source
  obtain ⟨format, low, warnings⟩ := evaluated
  obtain ⟨errors, clients, _, infos, _⟩ :=
    (statusCounts_agree "a.log" Settings.standard
      [.refresh (some source) none]).1 format
  exact ⟨format, errors, clients, infos, low, warnings⟩

end Document

theorem Extraction.selects_bySeverity (severity : Severity) (entry : Entry) :
    (bySeverity [severity]).selects entry = true ↔ entry.severity = severity := by
  simp [selects, severities]

namespace Selection

theorem keeps_severity (severity : Severity) :
    keeps { severities := [severity] } =
      (Extraction.bySeverity [severity]).selects := by
  funext entry
  rw [Bool.eq_iff_iff, keeps_iff, Extraction.selects_bySeverity]
  simp

theorem run_severity (severity : Severity) (document : Document) :
    run { severities := [severity] } document.entries =
      .ok ((Extraction.bySeverity [severity]).run document).entries := by
  rw [run_eq_page _ _ (Int.le_refl 0) (by simp), keeps_severity,
    Extraction.run_eq]
  rfl

end Selection

theorem Severity.countedAs_eq_iff {severity other : Severity}
    (usual : severity ≠ .critical) (otherUsual : other ≠ .critical) :
    severity.countedAs = other.countedAs ↔ severity = other := by
  cases severity <;> cases other <;> simp_all [countedAs]

theorem Severity.length_filter_eq_tally {severity : Severity}
    (usual : severity ≠ .critical) {entries : List Entry}
    (noCritical : ∀ entry ∈ entries, entry.severity ≠ .critical) :
    (entries.filter (Extraction.bySeverity [severity]).selects).length =
      severity.tally entries := by
  rw [← List.countP_eq_length_filter, tally]
  apply List.countP_congr
  intro entry member
  rw [Extraction.selects_bySeverity, decide_eq_true_eq,
    countedAs_eq_iff (noCritical entry member) usual]

/-- The problems are the entries counted as warnings, as errors and as fatal. -/
theorem Extraction.length_filter_problems (entries : List Entry) :
    (entries.filter problems.selects).length =
      Severity.warning.tally entries + Severity.error.tally entries +
        Severity.fatal.tally entries := by
  rw [← List.countP_eq_length_filter]
  simp only [Severity.tally]
  induction entries with
  | nil => rfl
  | cons entry rest induction =>
      simp only [List.countP_cons, induction]
      cases severity : entry.severity <;>
        simp [selects, severities, problemSeverities, severity,
          Severity.countedAs] <;> omega

namespace Document

theorem filter_critical {document : Document}
    (noCritical : ∀ entry ∈ document.entries, entry.severity ≠ .critical) :
    document.entries.filter (Extraction.bySeverity [.critical]).selects = [] := by
  apply List.filter_eq_nil_iff.mpr
  intro entry member
  rw [Extraction.selects_bySeverity]
  exact noCritical entry member

/-- In every state of a session each count of a severity is the number of the
entries that both filters give for it, and the problems are as many as the
counts of warnings, of errors and of fatal entries say.  No entry is critical,
so the filters for critical entries give nothing. -/
theorem severityCounts_agree (name : Text) (settings : Settings)
    (steps : List Step) :
    let document := (blank name settings).afterAll steps
    let statistics := document.statistics
    (∀ severity : Severity,
      let extract := (Extraction.bySeverity [severity]).run document
      Selection.run { severities := [severity] } document.entries =
        .ok extract.entries ∧
      (∀ entry, entry ∈ extract.entries ↔
        entry ∈ document.entries ∧ entry.severity = severity) ∧
      (severity ≠ .critical →
        (extract.entries.length : Int) = statistics.ofSeverity severity)) ∧
    (∀ entry ∈ document.entries, entry.severity ≠ .critical) ∧
    (Extraction.bySeverity [.critical]).run document =
      { entries := [], text := [] } ∧
    ((Extraction.problems.run document).entries.length : Int) =
      statistics.warnings + statistics.errors + statistics.fatals := by
  intro document statistics
  have entries : document.entries =
      document.format.entries document.content :=
    afterAll_blank_entries name settings steps
  have counts : ∀ severity, statistics.ofSeverity severity =
      severity.tally document.entries := by
    intro severity
    rw [← Statistics.ofEntries_ofSeverity, ← afterAll_blank_statistics]
  have noCritical : ∀ entry ∈ document.entries,
      entry.severity ≠ .critical := by
    rw [entries]
    exact fun entry => document.format.entries_severity_ne_critical
  refine ⟨?_, noCritical, ?_, ?_⟩
  · intro severity extract
    have selected : extract.entries = document.entries.filter
        (Extraction.bySeverity [severity]).selects := by
      simp only [extract, Extraction.run_eq]
    refine ⟨Selection.run_severity severity document, ?_, ?_⟩
    · intro entry
      rw [selected, List.mem_filter, Extraction.selects_bySeverity]
    · intro usual
      rw [selected, Severity.length_filter_eq_tally usual noCritical, counts]
  · rw [Extraction.run_eq, filter_critical noCritical]
    rfl
  · have warnings : statistics.warnings = _ := counts .warning
    have errors : statistics.errors = _ := counts .error
    have fatals : statistics.fatals = _ := counts .fatal
    rw [Extraction.run_eq, Extraction.length_filter_problems, warnings, errors,
      fatals]
    simp

theorem severityCounts_agree_fatal :
    let source := ascii
      "2024-01-15 10:30:00 CRITICAL a - x\n2024-01-15 10:30:01 INFO a - y"
    let document :=
      (blank "a.log" Settings.standard).afterAll [.refresh (some source) none]
    let extract := (Extraction.bySeverity [.fatal]).run document
    document.format = .structured ∧ document.statistics.fatals = 1 ∧
      (extract.entries.length : Int) = document.statistics.fatals ∧
      Selection.run { severities := [.fatal] } document.entries =
        .ok extract.entries ∧
      (Extraction.bySeverity [.critical]).run document =
        { entries := [], text := [] } := by
  intro source document extract
  have evaluated : document.format = .structured ∧
      document.statistics.fatals = 1 := by
    decide +kernel
  clear_value source
  obtain ⟨agree, _, nothing, _⟩ :=
    severityCounts_agree "a.log" Settings.standard
      [.refresh (some source) none]
  obtain ⟨selected, _, counted⟩ := agree .fatal
  exact ⟨evaluated.1, evaluated.2, counted (by decide), selected, nothing⟩

end Document

end LogLens
