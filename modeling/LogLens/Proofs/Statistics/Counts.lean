import LogLens.Statistics

/-!
# The counts and the times of statistics

Each count of the statistics is the number of entries of its kind, so the counts
of entries are natural numbers although they are kept as integers, and a summary
has nothing to refuse.

The times of statistics are those of the first and the last entry that give one.
So either both are there or none, whatever else is counted.
-/

namespace LogLens

/-- The severity that entries are counted under: critical ones under fatal. -/
def Severity.countedAs : Severity → Severity
  | .critical => .fatal
  | .unknown => .unknown
  | .trace => .trace
  | .debug => .debug
  | .info => .info
  | .warning => .warning
  | .error => .error
  | .fatal => .fatal

def Severity.tally (severity : Severity) (entries : List Entry) : Nat :=
  entries.countP fun entry => entry.severity.countedAs = severity.countedAs

/-- The number of entries whose status is of a class. -/
def StatusClass.tally (status : StatusClass) (entries : List Entry) : Nat :=
  entries.countP fun entry =>
    StatusClass.ofStatus? entry.web.status = some status

namespace Statistics

def ofSeverity (statistics : Statistics) : Severity → Int
  | .unknown => statistics.unknowns
  | .trace => statistics.traces
  | .debug => statistics.debugs
  | .info => statistics.infos
  | .warning => statistics.warnings
  | .error => statistics.errors
  | .fatal | .critical => statistics.fatals

theorem countStatus_ofSeverity (statistics : Statistics)
    (status : Option StatusClass) (severity : Severity) :
    (statistics.countStatus status).ofSeverity severity =
      statistics.ofSeverity severity := by
  cases status with
  | none => rfl
  | some status => cases status <;> cases severity <;> rfl

theorem noteTimestamp_ofSeverity (statistics : Statistics) (timestamp : Text)
    (severity : Severity) :
    (statistics.noteTimestamp timestamp).ofSeverity severity =
      statistics.ofSeverity severity := by
  unfold noteTimestamp
  split
  · rfl
  · cases severity <;> rfl

theorem count_ofSeverity (statistics : Statistics) (entry : Entry)
    (severity : Severity) :
    (statistics.count entry).ofSeverity severity =
      statistics.ofSeverity severity +
        if entry.severity.countedAs = severity.countedAs then 1 else 0 := by
  let counted := statistics.countSeverity entry.severity
  let classified :=
    counted.countStatus (StatusClass.ofStatus? entry.web.status)
  have onlySeverity : (statistics.count entry).ofSeverity severity =
      counted.ofSeverity severity := by
    calc
      (statistics.count entry).ofSeverity severity =
          (classified.noteTimestamp entry.timestamp).ofSeverity severity := by
        cases severity <;> rfl
      _ = classified.ofSeverity severity :=
        noteTimestamp_ofSeverity classified entry.timestamp severity
      _ = counted.ofSeverity severity :=
        countStatus_ofSeverity counted _ severity
  rw [onlySeverity]
  unfold counted
  cases entry.severity <;> cases severity <;>
    simp [countSeverity, ofSeverity, Severity.countedAs]

def ofClass (statistics : Statistics) : StatusClass → Int
  | .success => statistics.successes
  | .redirection => statistics.redirections
  | .clientError => statistics.clientErrors
  | .serverError => statistics.serverErrors

theorem countSeverity_ofClass (statistics : Statistics) (severity : Severity)
    (status : StatusClass) :
    (statistics.countSeverity severity).ofClass status =
      statistics.ofClass status := by
  cases severity <;> cases status <;> rfl

theorem noteTimestamp_ofClass (statistics : Statistics) (timestamp : Text)
    (status : StatusClass) :
    (statistics.noteTimestamp timestamp).ofClass status =
      statistics.ofClass status := by
  unfold noteTimestamp
  split
  · rfl
  · cases status <;> rfl

theorem count_ofClass (statistics : Statistics) (entry : Entry)
    (status : StatusClass) :
    (statistics.count entry).ofClass status =
      statistics.ofClass status +
        if StatusClass.ofStatus? entry.web.status = some status then 1 else 0 := by
  let counted := statistics.countSeverity entry.severity
  let classified :=
    counted.countStatus (StatusClass.ofStatus? entry.web.status)
  calc
    (statistics.count entry).ofClass status =
        (classified.noteTimestamp entry.timestamp).ofClass status := by
      cases status <;> rfl
    _ = classified.ofClass status :=
      noteTimestamp_ofClass classified entry.timestamp status
    _ = counted.ofClass status +
        if StatusClass.ofStatus? entry.web.status = some status then 1 else 0 := by
      unfold classified
      cases StatusClass.ofStatus? entry.web.status with
      | none => simp [countStatus]
      | some own => cases own <;> cases status <;> simp [countStatus, ofClass]
    _ = statistics.ofClass status +
        if StatusClass.ofStatus? entry.web.status = some status then 1 else 0 := by
      rw [countSeverity_ofClass]

theorem severityTotal_eq (statistics : Statistics) :
    statistics.severityTotal =
      statistics.ofSeverity .error + statistics.ofSeverity .warning +
        statistics.ofSeverity .info + statistics.ofSeverity .debug +
        statistics.ofSeverity .trace + statistics.ofSeverity .fatal +
        statistics.ofSeverity .unknown := rfl

theorem count_severityTotal (statistics : Statistics) (entry : Entry) :
    (statistics.count entry).severityTotal = statistics.severityTotal + 1 := by
  simp only [severityTotal_eq, count_ofSeverity]
  cases entry.severity <;> simp [Severity.countedAs] <;> omega

/-- What every entry of a kind raises by one, and no other entry changes, counts
the entries of that kind. -/
theorem ofEntries_eq_countP (field : Statistics → Int) (kind : Entry → Bool)
    (step : ∀ statistics entry,
      field (count statistics entry) =
        field statistics + if kind entry then 1 else 0)
    (entries : List Entry) :
    field (ofEntries entries) = field {} + entries.countP kind := by
  have counting : ∀ start : Statistics,
      field (entries.foldl count start) = field start + entries.countP kind := by
    induction entries with
    | nil => simp
    | cons entry rest induction =>
        intro start
        rw [List.foldl_cons, induction, step, List.countP_cons]
        by_cases counts : kind entry = true
        · simp only [if_pos counts]
          omega
        · simp only [if_neg counts]
          omega
  exact counting {}

theorem ofEntries_ofSeverity (entries : List Entry) (severity : Severity) :
    (ofEntries entries).ofSeverity severity = severity.tally entries := by
  have blank : ({} : Statistics).ofSeverity severity = 0 := by
    cases severity <;> rfl
  rw [ofEntries_eq_countP (·.ofSeverity severity)
    (fun entry => entry.severity.countedAs = severity.countedAs), blank,
    Int.zero_add, Severity.tally]
  intro statistics entry
  simpa using count_ofSeverity statistics entry severity

theorem ofEntries_ofClass (entries : List Entry) (status : StatusClass) :
    (ofEntries entries).ofClass status = status.tally entries := by
  have blank : ({} : Statistics).ofClass status = 0 := by
    cases status <;> rfl
  rw [ofEntries_eq_countP (·.ofClass status)
    (fun entry => StatusClass.ofStatus? entry.web.status = some status), blank,
    Int.zero_add, StatusClass.tally]
  intro statistics entry
  simpa using count_ofClass statistics entry status

theorem ofEntries_total (entries : List Entry) :
    (ofEntries entries).total = entries.length := by
  rw [ofEntries_eq_countP Statistics.total (fun _ => true) (fun _ _ => rfl)]
  simp

theorem ofEntries_severityTotal (entries : List Entry) :
    (ofEntries entries).severityTotal = (ofEntries entries).total := by
  rw [ofEntries_total,
    ofEntries_eq_countP Statistics.severityTotal (fun _ => true)]
  · simp [severityTotal]
  · intro statistics entry
    exact count_severityTotal statistics entry

end Statistics

theorem Summary.natural_natCast (count : Nat) :
    Summary.natural (count : Int) = .ok count := by
  have notNegative : ¬((count : Int) < 0) := by omega
  rw [Summary.natural, if_neg notNegative, Int.toNat_natCast]

/-- The statistics of entries can always be summarised. -/
theorem Summary.build_ofEntries (name : Text) (size : Nat) (format : LogFormat)
    (entries : List Entry) :
    Summary.build name size format (Statistics.ofEntries entries) =
      .ok {
        name := name
        contentSize := size
        format := format.displayName
        totalLines := entries.length
        errorCount := Severity.error.tally entries
        warningCount := Severity.warning.tally entries
        infoCount := Severity.info.tally entries
        firstTimestamp :=
          Summary.filled? (Statistics.ofEntries entries).firstTimestamp
        lastTimestamp :=
          Summary.filled? (Statistics.ofEntries entries).lastTimestamp } := by
  have errors := Statistics.ofEntries_ofSeverity entries .error
  have warnings := Statistics.ofEntries_ofSeverity entries .warning
  have infos := Statistics.ofEntries_ofSeverity entries .info
  simp only [Statistics.ofSeverity] at errors warnings infos
  unfold Summary.build
  simp only [Statistics.ofEntries_total, errors, warnings, infos,
    natural_natCast]
  rfl

/-- The times that entries give, in their order. -/
def Entry.times (entries : List Entry) : List Text :=
  (entries.map fun entry => entry.timestamp).filter fun time => time ≠ []

theorem Entry.times_cons (entry : Entry) (rest : List Entry) :
    Entry.times (entry :: rest) =
      if entry.timestamp = [] then Entry.times rest
      else entry.timestamp :: Entry.times rest := by
  rw [times, List.map_cons]
  by_cases absent : entry.timestamp = []
  · rw [if_pos absent, List.filter_cons_of_neg (by simp [absent])]
    rfl
  · rw [if_neg absent, List.filter_cons_of_pos (by simp [absent])]
    rfl

theorem Entry.times_ne_nil_iff (entries : List Entry) :
    Entry.times entries ≠ [] ↔ ∃ entry ∈ entries, entry.timestamp ≠ [] := by
  simp [times, List.filter_eq_nil_iff]

namespace Statistics

/-- The first and the last time noted. -/
def period (statistics : Statistics) : Text × Text :=
  (statistics.firstTimestamp, statistics.lastTimestamp)

theorem countSeverity_period (statistics : Statistics) (severity : Severity) :
    (statistics.countSeverity severity).period = statistics.period := by
  cases severity <;> rfl

theorem countStatus_period (statistics : Statistics)
    (status : Option StatusClass) :
    (statistics.countStatus status).period = statistics.period := by
  cases status with
  | none => rfl
  | some status => cases status <;> rfl

theorem noteTimestamp_period (statistics : Statistics) (timestamp : Text) :
    (statistics.noteTimestamp timestamp).period =
      if timestamp = [] then statistics.period
      else
        (if statistics.period.1 = [] then timestamp else statistics.period.1,
          timestamp) := by
  unfold noteTimestamp
  split <;> rfl

theorem count_period (statistics : Statistics) (entry : Entry) :
    (statistics.count entry).period =
      (statistics.noteTimestamp entry.timestamp).period := by
  let counted := (statistics.countSeverity entry.severity).countStatus
    (StatusClass.ofStatus? entry.web.status)
  have kept : counted.period = statistics.period := by
    rw [countStatus_period, countSeverity_period]
  calc
    (statistics.count entry).period =
        (counted.noteTimestamp entry.timestamp).period := rfl
    _ = (statistics.noteTimestamp entry.timestamp).period := by
      rw [noteTimestamp_period, noteTimestamp_period, kept]

/-- Entries that follow others give the first time only where these give none,
and the last time wherever they give one. -/
theorem foldl_count_period (entries : List Entry) (start : Statistics) :
    (entries.foldl count start).period =
      (if start.period.1 = [] then (Entry.times entries).head?.getD []
        else start.period.1,
        (Entry.times entries).getLast?.getD start.period.2) := by
  induction entries generalizing start with
  | nil =>
      rw [List.foldl_nil]
      generalize start.period = noted
      obtain ⟨first, last⟩ := noted
      by_cases absent : first = []
      · simp [Entry.times, absent]
      · simp [Entry.times, absent]
  | cons entry rest induction =>
      rw [List.foldl_cons, induction, count_period, noteTimestamp_period,
        Entry.times_cons]
      by_cases absent : entry.timestamp = []
      · simp only [if_pos absent]
      · simp only [if_neg absent, List.head?_cons, Option.getD_some,
          List.getLast?_cons]
        by_cases none : start.period.1 = []
        · simp only [if_pos none, if_neg absent]
        · simp only [if_neg none]

theorem ofEntries_period (entries : List Entry) :
    (ofEntries entries).period =
      ((Entry.times entries).head?.getD [],
        (Entry.times entries).getLast?.getD []) :=
  foldl_count_period entries {}

end Statistics

end LogLens
