import LogLens.Proofs.CommandLine.Ending
import LogLens.Report.Request

/-!
# The command and the overview

The command with nothing but a path shows what the request for an overview
reports, and complains where the request fails.  Both load the same document,
one through more buffers than the other; the settings do not change which
extensions are allowed; and a summary never refuses the counts of a document.
-/

namespace LogLens

/-- What an overview says in its summary and beside it is the same. -/
structure Overview.Coherent (overview : Overview) : Prop where
  format : overview.summary.format = overview.format.displayName
  total : (overview.summary.totalLines : Int) = overview.statistics.total
  errors : (overview.summary.errorCount : Int) = overview.statistics.errors
  warnings : (overview.summary.warningCount : Int) = overview.statistics.warnings
  infos : (overview.summary.infoCount : Int) = overview.statistics.infos
  firstTimestamp : overview.summary.firstTimestamp =
    Summary.filled? overview.statistics.firstTimestamp
  lastTimestamp : overview.summary.lastTimestamp =
    Summary.filled? overview.statistics.lastTimestamp

namespace Listing

/-- A fact that is only shown where there is one. -/
def optionalFact (label : Text) : Option Text → Text
  | none => []
  | some value => fact label value

/-- The facts of an overview, line by line. -/
def overview (overview : Overview) : Text :=
  let summary := overview.summary
  let statistics := overview.statistics
  fact "Name:        " summary.name ++
    fact "Size:        " (number summary.contentSize ++ " bytes") ++
    fact "Format:      " summary.format ++
    fact "Eligible:    " (if overview.eligible then "yes" else "no") ++
    fact "Total lines: " (number summary.totalLines) ++
    fact "Levels:      " (severityCounts statistics) ++
    (if statistics.successes + statistics.redirections +
        statistics.clientErrors + statistics.serverErrors = 0 then []
      else fact "HTTP:        " (statusCounts statistics)) ++
    optionalFact "First:       " summary.firstTimestamp ++
    optionalFact "Last:        " summary.lastTimestamp

theorem filledFact_eq (label value : Text) :
    filledFact label value = optionalFact label (Summary.filled? value) := by
  unfold filledFact Summary.filled?
  split <;> rfl

end Listing

namespace Document

variable {document : Document}

/-- The overview of a document, given whether it is eligible. -/
theorem exists_overview
    (counted : document.statistics = Statistics.ofEntries document.entries)
    (eligible : Bool) :
    ∃ summary, document.summary = .ok summary ∧
      let overview : Overview :=
        { eligible := eligible
          format := document.format
          statistics := document.statistics
          summary := summary }
      overview.Coherent ∧
        Listing.information document eligible = Listing.overview overview := by
  have total := Statistics.ofEntries_total document.entries
  have counts := Statistics.ofEntries_ofSeverity document.entries
  rw [← counted] at total counts
  have built := Summary.build_ofEntries document.name document.size
    document.format document.entries
  rw [← counted] at built
  refine ⟨_, built, ?_, ?_⟩
  · exact {
      format := rfl
      total := total.symm
      errors := (counts .error).symm
      warnings := (counts .warning).symm
      infos := (counts .info).symm
      firstTimestamp := rfl
      lastTimestamp := rfl }
  · simp only [Listing.information, Listing.overview, Listing.filledFact_eq,
      Listing.number, total, Statistics.statusTotal]
    rfl

end Document

namespace FileStore

variable {files : FileStore} {override : Option Text} {path : FilePath}

theorem inspect_of_failure {failure : Failure}
    (fails : files.loadWhole .standard override path = .error failure) :
    files.inspect override path = .error failure := by
  unfold inspect loadStandard
  rw [loadThrough_eq_loadWhole files (by decide), fails]
  rfl

/-- The overview of a file is shown as the facts of its document. -/
theorem inspect_of_document {document : Document}
    (loads : files.loadWhole .standard override path = .ok document) :
    ∃ overview, files.inspect override path = .ok overview ∧
      overview.Coherent ∧
      Listing.information document
          (Eligibility.isEligible Eligibility.defaultExtensions
            path.effectiveExtension document.content) =
        Listing.overview overview := by
  have through : files.loadThrough .double .standard override path =
      .ok document := by
    rw [loadThrough_eq_loadWhole files (by decide), loads]
  have counted : document.statistics =
      Statistics.ofEntries document.entries := by
    obtain ⟨_, _, _, _, _, equality⟩ := exists_source_of_load through
    rw [equality]
    rfl
  obtain ⟨summary, summarised, coherent, shown⟩ :=
    Document.exists_overview counted
      (Eligibility.isEligible Eligibility.defaultExtensions
        path.effectiveExtension document.content)
  refine ⟨_, ?_, coherent, shown⟩
  simp only [inspect, loadStandard, through, summarised, bind, Except.bind]
  rfl

end FileStore

namespace CommandLine

/-- The command for a path alone. -/
def bare (path : Text) : Invocation :=
  { path := path
    entries := false
    errors := false
    tokens := false
    levels := none
    contained := none
    limit := .unlimited }

theorem read_path {path : Text} (plain : path.head? ≠ some '-')
    (release : ParserRelease) :
    read [path] release = .ok (.run (bare path)) := by
  have noDivider : path ≠ Argument.dividerText := by
    intro divider
    rw [divider] at plain
    exact plain rfl
  have classified : Argument.classify path = .ok (.value path) :=
    if_pos (.inl plain)
  simp only [read, Argument.classifyAll, if_neg noDivider, classified]
  rfl

theorem present_bare (files : FileStore) (override : Option Text) (path : Text) :
    present files override (bare path) = do
      let document ← files.loadWhole .standard override (FilePath.ofText path)
      return Listing.information document
        (Eligibility.isEligible Eligibility.defaultExtensions
          (FilePath.ofText path).effectiveExtension document.content) := by
  rw [present_eq]
  simp [bare, selectedEntries, render, problemsPart, tokensPart, entriesPart,
    pure, Except.pure, bind, Except.bind]

/-- The command for a path alone ends well exactly where the request for an
overview of the file answers, and shows what it reports.  A missing file and a
refused value end it with the message of the request's failure; what else fails
is passed on. -/
theorem run_path_eq_inspect (files : FileStore) (override : Option Text)
    {path : Text} (plain : path.head? ≠ some '-') (release : ParserRelease) :
    let inspected := files.inspect override (FilePath.ofText path)
    let ended := run files override [path] release
    (∀ overview, inspected = .ok overview →
      overview.Coherent ∧
      ended = .ok
        { exit := 0, output := Listing.overview overview, complaint := [] }) ∧
    (∀ failure, inspected = .error failure →
      (failure.kind = .missing → ended = .ok
        { exit := 2, output := [], complaint := failure.message ++ "\n" }) ∧
      (failure.kind = .refused → ended = .ok
        { exit := 2
          output := []
          complaint := "Error: " ++ failure.message ++ "\n" }) ∧
      (failure.kind = .other → ended = .error failure)) ∧
    ((∃ outcome, ended = .ok outcome ∧ outcome.exit = 0) ↔
      ∃ overview, inspected = .ok overview) := by
  intro inspected ended
  have reads := read_path plain release
  have shows := present_bare files override path
  cases loads : files.loadWhole .standard override (FilePath.ofText path) with
  | error failure =>
      have fails : present files override (bare path) = .error failure := by
        rw [shows, loads]
        rfl
      have given : inspected = .error failure :=
        FileStore.inspect_of_failure loads
      have ends : ended = _ := run_of_failure reads fails
      rw [given, ends]
      refine ⟨?_, ?_, ?_⟩
      · intro overview answers
        cases answers
      · intro own same
        cases same
        refine ⟨?_, ?_, ?_⟩ <;> intro kind <;> rw [kind] <;> rfl
      · cases kind : failure.kind with
        | missing => simp [complain, complaintExit]
        | refused => simp [complain, complaintExit]
        | other => simp
  | ok document =>
      obtain ⟨overview, answers, coherent, shown⟩ :=
        FileStore.inspect_of_document loads
      have presents : present files override (bare path) =
          .ok (Listing.overview overview) := by
        rw [shows, loads, ← shown]
        rfl
      have given : inspected = .ok overview := answers
      have ends : ended = .ok (succeed (Listing.overview overview)) :=
        run_of_present reads presents
      rw [given, ends]
      refine ⟨?_, ?_, ?_⟩
      · intro own same
        cases same
        exact ⟨coherent, rfl⟩
      · intro failure fails
        cases fails
      · exact ⟨fun _ => ⟨overview, rfl⟩, fun _ => ⟨_, rfl, rfl⟩⟩

theorem run_path_eq_inspect_access :
    let tree : FileTree :=
      { workingDirectory := ["logs"]
        files := [(["logs", "a.log"],
          ascii "h - - [t] \"GET /\" 404 1\nx\ny")] }
    let override : Option Text := some "25"
    let shown : Text :=
      "Name:        a.log\nSize:        27 bytes\n" ++
        "Format:      Apache/Nginx Access Log\nEligible:    yes\n" ++
        "Total lines: 2\n" ++
        "Levels:      fatal=0 error=0 warning=1 info=0 debug=0 trace=0 unknown=1\n" ++
        "HTTP:        2xx=0 3xx=0 4xx=1 5xx=0\n" ++
        "First:       t\nLast:        t\n"
    (("a.log" : Text).head? ≠ some '-' ∧
      (tree.store.inspect override (FilePath.ofText "a.log")).map
          Listing.overview = .ok shown ∧
      run tree.store override ["a.log"] .current =
        .ok { exit := 0, output := shown, complaint := [] }) ∧
    tree.store.inspect override (FilePath.ofText "b.log") =
        .error (.logNotFound "b.log") ∧
      run tree.store override ["b.log"] .current =
        .ok { exit := 2
              output := []
              complaint := "Log file not found: b.log\n" } := by
  intro tree override shown
  have plain : ("a.log" : Text).head? ≠ some '-' := by decide
  have missingPlain : ("b.log" : Text).head? ≠ some '-' := by decide
  have reported : (tree.store.inspect override (FilePath.ofText "a.log")).map
      Listing.overview = .ok shown := by
    decide +kernel
  have missing : tree.store.inspect override (FilePath.ofText "b.log") =
      .error (.logNotFound "b.log") := by
    decide +kernel
  refine ⟨⟨plain, reported, ?_⟩, missing, ?_⟩
  · obtain ⟨shows, _, _⟩ := run_path_eq_inspect tree.store override plain .current
    cases answers : tree.store.inspect override (FilePath.ofText "a.log") with
    | error failure =>
        rw [answers] at reported
        cases reported
    | ok overview =>
        rw [answers] at reported
        rw [(shows overview answers).2, Except.ok.inj reported]
  · obtain ⟨_, complains, _⟩ :=
      run_path_eq_inspect tree.store override missingPlain .current
    exact (complains _ missing).1 rfl

end CommandLine

end LogLens
