import LogLens.Proofs.Document.Extraction
import LogLens.Proofs.Document.Loading
import LogLens.Proofs.Report.Requests

/-!
# The problems of a file

The problems of a file are the entries of four severities.  Two requests give
the first of them: one extracts all problems with their lines and cuts both off,
the other reads entries until it has as many as are wanted.  They come to the
same, and no line is cut apart, because no line holds a line feed.
-/

namespace LogLens

namespace Report

theorem severityOf_name (severity : Severity) :
    severityOf severity.name = .ok (some severity) := by
  cases severity <;> decide

theorem severitiesOf_names (severities : List Severity) :
    severitiesOf (severities.map Severity.name) = .ok severities := by
  have read : (severities.map Severity.name).mapM severityOf =
      .ok (severities.map some) := by
    induction severities with
    | nil => rfl
    | cons severity rest induction =>
        rw [List.map_cons, List.mapM_cons, severityOf_name, induction]
        rfl
  rw [severitiesOf, read]
  simp [bind, Except.bind, pure, Except.pure]

end Report

namespace Extraction

theorem selects_problems (entry : Entry) :
    problems.selects entry =
      Selection.keeps { severities := problemSeverities } entry := by
  rw [Bool.eq_iff_iff, Selection.keeps_iff]
  simp [selects, severities, problemSeverities]

end Extraction

theorem Entry.map_numbered? (read : Text → Record) {content : Bytes}
    {lines : List Line} (scanned : ∀ line ∈ lines, line ∈ Line.scan content) :
    (lines.map (ofLine read)).map (fun entry =>
        (Line.numbered? content entry.lineNumber).map Line.text) =
      (lines.map Line.text).map some := by
  rw [List.map_map, List.map_map]
  apply List.map_congr_left
  intro line member
  have own : Line.numbered? content (ofLine read line).lineNumber = some line :=
    Line.numbered?_of_mem (scanned line member)
  simp only [Function.comp_apply, own, Option.map_some]

namespace FileStore

variable {files : FileStore} {override : Option Text} {path : FilePath}
  {limit : Option Int} {size : Nat} {document : Document}

/-- The first lines of the problems of a loaded file, one for each entry. -/
theorem extractProblems_lines
    (loads : files.loadStandard override path = .ok document)
    (sized : Report.pageSize limit = .ok (size : Int)) :
    ∃ page, files.extractProblems override path limit = .ok page ∧
      page.entries =
        (document.entries.filter Extraction.problems.selects).take size ∧
      (page.entries = [] → page.text = []) ∧
      (page.entries ≠ [] →
        (page.text.splitOn '\n').map some =
          page.entries.map fun entry =>
            (Line.numbered? document.content entry.lineNumber).map
              Line.text) := by
  have derived := entries_of_load loads
  let lines := Entry.linesRead document.format.read document.content
    Extraction.problems.selects
  have selected : document.entries.filter Extraction.problems.selects =
      lines.map (Entry.ofLine document.format.read) :=
    Extraction.selected_eq derived .problems
  have entries : (Extraction.problems.run document).entries =
      lines.map (Entry.ofLine document.format.read) := by
    rw [Extraction.run_eq]
    exact selected
  have text : (Extraction.problems.run document).text =
      ['\n'].intercalate (lines.map Line.text) :=
    Extraction.run_text derived .problems
  have scanned : ∀ line ∈ lines, line ∈ Line.scan document.content :=
    fun line member => List.mem_of_mem_filter member
  have scannedFirst : ∀ line ∈ lines.take size,
      line ∈ Line.scan document.content :=
    fun line member => scanned line (List.mem_of_mem_take member)
  refine ⟨_, extractProblems_of_load loads sized, ?_, ?_, ?_⟩
  · rw [entries, selected]
  · intro none
    exact if_pos none
  · intro nonempty
    simp only [entries, text, ← List.map_take] at nonempty ⊢
    have someFirst : lines.take size ≠ [] := mt List.map_eq_nil_iff.mpr nonempty
    have someLines : lines ≠ [] := by
      intro none
      exact someFirst (by rw [none, List.take_nil])
    rw [if_neg nonempty, Line.splitOn_texts scanned someLines, ← List.map_take,
      Line.splitOn_texts scannedFirst someFirst,
      Entry.map_numbered? _ scannedFirst]

/-- The request for the problems of a file and the request for its entries of
the four severities of problems fail alike or give the same entries, whatever
the limit is.  The lines of the text that comes with them are, one for each entry
and in their order, the texts of the lines that the entries were read from. -/
theorem extractProblems_eq_listEntries (files : FileStore)
    (override : Option Text) (path : FilePath) (limit : Option Int) :
    let problems := files.extractProblems override path limit
    problems.map ProblemPage.entries =
      (files.listEntries override path ["WARNING", "ERROR", "FATAL", "CRITICAL"]
        [] 0 limit).map EntryPage.entries ∧
    (∀ page, problems = .ok page →
      ∃ document, files.loadStandard override path = .ok document ∧
        (page.entries = [] → page.text = []) ∧
        (page.entries ≠ [] →
          (page.text.splitOn '\n').map some =
            page.entries.map fun entry =>
              (Line.numbered? document.content entry.lineNumber).map
                Line.text)) := by
  intro problems
  have accepted : Report.severitiesOf
      ["WARNING", "ERROR", "FATAL", "CRITICAL"] = .ok problemSeverities :=
    Report.severitiesOf_names problemSeverities
  cases loads : (Report.pageSize limit >>= fun _ =>
      files.loadStandard override path) with
  | error failure =>
      obtain ⟨failed, listFailed⟩ := fails_alike accepted loads [] 0
      have given : problems = .error failure := failed
      rw [given, listFailed]
      exact ⟨rfl, fun page answered => nomatch answered⟩
  | ok document =>
      obtain ⟨_, asked, loads⟩ := bind_eq_ok_iff.mp loads
      obtain ⟨sized, positive⟩ := Report.pageSize_of_ok asked
      obtain ⟨page, answered, entries, empty, lines⟩ :=
        extractProblems_lines loads sized
      have given : problems = .ok page := answered
      have listed := listEntries_of_load loads accepted sized positive [] 0
      have same : Extraction.problems.selects =
          Selection.keeps { severities := problemSeverities } :=
        funext Extraction.selects_problems
      rw [Nat.cast_zero] at listed
      rw [given, listed]
      constructor
      · simp only [Except.map, entries, same, List.drop_zero]
      · intro other answeredOther
        cases answeredOther
        exact ⟨document, loads, empty, lines⟩

theorem extractProblems_eq_listEntries_first :
    let source := ascii "warn a\r\nok\n" ++ [0xFF] ++ ascii "fail\r\nfatal"
    let files : FileStore := { look := fun _ => .file source }
    let path := FilePath.ofText "a.log"
    let page : ProblemPage :=
      { entries :=
          [ { message := "warn a"
              severity := .warning
              lineNumber := 1
              lineStart := 0
              lineStop := 7 },
            { message := replacement :: ("fail" : Text)
              severity := .error
              lineNumber := 3
              lineStart := 11
              lineStop := 17 } ]
        text := "warn a\n" ++ replacement :: ("fail" : Text) }
    files.extractProblems none path (some 2) = .ok page ∧
      ∃ document, files.loadStandard none path = .ok document ∧
        (page.text.splitOn '\n').map some =
          page.entries.map fun entry =>
            (Line.numbered? document.content entry.lineNumber).map
              Line.text := by
  intro source files path page
  have answered : files.extractProblems none path (some 2) = .ok page := by
    decide +kernel
  have nonempty : page.entries ≠ [] := List.cons_ne_nil _ _
  clear_value page source
  obtain ⟨document, loads, _, lines⟩ :=
    (extractProblems_eq_listEntries files none path (some 2)).2 page answered
  exact ⟨answered, document, loads, lines nonempty⟩

end FileStore

end LogLens
