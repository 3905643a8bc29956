import LogLens.Proofs.CommandLine.Ending
import LogLens.Proofs.CommandLine.Listings
import LogLens.Proofs.CommandLine.Reading
import LogLens.Proofs.Report.Requests
import LogLens.Proofs.Text.Decimal

/-!
# The command and the request for entries

The command lists the entries that the request for them gives, if the same
severities, the same text and the same limit are asked for.  The severities are
joined with commas.  A text that would be taken for an option is attached to the
option that it belongs to, and so is the divider, which an earlier release of the
option parser does not take for a text there either.
-/

namespace LogLens

theorem FileStore.load_standard (files : FileStore) (override : Option Text)
    (path : FilePath) :
    files.load .standard override path = files.loadStandard override path := by
  rw [load, loadStandard, loadThrough_eq_loadWhole files (by decide),
    loadThrough_eq_loadWhole files (by decide)]

namespace CommandLine

/-- The ways to give the text that messages are to contain: as the next argument,
if it is taken for a value there, or attached to the option, where only an earlier
release of the option parser does not take the divider as it is written. -/
inductive GivesContained (release : ParserRelease) (text : Text) :
    List Text → Prop where
  | apart (plain : Argument.classify text = .ok (.value text)) :
      GivesContained release text ["--contains", text]
  | attached (kept : release = .current ∨ text ≠ Argument.dividerText) :
      GivesContained release text ["--contains=" ++ text]

variable {release : ParserRelease}

theorem GivesContained.changes {text : Text} {written : List Text}
    (gives : GivesContained release text written) :
    Changes release written fun reading =>
      some { reading with contained := some text } := by
  have valued : takesValue .contains = true := rfl
  cases gives with
  | apart plain => exact changes_apart valued plain
  | attached kept => exact changes_attached valued kept

/-- Names of severities are used or refused, even where they are not taken for a
value: they would have to start with a dash, which no name does. -/
theorem changes_levels (names : Text) :
    Changes release ["--levels", names] fun reading =>
      (severitiesOf .levels names).toOption.map fun wanted =>
        { reading with levels := some wanted } := by
  have valued : takesValue .levels = true := rfl
  by_cases plain : Argument.classify names = .ok (.value names)
  · apply (changes_apart valued plain).congr
    intro reading
    simp only [Reading.give]
    cases severitiesOf .levels names <;> rfl
  · have dash : names.head? = some '-' := by
      by_contra noDash
      exact plain (Argument.classify_of_head noDash)
    rw [severitiesOf_of_head_dash .levels dash]
    exact refuses_apart valued plain

theorem changes_max {limit : Nat}
    (short : (decimal (limit : Int)).length ≤ maxIntegerDigits) :
    Changes release ["--max", decimal limit] fun reading =>
      some { reading with limit := .atMost limit } := by
  have valued : takesValue .max = true := rfl
  have plain : Argument.classify (decimal limit) = .ok (.value (decimal limit)) := by
    apply Argument.classify_of_head
    intro dash
    have digit := isDigit_of_mem_decimal (List.mem_of_mem_head? dash)
    exact absurd digit (by decide)
  apply (changes_apart valued plain).congr
  intro reading
  simp only [Reading.give, integer?_decimal short]
  rfl

/-- The command for entries of some severities alone. -/
def entriesOnly (path : Text) (wanted : List Severity) (contained : Text)
    (limit : Nat) : Invocation :=
  { path := path
    entries := true
    errors := false
    tokens := false
    levels := some wanted
    contained := some contained
    limit := .atMost limit }

/-- The options that list entries of the given levels. -/
def filterOptions (levels written : List Text) (limit : Nat) : List Text :=
  "--entries" :: "--levels" :: [','].intercalate levels ::
    (written ++ (["--max", decimal limit] : List Text))

section Filter

variable {levels : List Text} (commaFree : ∀ level ∈ levels, ',' ∉ level)
  (named : ∃ level ∈ levels, Text.trim level ≠ [])
  {contained : Text} {written : List Text}
  (gives : GivesContained release contained written) {limit : Nat}
  (within : limit ≤ 5000)

include commaFree named gives within

theorem changes_filterOptions :
    Changes release (filterOptions levels written limit) fun reading =>
      (Report.severitiesOf levels).toOption.map fun wanted =>
        { reading with
          entries := true
          levels := some wanted
          contained := some contained
          limit := .atMost limit } := by
  have flag : takesValue .entries = false := rfl
  have short : (decimal (limit : Int)).length ≤ maxIntegerDigits := by
    have few : (decimal (limit : Int)).length ≤ 4 :=
      (length_decimal_le_iff (by decide)).mpr (by omega)
    exact Nat.le_trans few (by decide)
  have changes := (((changes_flag flag (by decide)).append
    (changes_levels ([','].intercalate levels))).append gives.changes).append
      (changes_max short)
  apply changes.congr
  intro reading
  rw [severitiesOf_intercalate .levels commaFree named]
  cases Report.severitiesOf levels <;> rfl

/-- The arguments are accepted exactly where the list of levels is. -/
theorem read_filterOptions {path : Text} {arguments : List Text}
    (composes : Composes path (filterOptions levels written limit) arguments) :
    (read arguments release).toOption =
      (Report.severitiesOf levels).toOption.map fun wanted =>
        .run (entriesOnly path wanted contained limit) := by
  have changes := changes_filterOptions commaFree named gives within
  rw [accepted?_of_composes (by decide) changes _ _ composes]
  · cases Report.severitiesOf levels <;> rfl
  · intro changed given
    obtain ⟨_, _, rfl⟩ := Option.map_eq_some_iff.mp given
    rfl
  · cases Report.severitiesOf levels <;> rfl

end Filter

section Agreement

variable {files : FileStore} {override : Option Text} {path : Text}
  {document : Document} {limit : Nat}

theorem run_of_fault {arguments : List Text} {fault : UsageFault}
    (reads : read arguments release = .error fault) :
    run files override arguments release =
      .ok (complain (usageComplaint fault)) := by
  rw [run, reads]

theorem present_entriesOnly
    (loads : files.load .standard override (FilePath.ofText path) = .ok document)
    (positive : 1 ≤ limit) (wanted : List Severity) (contained : Text) :
    let selection : Selection :=
      { severities := wanted
        contained := contained
        limit := some (limit : Int) }
    present files override (entriesOnly path wanted contained limit) =
      .ok (Listing.information document
          (Eligibility.isEligible Eligibility.defaultExtensions
            (FilePath.ofText path).effectiveExtension document.content) ++
        Listing.entries "Entries"
          ((document.entries.filter selection.keeps).take limit)) := by
  intro selection
  let invocation := entriesOnly path wanted contained limit
  have accepted : Accepted invocation := by
    constructor
    · exact MaxResults.noConfusion
    · intro _ count same
      cases same
      omega
  have kept : document.entries.filter selection.keeps = _ :=
    filter_keeps invocation document.entries
  rw [present_of_load loads accepted, kept]
  simp [Listings.text, Listings.cut, Listings.whole, MaxResults.cut, invocation,
    entriesOnly]

/-- The command lists the entries that the request for them gives, and refuses
the levels that the request refuses. -/
theorem run_filter_eq_listEntries
    (loads : files.loadStandard override (FilePath.ofText path) = .ok document)
    {levels : List Text} (commaFree : ∀ level ∈ levels, ',' ∉ level)
    (named : ∃ level ∈ levels, Text.trim level ≠ [])
    {contained : Text} {written : List Text}
    (gives : GivesContained release contained written)
    (positive : 1 ≤ limit) (within : limit ≤ 5000) {arguments : List Text}
    (composes : Composes path (filterOptions levels written limit) arguments) :
    let listed := files.listEntries override (FilePath.ofText path) levels
      contained 0 (some (limit : Int))
    let ended := run files override arguments release
    let eligible := Eligibility.isEligible Eligibility.defaultExtensions
      (FilePath.ofText path).effectiveExtension document.content
    (∀ page, listed = .ok page →
      ended = .ok
        { exit := 0
          output := Listing.information document eligible ++
            Listing.entries "Entries" page.entries
          complaint := [] }) ∧
    (∀ failure, listed = .error failure →
      (∃ level ∈ levels, failure = .unknownSeverity level) ∧
      ∃ fault, ended = .ok
        { exit := 2
          output := []
          complaint := usageComplaint fault ++ "\n" }) := by
  intro listed ended eligible
  have reads := read_filterOptions commaFree named gives within composes
  have sized : Report.pageSize (some (limit : Int)) = .ok (limit : Int) := by
    simp only [Report.pageSize, Report.maxLimit]
    rw [if_neg (by omega), Int.min_eq_left (by omega)]
  cases accepted : Report.severitiesOf levels with
  | error failure =>
      rw [accepted] at reads
      have refused : listed = .error failure := by
        simp only [listed, FileStore.listEntries, accepted]
        rfl
      rw [refused]
      constructor
      · intro page answered
        cases answered
      · intro own same
        cases same
        obtain ⟨fault, reads⟩ := exists_error_of_toOption reads
        exact ⟨Report.severitiesOf_eq_error accepted, fault, run_of_fault reads⟩
  | ok wanted =>
      rw [accepted] at reads
      have answered := FileStore.listEntries_of_load loads accepted sized positive
        contained 0
      have given : listed = _ := answered
      rw [given]
      constructor
      · intro page same
        cases same
        rw [← FileStore.load_standard] at loads
        exact run_of_present (eq_ok_of_toOption reads)
          (present_entriesOnly loads positive wanted contained)
      · intro failure fails
        cases fails

end Agreement

theorem run_filter_eq_listEntries_dashed :
    let source := ascii "info -b\nwarn -b\nerror -b\n"
    let files : FileStore := { look := fun _ => .file source }
    let path : Text := "-m.log"
    let document := Document.ofSource path Settings.standard source (some 25)
    let levels : List Text := [" warning ", "", "ERROR"]
    let page : EntryPage :=
      { format := .custom
        entries :=
          [ { message := "warn -b"
              severity := .warning
              lineNumber := 2
              lineStart := 8
              lineStop := 15 } ] }
    let unknown : List Text := ["error", "severe"]
    (files.loadStandard none (FilePath.ofText path) = .ok document ∧
      (∀ level ∈ levels, ',' ∉ level) ∧
      (∃ level ∈ levels, Text.trim level ≠ [])) ∧
      files.listEntries none (FilePath.ofText path) levels "-b" 0 (some 1) =
        .ok page ∧
      run files none ["--entries", "--levels", " warning ,,ERROR",
          "--contains=-b", "--max", "1", "--", path] .current = .ok
        { exit := 0
          output := Listing.information document true ++
            Listing.entries "Entries" page.entries
          complaint := [] } ∧
      files.listEntries none (FilePath.ofText path) unknown "-b" 0 (some 1) =
        .error (.unknownSeverity "severe") ∧
      ∃ fault, run files none ["--entries", "--levels", "error,severe",
          "--contains=-b", "--max", "1", "--", path] .current = .ok
        { exit := 2
          output := []
          complaint := usageComplaint fault ++ "\n" } := by
  intro source files path document levels page unknown
  have loads : files.loadStandard none (FilePath.ofText path) = .ok document := by
    decide +kernel
  have eligible : Eligibility.isEligible Eligibility.defaultExtensions
      (FilePath.ofText path).effectiveExtension document.content = true := by
    decide +kernel
  have commaFree : ∀ level ∈ levels, ',' ∉ level := by decide
  have named : ∃ level ∈ levels, Text.trim level ≠ [] := by decide
  have unknownCommaFree : ∀ level ∈ unknown, ',' ∉ level := by decide
  have unknownNamed : ∃ level ∈ unknown, Text.trim level ≠ [] := by decide
  have listed : files.listEntries none (FilePath.ofText path) levels "-b" 0
      (some 1) = .ok page := by
    decide +kernel
  have refused : files.listEntries none (FilePath.ofText path) unknown "-b" 0
      (some 1) = .error (.unknownSeverity "severe") := by
    decide +kernel
  have gives : GivesContained .current "-b" ["--contains=-b"] :=
    .attached (.inl rfl)
  refine ⟨⟨loads, commaFree, named⟩, listed, ?_, refused, ?_⟩
  · have shows := (run_filter_eq_listEntries loads commaFree named gives
      (Nat.le_refl 1) (by decide) .pathLast).1 page listed
    rw [eligible] at shows
    exact shows
  · exact ((run_filter_eq_listEntries loads unknownCommaFree unknownNamed gives
      (Nat.le_refl 1) (by decide) .pathLast).2 _ refused).2

/-- The request filters by two dashes like by any other text.  The command does
where they are attached, and refuses them as an argument. -/
theorem run_misses_divider :
    let source := ascii "error -- a\nerror b\n"
    let files : FileStore := { look := fun _ => .file source }
    let path : Text := "m.log"
    let document := Document.ofSource path Settings.standard source (some 19)
    let first : Entry :=
      { message := "error -- a"
        severity := .error
        lineNumber := 1
        lineStart := 0
        lineStop := 10 }
    files.loadStandard none (FilePath.ofText path) = .ok document ∧
      files.listEntries none (FilePath.ofText path) ["ERROR"] "--" 0 (some 5) =
        .ok { format := .custom, entries := [first] } ∧
      run files none ["m.log", "--entries", "--levels", "ERROR", "--contains",
          "--", "--max", "5"] .current = .ok
        { exit := 2
          output := []
          complaint := "mcp-log-inspector: error: " ++
            "argument --contains: expected one argument\n" } ∧
      run files none ["m.log", "--entries", "--levels", "ERROR",
          "--contains=--", "--max", "5"] .current = .ok
        { exit := 0
          output := Listing.information document true ++
            Listing.entries "Entries" [first]
          complaint := [] } := by
  decide +kernel

end CommandLine

end LogLens
