import LogLens.CommandLine.Invocation
import LogLens.Failure
import LogLens.Report.Request

/-!
# Answers to requests

What a request answers once its arguments are accepted and its file is loaded,
without the chain of checks in front of it.  A page of entries is cut out of the
entries that are wanted, so its offset counts these only.

Severities are asked for by name, in a list or in one text with commas.  Both are
read alike: what counts are the names in capitals and without the blanks around
them, and blank ones are passed over.
-/

namespace LogLens

namespace Selection

theorem keeps_iff (selection : Selection) (entry : Entry) :
    selection.keeps entry = true ↔
      (selection.severities = [] ∨ entry.severity ∈ selection.severities) ∧
        selection.contained <:+: entry.message := by
  simp [keeps, occursIn_iff, List.isEmpty_iff]

theorem run_eq_page (selection : Selection) (entries : List Entry)
    (begins : 0 ≤ selection.offset)
    (positive : ∀ limit ∈ selection.limit, 0 < limit) :
    selection.run entries =
      .ok (page selection.offset.toNat (selection.limit.map Int.toNat)
        (entries.filter selection.keeps)) := by
  have notNegative : ¬selection.offset < 0 := by omega
  have notZero : ¬selection.limit.any (· ≤ 0) = true := by
    cases asked : selection.limit with
    | none => simp
    | some limit => simpa using positive limit asked
  rw [run, if_neg notNegative, if_neg notZero, collect_eq, List.reverse_nil,
    List.nil_append]

end Selection

namespace Report

def sizeFor (limit : Option Int) : Nat :=
  (min (limit.getD defaultLimit) maxLimit).toNat

theorem pageSize_of_positive {limit : Option Int}
    (positive : ∀ asked ∈ limit, 1 ≤ asked) :
    pageSize limit = .ok (sizeFor limit : Int) ∧ 0 < sizeFor limit := by
  cases limit with
  | none => exact ⟨rfl, by decide⟩
  | some asked =>
      have atLeastOne : 1 ≤ asked := positive asked rfl
      have notZero : ¬asked ≤ 0 := by omega
      have room : 1 ≤ min asked (maxLimit : Int) := by
        simp only [maxLimit]
        omega
      simp only [pageSize, if_neg notZero, sizeFor, Option.getD_some,
        Except.ok.injEq]
      omega

theorem pageSize_of_ok {limit : Option Int} {asked : Int}
    (accepted : pageSize limit = .ok asked) :
    pageSize limit = .ok (sizeFor limit : Int) ∧ 0 < sizeFor limit := by
  apply pageSize_of_positive
  intro given member
  cases member
  by_cases notPositive : given ≤ 0
  · simp only [pageSize, if_pos notPositive] at accepted
    cases accepted
  · omega

end Report

namespace FileStore

variable {files : FileStore} {override : Option Text} {path : FilePath}
  {limit : Option Int} {size : Nat} {document : Document}

theorem listEntries_of_load (loads : files.loadStandard override path = .ok document)
    {severities : List Text} {wanted : List Severity}
    (accepted : Report.severitiesOf severities = .ok wanted)
    (sized : Report.pageSize limit = .ok (size : Int)) (positive : 0 < size)
    (contained : Text) (offset : Nat) :
    files.listEntries override path severities contained offset limit =
      .ok {
        format := document.format
        entries := ((document.entries.filter
          (Selection.keeps { severities := wanted, contained := contained })).drop
            offset).take size } := by
  let selection : Selection :=
    { severities := wanted
      contained := contained
      offset := offset
      limit := some (size : Int) }
  have selected := selection.run_eq_page document.entries (by simp [selection])
    (by simpa [selection] using positive)
  simp only [listEntries, accepted, sized, loads, bind, Except.bind]
  rw [selected]
  rfl

/-- Requests check their limit first and then load the file, and fail where one
of them does. -/
theorem fails_alike {failure : Failure} {severities : List Text}
    {wanted : List Severity}
    (accepted : Report.severitiesOf severities = .ok wanted)
    (fails : (Report.pageSize limit >>= fun _ =>
      files.loadStandard override path) = .error failure)
    (contained : Text) (offset : Int) :
    files.extractProblems override path limit = .error failure ∧
      files.listEntries override path severities contained offset limit =
        .error failure := by
  cases sized : Report.pageSize limit with
  | error own =>
      rw [sized] at fails
      cases fails
      simp only [extractProblems, listEntries, accepted, sized]
      exact ⟨rfl, rfl⟩
  | ok asked =>
      rw [sized] at fails
      cases loads : files.loadStandard override path with
      | ok document =>
          rw [loads] at fails
          cases fails
      | error own =>
          rw [loads] at fails
          cases fails
          simp only [extractProblems, listEntries, accepted, sized, loads]
          exact ⟨rfl, rfl⟩

theorem listTokens_of_load (loads : files.loadStandard override path = .ok document)
    (sized : Report.pageSize limit = .ok (size : Int)) (offset : Nat) :
    files.listTokens override path offset limit =
      .ok {
        total := document.tokens.length
        tokens := (document.tokens.drop offset).take size
        text := document.text } := by
  have notNegative : ¬(offset : Int) < 0 := by omega
  simp only [listTokens, if_neg notNegative, sized, loads, bind, Except.bind]
  rfl

theorem extractProblems_of_load
    (loads : files.loadStandard override path = .ok document)
    (sized : Report.pageSize limit = .ok (size : Int)) :
    files.extractProblems override path limit =
      let extract := Extraction.problems.run document
      .ok {
        entries := extract.entries.take size
        text :=
          if extract.entries.take size = [] then []
          else
            ['\n'].intercalate ((extract.text.splitOn '\n').take size) } := by
  simp only [extractProblems, sized, loads, bind, Except.bind]
  rfl

end FileStore

namespace Severity

/-- The names that are given, in capitals and without those that are blank. -/
def namesIn (given : List Text) : List Text :=
  (given.map fun name => (Text.trim name).upper).filter (· ≠ [])

theorem namesIn_ne_nil_iff {given : List Text} :
    namesIn given ≠ [] ↔ ∃ name ∈ given, Text.trim name ≠ [] := by
  simp [namesIn]

theorem name_of_ofName? {name : Text} {severity : Severity}
    (named : ofName? name = some severity) : severity.name = name := by
  simpa using List.find?_some named

theorem ofName?_of_head_dash {name : Text} (dash : name.head? = some '-') :
    ofName? name = none := by
  cases named : ofName? name with
  | none => rfl
  | some severity =>
      have letters : ∀ severity ∈ all, severity.name.head? ≠ some '-' := by
        decide
      rw [← name_of_ofName? named] at dash
      exact absurd dash (letters severity (mem_all severity))

end Severity

namespace Report

theorem severitiesOf_cons (name : Text) (rest : List Text) :
    severitiesOf (name :: rest) = do
      let severity ← severityOf name
      let others ← severitiesOf rest
      return severity.toList ++ others := by
  unfold severitiesOf
  rw [List.mapM_cons]
  cases severityOf name with
  | error failure => rfl
  | ok severity =>
      cases rest.mapM severityOf with
      | error failure => rfl
      | ok others => cases severity <;> rfl

theorem severitiesOf_toOption (given : List Text) :
    (severitiesOf given).toOption =
      (Severity.namesIn given).mapM Severity.ofName? := by
  induction given with
  | nil => rfl
  | cons name rest induction =>
      rw [severitiesOf_cons]
      by_cases blank : (Text.trim name).upper = []
      · have passed : severityOf name = .ok none := if_pos blank
        have names : Severity.namesIn (name :: rest) =
            Severity.namesIn rest := by
          simp [Severity.namesIn, blank]
        rw [passed, names, ← induction]
        cases severitiesOf rest <;> rfl
      · have names : Severity.namesIn (name :: rest) =
            (Text.trim name).upper :: Severity.namesIn rest := by
          simp [Severity.namesIn, blank]
        rw [names, List.mapM_cons, ← induction, severityOf]
        simp only [if_neg blank]
        cases Severity.ofName? (Text.trim name).upper with
        | none => rfl
        | some severity => cases severitiesOf rest <;> rfl

theorem severitiesOf_eq_error {given : List Text} {failure : Failure}
    (fails : severitiesOf given = .error failure) :
    ∃ name ∈ given, failure = .unknownSeverity name := by
  rcases bind_eq_error_iff.mp fails with fails | ⟨_, _, fails⟩
  · obtain ⟨name, member, fails⟩ := mapM_eq_error fails
    refine ⟨name, member, ?_⟩
    simp only [severityOf] at fails
    split at fails
    · cases fails
    · split at fails <;> cases fails
      rfl
  · cases fails

end Report

namespace CommandLine

theorem severitiesOf_toOption (option : OptionName) {text : Text}
    (named : Severity.namesIn (text.splitOn ',') ≠ []) :
    (severitiesOf option text).toOption =
      (Severity.namesIn (text.splitOn ',')).mapM Severity.ofName? := by
  obtain ⟨name, rest, names⟩ := List.exists_cons_of_ne_nil named
  have given : ((text.splitOn ',').map fun part =>
      (Text.trim part).upper).filter (· ≠ []) = name :: rest := names
  simp only [severitiesOf, given, names, List.mapM_cons]
  cases Severity.ofName? name with
  | none => rfl
  | some severity => cases rest.mapM Severity.ofName? <;> rfl

/-- A text that starts with a dash is refused, because no name does. -/
theorem severitiesOf_of_head_dash (option : OptionName) {text : Text}
    (dash : text.head? = some '-') :
    (severitiesOf option text).toOption = none := by
  obtain ⟨rest, rfl⟩ := List.head?_eq_some_iff.mp dash
  obtain ⟨first, others, parts⟩ :=
    List.exists_cons_of_ne_nil (List.splitOn_ne_nil ',' rest)
  have split : ('-' :: rest : Text).splitOn ',' = ('-' :: first) :: others := by
    rw [List.splitOn_cons_eq_if_modifyHead, parts]
    rfl
  obtain ⟨tail, kept⟩ := List.head?_eq_some_iff.mp
    (Text.head?_trimBy_cons (by decide : isBlank '-' = false) first)
  have capitals : (Text.trim ('-' :: first)).upper = '-' :: Text.upper tail := by
    rw [Text.trim, kept]
    rfl
  have names : Severity.namesIn (('-' :: rest : Text).splitOn ',') =
      ('-' :: Text.upper tail) :: Severity.namesIn others := by
    simp [split, Severity.namesIn, capitals]
  have unknown : Severity.ofName? ('-' :: Text.upper tail) = none :=
    Severity.ofName?_of_head_dash rfl
  rw [severitiesOf_toOption option (by simp [names]), names, List.mapM_cons,
    unknown]
  rfl

/-- Names that are joined with commas are read as the list of them is. -/
theorem severitiesOf_intercalate (option : OptionName) {given : List Text}
    (commaFree : ∀ name ∈ given, ',' ∉ name)
    (named : ∃ name ∈ given, Text.trim name ≠ []) :
    (severitiesOf option ([','].intercalate given)).toOption =
      (Report.severitiesOf given).toOption := by
  have some : given ≠ [] := by
    obtain ⟨name, member, _⟩ := named
    exact List.ne_nil_of_mem member
  have parts : ([','].intercalate given).splitOn ',' = given :=
    List.splitOn_intercalate ',' commaFree some
  have filled := Severity.namesIn_ne_nil_iff.mpr named
  rw [severitiesOf_toOption option (by rwa [parts]), parts,
    Report.severitiesOf_toOption]

end CommandLine

end LogLens
