import LogLens.CommandLine.Run
import LogLens.Proofs.CommandLine.Reading
import LogLens.Proofs.Document.Whole

/-!
# How the command ends

The command shows what was asked for, or it complains and shows nothing, unless
it breaks down over its file.

The command expects that a file is missing and that a value is refused.  It does
not expect damage to a compressed file, a read that cannot be asked for, or a
name that is too long, although all of them can be met; nor a limit that is no
number, which an earlier release of the option parser lets pass.  Which of them
is met is told step by step, as the command takes its steps.
-/

namespace LogLens

/-- Something fails in a way that the command does not expect. -/
def Breaks {α : Type} (outcome : Except Failure α) (failure : Failure) : Prop :=
  outcome = .error failure ∧ failure.kind = .other

section Breaks

variable {α β : Type} {failure : Failure}

theorem not_breaks_ok (value : α) : ¬Breaks (.ok value) failure :=
  fun breaks => nomatch breaks.1

theorem breaks_error_iff {own : Failure} :
    Breaks (.error own : Except Failure α) failure ↔
      failure = own ∧ own.kind = .other := by
  unfold Breaks
  constructor
  · rintro ⟨equality, other⟩
    cases equality
    exact ⟨rfl, other⟩
  · rintro ⟨rfl, other⟩
    exact ⟨rfl, other⟩

theorem breaks_bind_iff {first : Except Failure α} {next : α → Except Failure β} :
    Breaks (first >>= next) failure ↔
      Breaks first failure ∨
        ∃ value, first = .ok value ∧ Breaks (next value) failure := by
  cases first with
  | error own => simp [Breaks, bind, Except.bind]
  | ok value => simp [Breaks, bind, Except.bind]

end Breaks

theorem Settings.not_breaks_resolve {settings : Settings}
    {override : Option Text} {failure : Failure} :
    ¬Breaks (settings.resolve override) failure := by
  rcases settings.resolve_cases override with
    kept | ⟨cap, _, capped⟩ | ⟨own, kind, refused⟩
  · rw [kept]
    exact not_breaks_ok _
  · rw [capped]
    exact not_breaks_ok _
  · rw [refused, breaks_error_iff, kind]
    simp

theorem Document.not_breaks_refreshFrom {document : Document} {path : FilePath}
    {data : Bytes} {failure : Failure} :
    ¬Breaks (document.refreshFrom path data) failure := by
  rintro ⟨fails, other⟩
  rw [((refreshFrom_eq_error_iff document path data failure).mp fails).2] at other
  cases other

namespace FileStore

variable {files : FileStore} {path : FilePath} {failure : Failure}

theorem breaks_stored_iff :
    Breaks (files.stored path) failure ↔
      files.look path = .tooLong ∧ failure = .nameTooLong path.toText := by
  unfold stored
  cases files.look path with
  | file bytes => simp [not_breaks_ok]
  | nothing => simp [breaks_error_iff, Failure.kind]
  | tooLong => simp [breaks_error_iff, Failure.kind]

theorem breaks_bytesToRead_iff {limit : Int} (positive : 0 ≤ limit) :
    Breaks (files.bytesToRead limit) failure ↔
      files.readable < limit ∧ files.bytesToRead limit = .error failure := by
  by_cases fits : limit ≤ files.readable
  · rw [bytesToRead_eq_ok files positive fits]
    simp [not_breaks_ok]
  · obtain ⟨own, member, refused⟩ :=
      bytesToRead_eq_error files (Int.lt_of_not_ge fits)
    have other : own.kind = .other := by
      simp only [List.mem_cons, List.not_mem_nil, or_false] at member
      rcases member with rfl | rfl | rfl <;> rfl
    rw [refused, breaks_error_iff]
    simp [other, eq_comm]
    omega

theorem exists_bytesToRead_iff {limit : Int} (positive : 0 ≤ limit) :
    (∃ count, files.bytesToRead limit = .ok count) ↔ limit ≤ files.readable := by
  by_cases fits : limit ≤ files.readable
  · rw [bytesToRead_eq_ok files positive fits]
    simp [fits]
  · obtain ⟨own, _, refused⟩ := bytesToRead_eq_error files (Int.lt_of_not_ge fits)
    rw [refused]
    simp [fits]

theorem breaks_dataOf_iff {bytes : Bytes} :
    Breaks (dataOf path bytes) failure ↔ dataOf path bytes = .error failure := by
  constructor
  · exact And.left
  · intro damaged
    obtain ⟨_, cause, _, failureIs⟩ := dataOf_eq_error_iff.mp damaged
    exact ⟨damaged, congrArg Failure.kind failureIs⟩

section Load

variable {settings resolved : Settings} {override : Option Text}
  (resolves : settings.resolve override = .ok resolved)
  (positive : 1 ≤ resolved.parseCap)

include resolves positive

theorem breaks_loadWhole_iff :
    Breaks (files.loadWhole settings override path) failure ↔
      (files.look path = .tooLong ∧ failure = .nameTooLong path.toText) ∨
      ∃ bytes, files.look path = .file bytes ∧
        ((files.readable < resolved.parseCap ∧
            files.bytesToRead resolved.parseCap = .error failure) ∨
          (resolved.parseCap ≤ files.readable ∧
            dataOf path bytes = .error failure)) := by
  have notNegative : 0 ≤ resolved.parseCap := by omega
  unfold loadWhole
  rw [resolves]
  simp only [breaks_bind_iff, breaks_stored_iff, breaks_dataOf_iff,
    breaks_bytesToRead_iff notNegative, exists_bytesToRead_iff notNegative,
    Document.not_breaks_refreshFrom, not_breaks_ok, stored_eq_ok_iff, false_or,
    or_false, and_false, exists_false, Except.ok.injEq, exists_eq_left',
    exists_and_right]

/-- A file is loaded if it is found, its data can be asked for and is intact, and
there is some. -/
theorem exists_loadWhole_iff :
    (∃ document, files.loadWhole settings override path = .ok document) ↔
      ∃ bytes data, files.look path = .file bytes ∧
        resolved.parseCap ≤ files.readable ∧ dataOf path bytes = .ok data ∧
        data ≠ [] := by
  have notNegative : 0 ≤ resolved.parseCap := by omega
  have refreshed : ∀ (document : Document) (data : Bytes),
      (∃ loaded, document.refreshFrom path data = .ok loaded) ↔ data ≠ [] := by
    intro document data
    unfold Document.refreshFrom
    rw [← Document.hasData_iff]
    split
    · rename_i present
      simp [present]
    · rename_i absent
      simp [absent]
  unfold loadWhole
  rw [resolves]
  simp only [bind_eq_ok_iff, stored_eq_ok_iff, Except.ok.injEq, exists_eq_left']
  constructor
  · rintro ⟨document, bytes, found, count, counted, data, held, refreshes⟩
    exact ⟨bytes, data, found,
      (exists_bytesToRead_iff notNegative).mp ⟨count, counted⟩, held,
      (refreshed _ data).mp ⟨document, refreshes⟩⟩
  · rintro ⟨bytes, data, found, fits, held, present⟩
    obtain ⟨count, counted⟩ := (exists_bytesToRead_iff notNegative).mpr fits
    obtain ⟨document, refreshes⟩ := (refreshed _ data).mpr present
    exact ⟨document, bytes, found, count, counted, data, held, refreshes⟩

end Load

end FileStore

theorem Selection.not_breaks_run {selection : Selection} {entries : List Entry}
    {failure : Failure} : ¬Breaks (selection.run entries) failure := by
  unfold run
  intro breaks
  split at breaks
  · cases (breaks_error_iff.mp breaks).2
  · split at breaks
    · cases (breaks_error_iff.mp breaks).2
    · exact not_breaks_ok _ breaks

namespace CommandLine

section Listings

variable {invocation : Invocation} {document : Document} {failure : Failure}

theorem breaks_selectionOf_iff :
    Breaks (selectionOf invocation) failure ↔
      invocation.limit = .unnumbered ∧
        failure = .limitNotNumber .comparison := by
  unfold selectionOf selectionLimit
  cases invocation.limit with
  | unlimited => simp [not_breaks_ok, bind, Except.bind, pure, Except.pure]
  | atMost count => simp [not_breaks_ok, bind, Except.bind, pure, Except.pure]
  | unnumbered => simp [breaks_error_iff, Failure.kind, bind, Except.bind]

theorem breaks_selectedEntries_iff :
    Breaks (selectedEntries invocation document) failure ↔
      invocation.entries = true ∧ invocation.limit = .unnumbered ∧
        failure = .limitNotNumber .comparison := by
  unfold selectedEntries
  cases invocation.entries with
  | false => simp [not_breaks_ok, pure, Except.pure]
  | true =>
      simp [breaks_bind_iff, breaks_selectionOf_iff, Selection.not_breaks_run,
        not_breaks_ok, pure, Except.pure]

theorem breaks_limited_iff {α : Type} {limit : MaxResults} {items : List α} :
    Breaks (limited limit items) failure ↔
      limit = .unnumbered ∧ failure = .limitNotNumber .cut := by
  cases limit with
  | unlimited => simp [limited, not_breaks_ok]
  | atMost count => simp [limited, not_breaks_ok]
  | unnumbered => simp [limited, breaks_error_iff, Failure.kind]

theorem breaks_asked_iff {α : Type} {asked : Bool} {limit : MaxResults}
    {items : List α} {shown : List α → Text} :
    Breaks (if asked = true then (do return shown (← limited limit items))
        else pure []) failure ↔
      asked = true ∧ limit = .unnumbered ∧ failure = .limitNotNumber .cut := by
  cases asked with
  | false => simp [not_breaks_ok, pure, Except.pure]
  | true =>
      simp [breaks_bind_iff, breaks_limited_iff, not_breaks_ok, pure,
        Except.pure]

theorem breaks_problemsPart_iff :
    Breaks (problemsPart invocation document) failure ↔
      invocation.errors = true ∧ invocation.limit = .unnumbered ∧
        failure = .limitNotNumber .cut :=
  breaks_asked_iff

theorem breaks_tokensPart_iff :
    Breaks (tokensPart invocation document) failure ↔
      invocation.tokens = true ∧ invocation.limit = .unnumbered ∧
        failure = .limitNotNumber .cut :=
  breaks_asked_iff

theorem breaks_render_iff {eligible : Bool} {selected : Option (List Entry)} :
    Breaks (render invocation document eligible selected) failure ↔
      (invocation.errors = true ∨ invocation.tokens = true) ∧
        invocation.limit = .unnumbered ∧ failure = .limitNotNumber .cut := by
  unfold render
  simp only [breaks_bind_iff, breaks_problemsPart_iff, breaks_tokensPart_iff,
    not_breaks_ok, pure, Except.pure, exists_false, and_false, or_false]
  constructor
  · rintro (⟨errors, rest⟩ | ⟨_, _, tokens, rest⟩)
    · exact ⟨.inl errors, rest⟩
    · exact ⟨.inr tokens, rest⟩
  · rintro ⟨listed, rest⟩
    cases errors : invocation.errors with
    | true => exact .inl ⟨rfl, rest⟩
    | false =>
        have tokens : invocation.tokens = true := by simpa [errors] using listed
        have none : problemsPart invocation document = .ok [] := by
          simp [problemsPart, errors, pure, Except.pure]
        exact .inr ⟨[], none, tokens, rest⟩

/-- Of the listings that are asked for, the first one is refused a limit that is
no number. -/
theorem breaks_listings_iff {eligible : Bool} :
    Breaks (selectedEntries invocation document >>= fun selected =>
        render invocation document eligible selected) failure ↔
      (invocation.entries = true ∨ invocation.errors = true ∨
        invocation.tokens = true) ∧
      invocation.limit = .unnumbered ∧
      failure = .limitNotNumber
        (if invocation.entries then .comparison else .cut) := by
  rw [breaks_bind_iff, breaks_selectedEntries_iff]
  simp only [breaks_render_iff]
  cases entries : invocation.entries with
  | true =>
      -- The entries are selected before anything else is listed.
      have notSelected : invocation.limit = .unnumbered →
          ∀ selected, selectedEntries invocation document ≠ .ok selected := by
        intro unnumbered selected answered
        have breaks : Breaks (selectedEntries invocation document)
            (.limitNotNumber .comparison) :=
          breaks_selectedEntries_iff.mpr ⟨entries, unnumbered, rfl⟩
        rw [answered] at breaks
        exact not_breaks_ok _ breaks
      constructor
      · rintro (⟨_, rest⟩ | ⟨selected, answered, _, unnumbered, _⟩)
        · exact ⟨.inl rfl, rest⟩
        · exact absurd answered (notSelected unnumbered selected)
      · rintro ⟨_, rest⟩
        exact .inl ⟨rfl, rest⟩
  | false =>
      have none : selectedEntries invocation document = .ok none := by
        simp [selectedEntries, entries, pure, Except.pure]
      simp [none]

end Listings

/-- What the command shows, told from the whole of the file. -/
theorem present_eq (files : FileStore) (override : Option Text)
    (invocation : Invocation) :
    present files override invocation = (do
      let path := FilePath.ofText invocation.path
      let document ← files.loadWhole .standard override path
      let selected ← selectedEntries invocation document
      render invocation document
        (Eligibility.isEligible Eligibility.defaultExtensions
          path.effectiveExtension document.content) selected) := by
  unfold present
  cases resolves : Settings.standard.resolve override with
  | error failure =>
      unfold FileStore.loadWhole
      rw [resolves]
      rfl
  | ok settings =>
      have loaded := FileStore.load_resolved files (by decide) resolves
        (FilePath.ofText invocation.path)
      have allowed : settings.allowedExtensions =
          Settings.standard.allowedExtensions := by
        rw [Settings.resolve_parseCap resolves]
      simp only [bind, Except.bind, loaded, allowed]
      rfl

/-- The ways in which the command breaks down over a file, under the settings
that hold in the environment. -/
inductive Breakdown (files : FileStore) (settings : Settings)
    (invocation : Invocation) : Failure → Prop where
  /-- The path or a name in it is too long to be looked up. -/
  | tooLong :
      files.look (FilePath.ofText invocation.path) = .tooLong →
      Breakdown files settings invocation
        (.nameTooLong (FilePath.ofText invocation.path).toText)
  /-- The parse cap is more than can be asked for at once. -/
  | unreadable {bytes : Bytes} {failure : Failure} :
      files.look (FilePath.ofText invocation.path) = .file bytes →
      files.readable < settings.parseCap →
      files.bytesToRead settings.parseCap = .error failure →
      Breakdown files settings invocation failure
  /-- The file is compressed and damaged, or not compressed at all. -/
  | damaged {bytes : Bytes} {failure : Failure} :
      files.look (FilePath.ofText invocation.path) = .file bytes →
      settings.parseCap ≤ files.readable →
      FileStore.dataOf (FilePath.ofText invocation.path) bytes =
        .error failure →
      Breakdown files settings invocation failure

/-- The way in which the command breaks down over a limit that is no number: a
file is loaded, and a listing of it is asked for. -/
inductive LimitBreakdown (files : FileStore) (settings : Settings)
    (invocation : Invocation) : Failure → Prop where
  | noNumber {bytes data : Bytes} :
      files.look (FilePath.ofText invocation.path) = .file bytes →
      settings.parseCap ≤ files.readable →
      FileStore.dataOf (FilePath.ofText invocation.path) bytes = .ok data →
      data ≠ [] →
      invocation.limit = .unnumbered →
      (invocation.entries = true ∨ invocation.errors = true ∨
        invocation.tokens = true) →
      LimitBreakdown files settings invocation
        (.limitNotNumber (if invocation.entries then .comparison else .cut))

theorem breaks_present_iff {files : FileStore} {override : Option Text}
    {invocation : Invocation} {failure : Failure} :
    Breaks (present files override invocation) failure ↔
      ∃ settings, Settings.standard.resolve override = .ok settings ∧
        (Breakdown files settings invocation failure ∨
          LimitBreakdown files settings invocation failure) := by
  cases resolves : Settings.standard.resolve override with
  | error own =>
      have failed : present files override invocation = .error own := by
        unfold present
        simp only [resolves]
        rfl
      have expected : ¬Breaks (Settings.standard.resolve override) failure :=
        Settings.not_breaks_resolve
      rw [failed]
      rw [resolves, breaks_error_iff] at expected
      simp [breaks_error_iff, expected]
  | ok settings =>
      have positive : 1 ≤ settings.parseCap :=
        Settings.one_le_parseCap (by decide) resolves
      simp only [Except.ok.injEq, exists_eq_left']
      rw [present_eq, breaks_bind_iff,
        FileStore.breaks_loadWhole_iff resolves positive]
      simp only [breaks_listings_iff, exists_and_right,
        FileStore.exists_loadWhole_iff resolves positive]
      constructor
      · rintro ((⟨tooLong, rfl⟩ | ⟨bytes, found, ⟨exceeds, refused⟩ |
          ⟨fits, damaged⟩⟩) | ⟨⟨bytes, data, found, fits, held, present⟩,
            listed, unnumbered, rfl⟩)
        · exact .inl (.tooLong tooLong)
        · exact .inl (.unreadable found exceeds refused)
        · exact .inl (.damaged found fits damaged)
        · exact .inr (.noNumber found fits held present unnumbered listed)
      · rintro (breakdown | ⟨found, fits, held, present, unnumbered, listed⟩)
        · cases breakdown with
          | tooLong tooLong => exact .inl (.inl ⟨tooLong, rfl⟩)
          | unreadable found exceeds refused =>
              exact .inl (.inr ⟨_, found, .inl ⟨exceeds, refused⟩⟩)
          | damaged found fits damaged =>
              exact .inl (.inr ⟨_, found, .inr ⟨fits, damaged⟩⟩)
        · exact .inr ⟨⟨_, _, found, fits, held, present⟩, listed, unnumbered,
            rfl⟩

end CommandLine

namespace CommandLine

section Run

variable {files : FileStore} {override : Option Text} {arguments : List Text}
  {release : ParserRelease} {invocation : Invocation}

theorem run_of_present {text : Text}
    (reads : read arguments release = .ok (.run invocation))
    (presents : present files override invocation = .ok text) :
    run files override arguments release = .ok (succeed text) := by
  simp only [run, reads, presents]

theorem run_of_failure {failure : Failure}
    (reads : read arguments release = .ok (.run invocation))
    (fails : present files override invocation = .error failure) :
    run files override arguments release =
      match failure.kind with
      | .missing => .ok (complain failure.message)
      | .refused => .ok (complain ("Error: " ++ failure.message))
      | .other => .error failure := by
  simp only [run, reads, fails, failureComplaint?]
  cases failure.kind <;> rfl

end Run

/-- An ending with status zero, or with status two, nothing shown, and a message
as the complaint. -/
def Outcome.Orderly (outcome : Outcome) : Prop :=
  outcome.exit = 0 ∨
    outcome.exit = 2 ∧ outcome.output = [] ∧
      ∃ message, message ≠ [] ∧ outcome.complaint = message ++ ['\n']

theorem succeed_orderly (text : Text) : (succeed text).Orderly :=
  .inl rfl

theorem complain_orderly {message : Text} (filled : message ≠ []) :
    (complain message).Orderly :=
  .inr ⟨rfl, rfl, message, filled, rfl⟩

theorem message_ne_nil {failure : Failure} (missing : failure.kind = .missing) :
    failure.message ≠ [] := by
  cases failure with
  | logNotFound path =>
      have filled : ("Log file not found: " : Text) ≠ [] := by decide
      exact List.append_ne_nil_of_left_ne_nil filled path
  | resourceNotFound path =>
      have filled : ("File not found: " : Text) ≠ [] := by decide
      exact List.append_ne_nil_of_left_ne_nil filled path
  | _ => cases missing

/-- The command ends in order, or it breaks down over what it was asked for. -/
theorem run_cases (files : FileStore) (override : Option Text)
    (arguments : List Text) (release : ParserRelease) :
    (∃ outcome, run files override arguments release = .ok outcome ∧
        outcome.Orderly) ∨
      ∃ invocation failure, read arguments release = .ok (.run invocation) ∧
        Breaks (present files override invocation) failure ∧
        run files override arguments release = .error failure := by
  cases reads : read arguments release with
  | error fault =>
      have filled : usageComplaint fault ≠ [] := by
        unfold usageComplaint
        simp
      have ends : run files override arguments release =
          .ok (complain (usageComplaint fault)) := by
        unfold run
        rw [reads]
      exact .inl ⟨_, ends, complain_orderly filled⟩
  | ok request =>
      cases request with
      | showHelp =>
          have ends : run files override arguments release =
              .ok (succeed helpText) := by
            unfold run
            rw [reads]
          exact .inl ⟨_, ends, succeed_orderly helpText⟩
      | run invocation =>
          cases presents : present files override invocation with
          | ok text =>
              exact .inl ⟨_, run_of_present reads presents,
                succeed_orderly text⟩
          | error failure =>
              have ends := run_of_failure reads presents
              cases kind : failure.kind with
              | missing =>
                  rw [kind] at ends
                  exact .inl ⟨_, ends, complain_orderly (message_ne_nil kind)⟩
              | refused =>
                  rw [kind] at ends
                  exact .inl ⟨_, ends, complain_orderly (by simp)⟩
              | other =>
                  rw [kind] at ends
                  exact .inr ⟨invocation, failure, rfl, ⟨presents, kind⟩, ends⟩

/-- A failure is passed on exactly if the command breaks down, over its file or,
with an earlier release of the option parser, over its limit. -/
theorem run_eq_error_iff (files : FileStore) (override : Option Text)
    (arguments : List Text) (release : ParserRelease) (failure : Failure) :
    run files override arguments release = .error failure ↔
      ∃ invocation settings, read arguments release = .ok (.run invocation) ∧
        Settings.standard.resolve override = .ok settings ∧
        (Breakdown files settings invocation failure ∨
          release = .earlier ∧
            LimitBreakdown files settings invocation failure) := by
  constructor
  · intro fails
    rcases run_cases files override arguments release with
      ⟨outcome, ends, _⟩ | ⟨invocation, own, reads, breaks, ends⟩
    · rw [ends] at fails
      cases fails
    · rw [ends] at fails
      cases fails
      obtain ⟨settings, resolves, breakdown⟩ := breaks_present_iff.mp breaks
      refine ⟨invocation, settings, reads, resolves,
        breakdown.imp_right fun overLimit => ⟨?_, overLimit⟩⟩
      cases release with
      | earlier => rfl
      | current =>
          obtain ⟨_, _, _, _, unnumbered, _⟩ := overLimit
          exact absurd unnumbered (numbered_of_read reads)
  · rintro ⟨invocation, settings, reads, resolves, breakdown⟩
    obtain ⟨fails, other⟩ := breaks_present_iff.mpr
      ⟨settings, resolves, breakdown.imp_right And.right⟩
    rw [run_of_failure reads fails, other]

/-- The command ends in order unless it breaks down over its file.  Then, and
only then, the failure is passed on.  An earlier release of the option parser has
it break down over a limit that is no number, too. -/
theorem run_orderly_iff (files : FileStore) (override : Option Text)
    (arguments : List Text) (release : ParserRelease) :
    ((∃ outcome, run files override arguments release = .ok outcome ∧
        outcome.Orderly) ↔
      ¬∃ invocation settings failure,
        read arguments release = .ok (.run invocation) ∧
          Settings.standard.resolve override = .ok settings ∧
          (Breakdown files settings invocation failure ∨
            release = .earlier ∧
              LimitBreakdown files settings invocation failure)) ∧
    ∀ failure, run files override arguments release = .error failure ↔
      ∃ invocation settings, read arguments release = .ok (.run invocation) ∧
        Settings.standard.resolve override = .ok settings ∧
        (Breakdown files settings invocation failure ∨
          release = .earlier ∧
            LimitBreakdown files settings invocation failure) := by
  refine ⟨?_, run_eq_error_iff files override arguments release⟩
  constructor
  · rintro ⟨outcome, ends, _⟩ ⟨invocation, settings, failure, breakdown⟩
    have fails := (run_eq_error_iff files override arguments release failure).mpr
      ⟨invocation, settings, breakdown⟩
    rw [ends] at fails
    cases fails
  · intro sound
    rcases run_cases files override arguments release with
      inOrder | ⟨_, failure, _, _, fails⟩
    · exact inOrder
    · obtain ⟨invocation, settings, breakdown⟩ :=
        (run_eq_error_iff files override arguments release failure).mp fails
      exact absurd ⟨invocation, settings, failure, breakdown⟩ sound

/-- A file that is named as a compressed one and is none. -/
theorem run_passes_on_damage :
    let tree : FileTree :=
      { workingDirectory := ["logs"]
        files := [(["logs", "bad.gz"], ascii "hello")] }
    run tree.store none ["bad.gz"] .current =
        .error (.archive (.wrongMark (ascii "he"))) ∧
      ¬∃ outcome, run tree.store none ["bad.gz"] .current = .ok outcome ∧
        outcome.Orderly := by
  intro tree
  have passedOn : run tree.store none ["bad.gz"] .current =
      .error (.archive (.wrongMark (ascii "he"))) := by
    decide +kernel
  refine ⟨passedOn, ?_⟩
  rintro ⟨outcome, ends, _⟩
  rw [passedOn] at ends
  cases ends

end CommandLine

end LogLens
