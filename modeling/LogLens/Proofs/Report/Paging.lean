import Mathlib.Data.List.Infix
import LogLens.Proofs.Document.Loading
import LogLens.Proofs.Line.Partition
import LogLens.Proofs.Report.Requests
import LogLens.Text.Basic

/-!
# Reading page after page

What a selection collects while it reads the entries is a slice of those that pass its
filters: its offset counts these, and so does its limit.  It fails for its page alone,
whatever the entries are.

A client that asks for pages, each time from behind what it has been given, and
stops at the first empty one, comes to an end and has then been given every
item once and in order.  This holds whenever a page is what a part of fixed
items shows, so it holds of the entries and of the tokens of a file alike.
-/

namespace LogLens

namespace Selection

variable {selection : Selection} {entries : List Entry}

theorem page_eq_slice (skip room : Nat) (entries : List Entry) :
    page skip (some room) entries = slice entries skip (skip + room) := by
  rw [slice, Nat.add_sub_cancel_left]
  rfl

/-- A selection whose page is refused fails, and the offset is refused first. -/
theorem run_eq_error_iff {failure : Failure} :
    selection.run entries = .error failure ↔
      (selection.offset < 0 ∧ failure = .negativeOffset) ∨
        (0 ≤ selection.offset ∧ (∃ limit ∈ selection.limit, limit ≤ 0) ∧
          failure = .limitNotPositive) := by
  have refused : selection.limit.any (· ≤ 0) = true ↔
      ∃ limit ∈ selection.limit, limit ≤ 0 := by
    cases selection.limit <;> simp
  by_cases negative : selection.offset < 0
  · have before : ¬0 ≤ selection.offset := by omega
    rw [run, if_pos negative, Except.error.injEq]
    simp only [negative, before, true_and, false_and, or_false, eq_comm]
  · have begins : 0 ≤ selection.offset := by omega
    rw [run, if_neg negative]
    by_cases short : selection.limit.any (· ≤ 0) = true
    · rw [if_pos short, Except.error.injEq]
      simp only [negative, begins, refused.mp short, true_and, false_and, false_or,
        eq_comm]
    · rw [if_neg short]
      simp only [negative, mt refused.mpr short, reduceCtorEq, false_and, and_false,
        or_false]

theorem exists_refused_iff :
    (∃ failure, failure.kind = .refused ∧ selection.run entries = .error failure) ↔
      selection.offset < 0 ∨ ∃ limit ∈ selection.limit, limit ≤ 0 := by
  constructor
  · rintro ⟨failure, _, fails⟩
    rcases run_eq_error_iff.mp fails with ⟨negative, _⟩ | ⟨_, short, _⟩
    · exact .inl negative
    · exact .inr short
  · by_cases negative : selection.offset < 0
    · intro _
      exact ⟨_, rfl, run_eq_error_iff.mpr (.inl ⟨negative, rfl⟩)⟩
    · rintro (before | short)
      · exact absurd before negative
      · exact ⟨_, rfl, run_eq_error_iff.mpr (.inr ⟨by omega, short, rfl⟩)⟩

theorem run_eq_ok_iff {chosen : List Entry} :
    selection.run entries = .ok chosen ↔
      0 ≤ selection.offset ∧ (∀ limit ∈ selection.limit, 0 < limit) ∧
        chosen = page selection.offset.toNat (selection.limit.map Int.toNat)
          (entries.filter selection.keeps) := by
  constructor
  · intro succeeds
    have accepted : ¬(selection.offset < 0 ∨
        ∃ limit ∈ selection.limit, limit ≤ 0) := by
      intro refused
      obtain ⟨failure, _, fails⟩ := exists_refused_iff.mpr refused
      rw [succeeds] at fails
      cases fails
    have begins : 0 ≤ selection.offset :=
      Int.not_lt.mp fun negative => accepted (.inl negative)
    have positive : ∀ limit ∈ selection.limit, 0 < limit := by
      intro limit asked
      exact Int.not_le.mp fun short => accepted (.inr ⟨limit, asked, short⟩)
    rw [selection.run_eq_page entries begins positive, Except.ok.injEq] at succeeds
    exact ⟨begins, positive, succeeds.symm⟩
  · rintro ⟨begins, positive, rfl⟩
    exact selection.run_eq_page entries begins positive

/-- A selection gives a slice of the entries that have one of the wanted severities and
hold the wanted text in their message, where no severities and no text exclude nothing.
It is refused exactly if its offset is negative or it has a limit that is not positive. -/
theorem run_eq_slice (severities : Option (List Severity)) (contained : Option Text)
    (offset : Int) (limit : Option Int) (entries : List Entry) :
    let selection : Selection :=
      { severities := severities.getD []
        contained := contained.getD []
        offset := offset
        limit := limit }
    let wanted := entries.filter fun entry =>
      (∀ named ∈ severities, named ≠ [] → entry.severity ∈ named) ∧
        ∀ text ∈ contained, text <:+: entry.message
    (∀ chosen, selection.run entries = .ok chosen ↔
      0 ≤ offset ∧ (∀ asked ∈ limit, 0 < asked) ∧
        chosen = match limit with
          | none => wanted.drop offset.toNat
          | some asked => slice wanted offset.toNat (offset + asked).toNat) ∧
    ((∃ failure, failure.kind = .refused ∧ selection.run entries = .error failure) ↔
      offset < 0 ∨ ∃ asked ∈ limit, asked ≤ 0) := by
  intro selection wanted
  have wantedIs : entries.filter selection.keeps = wanted := by
    apply List.filter_congr
    intro entry _
    rw [Bool.eq_iff_iff, decide_eq_true_eq, keeps_iff]
    cases severities <;> cases contained <;>
      simp [selection, Classical.or_iff_not_imp_left]
  refine ⟨?_, exists_refused_iff⟩
  intro chosen
  rw [run_eq_ok_iff, wantedIs]
  apply and_congr_right
  intro begins
  apply and_congr_right
  intro positive
  cases limit with
  | none => exact Iff.rfl
  | some asked =>
      have stop : (offset + asked).toNat = offset.toNat + asked.toNat :=
        Int.toNat_add begins (Int.le_of_lt (positive asked rfl))
      change chosen = page offset.toNat (some asked.toNat) wanted ↔
        chosen = slice wanted offset.toNat (offset + asked).toNat
      rw [stop, page_eq_slice]

end Selection

section Paging

variable {α : Type} {ask : Nat → Except Failure (List α)} {items : List α}
  {size offset : Nat}

/-- The pages that a client is given from an offset on: it asks behind the items
of each page until a page is empty. -/
inductive Receives (ask : Nat → Except Failure (List α)) :
    Nat → List (List α) → Prop where
  | done {offset : Nat} :
      ask offset = .ok [] →
      Receives ask offset []
  | more {offset : Nat} {page : List α} {rest : List (List α)} :
      ask offset = .ok page →
      page ≠ [] →
      Receives ask (offset + page.length) rest →
      Receives ask offset (page :: rest)

/-- Items that are given out in pages of a size: a client comes to an end and has
all of them, and only from behind the last one a page is empty. -/
structure Paged (ask : Nat → Except Failure (List α)) (items : List α)
    (size : Nat) : Prop where
  ends : ∃ pages, Receives ask 0 pages
  complete : ∀ pages, Receives ask 0 pages → pages.flatten = items
  answers : ∀ offset, ∃ page, ask offset = .ok page ∧ page.length ≤ size ∧
    (page = [] ↔ items.length ≤ offset)

theorem take_drop_eq_nil_iff (positive : 0 < size) :
    (items.drop offset).take size = [] ↔ items.length ≤ offset := by
  rw [List.take_eq_nil_iff, List.drop_eq_nil_iff]
  omega

/-- A client that is not at the end yet gets further, so it reaches the end. -/
theorem exists_receives (positive : 0 < size)
    (cuts : ∀ offset, ask offset = .ok ((items.drop offset).take size))
    (offset : Nat) : ∃ pages, Receives ask offset pages := by
  induction ahead : items.length - offset using Nat.strongRecOn
    generalizing offset with
  | ind ahead induction =>
      subst ahead
      by_cases atEnd : (items.drop offset).take size = []
      · exact ⟨[], .done (atEnd ▸ cuts offset)⟩
      · have given : 0 < ((items.drop offset).take size).length :=
          List.length_pos_iff.mpr atEnd
        have before : offset < items.length := by
          have notBehind := mt (take_drop_eq_nil_iff positive).mpr atEnd
          omega
        have nearer : items.length -
            (offset + ((items.drop offset).take size).length) <
              items.length - offset := by
          omega
        obtain ⟨rest, receives⟩ := induction _ nearer _ rfl
        exact ⟨_, .more (cuts offset) atEnd receives⟩

/-- What is received from an offset on are the items behind it. -/
theorem flatten_of_receives (positive : 0 < size)
    (cuts : ∀ offset, ask offset = .ok ((items.drop offset).take size))
    {pages : List (List α)} (receives : Receives ask offset pages) :
    pages.flatten = items.drop offset := by
  induction receives with
  | @done offset given =>
      rw [cuts offset, Except.ok.injEq, take_drop_eq_nil_iff positive] at given
      rw [List.flatten_nil, List.drop_of_length_le given]
  | @more offset page rest given nonempty _ induction =>
      rw [cuts offset, Except.ok.injEq] at given
      have behind : items.drop (offset + page.length) =
          (items.drop offset).drop size := by
        rw [← given, List.length_take, ← List.drop_drop]
        by_cases last : (items.drop offset).length ≤ size
        · rw [Nat.min_eq_right last, List.drop_length,
            List.drop_of_length_le last]
        · rw [Nat.min_eq_left (by omega)]
      rw [List.flatten_cons, induction, behind, ← given, List.take_append_drop]

theorem paged_of_cuts (positive : 0 < size)
    (cuts : ∀ offset, ask offset = .ok ((items.drop offset).take size)) :
    Paged ask items size where
  ends := exists_receives positive cuts 0
  complete := fun _ => flatten_of_receives positive cuts
  answers := fun offset =>
    ⟨_, cuts offset, List.length_take_le _ _, take_drop_eq_nil_iff positive⟩

end Paging

namespace FileStore

/-- A client that asks for one page after the other of the entries of a file, or
of its tokens, comes to an end and has been given each of them once, in the order
of the document.  No page is larger than the limit allows, and a page is empty
exactly where there is nothing left. -/
theorem pages_complete {files : FileStore} {override : Option Text}
    {path : FilePath} {document : Document}
    (loads : files.loadStandard override path = .ok document)
    {severities : List Text} {wanted : List Severity}
    (accepted : Report.severitiesOf severities = .ok wanted)
    {limit : Option Int} (positive : ∀ asked ∈ limit, 1 ≤ asked)
    (contained : Text) :
    let size := (min (limit.getD 200) 5000).toNat
    let matching := document.entries.filter fun entry =>
      (wanted = [] ∨ entry.severity ∈ wanted) ∧ contained <:+: entry.message
    let entriesFrom := fun offset : Nat =>
      (files.listEntries override path severities contained offset limit).map
        EntryPage.entries
    let tokensFrom := fun offset : Nat =>
      (files.listTokens override path offset limit).map TokenPage.tokens
    Paged entriesFrom matching size ∧
    (matching.Pairwise fun first second =>
      first.lineNumber < second.lineNumber) ∧
    Paged tokensFrom document.tokens size ∧
    (∀ offset : Nat, ∃ page,
      files.listTokens override path offset limit = .ok page ∧
        page.total = document.tokens.length) := by
  intro size matching entriesFrom tokensFrom
  obtain ⟨sized, nonzero⟩ := Report.pageSize_of_positive positive
  have matchingIs : matching = document.entries.filter
      (Selection.keeps { severities := wanted, contained := contained }) := by
    apply List.filter_congr
    intro entry _
    rw [Bool.eq_iff_iff, decide_eq_true_eq, Selection.keeps_iff]
  refine ⟨?_, ?_, ?_, ?_⟩
  · apply paged_of_cuts nonzero
    intro offset
    simp only [entriesFrom, matchingIs,
      listEntries_of_load loads accepted sized nonzero]
    rfl
  · have numbered : document.entries.Pairwise fun first second =>
        first.lineNumber < second.lineNumber := by
      rw [entries_of_load loads]
      exact Entry.ofContent_numbered
    exact numbered.filter _
  · apply paged_of_cuts nonzero
    intro offset
    simp only [tokensFrom, listTokens_of_load loads sized]
    rfl
  · intro offset
    exact ⟨_, listTokens_of_load loads sized offset, rfl⟩

theorem pages_complete_pairs :
    let source := ascii "warn a\nfail\nwarn b\nwarn c"
    let files : FileStore := { look := fun _ => .file source }
    let path := FilePath.ofText "a.log"
    let document := Document.ofSource "a.log" Settings.standard source (some 25)
    let limit : Option Int := some 2
    files.loadStandard none path = .ok document ∧
      Report.severitiesOf [" Warning "] = .ok [.warning] ∧
      (∀ asked ∈ limit, 1 ≤ asked) ∧
      Paged
        (fun offset : Nat =>
          (files.listEntries none path [" Warning "] "warn" offset limit).map
            EntryPage.entries)
        (document.entries.filter fun entry =>
          (([.warning] : List Severity) = [] ∨
              entry.severity ∈ ([.warning] : List Severity)) ∧
            ("warn" : Text) <:+: entry.message)
        2 := by
  intro source files path document limit
  have loads : files.loadStandard none path = .ok document := by
    decide +kernel
  have accepted : Report.severitiesOf [" Warning "] = .ok [.warning] := by
    decide +kernel
  have positive : ∀ asked ∈ limit, 1 ≤ asked := by decide
  clear_value source
  exact ⟨loads, accepted, positive,
    (pages_complete loads accepted positive "warn").1⟩

end FileStore

end LogLens
