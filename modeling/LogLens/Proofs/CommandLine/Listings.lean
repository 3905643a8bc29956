import LogLens.Proofs.CommandLine.Ending
import LogLens.Proofs.Document.Extraction
import LogLens.Proofs.Report.Requests

/-!
# The listings of the command and their limit

What the command shows of a loaded document are its facts and the listings that
are asked for.  The entries are selected with the limit as a part of the
selection, while the problems and the tokens are cut off afterwards.  It comes to
the same, except that a selection refuses a limit that is not positive.

One limit is for every listing.  What it leaves is an initial part of what there
is, and with a positive limit exactly as much as is allowed.  A limit that is not
positive is refused where entries are selected, but not where problems or tokens
are cut off: there a negative one leaves items off the end, so that more may be
shown than any number of results would allow.
-/

namespace LogLens

/-- What a limit leaves of a listing. -/
def MaxResults.cut {α : Type} (limit : MaxResults) (items : List α) : List α :=
  match limit with
  | .atMost count => takeSigned count items
  | .unlimited | .unnumbered => items

namespace CommandLine

/-- The listings of a document.  Those that are not asked for are left out. -/
structure Listings where
  entries : Option (List Entry)
  problems : Option (List Entry)
  tokens : Option (List Token)
  deriving DecidableEq, Repr

namespace Listings

/-- All that there is to be listed. -/
def whole (invocation : Invocation) (document : Document) : Listings where
  entries :=
    if invocation.entries then
      some (document.entries.filter fun entry =>
        (invocation.levels.getD [] = [] ∨
            entry.severity ∈ invocation.levels.getD []) ∧
          invocation.contained.getD [] <:+: entry.message)
    else none
  problems :=
    if invocation.errors then
      some (document.entries.filter fun entry =>
        entry.severity ∈ problemSeverities)
    else none
  tokens := if invocation.tokens then some document.tokens else none

def cut (limit : MaxResults) (listings : Listings) : Listings where
  entries := listings.entries.map limit.cut
  problems := listings.problems.map limit.cut
  tokens := listings.tokens.map limit.cut

/-- The facts of a document and its listings, as they are shown. -/
def text (document : Document) (eligible : Bool) (listings : Listings) : Text :=
  Listing.information document eligible ++
    listings.entries.elim [] (Listing.entries "Entries") ++
    listings.problems.elim [] (Listing.entries "Errors") ++
    listings.tokens.elim [] (Listing.tokens document.text document.tokens)

end Listings

section Parts

variable {invocation : Invocation} {document : Document}

theorem limited_eq {α : Type} {limit : MaxResults}
    (numbered : limit ≠ .unnumbered) (items : List α) :
    limited limit items = .ok (limit.cut items) := by
  cases limit with
  | unnumbered => exact absurd rfl numbered
  | _ => rfl

theorem asked_eq {α : Type} {asked : Bool} {limit : MaxResults}
    (numbered : limit ≠ .unnumbered) (items : List α) (shown : List α → Text) :
    (if asked = true then (do return shown (← limited limit items))
        else pure [] : Except Failure Text) =
      .ok (((if asked then some items else none).map limit.cut).elim []
        shown) := by
  cases asked with
  | false => rfl
  | true =>
      rw [if_pos rfl, limited_eq numbered]
      rfl

theorem problemsPart_eq (numbered : invocation.limit ≠ .unnumbered) :
    problemsPart invocation document =
      .ok (((Listings.whole invocation document).cut
        invocation.limit).problems.elim [] (Listing.entries "Errors")) := by
  have selected : (Extraction.problems.run document).entries =
      document.entries.filter fun entry =>
        entry.severity ∈ problemSeverities := by
    rw [Extraction.run_eq]
    apply List.filter_congr
    intro entry _
    simp [Extraction.selects, Extraction.severities]
  rw [problemsPart, selected]
  exact asked_eq numbered _ _

theorem tokensPart_eq (numbered : invocation.limit ≠ .unnumbered) :
    tokensPart invocation document =
      .ok (((Listings.whole invocation document).cut
        invocation.limit).tokens.elim []
          (Listing.tokens document.text document.tokens)) :=
  asked_eq numbered _ _

/-- The selection that an invocation asks for, with a limit that is no number
left out. -/
def selectionFor (invocation : Invocation) : Selection where
  severities := invocation.levels.getD []
  contained := invocation.contained.getD []
  limit :=
    match invocation.limit with
    | .atMost count => some count
    | .unlimited | .unnumbered => none

theorem selectionOf_eq (numbered : invocation.limit ≠ .unnumbered) :
    selectionOf invocation = .ok (selectionFor invocation) := by
  unfold selectionOf selectionFor
  cases limit : invocation.limit with
  | unnumbered => exact absurd limit numbered
  | _ => rfl

theorem selectionFor_limit {count : Int}
    (limited : invocation.limit = .atMost count) :
    (selectionFor invocation).limit = some count := by
  simp only [selectionFor, limited]

/-- With a limit that is accepted, a selection gives what the limit leaves of all
that it is for. -/
theorem selectionFor_run (accepted : ∀ count, invocation.limit = .atMost count →
      0 < count) (entries : List Entry) :
    (selectionFor invocation).run entries =
      .ok (invocation.limit.cut
        (entries.filter (selectionFor invocation).keeps)) := by
  have begins : 0 ≤ (selectionFor invocation).offset := Int.le_refl 0
  cases limit : invocation.limit with
  | atMost count =>
      have given := selectionFor_limit limit
      have positive : 0 < count := accepted count limit
      rw [Selection.run_eq_page _ _ begins (by rw [given]; simpa using positive),
        given]
      have notNegative : 0 ≤ count := by omega
      simp only [MaxResults.cut, takeSigned, if_pos notNegative]
      rfl
  | unlimited | unnumbered =>
      have given : (selectionFor invocation).limit = none := by
        simp only [selectionFor, limit]
      rw [Selection.run_eq_page _ _ begins (by rw [given]; simp), given]
      rfl

/-- The limit is a number, and a positive one where entries are selected. -/
structure Accepted (invocation : Invocation) : Prop where
  numbered : invocation.limit ≠ .unnumbered
  positive : invocation.entries = true →
    ∀ count, invocation.limit = .atMost count → 0 < count

theorem filter_keeps (invocation : Invocation) (entries : List Entry) :
    entries.filter (selectionFor invocation).keeps =
      entries.filter fun entry =>
        (invocation.levels.getD [] = [] ∨
            entry.severity ∈ invocation.levels.getD []) ∧
          invocation.contained.getD [] <:+: entry.message := by
  apply List.filter_congr
  intro entry _
  rw [Bool.eq_iff_iff, decide_eq_true_eq, Selection.keeps_iff]
  rfl

theorem selectedEntries_eq (accepted : Accepted invocation) :
    selectedEntries invocation document =
      .ok ((Listings.whole invocation document).cut
        invocation.limit).entries := by
  unfold selectedEntries Listings.whole Listings.cut
  cases asked : invocation.entries with
  | false => rfl
  | true =>
      rw [if_pos rfl, selectionOf_eq accepted.numbered, ← filter_keeps]
      change (do
        return some (← (selectionFor invocation).run document.entries)) = _
      rw [selectionFor_run (accepted.positive asked)]
      rfl

theorem selectedEntries_refused {count : Int} (asked : invocation.entries = true)
    (limited : invocation.limit = .atMost count) (notPositive : count ≤ 0) :
    selectedEntries invocation document = .error .limitNotPositive := by
  have numbered : invocation.limit ≠ .unnumbered := by
    rw [limited]
    simp
  have refused : (selectionFor invocation).run document.entries =
      .error .limitNotPositive := by
    rw [Selection.run, selectionFor_limit limited]
    simp [selectionFor, notPositive]
  unfold selectedEntries
  rw [if_pos asked, selectionOf_eq numbered]
  change (do
    return some (← (selectionFor invocation).run document.entries)) = _
  rw [refused]
  rfl

end Parts

section Present

variable {files : FileStore} {override : Option Text} {invocation : Invocation}
  {document : Document}

theorem loadWhole_of_load {path : FilePath}
    (loads : files.load .standard override path = .ok document) :
    files.loadWhole .standard override path = .ok document := by
  rw [← FileStore.loadThrough_eq_loadWhole files (by decide) .single]
  exact loads

theorem entriesPart_eq (selected : Option (List Entry)) :
    entriesPart selected =
      selected.elim [] (Listing.entries "Entries") := by
  cases selected <;> rfl

/-- The facts and the listings of a document that is loaded are shown. -/
theorem present_of_load
    (loads : files.load .standard override (FilePath.ofText invocation.path) =
      .ok document) (accepted : Accepted invocation) :
    present files override invocation =
      .ok (((Listings.whole invocation document).cut invocation.limit).text
        document
        (Eligibility.isEligible Eligibility.defaultExtensions
          (FilePath.ofText invocation.path).effectiveExtension
          document.content)) := by
  have whole := loadWhole_of_load loads
  rw [present_eq]
  simp only [bind, Except.bind, whole, selectedEntries_eq accepted, render,
    problemsPart_eq accepted.numbered, tokensPart_eq accepted.numbered,
    entriesPart_eq]
  rfl

theorem present_refused
    (loads : files.load .standard override (FilePath.ofText invocation.path) =
      .ok document) {count : Int} (asked : invocation.entries = true)
    (limited : invocation.limit = .atMost count) (notPositive : count ≤ 0) :
    present files override invocation = .error .limitNotPositive := by
  have whole := loadWhole_of_load loads
  rw [present_eq]
  simp only [bind, Except.bind, whole,
    selectedEntries_refused asked limited notPositive]

end Present

end CommandLine

section TakeSigned

variable {α : Type} {count : Int}

theorem takeSigned_length_of_positive (positive : 1 ≤ count) (items : List α) :
    ((takeSigned count items).length : Int) = min count items.length := by
  have notNegative : 0 ≤ count := by omega
  rw [takeSigned, if_pos notNegative, List.length_take]
  omega

theorem takeSigned_length_le_iff (count : Int) (items : List α) :
    ((takeSigned count items).length : Int) ≤ max count 0 ↔
      0 ≤ count ∨ (items.length : Int) ≤ -count := by
  unfold takeSigned
  split
  · rw [List.length_take]
    omega
  · rw [List.length_take]
    omega

end TakeSigned

namespace CommandLine

namespace Listings

/-- No listing has more items. -/
structure AtMost (listings : Listings) (bound : Int) : Prop where
  entries : ∀ items ∈ listings.entries, (items.length : Int) ≤ bound
  problems : ∀ items ∈ listings.problems, (items.length : Int) ≤ bound
  tokens : ∀ items ∈ listings.tokens, (items.length : Int) ≤ bound

/-- The same listings are there, and what is shown of each is related to all that
there is. -/
structure Related (relation : (α : Type) → List α → List α → Prop)
    (shown whole : Listings) : Prop where
  entries : Option.Rel (relation Entry) shown.entries whole.entries
  problems : Option.Rel (relation Entry) shown.problems whole.problems
  tokens : Option.Rel (relation Token) shown.tokens whole.tokens

theorem cut_related {relation : (α : Type) → List α → List α → Prop}
    {limit : MaxResults}
    (related : ∀ (α : Type) (items : List α), relation α (limit.cut items) items)
    (whole : Listings) : Related relation (whole.cut limit) whole := by
  have each : ∀ {α : Type} (listing : Option (List α)),
      Option.Rel (relation α) (listing.map limit.cut) listing := by
    intro α listing
    cases listing with
    | none => exact .none
    | some items => exact .some (related α items)
  exact ⟨each _, each _, each _⟩

theorem cut_unlimited (whole : Listings) : whole.cut .unlimited = whole := by
  have all : ∀ {α : Type} (listing : Option (List α)),
      listing.map MaxResults.unlimited.cut = listing := by
    intro α listing
    cases listing <;> rfl
  simp only [cut, all]

/-- What a limit leaves is within it, unless it leaves less off the end than there
is. -/
theorem cut_atMost_iff (whole : Listings) (count : Int) :
    (whole.cut (.atMost count)).AtMost (max count 0) ↔
      0 ≤ count ∨ whole.AtMost (-count) := by
  have each : ∀ {α : Type} (listing : Option (List α)),
      (∀ items ∈ listing.map (MaxResults.atMost count).cut,
          (items.length : Int) ≤ max count 0) ↔
        0 ≤ count ∨ ∀ items ∈ listing, (items.length : Int) ≤ -count := by
    intro α listing
    cases listing with
    | none => simp
    | some items =>
        simp only [Option.map_some, Option.mem_some_iff, forall_eq']
        exact takeSigned_length_le_iff count items
  constructor
  · intro within
    by_cases notNegative : 0 ≤ count
    · exact .inl notNegative
    · have less := fun {α : Type} (listing : Option (List α)) shown =>
        ((each listing).mp shown).resolve_left notNegative
      exact .inr ⟨less _ within.entries, less _ within.problems,
        less _ within.tokens⟩
  · intro few
    refine ⟨(each _).mpr ?_, (each _).mpr ?_, (each _).mpr ?_⟩
    · exact few.imp_right AtMost.entries
    · exact few.imp_right AtMost.problems
    · exact few.imp_right AtMost.tokens

end Listings

/-- With a limit the command shows the beginning of each listing that it shows
without one, and with a positive limit as many items of it as are allowed.  It
shows nothing where entries are selected with a limit that is not positive.
Otherwise its listings keep to the limit exactly if this is not negative or leaves
off all that there is. -/
theorem run_limited_iff {files : FileStore} {override : Option Text}
    {arguments : List Text} {release : ParserRelease} {invocation : Invocation}
    {count : Int} {document : Document}
    (reads : read arguments release = .ok (.run invocation))
    (limited : invocation.limit = .atMost count)
    (loads : files.load .standard override (FilePath.ofText invocation.path) =
      .ok document) :
    let unlimited := { invocation with limit := .unlimited }
    let eligible := Eligibility.isEligible Eligibility.defaultExtensions
      (FilePath.ofText invocation.path).effectiveExtension document.content
    let whole := Listings.whole invocation document
    let shown := whole.cut (.atMost count)
    let refused := invocation.entries = true ∧ count ≤ 0
    (∀ others, read others release = .ok (.run unlimited) →
      run files override others release = .ok
        { exit := 0, output := whole.text document eligible, complaint := [] }) ∧
    (refused → run files override arguments release = .ok
      { exit := 2, output := [], complaint := "Error: limit must be > 0\n" }) ∧
    (¬refused → run files override arguments release = .ok
      { exit := 0, output := shown.text document eligible, complaint := [] }) ∧
    shown.Related (fun _ part all => part <+: all) whole ∧
    (1 ≤ count →
      shown.Related
        (fun _ part all => (part.length : Int) = min count all.length) whole) ∧
    (shown.AtMost (max count 0) ↔ 0 ≤ count ∨ whole.AtMost (-count)) := by
  intro unlimited eligible whole shown refused
  refine ⟨?_, ?_, ?_, ?_, ?_, Listings.cut_atMost_iff whole count⟩
  · intro others readsOthers
    have accepted : Accepted unlimited :=
      { numbered := MaxResults.noConfusion
        positive := fun _ _ limit => nomatch limit }
    have presents : present files override unlimited = _ :=
      present_of_load loads accepted
    rw [Listings.cut_unlimited] at presents
    exact run_of_present readsOthers presents
  · rintro ⟨asked, notPositive⟩
    exact run_of_failure reads (present_refused loads asked limited notPositive)
  · intro accepts
    have accepted : Accepted invocation := by
      constructor
      · rw [limited]
        exact MaxResults.noConfusion
      · intro asked other same
        rw [limited] at same
        cases same
        exact Int.not_le.mp fun notPositive => accepts ⟨asked, notPositive⟩
    have presents := present_of_load loads accepted
    rw [limited] at presents
    exact run_of_present reads presents
  · exact Listings.cut_related
      (fun _ items => takeSigned_isPrefix count items) whole
  · intro positive
    exact Listings.cut_related
      (fun _ items => takeSigned_length_of_positive positive items) whole

theorem run_limited_iff_one :
    let source := ascii "error a\nerror b\n"
    let files : FileStore := { look := fun _ => .file source }
    let document :=
      Document.ofSource "m.log" Settings.standard source (some 16)
    let arguments : List Text :=
      ["m.log", "--entries", "--errors", "--tokens", "--max", "1"]
    let invocation : Invocation :=
      { path := "m.log"
        entries := true
        errors := true
        tokens := true
        levels := none
        contained := none
        limit := .atMost 1 }
    let whole := Listings.whole invocation document
    let shown := whole.cut (.atMost 1)
    (read arguments .current = .ok (.run invocation) ∧
      files.load .standard none (FilePath.ofText "m.log") = .ok document) ∧
      whole.entries.map List.length = some 2 ∧
      whole.tokens.map List.length = some 4 ∧
      run files none arguments .current = .ok
        { exit := 0, output := shown.text document true, complaint := [] } ∧
      shown.Related
        (fun _ part all => (part.length : Int) = min 1 (all.length : Int)) whole ∧
      shown.AtMost 1 := by
  intro source files document arguments invocation whole shown
  have reads : read arguments .current = .ok (.run invocation) := by decide +kernel
  have loads : files.load .standard none (FilePath.ofText "m.log") =
      .ok document := by
    decide +kernel
  have eligible : Eligibility.isEligible Eligibility.defaultExtensions
      (FilePath.ofText "m.log").effectiveExtension document.content = true := by
    decide +kernel
  have lengths : whole.entries.map List.length = some 2 ∧
      whole.tokens.map List.length = some 4 := by
    decide +kernel
  have accepts : ¬(invocation.entries = true ∧ (1 : Int) ≤ 0) := by decide
  obtain ⟨_, _, shows, _, fills, bounded⟩ := run_limited_iff reads rfl loads
  have ends := shows accepts
  rw [eligible] at ends
  exact ⟨⟨reads, loads⟩, lengths.1, lengths.2, ends, fills (by decide),
    bounded.mpr (.inl (by decide))⟩

/-- A limit below zero leaves one of two problems off, and shows the other. -/
theorem run_exceeds_negative_limit :
    let source := ascii "error a\nerror b\n"
    let files : FileStore := { look := fun _ => .file source }
    let document :=
      Document.ofSource "m.log" Settings.standard source (some 16)
    let arguments : List Text := ["m.log", "--errors", "--max", "-1"]
    let invocation : Invocation :=
      { path := "m.log"
        entries := false
        errors := true
        tokens := false
        levels := none
        contained := none
        limit := .atMost (-1) }
    read arguments .current = .ok (.run invocation) ∧
      files.load .standard none (FilePath.ofText "m.log") = .ok document ∧
      run files none arguments .current = .ok
        { exit := 0
          output := Listing.information document true ++
            "\nErrors (1):\n1 - [ERROR] error a\n"
          complaint := [] } ∧
      ¬((Listings.whole invocation document).cut (.atMost (-1))).AtMost
        (max (-1) 0) := by
  intro source files document arguments invocation
  have shown : ((Listings.whole invocation document).cut
      (.atMost (-1))).problems.map List.length = some 1 := by
    decide +kernel
  refine ⟨by decide +kernel, by decide +kernel, by decide +kernel, ?_⟩
  intro within
  obtain ⟨items, listed, length⟩ := Option.map_eq_some_iff.mp shown
  have bounded := within.problems items listed
  rw [length] at bounded
  exact absurd bounded (by decide)

end CommandLine

end LogLens
