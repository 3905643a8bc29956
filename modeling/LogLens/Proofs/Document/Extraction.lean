import LogLens.Proofs.Document.History
import LogLens.Proofs.Line.Partition

/-!
# An extraction joins the lines of its entries

The entries of a document know where they were read, so an extraction finds
their lines again in the bytes of the document.  It decodes each of them by
itself, which gives the same text as the line had when it was read, and as it has
in the decoded document.
-/

namespace LogLens

theorem Line.text_eq_decode {content : Bytes} {line : Line}
    (member : line ∈ Line.scan content) :
    line.text = dropFinal '\r' (Utf8.decode (line.bytes content)) := by
  rw [(Line.standsIn_of_mem member).bytes_eq.2, Line.textOf,
    Utf8.decode_dropFinal]

theorem not_mem_dropFinal {α : Type} [DecidableEq α] {item other : α}
    {items : List α} (absent : other ∉ items) : other ∉ dropFinal item items := by
  unfold dropFinal
  split
  · exact fun member => absent ((List.dropLast_sublist items).subset member)
  · exact absent

theorem Line.lineFeed_not_mem_text {content : Bytes} {line : Line}
    (member : line ∈ Line.scan content) : '\n' ∉ line.text := by
  rw [Line.text_eq_decode member]
  apply not_mem_dropFinal
  exact Utf8.lineFeed_not_mem_decode (Line.standsIn_of_mem member).bytes_eq.1

theorem Line.splitOn_texts {content : Bytes} {lines : List Line}
    (scanned : ∀ line ∈ lines, line ∈ Line.scan content) (nonempty : lines ≠ []) :
    (['\n'].intercalate (lines.map Line.text)).splitOn '\n' =
      lines.map Line.text := by
  apply List.splitOn_intercalate '\n'
  · intro text member
    obtain ⟨line, lineMember, equality⟩ := List.mem_map.mp member
    rw [← equality]
    exact Line.lineFeed_not_mem_text (scanned line lineMember)
  · exact mt List.map_eq_nil_iff.mp nonempty

theorem Line.eq_of_number {content : Bytes} {line other : Line}
    (member : line ∈ Line.scan content) (otherMember : other ∈ Line.scan content)
    (equality : line.number = other.number) : line = other := by
  obtain ⟨index, found⟩ := List.mem_iff_getElem?.mp member
  obtain ⟨otherIndex, otherFound⟩ := List.mem_iff_getElem?.mp otherMember
  have number := Line.place_number found
  have otherNumber := Line.place_number otherFound
  have same : index = otherIndex := by omega
  rw [same, otherFound] at found
  exact (Option.some.inj found).symm

/-- The line of a content that has a number. -/
def Line.numbered? (content : Bytes) (number : Int) : Option Line :=
  (Line.scan content).find? fun line => line.number = number

theorem Line.numbered?_of_mem {content : Bytes} {line : Line}
    (member : line ∈ Line.scan content) :
    Line.numbered? content line.number = some line := by
  cases found : Line.numbered? content line.number with
  | none =>
      have absent := List.find?_eq_none.mp found line member
      simp at absent
  | some other =>
      have number : other.number = line.number := by
        simpa using List.find?_some found
      have otherMember := List.mem_of_find?_eq_some found
      rw [Line.eq_of_number otherMember member number]

namespace Extraction

/-- Entries of a content in their order have the texts of their lines. -/
theorem linesOf_map_ofLine (read : Text → Record) {content : Bytes}
    {lines : List Line} (sublist : lines.Sublist (Line.scan content)) :
    linesOf content (lines.map (Entry.ofLine read)) = lines.map Line.text := by
  have ordered : lines.Pairwise fun first second =>
      first.stop < second.start :=
    (Line.place_ordered _ _ _).sublist sublist
  have ascending : ((lines.map (Entry.ofLine read)).map rangeOf).Pairwise
      fun first second => first.1 ≤ second.1 := by
    rw [List.map_map, List.pairwise_map]
    apply ordered.imp_of_mem
    intro first second member _ before
    obtain ⟨_, proper, _⟩ :=
      (Line.standsIn_of_mem (sublist.subset member)).bounds
    simp only [Function.comp_apply, rangeOf, Entry.ofLine]
    omega
  rw [linesOf, slices_eq_map content _ ascending, List.map_map, List.map_map,
    List.map_map]
  apply List.map_congr_left
  intro line member
  exact (Line.text_eq_decode (sublist.subset member)).symm

/-- Whether an extraction is for an entry. -/
def selects (extraction : Extraction) (entry : Entry) : Bool :=
  extraction.severities.contains entry.severity

theorem filter_of_not_applicable {extraction : Extraction} {document : Document}
    (idle : extraction.isApplicable document = false) :
    document.entries.filter extraction.selects = [] := by
  rcases Bool.and_eq_false_iff.mp idle with noEntries | noSeverities
  · have none : document.entries = [] := by simpa using noEntries
    rw [none]
    rfl
  · cases extraction with
    | bySeverity wanted =>
        have none : wanted = [] := by simpa using noSeverities
        simp [selects, severities, none]
    | problems => cases noSeverities

theorem run_eq (extraction : Extraction) (document : Document) :
    extraction.run document =
      { entries := document.entries.filter extraction.selects
        text := ['\n'].intercalate
          (linesOf document.content
            (document.entries.filter extraction.selects)) } := by
  by_cases applicable : extraction.isApplicable document = true
  · rw [run, if_pos applicable]
    rfl
  · rw [run, if_neg applicable,
      filter_of_not_applicable (Bool.eq_false_iff.mpr applicable)]
    rfl

end Extraction

namespace Document

/-- In every state that a session reaches, the entries are those of the bytes
kept. -/
theorem afterAll_blank_entries (name : Text) (settings : Settings)
    (steps : List Step) :
    ((blank name settings).afterAll steps).entries =
      ((blank name settings).afterAll steps).format.entries
        ((blank name settings).afterAll steps).content := by
  rcases afterAll_blank_cases name settings steps with
    stillBlank | ⟨source, totalSize, _, holds⟩
  · rw [stillBlank]
    rfl
  · rw [holds]
    rfl

theorem afterAll_blank_statistics (name : Text) (settings : Settings)
    (steps : List Step) :
    ((blank name settings).afterAll steps).statistics =
      Statistics.ofEntries ((blank name settings).afterAll steps).entries := by
  rcases afterAll_blank_cases name settings steps with
    stillBlank | ⟨source, totalSize, _, holds⟩
  · rw [stillBlank]
    rfl
  · rw [holds]
    rfl

end Document

namespace Entry

variable (read : Text → Record) (content : Bytes) (kept : Entry → Bool)

/-- The lines that are read as entries of a kind. -/
def linesRead : List Line :=
  (Line.scan content).filter fun line =>
    line.text ≠ [] ∧ kept (ofLine read line) = true

theorem linesRead_sublist :
    (linesRead read content kept).Sublist (Line.scan content) :=
  List.filter_sublist

theorem filter_ofContent :
    (ofContent read content).filter kept =
      (linesRead read content kept).map (ofLine read) := by
  rw [ofContent, linesRead, List.filter_map, List.filter_filter]
  congr 1
  apply List.filter_congr
  intro line _
  simp [Bool.and_comm]

/-- They are the lines that bear the number of such an entry. -/
theorem linesRead_eq :
    linesRead read content kept =
      (Line.scan content).filter fun line =>
        line.number ∈ ((ofContent read content).filter kept).map
          fun entry => entry.lineNumber := by
  rw [filter_ofContent, linesRead]
  apply List.filter_congr
  intro line member
  rw [decide_eq_decide]
  constructor
  · intro wanted
    apply List.mem_map.mpr
    refine ⟨ofLine read line, List.mem_map_of_mem ?_, rfl⟩
    exact List.mem_filter.mpr ⟨member, decide_eq_true wanted⟩
  · intro numbered
    obtain ⟨entry, entryMember, number⟩ := List.mem_map.mp numbered
    obtain ⟨other, otherMember, equality⟩ := List.mem_map.mp entryMember
    obtain ⟨scanned, wanted⟩ := List.mem_filter.mp otherMember
    have same : line = other := by
      apply Line.eq_of_number member scanned
      rw [← number, ← equality]
      rfl
    rw [same]
    exact of_decide_eq_true wanted

end Entry

namespace Extraction

section Derived

variable {document : Document}
  (derived : document.entries = document.format.entries document.content)

include derived

theorem selected_eq (extraction : Extraction) :
    document.entries.filter extraction.selects =
      (Entry.linesRead document.format.read document.content
        extraction.selects).map (Entry.ofLine document.format.read) := by
  rw [derived, LogFormat.entries, Entry.filter_ofContent]

theorem run_text (extraction : Extraction) :
    (extraction.run document).text =
      ['\n'].intercalate
        ((Entry.linesRead document.format.read document.content
          extraction.selects).map Line.text) := by
  rw [run_eq, selected_eq derived,
    linesOf_map_ofLine _ (Entry.linesRead_sublist _ _ _)]

theorem run_all :
    (bySeverity Severity.all).run document =
      { entries := document.entries
        text := ['\n'].intercalate
          ((textLines document.text).filter (· ≠ [])) } := by
  have everything : ∀ entry, (bySeverity Severity.all).selects entry = true := by
    intro entry
    exact List.contains_iff_mem.mpr (Severity.mem_all entry.severity)
  have selected : document.entries.filter (bySeverity Severity.all).selects =
      document.entries :=
    List.filter_eq_self.mpr fun entry _ => everything entry
  have lines : Entry.linesRead document.format.read document.content
      (bySeverity Severity.all).selects =
        (Line.scan document.content).filter fun line => line.text ≠ [] := by
    apply List.filter_congr
    intro line _
    rw [decide_eq_decide, and_iff_left (everything _)]
  have texts : (textLines document.text).filter (· ≠ []) =
      ((Line.scan document.content).filter fun line => line.text ≠ []).map
        Line.text := by
    rw [Document.text, Line.textLines_decode, List.filter_map]
    rfl
  rw [texts, ← lines, ← run_text derived, run_eq, selected]

end Derived

/-- A document may be decoded as a whole, line by line, or entry by entry.  The
lines of its text are the texts of its lines, and in every state of a session an
extraction gives the entries of its severities and joins the texts of exactly
their lines.  With all severities that is the text without its blank lines, the
carriage returns at the ends of lines, and the last line feed. -/
theorem decodings_agree :
    (∀ document : Document,
      ((document.text.splitOn '\n').getLast? = some [] ↔
        document.content = [] ∨
          document.content.getLast? = some lineFeed) ∧
      textLines document.text =
        (Line.scan document.content).map Line.text) ∧
    (∀ (name : Text) (settings : Settings) (steps : List Step),
      let document := (Document.blank name settings).afterAll steps
      (∀ extraction : Extraction,
        let selected := document.entries.filter fun entry =>
          extraction.severities.contains entry.severity
        let lines := (Line.scan document.content).filter fun line =>
          line.number ∈ selected.map fun entry => entry.lineNumber
        (extraction.run document).entries = selected ∧
        selected = lines.map (Entry.ofLine document.format.read) ∧
        (extraction.run document).text =
          ['\n'].intercalate (lines.map Line.text)) ∧
      (bySeverity Severity.all).run document =
        { entries := document.entries
          text := ['\n'].intercalate
            ((textLines document.text).filter (· ≠ [])) }) := by
  constructor
  · intro document
    constructor
    · rw [Document.text, Utf8.splitOn_decode, List.getLast?_map,
        ← Line.WholeLines, ← Line.getLast?_splitOn_iff]
      simp
    · exact Line.textLines_decode document.content
  · intro name settings steps document
    have derived : document.entries =
        document.format.entries document.content :=
      Document.afterAll_blank_entries name settings steps
    refine ⟨?_, run_all derived⟩
    intro extraction selected lines
    have selectedIs : selected = document.entries.filter extraction.selects := rfl
    have linesAre : lines = Entry.linesRead document.format.read
        document.content extraction.selects := by
      rw [Entry.linesRead_eq]
      simp only [lines, selectedIs, derived]
      rfl
    refine ⟨?_, ?_, ?_⟩
    · rw [run_eq]
      exact selectedIs.symm
    · rw [linesAre]
      exact selectedIs.trans (selected_eq derived extraction)
    · rw [linesAre]
      exact run_text derived extraction

end Extraction

end LogLens
