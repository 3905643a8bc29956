import LogLens.Proofs.Document.Extraction
import LogLens.Proofs.Text.Utf8

/-!
# Reading an extract again

The text of an extract is a log of its own.  None of its lines is blank or holds
a line feed, so they are told apart again, and an entry is read from the text of
its line alone.  Only a carriage return that ends the text of a line is lost,
because it then stands before a line feed.
-/

namespace LogLens

namespace Line

/-- Texts without line feeds that are joined and encoded are the texts of the
lines, if none is empty or ends with a carriage return. -/
theorem texts_of_joined {texts : List Text} (filled : ∀ text ∈ texts, text ≠ [])
    (inside : ∀ text ∈ texts, '\n' ∉ text)
    (bare : ∀ text ∈ texts, text.getLast? ≠ some '\r') :
    (scan (Utf8.encode (['\n'].intercalate texts))).map Line.text = texts := by
  rw [← textLines_decode, Utf8.decode_encode, textLines]
  by_cases none : texts = []
  · rw [none]
    rfl
  · have lastFilled : texts.getLast? ≠ some [] := by
      intro last
      exact filled [] (List.mem_of_getLast? last) rfl
    rw [List.splitOn_intercalate '\n' inside none, dropFinal_of_ne lastFilled]
    -- A carriage return that ended a text would be dropped here.
    nth_rewrite 2 [← List.map_id texts]
    apply List.map_congr_left
    intro text member
    exact dropFinal_of_ne (bare text member)

theorem scan_numbers (content : Bytes) :
    (scan content).map Line.number =
      (List.range (scan content).length).map fun index : Nat =>
        (index : Int) + 1 := by
  apply List.ext_getElem?
  intro index
  rw [List.getElem?_map, List.getElem?_map]
  cases found : (scan content)[index]? with
  | none =>
      have behind := List.getElem?_eq_none_iff.mp found
      simp [behind]
  | some line =>
      have within : index < (scan content).length :=
        (List.getElem?_eq_some_iff.mp found).1
      have number := place_number found
      simp [within]
      omega

end Line

namespace Entry

variable (read : Text → Record)

theorem map_toRecord_ofLine (lines : List Line) :
    (lines.map (ofLine read)).map toRecord = (lines.map Line.text).map read := by
  rw [List.map_map, List.map_map]
  rfl

theorem ofContent_of_filled {content : Bytes}
    (filled : ∀ text ∈ (Line.scan content).map Line.text, text ≠ []) :
    ofContent read content = (Line.scan content).map (ofLine read) := by
  rw [ofContent, List.filter_eq_self.mpr]
  intro line member
  exact decide_eq_true (filled line.text (List.mem_map_of_mem member))

theorem linesRead_filled {content : Bytes} {kept : Entry → Bool} {text : Text}
    (member : text ∈ (linesRead read content kept).map Line.text) :
    text ≠ [] ∧ '\n' ∉ text := by
  obtain ⟨line, lineMember, equality⟩ := List.mem_map.mp member
  obtain ⟨scanned, wanted⟩ := List.mem_filter.mp lineMember
  rw [← equality]
  exact ⟨(of_decide_eq_true wanted).1, Line.lineFeed_not_mem_text scanned⟩

end Entry

namespace Extraction

variable {document : Document}
  (derived : document.entries = document.format.entries document.content)
  {extraction : Extraction}

include derived

/-- The lines of an extract are those that it was made of. -/
theorem scan_run_text
    (bare : ∀ line ∈ Line.scan document.content,
      line.number ∈
          (extraction.run document).entries.map (fun entry => entry.lineNumber) →
        line.text.getLast? ≠ some '\r') :
    (Line.scan (Utf8.encode (extraction.run document).text)).map Line.text =
      (Entry.linesRead document.format.read document.content
        extraction.selects).map Line.text := by
  rw [run_text derived]
  apply Line.texts_of_joined
  · exact fun text member => (Entry.linesRead_filled _ member).1
  · exact fun text member => (Entry.linesRead_filled _ member).2
  · intro text member
    obtain ⟨line, lineMember, equality⟩ := List.mem_map.mp member
    rw [← equality]
    apply bare line (List.mem_of_mem_filter lineMember)
    rw [run_eq, selected_eq derived, List.map_map]
    exact List.mem_map_of_mem lineMember

omit derived

theorem selects_of_record {entry : Entry}
    (record : entry.toRecord ∈
      (extraction.run document).entries.map Entry.toRecord) :
    extraction.selects entry = true := by
  obtain ⟨own, member, same⟩ := List.mem_map.mp record
  rw [run_eq] at member
  rw [selects, ← same]
  exact (List.mem_filter.mp member).2

end Extraction

namespace Document

/-- In every state of a session an extract is read again as it was.  If none of
its lines ends with a carriage return, the entries of its encoded text in the
same format are those extracted, except for their places, and stand in lines
numbered from one.  The same extraction from a document that holds them gives
all of them and the same text. -/
theorem extract_reread (name : Text) (settings : Settings) (steps : List Step)
    (extraction : Extraction) :
    let document := (blank name settings).afterAll steps
    let extract := extraction.run document
    let content := Utf8.encode extract.text
    let reread := document.format.entries content
    (∀ line ∈ Line.scan document.content,
      line.number ∈ extract.entries.map (fun entry => entry.lineNumber) →
        line.text.getLast? ≠ some '\r') →
    reread.map Entry.toRecord = extract.entries.map Entry.toRecord ∧
    reread.map (fun entry => entry.lineNumber) =
      (List.range extract.entries.length).map (fun index : Nat =>
        (index : Int) + 1) ∧
    ∀ again : Document, again.content = content → again.entries = reread →
      extraction.run again = { entries := reread, text := extract.text } := by
  intro document extract content reread bare
  have derived : document.entries =
      document.format.entries document.content :=
    afterAll_blank_entries name settings steps
  let read := document.format.read
  let lines := Entry.linesRead read document.content extraction.selects
  have extracted : extract.entries = lines.map (Entry.ofLine read) := by
    simp only [extract, Extraction.run_eq]
    exact Extraction.selected_eq derived extraction
  have texts : (Line.scan content).map Line.text = lines.map Line.text :=
    Extraction.scan_run_text derived bare
  have rereadIs : reread = (Line.scan content).map (Entry.ofLine read) := by
    apply Entry.ofContent_of_filled
    rw [texts]
    exact fun text member => (Entry.linesRead_filled _ member).1
  have records : reread.map Entry.toRecord =
      extract.entries.map Entry.toRecord := by
    rw [rereadIs, extracted, Entry.map_toRecord_ofLine,
      Entry.map_toRecord_ofLine, texts]
  refine ⟨records, ?_, ?_⟩
  · have count : extract.entries.length = (Line.scan content).length := by
      rw [extracted, List.length_map, ← List.length_map Line.text, ← texts,
        List.length_map]
    rw [rereadIs, List.map_map, count, ← Line.scan_numbers]
    rfl
  · intro again holds entries
    have selected : ∀ entry ∈ reread, extraction.selects entry = true := by
      intro entry member
      apply Extraction.selects_of_record
      rw [← records]
      exact List.mem_map_of_mem member
    have text : extract.text = ['\n'].intercalate (lines.map Line.text) :=
      Extraction.run_text derived extraction
    rw [Extraction.run_eq, holds, entries, List.filter_eq_self.mpr selected,
      text, ← texts, rereadIs,
      Extraction.linesOf_map_ofLine read (List.Sublist.refl _)]

theorem extract_reread_problems :
    let source := ascii "warn a\r\n\r\nok\n" ++ [0xFF] ++ ascii "fail\r\nfatal"
    let document :=
      (blank "a.log" Settings.standard).afterAll [.refresh (some source) none]
    let extract := Extraction.problems.run document
    let reread := document.format.entries (Utf8.encode extract.text)
    (∀ line ∈ Line.scan document.content,
      line.number ∈ extract.entries.map (fun entry => entry.lineNumber) →
        line.text.getLast? ≠ some '\r') ∧
    extract.text = "warn a\n" ++ replacement :: ("fail\nfatal" : Text) ∧
    extract.entries.map (fun entry => entry.lineNumber) = [1, 4, 5] ∧
    reread.map Entry.toRecord = extract.entries.map Entry.toRecord ∧
    reread.map (fun entry => entry.lineNumber) = [1, 2, 3] := by
  intro source document extract reread
  have bare : ∀ line ∈ Line.scan document.content,
      line.number ∈ extract.entries.map (fun entry => entry.lineNumber) →
        line.text.getLast? ≠ some '\r' := by
    decide +kernel
  have evaluated :
      extract.text = "warn a\n" ++ replacement :: ("fail\nfatal" : Text) ∧
        extract.entries.map (fun entry => entry.lineNumber) = [1, 4, 5] ∧
        extract.entries.length = 3 := by
    decide +kernel
  clear_value source
  obtain ⟨records, numbers, _⟩ :=
    extract_reread "a.log" Settings.standard [.refresh (some source) none]
      .problems bare
  rw [evaluated.2.2] at numbers
  exact ⟨bare, evaluated.1, evaluated.2.1, records, numbers⟩

end Document

end LogLens
