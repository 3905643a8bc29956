import LogLens.Proofs.Document.History
import LogLens.Proofs.Line.Partition
import LogLens.Record

/-!
# What a parse cap changes

A content may be put together from chunks wherever a line ends.  Each chunk then
gives the entries that it gives by itself, moved behind the lines and the bytes
in front of it, whichever reader reads them.

Under a parse cap a document gives the entries that it gives without one, up to
the last line that the cap leaves whole.  The line that the cap cuts may give one
more entry, read from what the cap leaves of it.
-/

namespace LogLens

namespace Entry

def move (lines bytes : Nat) (entry : Entry) : Entry :=
  { entry with
    lineNumber := entry.lineNumber + lines
    lineStart := entry.lineStart + bytes
    lineStop := entry.lineStop + bytes }

/-- The entries of lines that stand behind others are their own entries,
moved. -/
theorem ofLine_scanBehind (read : Text → Record) (front content : Bytes) :
    ((Line.scanBehind front content).filter fun line => line.text ≠ []).map
        (ofLine read) =
      (ofContent read content).map
        (move (front.count lineFeed) front.length) := by
  rw [Line.scanBehind_eq_move, List.filter_map, List.map_map, ofContent,
    List.map_map]
  rfl

theorem ofContent_append (read : Text → Record) {first : Bytes}
    (whole : Line.WholeLines first) (second : Bytes) :
    ofContent read (first ++ second) =
      ofContent read first ++
        (ofContent read second).map
          (move (first.count lineFeed) first.length) := by
  have scanned := Line.scanBehind_append whole [] second
  rw [List.nil_append, Line.scanBehind_empty, Line.scanBehind_empty] at scanned
  rw [← ofLine_scanBehind, ofContent, scanned, List.filter_append,
    List.map_append]
  rfl

end Entry

namespace LogFormat

/-- Behind a chunk of whole lines, blank ones among them, every reader gives the
entries that it gives for what follows alone, moved by the lines and the bytes
of the chunk and otherwise unchanged. -/
theorem entries_append (format : LogFormat) {first : Bytes}
    (whole : first = [] ∨ first.getLast? = some lineFeed) (second : Bytes) :
    format.entries (first ++ second) =
      format.entries first ++
        (format.entries second).map fun entry =>
          { entry with
            lineNumber := entry.lineNumber + first.count lineFeed
            lineStart := entry.lineStart + first.length
            lineStop := entry.lineStop + first.length } :=
  Entry.ofContent_append format.read whole second

theorem entries_append_blank :
    let first := ascii "Jan 15 10:30:00 h p: x\r\n\n"
    let second := ascii "warn " ++ [0xC3]
    first.getLast? = some lineFeed ∧
      LogFormat.syslog.entries (first ++ second) =
        LogFormat.syslog.entries first ++
          [{ message := Utf8.decode second
             severity := .warning
             lineNumber := 3
             lineStart := 25
             lineStop := 31 }] := by
  intro first second
  have whole : first.getLast? = some lineFeed := by rfl
  have alone : LogFormat.syslog.entries second =
      [{ message := Utf8.decode second
         severity := .warning
         lineNumber := 1
         lineStart := 0
         lineStop := 6 }] := by
    decide +kernel
  refine ⟨whole, ?_⟩
  rw [entries_append .syslog (.inr whole) second, alone]
  rfl

end LogFormat

theorem takeSigned_takeSigned {α : Type} {fewer more : Int} (items : List α)
    (notNegative : 0 ≤ fewer) (fewer_le : fewer ≤ more) :
    takeSigned fewer (takeSigned more items) = takeSigned fewer items := by
  simp only [takeSigned, if_pos notNegative,
    if_pos (Int.le_trans notNegative fewer_le), List.take_take]
  congr 1
  omega

theorem LogFormat.detect_takeSigned {sampleSize cap : Int} (content : Bytes)
    (notNegative : 0 ≤ sampleSize) (within : sampleSize ≤ cap) :
    detect sampleSize (takeSigned cap content) = detect sampleSize content := by
  unfold detect detectAmong
  rw [takeSigned_takeSigned content notNegative within]

namespace Line

theorem exists_wholeLines_append (content : Bytes) :
    ∃ whole rest, content = whole ++ rest ∧ WholeLines whole ∧
      lineFeed ∉ rest := by
  induction content using byLines with
  | empty => exact ⟨[], [], rfl, .inl rfl, by simp⟩
  | last bytes nonempty inside => exact ⟨[], bytes, rfl, .inl rfl, inside⟩
  | line bytes rest inside induction =>
      obtain ⟨whole, last, equality, isWhole, lastInside⟩ := induction
      refine ⟨bytes ++ lineFeed :: whole, last, ?_, ?_, lastInside⟩
      · rw [equality, List.append_assoc, List.cons_append]
      · exact wholeLines_line.mpr isWhole

variable {own back : Bytes}

/-- Bytes that go on with a line end no line within what they go on with. -/
theorem lt_stop_of_goes_on (inside : lineFeed ∉ own) (more : back ≠ [])
    (goesOn : back.head? ≠ some lineFeed) {line : Line}
    (member : line ∈ scan (own ++ back)) : (own.length : Int) < line.stop := by
  have stands := standsIn_of_mem member
  obtain ⟨start_ge, proper, _⟩ := stands.bounds
  rcases stands.ends with ends | ⟨_, atEnd⟩
  · apply Int.lt_of_not_ge
    intro early
    rcases Nat.lt_or_ge line.stop.toNat own.length with before | after
    · rw [List.getElem?_append_left before] at ends
      exact inside (List.mem_of_getElem? ends)
    · have here : line.stop.toNat = own.length := by omega
      rw [here, List.getElem?_append_right (Nat.le_refl _), Nat.sub_self,
        ← List.head?_eq_getElem?] at ends
      exact goesOn ends
  · have size : 0 < back.length := List.length_pos_iff.mpr more
    rw [List.length_append] at atEnd
    omega

end Line

namespace Entry

variable (read : Text → Record) {own back : Bytes}

theorem ofContent_last (inside : lineFeed ∉ own) :
    ofContent read own =
      if Line.textOf own = [] then [] else [ofLine read (Line.behind [] own)] := by
  by_cases none : own = []
  · rw [none]
    rfl
  · rw [ofContent, ← Line.scanBehind_empty, Line.scanBehind_last [] none inside]
    by_cases blank : Line.textOf own = []
    · simp [Line.behind, blank]
    · simp [Line.behind, blank]

theorem ofContent_closed (inside : lineFeed ∉ own) :
    ofContent read (own ++ [lineFeed]) = ofContent read own := by
  rw [ofContent_last read inside, ofContent, ← Line.scanBehind_empty,
    Line.scanBehind_line [] inside, Line.scanBehind_nil]
  by_cases blank : Line.textOf own = []
  · simp [Line.behind, blank]
  · simp [Line.behind, blank]

variable {read}

theorem filter_lineStop_eq_self {content : Bytes} {stop : Int}
    (behind : (content.length : Int) ≤ stop) :
    ((ofContent read content).filter fun entry => entry.lineStop ≤ stop) =
      ofContent read content := by
  apply List.filter_eq_self.mpr
  intro entry member
  obtain ⟨_, _, stop_le⟩ := lineStart_lt_lineStop member
  exact decide_eq_true (Int.le_trans stop_le behind)

/-- A line that its own line feed or the end of the content ends gives the same
entry alone. -/
theorem filter_of_ended (inside : lineFeed ∉ own)
    (ended : back = [] ∨ back.head? = some lineFeed) :
    ((ofContent read (own ++ back)).filter fun entry =>
        entry.lineStop ≤ (own.length : Int)) =
      ofContent read own := by
  rcases ended with none | feed
  · rw [none, List.append_nil]
    exact filter_lineStop_eq_self (Int.le_refl _)
  · obtain ⟨rest, following⟩ := List.head?_eq_some_iff.mp feed
    have whole : Line.WholeLines (own ++ [lineFeed]) := .inr (by simp)
    have equality : own ++ back = own ++ [lineFeed] ++ rest := by
      rw [following, List.append_assoc, List.singleton_append]
    have later : ((ofContent read rest).map
        (move ((own ++ [lineFeed]).count lineFeed)
          (own ++ [lineFeed]).length)).filter
          (fun entry => entry.lineStop ≤ (own.length : Int)) = [] := by
      apply List.filter_eq_nil_iff.mpr
      intro moved movedMember
      obtain ⟨entry, member, rfl⟩ := List.mem_map.mp movedMember
      obtain ⟨start_ge, proper, _⟩ := lineStart_lt_lineStop member
      simp only [move, List.length_append, List.length_singleton,
        decide_eq_true_eq]
      omega
    rw [equality, ofContent_append read whole, List.filter_append, later,
      List.append_nil, ofContent_closed read inside]
    exact filter_lineStop_eq_self (Int.le_refl _)

theorem filter_of_goes_on (inside : lineFeed ∉ own) (more : back ≠ [])
    (goesOn : back.head? ≠ some lineFeed) :
    ((ofContent read (own ++ back)).filter fun entry =>
        entry.lineStop ≤ (own.length : Int)) = [] := by
  apply List.filter_eq_nil_iff.mpr
  intro entry member
  obtain ⟨line, lineMember, _, equality⟩ := exists_line_of_mem member
  have behind := Line.lt_stop_of_goes_on inside more goesOn lineMember
  have stop : entry.lineStop = line.stop := by rw [equality, ofLine]
  rw [decide_eq_true_eq]
  omega

/-- The entry of what the first `count` bytes of a source leave of a line that
goes on behind them. -/
def OfCutLine (read : Text → Record) (source : Bytes) (count : Nat)
    (entry : Entry) : Prop :=
  ∃ line ∈ Line.scan source, line.start < count ∧ (count : Int) < line.stop ∧
    entry = ofLine read
      { line with
        stop := count
        text := Line.textOf (slice source line.start.toNat count) }

theorem ofCutLine {first : Bytes} (whole : Line.WholeLines first)
    (inside : lineFeed ∉ own) (more : back ≠ [])
    (goesOn : back.head? ≠ some lineFeed) (nonempty : own ≠ []) :
    OfCutLine read (first ++ (own ++ back)) (first.length + own.length)
      (ofLine read (Line.behind first own)) := by
  have scanned := Line.scanBehind_append whole [] (own ++ back)
  have size : 0 < own.length := List.length_pos_iff.mpr nonempty
  obtain ⟨line, rest, found⟩ : ∃ line rest,
      Line.scanBehind first (own ++ back) = line :: rest := by
    apply List.exists_cons_of_ne_nil
    rw [ne_eq, Line.scanBehind_eq_nil_iff]
    simp [nonempty]
  have here : (Line.scanBehind first (own ++ back))[0]? = some line := by
    rw [found]
    rfl
  have number := Line.place_number here
  have start := Line.place_start here
  refine ⟨line, ?_, ?_, ?_, ?_⟩
  · rw [List.nil_append, Line.scanBehind_empty, found] at scanned
    rw [scanned]
    simp
  · omega
  · have moved : line ∈ Line.scanBehind first (own ++ back) := by
      rw [found]
      exact List.mem_cons_self
    rw [Line.scanBehind_eq_move] at moved
    obtain ⟨alone, aloneMember, equality⟩ := List.mem_map.mp moved
    have behind := Line.lt_stop_of_goes_on inside more goesOn aloneMember
    rw [← equality]
    simp only [Line.move]
    omega
  · have cut : slice (first ++ (own ++ back)) first.length
        (first.length + own.length) = own := by
      simp [slice]
    have equality : Line.behind first own =
        { line with
          stop := ((first.length + own.length : Nat) : Int)
          text := Line.textOf (slice (first ++ (own ++ back))
            line.start.toNat (first.length + own.length)) } := by
      rw [start, Int.toNat_natCast, cut]
      simp [Line.behind, number]
    rw [equality]

/-- The entries of a beginning of a source are the entries of the source that end
within it and, possibly, the one of the line that it cuts. -/
theorem ofContent_take (read : Text → Record) (source : Bytes) (count : Nat) :
    ∃ further,
      ofContent read (source.take count) =
        ((ofContent read source).filter fun entry =>
          entry.lineStop ≤ (count : Int)) ++ further ∧
      further.length ≤ 1 ∧
      ∀ entry ∈ further, OfCutLine read source count entry := by
  by_cases beyond : source.length < count
  · refine ⟨[], ?_, by simp, by simp⟩
    rw [List.take_of_length_le (by omega), List.append_nil]
    exact (filter_lineStop_eq_self (by omega)).symm
  obtain ⟨first, own, parts, whole, inside⟩ :=
    Line.exists_wholeLines_append (source.take count)
  obtain ⟨back, rest⟩ : ∃ back, source = first ++ (own ++ back) := by
    refine ⟨source.drop count, ?_⟩
    rw [← List.append_assoc, ← parts, List.take_append_drop]
  have size : count = first.length + own.length := by
    rw [← List.length_append, ← parts, List.length_take]
    omega
  have split : ((ofContent read source).filter fun entry =>
      entry.lineStop ≤ (count : Int)) =
        ofContent read first ++
          ((ofContent read (own ++ back)).filter fun entry =>
            entry.lineStop ≤ (own.length : Int)).map
              (move (first.count lineFeed) first.length) := by
    rw [rest, ofContent_append read whole, List.filter_append,
      filter_lineStop_eq_self (by omega), List.filter_map]
    congr 3
    funext entry
    rw [Function.comp_apply, decide_eq_decide]
    simp only [move]
    omega
  rw [parts, ofContent_append read whole, split]
  by_cases ended : back = [] ∨ back.head? = some lineFeed
  · refine ⟨[], ?_, by simp, by simp⟩
    rw [filter_of_ended inside ended, List.append_nil]
  · obtain ⟨more, goesOn⟩ := not_or.mp ended
    rw [filter_of_goes_on inside more goesOn, List.map_nil, List.append_nil,
      ← ofLine_scanBehind]
    by_cases none : own = []
    · exact ⟨[], by simp [none], by simp, by simp⟩
    · rw [Line.scanBehind_last first none inside]
      refine ⟨_, rfl, ?_, ?_⟩
      · rw [List.length_map]
        exact List.length_filter_le _ _
      · intro entry member
        obtain ⟨line, kept, equality⟩ := List.mem_map.mp member
        have here := List.mem_singleton.mp (List.mem_filter.mp kept).1
        rw [← equality, here, rest, size]
        exact ofCutLine whole inside more goesOn none

end Entry

namespace Document

variable {capped full : Document} {source : Bytes}

/-- A cap that leaves the sample whole changes no format and no entry that ends
within it.  One entry at most comes on top, from the line that the cap cuts. -/
theorem refresh_truncated (data : source ≠ [])
    (sameSample : capped.settings.sampleSize = full.settings.sampleSize)
    (sample_ge : 0 ≤ capped.settings.sampleSize)
    (sample_le : capped.settings.sampleSize ≤ capped.settings.parseCap)
    (noCap : source.length ≤ full.settings.parseCap)
    (cappedTotal fullTotal : Option Int) :
    let cap := capped.settings.parseCap
    let part := capped.refresh (some source) cappedTotal
    let whole := full.refresh (some source) fullTotal
    part.format = whole.format ∧
    ∃ further,
      part.entries =
        (whole.entries.filter fun entry => entry.lineStop ≤ cap) ++ further ∧
      further.length ≤ 1 ∧
      ∀ entry ∈ further, entry.lineStart < cap ∧ entry.lineStop = cap ∧
        ∃ line ∈ Line.scan source, line.start < cap ∧ cap < line.stop ∧
          entry = Entry.ofLine whole.format.read
            { line with
              stop := cap
              text := Line.textOf
                (slice source line.start.toNat cap.toNat) } := by
  intro cap part whole
  obtain ⟨count, capEq⟩ : ∃ count : Nat, cap = count :=
    ⟨cap.toNat, by omega⟩
  have partIs : part = ofSource capped.name capped.settings source cappedTotal :=
    refresh_of_data capped data cappedTotal
  have wholeIs : whole = ofSource full.name full.settings source fullTotal :=
    refresh_of_data full data fullTotal
  have wholeContent : takeSigned full.settings.parseCap source = source :=
    takeSigned_of_length_le noCap
  have partContent : takeSigned capped.settings.parseCap source =
      source.take count := by
    change takeSigned cap source = _
    rw [capEq, takeSigned_natCast]
  have sameFormat : part.format = whole.format := by
    rw [partIs, wholeIs]
    simp only [ofSource, wholeContent,
      LogFormat.detect_takeSigned source sample_ge sample_le]
    rw [sameSample]
  have partEntries : part.entries =
      Entry.ofContent whole.format.read (source.take count) := by
    rw [← sameFormat, partIs]
    simp only [ofSource, partContent]
    rfl
  have wholeEntries : whole.entries =
      Entry.ofContent whole.format.read source := by
    rw [wholeIs]
    simp only [ofSource, wholeContent]
    rfl
  refine ⟨sameFormat, ?_⟩
  obtain ⟨further, equality, few, cut⟩ :=
    Entry.ofContent_take whole.format.read source count
  refine ⟨further, ?_, few, ?_⟩
  · rw [partEntries, wholeEntries, capEq]
    exact equality
  · intro entry member
    obtain ⟨line, lineMember, start_lt, lt_stop, isCut⟩ := cut entry member
    rw [capEq]
    refine ⟨?_, ?_, line, lineMember, start_lt, lt_stop, isCut⟩
    · rw [isCut]
      exact start_lt
    · rw [isCut]
      rfl

theorem refresh_truncated_within_character :
    let source := ascii "warn\r\n" ++ [0xC3, 0xA9, 0x0A]
    let capped := blank "a.log" ⟨7, 5, []⟩
    let full := blank "b.log" ⟨9, 5, []⟩
    (source ≠ [] ∧ (source.length : Int) ≤ full.settings.parseCap) ∧
      ∃ further,
        (capped.refresh (some source) (some 9)).entries =
          { message := "warn", severity := .warning, lineNumber := 1,
            lineStart := 0, lineStop := 5 } :: further ∧
        further.length ≤ 1 ∧
        ∀ entry ∈ further, entry.lineStart < 7 ∧ entry.lineStop = 7 := by
  intro source capped full
  have data : source ≠ [] := by decide
  have noCap : (source.length : Int) ≤ full.settings.parseCap := by decide
  have uncut : ((full.refresh (some source) none).entries.filter
      fun entry => entry.lineStop ≤ (7 : Int)) =
        [{ message := "warn", severity := .warning, lineNumber := 1,
           lineStart := 0, lineStop := 5 }] := by
    decide +kernel
  obtain ⟨_, further, equality, few, cut⟩ :=
    @refresh_truncated capped full source data rfl (by decide) (by decide)
      noCap (some 9) none
  refine ⟨⟨data, noCap⟩, further, ?_, few, ?_⟩
  · exact equality.trans (congrArg (· ++ further) uncut)
  · intro entry member
    obtain ⟨start_lt, stop, _⟩ := cut entry member
    exact ⟨start_lt, stop⟩

end Document

end LogLens
