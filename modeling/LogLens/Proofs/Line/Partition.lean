import Mathlib.Data.List.Basic
import LogLens.Entry
import LogLens.Proofs.Line.Scan
import LogLens.Proofs.Text.Utf8

/-!
# The lines of a content partition it

Lines follow one another without a gap: each begins behind the line feed of the
one before, the first at the beginning, and the last ends where the content
does.  Entries are the lines that hold more than a carriage return, in the same
order and at the same places.

A content may be decoded as a whole and then cut into lines, or cut into lines
and then decoded.  Line feeds and carriage returns are ASCII, so both ways give
the same texts, however the bytes between them are damaged.
-/

namespace LogLens

namespace Line

theorem place_number {number start : Nat} {split : List Bytes} {index : Nat}
    {line : Line} (found : (place number start split)[index]? = some line) :
    line.number = number + index := by
  induction split generalizing number start index with
  | nil => simp at found
  | cons bytes rest induction =>
      rw [place_cons] at found
      cases index with
      | zero =>
          cases found
          rfl
      | succ index =>
          have later := induction found
          omega

theorem place_start {number start : Nat} {split : List Bytes} {line : Line}
    (found : (place number start split)[0]? = some line) :
    line.start = start := by
  cases split with
  | nil => simp at found
  | cons bytes rest =>
      rw [place_cons] at found
      cases found
      rfl

theorem place_continues {number start : Nat} {split : List Bytes} {index : Nat}
    {line next : Line} (found : (place number start split)[index]? = some line)
    (follows : (place number start split)[index + 1]? = some next) :
    next.start = line.stop + 1 := by
  induction split generalizing number start index with
  | nil => simp at found
  | cons bytes rest induction =>
      rw [place_cons] at found follows
      cases index with
      | zero =>
          cases found
          exact place_start follows
      | succ index => exact induction found follows

theorem place_start_ge {number start : Nat} {split : List Bytes} :
    ∀ line ∈ place number start split, (start : Int) ≤ line.start := by
  induction split generalizing number start with
  | nil => simp
  | cons bytes rest induction =>
      intro line member
      rw [place_cons] at member
      rcases List.mem_cons.mp member with here | later
      · subst here
        exact Int.le_refl _
      · have behind := induction line later
        omega

theorem place_ordered (number start : Nat) (split : List Bytes) :
    (place number start split).Pairwise fun first second =>
      first.stop < second.start := by
  induction split generalizing number start with
  | nil => simp
  | cons bytes rest induction =>
      rw [place_cons, List.pairwise_cons]
      refine ⟨?_, induction _ _⟩
      intro line member
      have behind := place_start_ge line member
      simp only
      omega

theorem place_numbered (number start : Nat) (split : List Bytes) :
    (place number start split).Pairwise fun first second =>
      first.number < second.number := by
  rw [List.pairwise_iff_getElem]
  intro index later within laterWithin before
  have first := place_number (List.getElem?_eq_getElem within)
  have second := place_number (List.getElem?_eq_getElem laterWithin)
  omega

theorem scanBehind_eq_nil_iff {front content : Bytes} :
    scanBehind front content = [] ↔ content = [] := by
  induction content using byLines with
  | empty => simp
  | last bytes nonempty inside =>
      simp [scanBehind_last front nonempty inside, nonempty]
  | line bytes rest inside _ => simp [scanBehind_line front inside]

/-- The last line ends where the content does or, if a line feed does so, in
front of that. -/
theorem scanBehind_getLast? {front content : Bytes} {last : Line}
    (found : (scanBehind front content).getLast? = some last) :
    last.stop + (if content.getLast? = some lineFeed then 1 else 0) =
      ((front ++ content).length : Nat) := by
  induction content using byLines generalizing front with
  | empty => simp at found
  | last bytes nonempty inside =>
      rw [scanBehind_last front nonempty inside] at found
      cases found
      simp [behind, getLast?_ne_lineFeed inside]
  | line bytes rest inside induction =>
      rw [scanBehind_line front inside] at found
      rw [getLast?_line]
      by_cases none : rest = []
      · rw [none, scanBehind_nil, List.getLast?_singleton] at found
        cases found
        simp only [behind, none, if_pos, List.length_append, List.length_cons,
          List.length_nil]
        omega
      · have more : scanBehind (front ++ bytes ++ [lineFeed]) rest ≠ [] :=
          mt scanBehind_eq_nil_iff.mp none
        rw [List.getLast?_cons_of_ne_nil more] at found
        rw [if_neg none, induction found]
        simp

/-- The bytes of the lines, with a line feed between them and behind the last
one where the content has it there, are the content. -/
theorem scanBehind_joined (front content : Bytes) :
    [lineFeed].intercalate
        ((scanBehind front content).map (bytes (front ++ content))) ++
      (if content.getLast? = some lineFeed then [lineFeed] else []) =
        content := by
  induction content using byLines generalizing front with
  | empty => simp
  | last bytes nonempty inside =>
      simp [scanBehind_last front nonempty inside,
        bytes_behind_last front bytes, getLast?_ne_lineFeed inside]
  | line bytes rest inside induction =>
      have reached : front ++ (bytes ++ lineFeed :: rest) =
          front ++ bytes ++ [lineFeed] ++ rest := by
        simp
      have own := bytes_behind front bytes (lineFeed :: rest)
      have joined := induction (front ++ bytes ++ [lineFeed])
      rw [scanBehind_line front inside, List.map_cons, own, reached,
        getLast?_line]
      by_cases none : rest = []
      · simp [none]
      · have more : (scanBehind (front ++ bytes ++ [lineFeed]) rest).map
            (Line.bytes (front ++ bytes ++ [lineFeed] ++ rest)) ≠ [] := by
          simpa using mt scanBehind_eq_nil_iff.mp none
        rw [List.intercalate_cons_of_ne_nil more, if_neg none,
          List.append_assoc, joined]
        simp

/-- The lines of a content in their order: numbered from one, each behind the
line feed of the one before, and together with the line feeds the content. -/
structure Partitions (content : Bytes) (lines : List Line) : Prop where
  numbered : ∀ (index : Nat) line, lines[index]? = some line →
    line.number = (index : Int) + 1
  starts : ∀ first, lines[0]? = some first → first.start = 0
  continues : ∀ (index : Nat) line next, lines[index]? = some line →
    lines[index + 1]? = some next → next.start = line.stop + 1
  spans : ∀ line ∈ lines, 0 ≤ line.start ∧ line.start ≤ line.stop ∧
    line.stop ≤ content.length ∧ lineFeed ∉ line.bytes content
  ends : ∀ (index : Nat) line, lines[index]? = some line →
    if index + 1 = lines.length ∧ content.getLast? ≠ some lineFeed then
      line.stop = (content.length : Int)
    else content[line.stop.toNat]? = some lineFeed
  joined : [lineFeed].intercalate (lines.map (bytes content)) ++
    (if content.getLast? = some lineFeed then [lineFeed] else []) = content
  nil_iff : lines = [] ↔ content = []

theorem partitions_scan (content : Bytes) :
    Partitions content (scan content) := by
  have spans : ∀ line ∈ scan content, 0 ≤ line.start ∧ line.start ≤ line.stop ∧
      line.stop ≤ content.length ∧ lineFeed ∉ line.bytes content := by
    intro line member
    have stands := standsIn_of_mem member
    obtain ⟨start_ge, proper, stop_le⟩ := stands.bounds
    exact ⟨start_ge, proper, stop_le, stands.bytes_eq.1⟩
  refine ⟨?_, ?_, ?_, spans, ?_, ?_, ?_⟩
  · intro index line found
    have number := place_number found
    omega
  · intro first found
    exact place_start found
  · intro index line next found follows
    exact place_continues found follows
  · intro index line found
    have stands := standsIn_of_mem (List.mem_of_getElem? found)
    by_cases final : index + 1 = (scan content).length
    · have last : (scanBehind [] content).getLast? = some line := by
        rw [List.getLast?_eq_getElem?, scanBehind_empty, ← final]
        exact found
      have stop := scanBehind_getLast? last
      rw [List.nil_append] at stop
      by_cases closed : content.getLast? = some lineFeed
      · rw [if_pos closed] at stop
        rw [if_neg (fun both => both.2 closed)]
        rcases stands.ends with lineFeedThere | ⟨_, atEnd⟩
        · exact lineFeedThere
        · omega
      · rw [if_neg closed] at stop
        rw [if_pos ⟨final, closed⟩]
        omega
    · -- A line that is followed by another one ends in front of it.
      have within : index + 1 < (scan content).length := by
        have inside := (List.getElem?_eq_some_iff.mp found).1
        omega
      have follows := List.getElem?_eq_getElem within
      have start := place_continues found follows
      obtain ⟨_, proper, stop_le, _⟩ := spans _ (List.mem_of_getElem? follows)
      rw [if_neg (fun both => final both.1)]
      rcases stands.ends with lineFeedThere | ⟨_, atEnd⟩
      · exact lineFeedThere
      · omega
  · exact scanBehind_joined [] content
  · rw [← scanBehind_empty]
    exact scanBehind_eq_nil_iff

end Line

theorem Line.textOf_eq_nil_iff {bytes : Bytes} :
    Line.textOf bytes = [] ↔ bytes = [] ∨ bytes = [carriageReturn] := by
  rw [Line.textOf, Utf8.decode_eq_nil_iff, dropFinal_eq_nil_iff]

namespace Entry

variable (read : Text → Record) (content : Bytes)

theorem ofContent_eq :
    ofContent read content =
      ((Line.scan content).filter fun line =>
        line.bytes content ≠ [] ∧ line.bytes content ≠ [carriageReturn]).map
          (ofLine read) := by
  unfold ofContent
  congr 1
  apply List.filter_congr
  intro line member
  have text := (Line.standsIn_of_mem member).bytes_eq.2
  rw [text, decide_eq_decide, ne_eq, Line.textOf_eq_nil_iff, not_or]

variable {read content}

theorem exists_line_of_mem {entry : Entry}
    (member : entry ∈ ofContent read content) :
    ∃ line ∈ Line.scan content, line.bytes content ≠ [] ∧
      entry = ofLine read line := by
  rw [ofContent_eq] at member
  obtain ⟨line, kept, equality⟩ := List.mem_map.mp member
  obtain ⟨lineMember, visible⟩ := List.mem_filter.mp kept
  exact ⟨line, lineMember, (of_decide_eq_true visible).1, equality.symm⟩

theorem lineStart_lt_lineStop {entry : Entry}
    (member : entry ∈ ofContent read content) :
    0 ≤ entry.lineStart ∧ entry.lineStart < entry.lineStop ∧
      entry.lineStop ≤ content.length := by
  obtain ⟨line, lineMember, visible, equality⟩ := exists_line_of_mem member
  obtain ⟨start_ge, proper, stop_le⟩ :=
    (Line.standsIn_of_mem lineMember).bounds
  have different : line.start ≠ line.stop := by
    intro same
    apply visible
    rw [Line.bytes, same, slice_self]
  rw [equality]
  simp only [ofLine]
  omega

theorem ofContent_ordered :
    (ofContent read content).Pairwise fun first second =>
      first.lineStop < second.lineStart := by
  have ordered : (Line.scan content).Pairwise fun first second =>
      first.stop < second.start := Line.place_ordered _ _ _
  exact (ordered.filter _).map _ (fun _ _ before => before)

theorem ofContent_numbered :
    (ofContent read content).Pairwise fun first second =>
      first.lineNumber < second.lineNumber := by
  have numbered : (Line.scan content).Pairwise fun first second =>
      first.number < second.number := Line.place_numbered _ _ _
  exact (numbered.filter _).map _ (fun _ _ before => before)

/-- The lines of a content partition it, and its entries are, in order and one
for one, its lines that hold more than a carriage return, each at the place of
its line. -/
theorem ofContent_partition (read : Text → Record) (content : Bytes) :
    Line.Partitions content (Line.scan content) ∧
    ofContent read content =
      ((Line.scan content).filter fun line =>
        line.bytes content ≠ [] ∧ line.bytes content ≠ [carriageReturn]).map
          (ofLine read) ∧
    (∀ line, (ofLine read line).lineNumber = line.number ∧
      (ofLine read line).lineStart = line.start ∧
      (ofLine read line).lineStop = line.stop) ∧
    (∀ entry ∈ ofContent read content,
      entry.lineNumber =
        1 + (content.take entry.lineStart.toNat).count lineFeed ∧
      0 ≤ entry.lineStart ∧ entry.lineStart < entry.lineStop) ∧
    (ofContent read content).Pairwise fun first second =>
      first.lineStop < second.lineStart := by
  refine ⟨Line.partitions_scan content, ofContent_eq read content, ?_, ?_,
    ofContent_ordered⟩
  · intro line
    exact ⟨rfl, rfl, rfl⟩
  · intro entry member
    obtain ⟨start_ge, proper, _⟩ := lineStart_lt_lineStop member
    refine ⟨?_, start_ge, proper⟩
    obtain ⟨line, lineMember, _, equality⟩ := exists_line_of_mem member
    rw [equality]
    exact (Line.standsIn_of_mem lineMember).number_eq

end Entry

namespace Utf8

theorem lineFeed_ascii : lineFeed < 0x80 := by
  decide

theorem carriageReturn_ascii : carriageReturn < 0x80 := by
  decide

theorem decode_lineFeed (first second : Bytes) :
    decode (first ++ lineFeed :: second) =
      decode first ++ '\n' :: decode second :=
  decode_append_ascii first lineFeed_ascii second

theorem lineFeed_not_mem_decode {bytes : Bytes} (inside : lineFeed ∉ bytes) :
    '\n' ∉ decode bytes := by
  intro member
  exact inside (mem_of_mem_decode lineFeed_ascii member)

/-- Only a carriage return at the end is decoded to one. -/
theorem getLast?_decode_ne {bytes : Bytes}
    (different : bytes.getLast? ≠ some carriageReturn) :
    (decode bytes).getLast? ≠ some '\r' := by
  intro final
  have member : carriageReturn ∈ bytes.reverse := by
    rw [List.mem_reverse]
    exact mem_of_mem_decode carriageReturn_ascii (List.mem_of_getLast? final)
  -- What stands behind the last carriage return ends the text.
  obtain ⟨back, front, equality, behind⟩ := List.eq_append_cons_of_mem member
  have split : bytes = front.reverse ++ carriageReturn :: back.reverse := by
    rw [← List.reverse_reverse bytes, equality]
    simp
  have more : back.reverse ≠ [] := by
    intro none
    apply different
    rw [split, none]
    simp
  have last : (decode back.reverse).getLast? = some '\r' := by
    rw [← final, split, decode_append_ascii _ carriageReturn_ascii,
      List.getLast?_append_of_ne_nil _ (List.cons_ne_nil _ _),
      List.getLast?_cons_of_ne_nil (mt decode_eq_nil_iff.mp more)]
  have own : carriageReturn ∈ back.reverse :=
    mem_of_mem_decode carriageReturn_ascii (List.mem_of_getLast? last)
  exact behind (List.mem_reverse.mp own)

theorem decode_dropFinal (bytes : Bytes) :
    decode (dropFinal carriageReturn bytes) = dropFinal '\r' (decode bytes) := by
  by_cases final : bytes.getLast? = some carriageReturn
  · obtain ⟨front, equality⟩ := List.getLast?_eq_some_iff.mp final
    have decoded : decode (front ++ [carriageReturn]) = decode front ++ ['\r'] :=
      decode_append_ascii front carriageReturn_ascii []
    rw [equality, dropFinal_concat, decoded, dropFinal_concat]
  · rw [dropFinal_of_ne final, dropFinal_of_ne (getLast?_decode_ne final)]

/-- Cutting at line feeds and decoding can be exchanged. -/
theorem splitOn_decode (content : Bytes) :
    (decode content).splitOn '\n' = (content.splitOn lineFeed).map decode := by
  induction content using Line.byLines with
  | empty => rfl
  | last bytes nonempty inside =>
      rw [List.splitOn_eq_singleton inside,
        List.splitOn_eq_singleton (lineFeed_not_mem_decode inside)]
      rfl
  | line bytes rest inside induction =>
      rw [decode_lineFeed, List.splitOn_append_cons_self_of_not_mem inside,
        List.splitOn_append_cons_self_of_not_mem
          (lineFeed_not_mem_decode inside), induction, List.map_cons]

end Utf8

/-- The lines of a text that is decoded already, without a carriage return at
the end of a line.  Nothing follows a line feed that ends the text. -/
def textLines (text : Text) : List Text :=
  (dropFinal [] (text.splitOn '\n')).map (dropFinal '\r')

namespace Line

theorem pieces_eq_dropFinal (content : Bytes) :
    pieces content = dropFinal [] (content.splitOn lineFeed) := rfl

theorem getLast?_splitOn_iff (content : Bytes) :
    (content.splitOn lineFeed).getLast? = some [] ↔ WholeLines content := by
  induction content using byLines with
  | empty => simp [WholeLines]
  | last bytes nonempty inside =>
      rw [List.splitOn_eq_singleton inside]
      simp [nonempty, not_wholeLines nonempty inside]
  | line bytes rest inside induction =>
      rw [List.splitOn_append_cons_self_of_not_mem inside,
        List.getLast?_cons_of_ne_nil (List.splitOn_ne_nil _ _), induction,
        wholeLines_line]

theorem place_text (number start : Nat) (split : List Bytes) :
    (place number start split).map Line.text = split.map textOf := by
  induction split generalizing number start with
  | nil => rfl
  | cons bytes rest induction =>
      rw [place_cons, List.map_cons, List.map_cons, induction]

theorem dropFinal_map_decode (split : List Bytes) :
    dropFinal [] (split.map Utf8.decode) =
      (dropFinal [] split).map Utf8.decode := by
  by_cases final : split.getLast? = some []
  · obtain ⟨front, equality⟩ := List.getLast?_eq_some_iff.mp final
    rw [equality, List.map_append, dropFinal_concat]
    exact dropFinal_concat [] _
  · have decoded : (split.map Utf8.decode).getLast? ≠ some [] := by
      rw [List.getLast?_map]
      intro none
      obtain ⟨bytes, last, empty⟩ := Option.map_eq_some_iff.mp none
      rw [Utf8.decode_eq_nil_iff.mp empty] at last
      exact final last
    rw [dropFinal_of_ne final, dropFinal_of_ne decoded]

theorem textLines_decode (content : Bytes) :
    textLines (Utf8.decode content) = (scan content).map Line.text := by
  have texts : Line.textOf = dropFinal '\r' ∘ Utf8.decode := by
    funext bytes
    exact Utf8.decode_dropFinal bytes
  rw [scan, place_text, pieces_eq_dropFinal, texts, ← List.map_map,
    ← dropFinal_map_decode, ← Utf8.splitOn_decode]
  rfl

example : textLines (Utf8.decode [0xE2, 0x82, 0x0D, 0x0A, 0x0D]) =
    [[replacement], []] := by decide +kernel

end Line

end LogLens
