import LogLens.Entry
import LogLens.Text.Basic

/-!
# Lines behind other bytes

The lines of a content are looked at where the content stands behind other
bytes, which fix the number and the start of its first line.  This is what
lets a law of lines be proved line by line: `byLines` takes a content apart into
its first line and the rest, and the rest then stands behind that line.
-/

namespace LogLens

namespace Line

/-- A content is empty, one line that no line feed ends, or a line with its line
feed in front of a content. -/
@[elab_as_elim]
theorem byLines {motive : Bytes → Prop} (empty : motive [])
    (last : ∀ bytes, bytes ≠ [] → lineFeed ∉ bytes → motive bytes)
    (line : ∀ bytes rest, lineFeed ∉ bytes → motive rest →
      motive (bytes ++ lineFeed :: rest))
    (content : Bytes) : motive content := by
  induction size : content.length using Nat.strongRecOn generalizing content with
  | ind size induction =>
      subst size
      by_cases member : lineFeed ∈ content
      · obtain ⟨bytes, rest, equality, inside⟩ :=
          List.eq_append_cons_of_mem member
        have shorter : rest.length < content.length := by
          rw [equality, List.length_append, List.length_cons]
          omega
        rw [equality]
        exact line bytes rest inside (induction rest.length shorter rest rfl)
      · by_cases none : content = []
        · rw [none]
          exact empty
        · exact last content none member

/-- No line of the content is left open, so what follows begins a line. -/
def WholeLines (content : Bytes) : Prop :=
  content = [] ∨ content.getLast? = some lineFeed

theorem getLast?_ne_lineFeed {bytes : Bytes} (inside : lineFeed ∉ bytes) :
    bytes.getLast? ≠ some lineFeed := by
  intro ends
  exact inside (List.mem_of_getLast? ends)

theorem not_wholeLines {bytes : Bytes} (nonempty : bytes ≠ [])
    (inside : lineFeed ∉ bytes) : ¬WholeLines bytes := by
  rintro (none | ends)
  · exact nonempty none
  · exact getLast?_ne_lineFeed inside ends

theorem getLast?_line (bytes rest : Bytes) :
    (bytes ++ lineFeed :: rest).getLast? =
      if rest = [] then some lineFeed else rest.getLast? := by
  cases rest with
  | nil => simp
  | cons byte rest => simp [List.getLast?_cons]

theorem wholeLines_line {bytes rest : Bytes} :
    WholeLines (bytes ++ lineFeed :: rest) ↔ WholeLines rest := by
  unfold WholeLines
  rw [getLast?_line]
  by_cases none : rest = [] <;> simp [none]

@[simp] theorem pieces_nil : pieces [] = [] := by
  simp [pieces]

theorem pieces_last {bytes : Bytes} (nonempty : bytes ≠ [])
    (inside : lineFeed ∉ bytes) : pieces bytes = [bytes] := by
  simp [pieces, List.splitOn_eq_singleton inside, nonempty]

theorem pieces_line {bytes : Bytes} (inside : lineFeed ∉ bytes) (rest : Bytes) :
    pieces (bytes ++ lineFeed :: rest) = bytes :: pieces rest := by
  have split : rest.splitOn lineFeed ≠ [] := List.splitOn_ne_nil _ _
  simp only [pieces, List.splitOn_append_cons_self_of_not_mem inside]
  rw [List.getLast?_cons_of_ne_nil split, List.dropLast_cons_of_ne_nil split]
  split <;> rfl

/-- The line that bytes make behind `front`. -/
def behind (front bytes : Bytes) : Line :=
  { number := front.count lineFeed + 1
    start := front.length
    stop := front.length + bytes.length
    text := textOf bytes }

/-- The lines of a content that stands behind `front`. -/
def scanBehind (front content : Bytes) : List Line :=
  place (front.count lineFeed + 1) front.length (pieces content)

theorem scanBehind_empty (content : Bytes) :
    scanBehind [] content = scan content := rfl

@[simp] theorem scanBehind_nil (front : Bytes) : scanBehind front [] = [] := by
  simp [scanBehind]

theorem scanBehind_last (front : Bytes) {bytes : Bytes} (nonempty : bytes ≠ [])
    (inside : lineFeed ∉ bytes) :
    scanBehind front bytes = [behind front bytes] := by
  rw [scanBehind, pieces_last nonempty inside]
  rfl

theorem scanBehind_line (front : Bytes) {bytes : Bytes}
    (inside : lineFeed ∉ bytes) (rest : Bytes) :
    scanBehind front (bytes ++ lineFeed :: rest) =
      behind front bytes :: scanBehind (front ++ bytes ++ [lineFeed]) rest := by
  have number : (front ++ bytes ++ [lineFeed]).count lineFeed =
      front.count lineFeed + 1 := by
    simp [List.count_append, List.count_eq_zero.mpr inside]
  have start : (front ++ bytes ++ [lineFeed]).length =
      front.length + bytes.length + 1 := by
    simp [Nat.add_assoc]
  rw [scanBehind, pieces_line inside, place_cons, scanBehind, number, start]
  rfl

/-- Lines that are whole are read alike whatever follows, and what follows is
read as it is behind them. -/
theorem scanBehind_append {first : Bytes} (whole : WholeLines first)
    (front second : Bytes) :
    scanBehind front (first ++ second) =
      scanBehind front first ++ scanBehind (front ++ first) second := by
  induction first using byLines generalizing front with
  | empty => simp
  | last bytes nonempty inside => exact absurd whole (not_wholeLines nonempty inside)
  | line bytes rest inside induction =>
      have reached : front ++ bytes ++ [lineFeed] ++ rest =
          front ++ (bytes ++ lineFeed :: rest) := by
        simp
      rw [List.append_assoc, List.cons_append, scanBehind_line front inside,
        induction (wholeLines_line.mp whole), reached,
        scanBehind_line front inside, List.cons_append]

def move (lines bytes : Nat) (line : Line) : Line :=
  { line with
    number := line.number + lines
    start := line.start + bytes
    stop := line.stop + bytes }

theorem place_move (lines bytes number start : Nat) (split : List Bytes) :
    place (number + lines) (start + bytes) split =
      (place number start split).map (move lines bytes) := by
  induction split generalizing number start with
  | nil => rfl
  | cons piece rest induction =>
      have nextNumber : number + lines + 1 = number + 1 + lines := by omega
      have nextStart : start + bytes + piece.length + 1 =
          start + piece.length + 1 + bytes := by omega
      rw [place_cons, place_cons, List.map_cons, nextNumber, nextStart,
        induction]
      simp only [move, List.cons.injEq, Line.mk.injEq, and_true]
      omega

theorem scanBehind_eq_move (front content : Bytes) :
    scanBehind front content =
      (scan content).map (move (front.count lineFeed) front.length) := by
  rw [scan, ← place_move, Nat.add_comm 1, Nat.zero_add]
  rfl

/-- A line as it stands in a content: behind `front`, and up to a line feed or
the end of the content. -/
inductive StandsIn (content : Bytes) : Line → Prop where
  | closed {front bytes rest : Bytes} :
      lineFeed ∉ bytes →
      content = front ++ (bytes ++ lineFeed :: rest) →
      StandsIn content (behind front bytes)
  | last {front bytes : Bytes} :
      bytes ≠ [] →
      lineFeed ∉ bytes →
      content = front ++ bytes →
      StandsIn content (behind front bytes)

theorem standsIn_of_mem_scanBehind {front content : Bytes} {line : Line}
    (member : line ∈ scanBehind front content) :
    StandsIn (front ++ content) line := by
  induction content using byLines generalizing front with
  | empty => simp at member
  | last bytes nonempty inside =>
      rw [scanBehind_last front nonempty inside, List.mem_singleton] at member
      rw [member]
      exact .last nonempty inside rfl
  | line bytes rest inside induction =>
      rw [scanBehind_line front inside] at member
      rcases List.mem_cons.mp member with here | later
      · rw [here]
        exact .closed inside rfl
      · simpa using induction later

theorem standsIn_of_mem {content : Bytes} {line : Line}
    (member : line ∈ scan content) : StandsIn content line := by
  rw [← scanBehind_empty] at member
  exact standsIn_of_mem_scanBehind member

/-- The bytes of a content that a line spans. -/
def bytes (content : Bytes) (line : Line) : Bytes :=
  slice content line.start.toNat line.stop.toNat

theorem bytes_behind (front own rest : Bytes) :
    (behind front own).bytes (front ++ (own ++ rest)) = own := by
  have stop : ((front.length : Int) + own.length).toNat =
      front.length + own.length := by omega
  simp only [bytes, behind, stop, Int.toNat_natCast, slice]
  simp

theorem bytes_behind_last (front own : Bytes) :
    (behind front own).bytes (front ++ own) = own := by
  simpa using bytes_behind front own []

namespace StandsIn

variable {content : Bytes} {line : Line}

theorem bounds (stands : StandsIn content line) :
    0 ≤ line.start ∧ line.start ≤ line.stop ∧
      line.stop ≤ content.length := by
  cases stands with
  | closed inside equality =>
      rw [equality]
      simp only [behind, List.length_append]
      omega
  | last nonempty inside equality =>
      rw [equality]
      simp only [behind, List.length_append]
      omega

theorem bytes_eq (stands : StandsIn content line) :
    lineFeed ∉ line.bytes content ∧ line.text = textOf (line.bytes content) := by
  cases stands with
  | closed inside equality =>
      rw [equality, bytes_behind]
      exact ⟨inside, rfl⟩
  | last nonempty inside equality =>
      rw [equality, bytes_behind_last]
      exact ⟨inside, rfl⟩

theorem number_eq (stands : StandsIn content line) :
    line.number = 1 + (content.take line.start.toNat).count lineFeed := by
  cases stands with
  | closed inside equality =>
      rw [equality]
      simp [behind, Int.add_comm]
  | last nonempty inside equality =>
      rw [equality]
      simp [behind, Int.add_comm]

/-- A line ends at a line feed or, unless it is empty, where the content
does. -/
theorem ends (stands : StandsIn content line) :
    content[line.stop.toNat]? = some lineFeed ∨
      line.start < line.stop ∧ line.stop = content.length := by
  cases stands with
  | @closed front own rest inside equality =>
      left
      have stop : ((front.length : Int) + own.length).toNat =
          (front ++ own).length := by
        rw [List.length_append]
        omega
      rw [equality, ← List.append_assoc]
      simp only [behind, stop, List.getElem?_append_right (Nat.le_refl _)]
      simp
  | @last front own nonempty inside equality =>
      right
      have size : 0 < own.length := List.length_pos_iff.mpr nonempty
      rw [equality]
      simp only [behind, List.length_append]
      omega

end StandsIn

end Line

end LogLens
