/-!
# Texts, byte strings and structured values

The library reads two kinds of sequence.  A text is counted, cut and compared by
code points, and a byte string by bytes; both are plain lists, so that every law
about lists is a law about them.  A character class of the Unicode standard is
written as the list of its inclusive code point ranges, in ascending order.

Many ranges are cut out of one sequence by walking through it once, where every
range starts at or after the start of the one before; the result is that of
cutting each range out by itself.  One sequence is sought inside another:
`occursIn` asks only whether there is an occurrence, and `cutAt` takes the
sequence apart around the first one.  All of this is generic, because texts and
byte strings are searched alike.

Structured values are what answers to other programs are made of.  Members of an
object keep their order.
-/

namespace LogLens

/-- A text is the sequence of its code points. -/
abbrev Text := List Char

abbrev Bytes := List UInt8

instance : Coe String Text := ⟨String.toList⟩

/-- The bytes of a literal that holds ASCII characters only. -/
def ascii (literal : String) : Bytes :=
  literal.toList.map fun char => UInt8.ofNat char.toNat

/-- The first `count` items.  A negative count leaves that many items off the
end instead. -/
def takeSigned {α : Type} (count : Int) (items : List α) : List α :=
  if 0 ≤ count then items.take count.toNat
  else items.take (items.length - (-count).toNat)

@[simp] theorem takeSigned_natCast {α : Type} (count : Nat) (items : List α) :
    takeSigned (count : Int) items = items.take count := by
  simp [takeSigned]

theorem takeSigned_of_length_le {α : Type} {count : Int} {items : List α}
    (enough : items.length ≤ count) : takeSigned count items = items := by
  rw [takeSigned, if_pos (by omega), List.take_of_length_le (by omega)]

theorem takeSigned_isPrefix {α : Type} (count : Int) (items : List α) :
    takeSigned count items <+: items := by
  unfold takeSigned
  split <;> exact List.take_prefix _ _

theorem mem_of_lookup {α β : Type} [BEq α] [LawfulBEq α] {table : List (α × β)}
    {key : α} {value : β} (found : table.lookup key = some value) :
    (key, value) ∈ table := by
  obtain ⟨before, after, listed, _⟩ := List.lookup_eq_some_iff.mp found
  rw [listed]
  exact List.mem_append_right _ List.mem_cons_self

def decimal (value : Int) : Text :=
  if value < 0 then '-' :: Nat.toDigits 10 value.natAbs
  else Nat.toDigits 10 value.natAbs

/-- Inclusive ranges of code points. -/
abbrev CodeRanges := List (Nat × Nat)

def CodeRanges.holds (ranges : CodeRanges) (char : Char) : Bool :=
  ranges.any fun (first, last) => first ≤ char.toNat && char.toNat ≤ last

section Slices

variable {α : Type}

/-- The items from `start` up to `stop`. -/
def slice (items : List α) (start stop : Nat) : List α :=
  (items.drop start).take (stop - start)

@[simp] theorem slice_self (items : List α) (position : Nat) :
    slice items position position = [] := by
  simp [slice]

theorem slice_length (items : List α) (start : Nat) :
    slice items start items.length = items.drop start := by
  rw [slice, List.take_of_length_le]
  simp

theorem slice_drop (items : List α) (amount start stop : Nat) :
    slice (items.drop amount) start stop =
      slice items (amount + start) (amount + stop) := by
  rw [slice, slice, List.drop_drop, Nat.add_sub_add_left]

theorem slice_append_slice (items : List α) {start middle stop : Nat}
    (first : start ≤ middle) (second : middle ≤ stop) :
    slice items start middle ++ slice items middle stop =
      slice items start stop := by
  have rest : items.drop middle = (items.drop start).drop (middle - start) := by
    rw [List.drop_drop, Nat.add_sub_cancel' first]
  have width : stop - start = (middle - start) + (stop - middle) := by omega
  rw [slice, slice, slice, rest, width, List.take_add]

/-- Cuts ranges out of a sequence of which `rest` is left from `position` on.
Slices already cut are kept newest first. -/
def slicesFrom (cut : List (List α)) (position : Nat) (rest : List α) :
    List (Nat × Nat) → List (List α)
  | [] => cut.reverse
  | (start, stop) :: ranges =>
      let here := rest.drop (start - position)
      slicesFrom (here.take (stop - start) :: cut) start here ranges

def slices (items : List α) (ranges : List (Nat × Nat)) : List (List α) :=
  slicesFrom [] 0 items ranges

theorem slicesFrom_eq (items : List α) (cut : List (List α)) (position : Nat)
    (ranges : List (Nat × Nat))
    (ahead : ∀ range ∈ ranges, position ≤ range.1)
    (ascending : ranges.Pairwise fun first second => first.1 ≤ second.1) :
    slicesFrom cut position (items.drop position) ranges =
      cut.reverse ++ ranges.map fun range => slice items range.1 range.2 := by
  induction ranges generalizing cut position with
  | nil => simp [slicesFrom]
  | cons range ranges induction =>
      obtain ⟨start, stop⟩ := range
      have position_le : position ≤ start := ahead (start, stop) (by simp)
      rw [List.pairwise_cons] at ascending
      simp only [slicesFrom, List.drop_drop,
        Nat.add_sub_cancel' position_le]
      rw [induction _ _ (fun range member => ascending.1 range member)
        ascending.2]
      simp [slice]

/-- Ascending ranges are cut out as each of them would be by itself. -/
theorem slices_eq_map (items : List α) (ranges : List (Nat × Nat))
    (ascending : ranges.Pairwise fun first second => first.1 ≤ second.1) :
    slices items ranges = ranges.map fun range => slice items range.1 range.2 := by
  simpa [slices] using
    slicesFrom_eq items [] 0 ranges (by simp) ascending

end Slices

section Search

variable {α : Type} [DecidableEq α]

def occursIn (needle : List α) : List α → Bool
  | [] => needle.isEmpty
  | item :: rest =>
      needle.isPrefixOf (item :: rest) || occursIn needle rest

theorem occursIn_iff {needle items : List α} :
    occursIn needle items = true ↔ needle <:+: items := by
  induction items with
  | nil => simp [occursIn, List.isEmpty_iff]
  | cons item rest induction =>
      simp [occursIn, induction, List.infix_cons_iff]

/-- Cuts the sequence around the first occurrence of `needle`, `passed` holding
the items already left behind, newest first. -/
def cutFrom (needle passed : List α) : List α → Option (List α × List α)
  | [] => if needle.isEmpty then some (passed.reverse, []) else none
  | item :: rest =>
      if needle.isPrefixOf (item :: rest) then
        some (passed.reverse, (item :: rest).drop needle.length)
      else cutFrom needle (item :: passed) rest

/-- What stands before and after the first occurrence of `needle`, if there is
one. -/
def cutAt (needle items : List α) : Option (List α × List α) :=
  cutFrom needle [] items

theorem cutFrom_eq {needle passed items before after : List α}
    (cut : cutFrom needle passed items = some (before, after)) :
    passed.reverse ++ items = before ++ needle ++ after := by
  induction items generalizing passed with
  | nil =>
      by_cases empty : needle = []
      · simp [cutFrom, empty] at cut
        simp [empty, ← cut.1, ← cut.2]
      · simp [cutFrom, empty] at cut
  | cons item rest induction =>
      rw [cutFrom] at cut
      split at cut
      · rename_i found
        obtain ⟨tail, same⟩ := List.isPrefixOf_iff_prefix.mp found
        simp only [Option.some.injEq, Prod.mk.injEq] at cut
        rw [← cut.1, ← cut.2, ← same]
        simp
      · simpa using induction cut

theorem cutAt_eq {needle items before after : List α}
    (cut : cutAt needle items = some (before, after)) :
    items = before ++ needle ++ after := by
  simpa using cutFrom_eq cut

theorem cutFrom_eq_none_iff {needle passed items : List α} :
    cutFrom needle passed items = none ↔ occursIn needle items = false := by
  induction items generalizing passed with
  | nil => by_cases empty : needle = [] <;> simp [cutFrom, occursIn, empty]
  | cons item rest induction =>
      rw [cutFrom, occursIn]
      split <;> rename_i found <;> simp [found, induction]

theorem cutAt_eq_none_iff {needle items : List α} :
    cutAt needle items = none ↔ occursIn needle items = false :=
  cutFrom_eq_none_iff

theorem cutFrom_append {item : α} {before : List α} (absent : item ∉ before)
    (passed after : List α) :
    cutFrom [item] passed (before ++ item :: after) =
      some (passed.reverse ++ before, after) := by
  induction before generalizing passed with
  | nil => simp [cutFrom]
  | cons first rest induction =>
      have different : item ≠ first := List.ne_of_not_mem_cons absent
      have restAbsent : item ∉ rest := List.not_mem_of_not_mem_cons absent
      rw [List.cons_append, cutFrom]
      simp [different, induction restAbsent]

theorem cutAt_append {item : α} {before : List α} (absent : item ∉ before)
    (after : List α) :
    cutAt [item] (before ++ item :: after) = some (before, after) :=
  cutFrom_append absent [] after

end Search

/-- A structured value.  All numbers are integers. -/
inductive Json where
  | null
  | bool (value : Bool)
  | number (value : Int)
  | text (value : Text)
  | list (items : List Json)
  | object (members : List (Text × Json))

namespace Json

def member? (key : Text) : Json → Option Json
  | object members => members.lookup key
  | _ => none

/-- A text, or nothing where it is empty. -/
def ofFilled (value : Text) : Json :=
  if value = [] then null else text value

end Json

end LogLens
