import LogLens.Proofs.Record.StructuredLine
import LogLens.Record

/-!
# Lines that two readers date

A date and a time at the start of a line are taken over by the reader of logging
frameworks and by that of no known convention alike, with a fraction or without.
Only where nothing follows them do the two differ: the latter then leaves out the
time.
-/

namespace LogLens

namespace DatePrefix

/-- The text opens with a date between dashes and, behind a space, a time of the
usual width. -/
structure Timed (text : Text) : Prop where
  unbracketed : text.head? ≠ some '['
  long : 19 ≤ text.length
  dashed : ∀ place ∈ [4, 7], text[place]? = some '-'
  space : text[10]? = some ' '
  colon : text[13]? = some ':'

variable {text : Text}

theorem Timed.dated (timed : Timed text) : Dated text := by
  refine ⟨timed.long, ?_⟩
  intro place member
  exact .inl (timed.dashed place member)

theorem Timed.isDate (timed : Timed text) : isDate ["-"] text = true := by
  have year := timed.dashed 4 (by decide)
  have month := timed.dashed 7 (by decide)
  rw [DatePrefix.isDate, year, month]
  rfl

theorem nineteen_le_width (text : Text) : 19 ≤ width text := by
  by_cases fraction : hasFraction text = true
  · rw [width_of_fraction fraction]
    decide
  · exact Nat.le_of_eq (width_of_no_fraction fraction).symm

end DatePrefix

namespace Generic

variable {text : Text} (timed : DatePrefix.Timed text)

include timed

/-- The time is only taken over if something follows it. -/
theorem timestamp_of_timed :
    timestamp text =
      text.take (if 19 < text.length then DatePrefix.width text else 10) := by
  have dated : DatePrefix.dateLength ≤ text.length ∧
      DatePrefix.isDate ["-"] text = true :=
    ⟨Nat.le_trans (by decide) timed.long, timed.isDate⟩
  have followed : hasTime text = true ↔ 19 < text.length := by
    simp only [hasTime, timed.space, timed.colon, beq_self_eq_true, Bool.and_true]
    exact decide_eq_true_iff
  have whole : timestamp text =
      if hasTime text then DatePrefix.dateTime text
      else text.take DatePrefix.dateLength := by
    unfold timestamp
    split
    · exact absurd rfl timed.unbracketed
    · exact if_pos dated
  rw [whole]
  by_cases more : 19 < text.length
  · rw [if_pos (followed.mpr more), if_pos more]
    rfl
  · rw [if_neg (mt followed.mp more), if_neg more]
    rfl

end Generic

theorem Structured.timestamp_read (text : Text) :
    (Structured.read text).timestamp = Structured.timestamp text := by
  simp only [Structured.read]
  split <;> rfl

/-- A line that opens with a date and a time is dated alike by both readers exactly
if it is longer than these. -/
theorem generic_timestamp_eq_structured_iff {text : Text}
    (timed : DatePrefix.Timed text) :
    (Generic.read text).timestamp = (Structured.read text).timestamp ↔
      text.length ≠ 19 := by
  have generic : (Generic.read text).timestamp =
      text.take (if 19 < text.length then DatePrefix.width text else 10) :=
    Generic.timestamp_of_timed timed
  have structured : (Structured.read text).timestamp =
      text.take (DatePrefix.width text) := by
    rw [Structured.timestamp_read, Structured.timestamp_of_dated timed.dated]
  have long := timed.long
  rw [generic, structured]
  constructor
  · -- The shorter timestamp would have ten characters and the longer one nineteen.
    intro alike short
    have lengths := congrArg List.length alike
    have wide := DatePrefix.nineteen_le_width text
    rw [if_neg (by omega), List.length_take, List.length_take] at lengths
    omega
  · intro longer
    rw [if_pos (by omega)]

theorem generic_timestamp_eq_structured_iff_fraction :
    let precise : Text := "2024-01-15 10:30:00.123Z"
    let odd : Text := "]x\"y-zz-.. ab:cdefg,"
    DatePrefix.Timed precise ∧
      (Generic.read precise).timestamp = (Structured.read precise).timestamp ∧
      (Generic.read precise).timestamp = "2024-01-15 10:30:00.123".toList ∧
      DatePrefix.Timed odd ∧ odd.length = 20 ∧
      (Generic.read odd).timestamp = (Structured.read odd).timestamp := by
  intro precise odd
  have preciseTimed : DatePrefix.Timed precise := by
    constructor
    all_goals decide +kernel
  have oddTimed : DatePrefix.Timed odd := by
    constructor
    all_goals decide +kernel
  exact ⟨preciseTimed,
    (generic_timestamp_eq_structured_iff preciseTimed).mpr (by decide +kernel),
    by decide +kernel, oddTimed, by decide +kernel,
    (generic_timestamp_eq_structured_iff oddTimed).mpr (by decide +kernel)⟩

/-- A line that is nothing but a date and a time has both of them for the one
reader and only the date for the other. -/
theorem generic_timestamp_misses_time :
    let bare : Text := "2024-01-15 10:30:00"
    DatePrefix.Timed bare ∧
      (Generic.read bare).timestamp = "2024-01-15".toList ∧
      (Structured.read bare).timestamp = "2024-01-15 10:30:00".toList := by
  intro bare
  have timed : DatePrefix.Timed bare := by
    constructor
    all_goals decide +kernel
  exact ⟨timed, by decide +kernel, by decide +kernel⟩

end LogLens
