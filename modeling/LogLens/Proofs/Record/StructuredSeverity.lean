import Mathlib.Data.List.Find
import LogLens.Proofs.Record.StructuredLine

/-!
# The severity of a line of a logging framework

The word for the severity follows the time, but it is not the only one that is
seen.  Which words are depends on the width of the time, of which a fraction is
read as if it had three digits: with every further digit the search reaches one
character less far behind the time.  Of the words that are seen the first one
listed decides, so a thread, a logger or a message close to the time can
announce another severity.
-/

namespace LogLens

namespace Structured

/-- A number that is written with the given count of digits. -/
def IsNumber (width : Nat) (text : Text) : Prop :=
  text.length = width ∧ text.all Char.isDigit = true

instance {width : Nat} {text : Text} : Decidable (IsNumber width text) :=
  inferInstanceAs (Decidable (_ ∧ _))

/-- A date and a time of day, and possibly the mark and the digits of a fraction. -/
structure Moment where
  year : Text
  month : Text
  day : Text
  hour : Text
  minute : Text
  second : Text
  fraction : Option (Char × Text)
  deriving DecidableEq, Repr

namespace Moment

def clock (moment : Moment) : Text :=
  moment.year ++ "-" ++ moment.month ++ "-" ++ moment.day ++ " " ++
    moment.hour ++ ":" ++ moment.minute ++ ":" ++ moment.second

def fractionText (moment : Moment) : Text :=
  match moment.fraction with
  | some (mark, digits) => mark :: digits
  | none => []

def text (moment : Moment) : Text :=
  moment.clock ++ moment.fractionText

structure WellFormed (moment : Moment) : Prop where
  year : IsNumber 4 moment.year
  month : IsNumber 2 moment.month
  day : IsNumber 2 moment.day
  hour : IsNumber 2 moment.hour
  minute : IsNumber 2 moment.minute
  second : IsNumber 2 moment.second
  fraction : ∀ part ∈ moment.fraction,
    (part.1 = '.' ∨ part.1 = ',') ∧ part.2 ≠ [] ∧
      part.2.all Char.isDigit = true

/-- How many places behind the moment the search for words reaches. -/
def reach (moment : Moment) : Nat :=
  match moment.fraction with
  | some (_, digits) => 23 - digits.length
  | none => 20

theorem reach_of_fraction {moment : Moment} {mark : Char} {digits : Text}
    (fraction : moment.fraction = some (mark, digits)) :
    moment.reach = 23 - digits.length := by
  rw [reach, fraction]

theorem one_lt_reach_iff {moment : Moment} :
    1 < moment.reach ↔ ∀ part ∈ moment.fraction, part.2.length ≤ 21 := by
  cases fraction : moment.fraction with
  | none => simp [reach, fraction]
  | some part =>
      obtain ⟨mark, digits⟩ := part
      have bound : 1 < 23 - digits.length ↔ digits.length ≤ 21 := by omega
      simpa [reach_of_fraction fraction] using bound

end Moment

section Line

variable {fields : Fields} {moment : Moment}

theorem standsAt_word : StandsAt fields.word fields.behindTime 1 :=
  ⟨fields.behindWord, rfl⟩

/-- In front of what is behind the time, digits can stand without hiding a word
or showing one. -/
theorem standsAt_behind_digits {digits word : Text} {place : Nat}
    (numeric : digits.all Char.isDigit = true)
    (known : word ∈ severityWords) :
    StandsAt word (digits ++ fields.behindTime) place ↔
      ∃ behind, place = digits.length + behind ∧
        StandsAt word fields.behindTime behind := by
  constructor
  · intro stands
    rcases Nat.lt_or_ge place digits.length with inside | beyond
    · obtain ⟨first, opens, _, noDigit⟩ := exists_first_of_standsAt known stands
      rw [List.getElem?_append_left inside] at opens
      have digit := List.all_eq_true.mp numeric first (List.mem_of_getElem? opens)
      rw [noDigit] at digit
      contradiction
    · obtain ⟨behind, rfl⟩ := Nat.exists_eq_add_of_le beyond
      exact ⟨behind, rfl, standsAt_append_right.mp stands⟩
  · rintro ⟨behind, rfl, stands⟩
    exact standsAt_append_right.mpr stands

variable (written : moment.WellFormed)

include written

theorem clock_length : moment.clock.length = 19 := by
  have separator : ("-" : Text).length = 1 ∧ (" " : Text).length = 1 ∧
      (":" : Text).length = 1 := ⟨rfl, rfl, rfl⟩
  simp only [Moment.clock, List.length_append, separator, written.year.1,
    written.month.1, written.day.1, written.hour.1, written.minute.1,
    written.second.1]

theorem clock_dated : DatePrefix.Dated moment.clock := by
  have year := written.year.1
  have month := written.month.1
  have shape : moment.clock = moment.year ++ '-' :: (moment.month ++ '-' ::
      (moment.day ++ " " ++ moment.hour ++ ":" ++ moment.minute ++ ":" ++
        moment.second)) := by
    simp [Moment.clock]
  refine ⟨Nat.le_of_eq (clock_length written).symm, ?_⟩
  intro place member
  simp only [List.mem_cons, List.not_mem_nil, or_false] at member
  left
  rw [shape]
  rcases member with rfl | rfl
  · rw [List.getElem?_append_right (by omega), year]
    rfl
  · rw [List.getElem?_append_right (by omega), year, List.getElem?_cons_succ,
      List.getElem?_append_right (by omega), month]
    rfl

variable (timed : fields.time = moment.text)

include timed

/-- What is left behind the time: without a fraction all that was put there, and
otherwise the digits of the fraction with it, except for three characters. -/
theorem behindTimestamp_line :
    behindTimestamp fields.line =
      match moment.fraction with
      | some (_, digits) => (digits ++ fields.behindTime).drop 3
      | none => fields.behindTime := by
  have width := clock_length written
  cases fraction : moment.fraction with
  | none =>
      have shape : fields.line = moment.clock ++ fields.behindTime := by
        simp [Fields.line, timed, Moment.text, Moment.fractionText, fraction]
      have dated : DatePrefix.Dated fields.line :=
        shape ▸ (clock_dated written).append _
      have whole : DatePrefix.width fields.line = moment.clock.length := by
        rw [shape, fields.behindTime_eq, DatePrefix.width_append_space width,
          width]
      rw [behindTimestamp_of_dated dated, whole, shape, List.drop_left]
  | some part =>
      obtain ⟨mark, digits⟩ := part
      have shape : fields.line =
          moment.clock ++ mark :: (digits ++ fields.behindTime) := by
        simp [Fields.line, timed, Moment.text, Moment.fractionText, fraction]
      have marked : mark = '.' ∨ mark = ',' :=
        (written.fraction (mark, digits) fraction).1
      have fractional : DatePrefix.hasFraction fields.line = true := by
        rw [DatePrefix.hasFraction_iff]
        constructor
        · have behind := fields.behindTime_length
          rw [shape, List.length_append, List.length_cons, List.length_append,
            width]
          omega
        · rw [shape, List.getElem?_append_right (by omega), width]
          simpa using marked
      have dated : DatePrefix.Dated fields.line :=
        shape ▸ (clock_dated written).append _
      have wider : DatePrefix.width fields.line = moment.clock.length + 4 := by
        rw [DatePrefix.width_of_fraction fractional, width]
      rw [behindTimestamp_of_dated dated, wider, shape, ← List.drop_drop,
        List.drop_left, List.drop_succ_cons]

/-- A word is seen near the time if it begins within reach of the moment, where
the fraction is wide enough to leave the word behind it whole. -/
theorem beginsWithin_behindTimestamp_iff
    (wide : ∀ part ∈ moment.fraction, 2 ≤ part.2.length) {word : Text}
    (known : word ∈ severityWords) :
    BeginsWithin searchWindow word (behindTimestamp fields.line) ↔
      BeginsWithin moment.reach word fields.behindTime := by
  rw [behindTimestamp_line written timed]
  cases fraction : moment.fraction with
  | none =>
      rw [Moment.reach, fraction]
      rfl
  | some part =>
      obtain ⟨mark, digits⟩ := part
      have reach := Moment.reach_of_fraction fraction
      have numeric : digits.all Char.isDigit = true :=
        (written.fraction (mark, digits) fraction).2.2
      have pair : 2 ≤ digits.length := wide (mark, digits) fraction
      constructor
      · rintro ⟨place, near, stands⟩
        rw [searchWindow] at near
        rw [standsAt_drop, standsAt_behind_digits numeric known] at stands
        obtain ⟨behind, split, stands⟩ := stands
        exact ⟨behind, by omega, stands⟩
      · rintro ⟨behind, near, stands⟩
        have later := one_le_of_standsAt known stands
        have split : 3 + (digits.length + behind - 3) =
            digits.length + behind := by
          omega
        refine ⟨digits.length + behind - 3, ?_, ?_⟩
        · rw [searchWindow]
          omega
        · rw [standsAt_drop, split, standsAt_behind_digits numeric known]
          exact ⟨behind, rfl, stands⟩

theorem severity_line
    (wide : ∀ part ∈ moment.fraction, 2 ≤ part.2.length) :
    (read fields.line).severity =
      (severityWords.find? fun word =>
        BeginsWithin moment.reach word fields.behindTime).elim
          .unknown Severity.ofWord := by
  rw [severity_read]
  congr 1
  apply List.find?_congr
  intro word known
  simp only [beginsWithin_behindTimestamp_iff written timed wide known]

end Line

/-- The words that announce a severity which no word listed before them does. -/
def plainWords : List Text :=
  ["TRACE", "DEBUG", "INFO", "WARN", "ERROR", "FATAL"]

/-- Where a plain word is seen, it decides unless a word listed before it is seen
too. -/
theorem ofWord_find?_iff {sees : Text → Bool} {word : Text}
    (plain : word ∈ plainWords) (seen : sees word = true) :
    (severityWords.find? sees).elim .unknown Severity.ofWord =
        Severity.ofWord word ↔
      ∀ other ∈ wordsBefore word, sees other = false := by
  have known : ∀ word ∈ plainWords, word ∈ severityWords := by decide
  have different : ∀ word ∈ plainWords, ∀ other ∈ wordsBefore word,
      Severity.ofWord other ≠ Severity.ofWord word := by
    decide +kernel
  obtain ⟨later, split⟩ := exists_severityWords_eq (known word plain)
  rw [split, List.find?_append, List.find?_cons_of_pos seen]
  cases first : (wordsBefore word).find? sees with
  | none =>
      simpa using first
  | some other =>
      have member := List.mem_of_find?_eq_some first
      have otherSeen := List.find?_some first
      constructor
      · intro same
        exact absurd same (different word plain other member)
      · intro unseen
        rw [unseen other member] at otherSeen
        contradiction

/-- The severity of a line is that of the first word listed that begins within
reach of its moment.  It is the severity of the plain word that follows the moment
exactly if the fraction has no more digits than leave this word within reach and
none of the words listed before it begins within reach. -/
theorem structured_severity_iff {fields : Fields} {moment : Moment}
    (written : moment.WellFormed) (timed : fields.time = moment.text)
    (wide : ∀ part ∈ moment.fraction, 2 ≤ part.2.length)
    (plain : fields.word ∈ plainWords) :
    let severity := (LogFormat.structured.read fields.line).severity
    severity =
        (severityWords.find? fun word =>
          BeginsWithin moment.reach word fields.behindTime).elim
            .unknown Severity.ofWord ∧
      (severity = Severity.ofWord fields.word ↔
        (∀ part ∈ moment.fraction, part.2.length ≤ 21) ∧
          ∀ other ∈ wordsBefore fields.word,
            ¬BeginsWithin moment.reach other fields.behindTime) := by
  intro severity
  have first : severity = _ := severity_line written timed wide
  refine ⟨first, ?_⟩
  rw [first, ← Moment.one_lt_reach_iff]
  by_cases inReach : 1 < moment.reach
  · have seen : BeginsWithin moment.reach fields.word fields.behindTime :=
      ⟨1, inReach, standsAt_word⟩
    rw [ofWord_find?_iff plain (decide_eq_true seen)]
    simp only [decide_eq_false_iff_not, inReach, true_and]
  · have unseen : ∀ word ∈ severityWords,
        ¬BeginsWithin moment.reach word fields.behindTime := by
      rintro word known ⟨place, near, stands⟩
      have later := one_le_of_standsAt known stands
      omega
    have none : (severityWords.find? fun word =>
        BeginsWithin moment.reach word fields.behindTime) = none := by
      simpa using unseen
    have announced : ∀ word ∈ plainWords,
        Severity.unknown ≠ Severity.ofWord word := by
      decide +kernel
    rw [none]
    constructor
    · intro same
      exact absurd same (announced fields.word plain)
    · rintro ⟨within, _⟩
      exact absurd within inReach

theorem structured_severity_iff_long_fraction :
    let moment : Moment :=
      { year := "2024", month := "01", day := "15"
        hour := "10", minute := "30", second := "00"
        fraction := some (',', "123456789012345678901") }
    let fields : Fields :=
      { time := moment.text
        word := "ERROR"
        thread := "INFO"
        logger := "DEBUG"
        message := "TRACE" }
    moment.WellFormed ∧
      (∀ part ∈ moment.fraction, 2 ≤ part.2.length) ∧
      fields.word ∈ plainWords ∧
      (LogFormat.structured.read fields.line).severity = .error := by
  intro moment fields
  have written : moment.WellFormed := by
    constructor
    all_goals decide +kernel
  have wide : ∀ part ∈ moment.fraction, 2 ≤ part.2.length := by
    decide +kernel
  have plain : fields.word ∈ plainWords := by
    decide +kernel
  have announced : Severity.ofWord fields.word = .error := by
    decide +kernel
  have law := (structured_severity_iff written rfl wide plain).2
  rw [announced] at law
  exact ⟨written, wide, plain, law.mpr (by decide +kernel)⟩

/-- The word that follows the moment does not always decide: not where the thread
shows a word that is listed before it, not where the fraction has one digit, with
which the first letter of the word is read, and not behind a fraction of
twenty-two digits. -/
theorem structured_severity_misses_word :
    let moment : Moment :=
      { year := "2024", month := "01", day := "15"
        hour := "10", minute := "30", second := "00"
        fraction := none }
    let tenths : Moment := { moment with fraction := some ('.', "1") }
    let long : Moment :=
      { moment with fraction := some ('.', "1234567890123456789012") }
    let line (moment : Moment) (word thread : Text) : Text :=
      Fields.line
        { time := moment.text, word := word, thread := thread
          logger := "x", message := "y" }
    moment.WellFormed ∧ tenths.WellFormed ∧ long.WellFormed ∧
      line moment "INFO" "DEBUG" =
        ("2024-01-15 10:30:00 INFO [DEBUG] x - y" : String) ∧
      Severity.ofWord "INFO" = .info ∧
      (LogFormat.structured.read (line moment "INFO" "DEBUG")).severity =
        .debug ∧
      Severity.ofWord "ERROR" = .error ∧
      (LogFormat.structured.read (line tenths "ERROR" "main")).severity =
        .unknown ∧
      (LogFormat.structured.read (line long "ERROR" "main")).severity =
        .unknown := by
  intro moment tenths long line
  have written : moment.WellFormed := by
    constructor
    all_goals decide +kernel
  have tenthsWritten : tenths.WellFormed := by
    constructor
    all_goals decide +kernel
  have longWritten : long.WellFormed := by
    constructor
    all_goals decide +kernel
  exact ⟨written, tenthsWritten, longWritten, by decide +kernel⟩

end Structured

end LogLens
