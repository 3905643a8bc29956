import LogLens.Proofs.Text.Search
import LogLens.Record

/-!
# Lines of logging frameworks that are written and read

Whether a text opens with a date and a time, and how many of its characters they
take, is settled by its length and by three places of it.  So it is settled by the
start of the text, whatever follows.

The words are sought one after the other, each of them near the start of what
stands behind the time.  So a word is found if it begins there and none that is
listed before it does, and the severity is that of the first word listed that
begins there.

A line of a logging framework is put together from its fields and read as these
fields again.  The time decides by its own width whether it has a fraction, the
thread and the logger are read as one source, and they may hold anything that
does not show a severity or an end of the source too soon.
-/

namespace LogLens

namespace DatePrefix

/-- The text is wide enough for a date and a time, and separators stand where a
date has them. -/
structure Dated (text : Text) : Prop where
  long : 19 ≤ text.length
  separated : ∀ place ∈ [4, 7], text[place]? = some '-' ∨ text[place]? = some '/'

/-- How many characters the date and the time take, with the fraction if there is
one. -/
def width (text : Text) : Nat :=
  if hasFraction text then fractionLength else dateTimeLength

variable {text : Text}

theorem Dated.isDate (dated : Dated text) : isDate ["-", "/"] text = true := by
  rcases dated.separated 4 (by decide) with year | year <;>
    rcases dated.separated 7 (by decide) with month | month <;>
    rw [DatePrefix.isDate, year, month] <;> rfl

theorem Dated.append (dated : Dated text) (rest : Text) : Dated (text ++ rest) := by
  have long := dated.long
  constructor
  · rw [List.length_append]
    exact Nat.le_add_right_of_le long
  · intro place member
    have inside : place < text.length := by
      simp only [List.mem_cons, List.not_mem_nil, or_false] at member
      omega
    rw [List.getElem?_append_left inside]
    exact dated.separated place member

theorem hasFraction_iff :
    hasFraction text = true ↔
      23 < text.length ∧ (text[19]? = some '.' ∨ text[19]? = some ',') := by
  change hasFraction text = true ↔ fractionLength < text.length ∧
    (text[dateTimeLength]? = some '.' ∨ text[dateTimeLength]? = some ',')
  simp [hasFraction]

theorem width_of_fraction (fraction : hasFraction text = true) :
    width text = 23 :=
  if_pos fraction

theorem width_of_no_fraction (whole : ¬hasFraction text = true) :
    width text = 19 :=
  if_neg whole

theorem width_append_space {front : Text} (fills : front.length = 19)
    (rest : Text) : width (front ++ ' ' :: rest) = 19 := by
  apply width_of_no_fraction
  rw [hasFraction_iff, List.getElem?_append_right (by omega), fills]
  simp

theorem Dated.width_le (dated : Dated text) : width text ≤ text.length := by
  by_cases fraction : hasFraction text = true
  · rw [width_of_fraction fraction]
    exact Nat.le_of_lt (hasFraction_iff.mp fraction).1
  · rw [width_of_no_fraction fraction]
    exact dated.long

end DatePrefix

namespace Structured

/-- The word begins in the text at a place below the bound. -/
def BeginsWithin (bound : Nat) (word text : Text) : Prop :=
  ∃ place < bound, StandsAt word text place

instance {bound : Nat} {word text : Text} :
    Decidable (BeginsWithin bound word text) :=
  inferInstanceAs (Decidable (∃ place < bound, StandsAt word text place))

/-- The words that are sought before the given one. -/
def wordsBefore (word : Text) : List Text :=
  severityWords.takeWhile (· ≠ word)

theorem exists_severityWords_eq {word : Text} (known : word ∈ severityWords) :
    ∃ later, severityWords = wordsBefore word ++ word :: later := by
  obtain ⟨before, later, split, absent⟩ := List.eq_append_cons_of_mem known
  have others : ∀ other ∈ before, decide (other ≠ word) = true := by
    intro other member
    apply decide_eq_true
    rintro rfl
    exact absent member
  have stops : ∀ other ∈ (word :: later).head?, decide (other ≠ word) = false := by
    simp
  have run := (takeWhile_append_of_ends stops others).1
  rw [← split] at run
  exact ⟨later, by rw [wordsBefore, run, split]⟩

theorem exists_first_of_standsAt {word text : Text} {place : Nat}
    (known : word ∈ severityWords) (stands : StandsAt word text place) :
    ∃ first, text[place]? = some first ∧ first ≠ ' ' ∧ first.isDigit = false := by
  have opening : ∀ word ∈ severityWords,
      word.head?.any (fun first => first ≠ ' ' ∧ first.isDigit = false) = true := by
    decide +kernel
  obtain ⟨first, opens, kind⟩ :=
    (Option.any_eq_true _ word.head?).mp (opening word known)
  obtain ⟨rest, rfl⟩ := List.head?_eq_some_iff.mp opens
  exact ⟨first, stands.getElem?, of_decide_eq_true kind⟩

section Search

variable {text word : Text}

theorem word_findWord? :
    (findWord? text word).map FoundWord.word =
      if BeginsWithin searchWindow word text then some word else none := by
  rw [findWord?]
  cases cut : cutAt word text with
  | none =>
      have nowhere : ¬BeginsWithin searchWindow word text := by
        rintro ⟨place, _, stands⟩
        have occurs := occursIn_iff_exists_standsAt.mpr ⟨place, stands⟩
        rw [cutAt_eq_none_iff.mp cut] at occurs
        contradiction
      simp [nowhere]
  | some parts =>
      obtain ⟨before, after⟩ := parts
      obtain ⟨_, first⟩ := cutAt_eq_some_iff.mp cut
      by_cases near : before.length < searchWindow
      · have begins : BeginsWithin searchWindow word text :=
          ⟨before.length, near, standsAt_of_cutAt cut⟩
        simp [near, begins]
      · have late : ¬BeginsWithin searchWindow word text := by
          rintro ⟨place, inside, stands⟩
          exact first place (by omega) stands
        simp [near, late]

theorem word_findSeverity? :
    (findSeverity? text).map FoundWord.word =
      severityWords.find? fun word => BeginsWithin searchWindow word text := by
  rw [findSeverity?, List.map_findSome?, ← List.findSome?_guard]
  congr 1
  funext word
  rw [Function.comp_apply, word_findWord?, Option.guard]
  simp

theorem findSeverity?_of_first (known : word ∈ severityWords)
    (first : ∀ other ∈ wordsBefore word, ¬BeginsWithin searchWindow other text)
    {found : FoundWord} (here : findWord? text word = some found) :
    findSeverity? text = some found := by
  obtain ⟨later, split⟩ := exists_severityWords_eq known
  rw [findSeverity?, List.findSome?_eq_some_iff]
  refine ⟨wordsBefore word, word, later, split, here, ?_⟩
  intro other member
  rw [← Option.map_eq_none_iff, word_findWord?, if_neg (first other member)]

end Search

/-- The text behind the time that is read from it. -/
def behindTimestamp (text : Text) : Text :=
  text.drop (timestamp text).length

/-- The severity of a line is that of the first word listed that begins near
enough to the time. -/
theorem severity_read (text : Text) :
    (read text).severity =
      ((severityWords.find? fun word =>
        BeginsWithin searchWindow word (behindTimestamp text)).elim
          .unknown Severity.ofWord) := by
  rw [← word_findSeverity?]
  simp only [read, behindTimestamp]
  cases findSeverity? (text.drop (timestamp text).length) with
  | none => rfl
  | some found => rfl

end Structured

namespace Structured

section Timestamp

variable {text : Text} (dated : DatePrefix.Dated text)

include dated

theorem timestamp_of_dated : timestamp text = text.take (DatePrefix.width text) :=
  if_pos ⟨dated.long, dated.isDate⟩

theorem behindTimestamp_of_dated :
    behindTimestamp text = text.drop (DatePrefix.width text) := by
  rw [behindTimestamp, timestamp_of_dated dated, List.length_take,
    Nat.min_eq_left dated.width_le]

end Timestamp

/-- What a line of a logging framework states. -/
structure Fields where
  time : Text
  word : Text
  thread : Text
  logger : Text
  message : Text
  deriving DecidableEq, Repr

namespace Fields

/-- The thread and the logger with the bracket between them, as they are read. -/
def source (fields : Fields) : Text :=
  fields.thread ++ "] " ++ fields.logger

def behindWord (fields : Fields) : Text :=
  " [" ++ fields.source ++ sourceDelimiter ++ fields.message

def behindTime (fields : Fields) : Text :=
  " " ++ fields.word ++ fields.behindWord

def line (fields : Fields) : Text :=
  fields.time ++ fields.behindTime

theorem behindTime_eq (fields : Fields) :
    fields.behindTime = ' ' :: (fields.word ++ fields.behindWord) :=
  rfl

theorem behindTime_length (fields : Fields) :
    8 ≤ fields.behindTime.length := by
  have shape : fields.behindTime =
      ' ' :: (fields.word ++ ' ' :: '[' :: (fields.thread ++ ']' :: ' ' ::
        (fields.logger ++ ' ' :: '-' :: ' ' :: fields.message))) := by
    simp [behindTime, behindWord, source, sourceDelimiter]
  simp only [shape, List.length_cons, List.length_append]
  omega

/-- The time has the layout of one without or with a fraction, the word is found
before the others, nothing is trimmed off the source, and the delimiter in front
of the message is the first one.  The word that contains another one is never
found first. -/
structure Separable (fields : Fields) : Prop where
  timeFills : fields.time.length = 19 ∨
    fields.time.length = 23 ∧
      (fields.time[19]? = some '.' ∨ fields.time[19]? = some ',')
  timeDated : ∀ place ∈ [4, 7],
    fields.time[place]? = some '-' ∨ fields.time[place]? = some '/'
  wordKnown : fields.word ∈ severityWords
  wordFirst : ∀ other ∈ wordsBefore fields.word,
    ¬BeginsWithin 20 other fields.behindTime
  threadOpens : fields.thread ≠ [] ∧
    fields.thread.head? ≠ some ' ' ∧ fields.thread.head? ≠ some '['
  loggerCloses : fields.logger ≠ [] ∧
    fields.logger.getLast? ≠ some ' ' ∧ fields.logger.getLast? ≠ some ']'
  delimiterFirst : ∀ place < (" [" ++ fields.source).length,
    ¬StandsAt sourceDelimiter fields.behindWord place

end Fields

section Line

variable {fields : Fields}

theorem one_le_of_standsAt {word : Text} {place : Nat}
    (known : word ∈ severityWords)
    (stands : StandsAt word fields.behindTime place) : 1 ≤ place := by
  rcases Nat.eq_zero_or_pos place with rfl | later
  · obtain ⟨first, opens, noSpace, _⟩ := exists_first_of_standsAt known stands
    rw [fields.behindTime_eq, List.getElem?_cons_zero] at opens
    exact absurd (Option.some.inj opens).symm noSpace
  · exact later

theorem findWord?_behindTime (known : fields.word ∈ severityWords) :
    findWord? fields.behindTime fields.word =
      some ⟨fields.word, fields.behindWord⟩ := by
  have cut : cutAt fields.word fields.behindTime =
      some ([' '], fields.behindWord) := by
    rw [cutAt_eq_some_iff]
    refine ⟨rfl, ?_⟩
    intro place inside stands
    have later := one_le_of_standsAt known stands
    rw [List.length_singleton] at inside
    omega
  rw [findWord?, cut]
  rfl

variable (separable : fields.Separable)

include separable

theorem time_dated : DatePrefix.Dated fields.time := by
  refine ⟨?_, separable.timeDated⟩
  rcases separable.timeFills with width | ⟨width, _⟩ <;> omega

/-- The line has a fraction exactly where its time has the width of one. -/
theorem width_line : DatePrefix.width fields.line = fields.time.length := by
  rcases separable.timeFills with width | ⟨width, marked⟩
  · rw [Fields.line, fields.behindTime_eq, DatePrefix.width_append_space width,
      width]
  · have inside : 19 < fields.time.length := by omega
    have fraction : DatePrefix.hasFraction fields.line = true := by
      rw [DatePrefix.hasFraction_iff]
      constructor
      · have behind := fields.behindTime_length
        rw [Fields.line, List.length_append, width]
        omega
      · rw [Fields.line, List.getElem?_append_left inside]
        exact marked
    rw [DatePrefix.width_of_fraction fraction, width]

theorem timestamp_line : timestamp fields.line = fields.time := by
  have dated : DatePrefix.Dated fields.line := (time_dated separable).append _
  rw [timestamp_of_dated dated, width_line separable, Fields.line,
    List.take_left]

theorem findSeverity?_behindTime :
    findSeverity? fields.behindTime = some ⟨fields.word, fields.behindWord⟩ :=
  findSeverity?_of_first separable.wordKnown separable.wordFirst
    (findWord?_behindTime separable.wordKnown)

theorem trimSource_source :
    trimSource (" [" ++ fields.source) = fields.source := by
  obtain ⟨threadFilled, noSpace, noOpening⟩ := separable.threadOpens
  obtain ⟨loggerFilled, noBlank, noClosing⟩ := separable.loggerCloses
  have threadFirst : fields.source.head? = fields.thread.head? := by
    obtain ⟨first, rest, thread⟩ := List.exists_cons_of_ne_nil threadFilled
    simp [Fields.source, thread]
  have loggerLast : fields.source.reverse.head? = fields.logger.getLast? := by
    rw [List.head?_reverse, Fields.source, List.getLast?_append]
    exact Option.or_of_isSome (List.getLast?_isSome.mpr loggerFilled)
  have sourceOpens : ∀ first ∈ fields.source.head?,
      decide (first = ' ' ∨ first = '[') = false := by
    rw [threadFirst]
    intro first opens
    apply decide_eq_false
    rintro (rfl | rfl)
    · exact noSpace opens
    · exact noOpening opens
  have sourceCloses : ∀ last ∈ fields.source.reverse.head?,
      decide (last = ' ' ∨ last = ']') = false := by
    rw [loggerLast]
    intro last closes
    apply decide_eq_false
    rintro (rfl | rfl)
    · exact noBlank closes
    · exact noClosing closes
  have bracket : ∀ char ∈ (" [" : Text),
      decide (char = ' ' ∨ char = '[') = true := by
    simp
  rw [trimSource, (takeWhile_append_of_ends sourceOpens bracket).2,
    (takeWhile_of_ends sourceCloses).2, List.reverse_reverse]

theorem sourceAndMessage_behindWord :
    sourceAndMessage fields.behindWord = (fields.source, fields.message) := by
  have cut : cutAt sourceDelimiter fields.behindWord =
      some (" [" ++ fields.source, fields.message) :=
    cutAt_eq_some_iff.mpr ⟨rfl, separable.delimiterFirst⟩
  rw [sourceAndMessage, cut]
  simp only [trimSource_source separable]

end Line

/-- A line that is put together from separable fields is read as exactly these
fields, the thread and the logger together as its source.  Where the message is
empty, the whole line stands for it. -/
theorem structured_read_line {fields : Fields} (separable : fields.Separable) :
    LogFormat.structured.read fields.line =
      { message := if fields.message = [] then fields.line else fields.message
        timestamp := fields.time
        severity := Severity.ofWord fields.word
        source := fields.thread ++ "] " ++ fields.logger } := by
  have behind : fields.line.drop fields.time.length = fields.behindTime :=
    List.drop_left
  change read fields.line = _
  simp only [read, timestamp_line separable, behind,
    findSeverity?_behindTime separable, sourceAndMessage_behindWord separable,
    Fields.source]

theorem structured_read_line_brackets :
    let talking : Fields :=
      { time := "2024/01-15T10:30:00,12Z"
        word := "WARN"
        thread := "a] [b-"
        logger := "-x ERROR"
        message := "INFO - y" }
    let silent : Fields :=
      { time := "2024-01-15 10:30:00"
        word := "CRITICAL"
        thread := "] "
        logger := " ["
        message := "" }
    talking.Separable ∧
      LogFormat.structured.read talking.line =
        { message := "INFO - y"
          timestamp := "2024/01-15T10:30:00,12Z"
          severity := .warning
          source := "a] [b-] -x ERROR" } ∧
      silent.Separable ∧
      LogFormat.structured.read silent.line =
        { message := "2024-01-15 10:30:00 CRITICAL [] ]  [ - "
          timestamp := "2024-01-15 10:30:00"
          severity := .fatal
          source := "] ]  [" } := by
  intro talking silent
  have talkingSeparable : talking.Separable := by
    constructor
    all_goals decide +kernel
  have silentSeparable : silent.Separable := by
    constructor
    all_goals decide +kernel
  refine ⟨talkingSeparable, ?_, silentSeparable, ?_⟩
  · rw [structured_read_line talkingSeparable]
    decide +kernel
  · rw [structured_read_line silentSeparable]
    decide +kernel

end Structured

end LogLens
