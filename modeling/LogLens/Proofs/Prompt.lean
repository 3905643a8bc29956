import Mathlib.Data.List.Basic
import LogLens.Prompt
import LogLens.Proofs.Text.Search
import LogLens.Text.Basic

/-!
# The severities that a prompt shows

A relation tells what an array of strings says that is written in JSON.  A
string stands between quotes, and a quote, a backslash or a control character is
only written by an escape.  An escape takes more characters than the one that it
stands for, and a quote inside of a string is seen behind its backslash only.
So a text that is put between quotes as it is says itself exactly if it needs no
escape.

A prompt shows the names of severities as an array, each name between quotes as
it is.  This is the array of the names exactly if none of them has a character
that would have to be escaped.  Names without commas are shown the same, whether
they come in a list or joined by commas.
-/

namespace LogLens

namespace Json

/-- A character that stands for itself between quotes. -/
def IsPlain (char : Char) : Prop :=
  char ≠ '"' ∧ char ≠ '\\' ∧ 0x20 ≤ char.toNat

instance : DecidablePred IsPlain :=
  fun char => inferInstanceAs (Decidable (char ≠ '"' ∧ char ≠ '\\' ∧ 0x20 ≤ char.toNat))

/-- The letters that a backslash gives a meaning to, with this meaning. -/
def letters : List (Char × Char) :=
  [ ('"', '"'), ('\\', '\\'), ('/', '/'), ('b', '\x08'), ('f', '\x0c'), ('n', '\n'),
    ('r', '\r'), ('t', '\t') ]

def hexDigit? (char : Char) : Option Nat :=
  if '0' ≤ char ∧ char ≤ '9' then some (char.toNat - '0'.toNat)
  else if 'a' ≤ char ∧ char ≤ 'f' then some (char.toNat - 'a'.toNat + 10)
  else if 'A' ≤ char ∧ char ≤ 'F' then some (char.toNat - 'A'.toNat + 10)
  else none

/-- Four hexadecimal digits and the number that they write. -/
structure IsCodeUnit (digits : Text) (value : Nat) : Prop where
  four : digits.length = 4
  numeric : ∀ digit ∈ digits, hexDigit? digit ≠ none
  value : value =
    digits.foldl (fun value digit => value * 16 + (hexDigit? digit).getD 0) 0

/-- The two units that write a character beyond the first 65536. -/
def IsPair (char : Char) (high low : Nat) : Prop :=
  0xD800 ≤ high ∧ high < 0xDC00 ∧ 0xDC00 ≤ low ∧ low < 0xE000 ∧
    char.toNat = 0x10000 + (high - 0xD800) * 0x400 + (low - 0xDC00)

/-- One character of a string as it is written, and the character that it is. -/
inductive CharWritten : Text → Char → Prop where
  | plain {char : Char} : IsPlain char → CharWritten [char] char
  | letter {letter char : Char} : (letter, char) ∈ letters →
      CharWritten ['\\', letter] char
  | code {digits : Text} {char : Char} : IsCodeUnit digits char.toNat →
      CharWritten ('\\' :: 'u' :: digits) char
  | pair {first second : Text} {high low : Nat} {char : Char} :
      IsCodeUnit first high → IsCodeUnit second low → IsPair char high low →
      CharWritten ('\\' :: 'u' :: (first ++ '\\' :: 'u' :: second)) char

/-- What stands between the quotes of a string, and the text that it is. -/
inductive Written : Text → Text → Prop where
  | nil : Written [] []
  | cons {code rest : Text} {char : Char} {text : Text} :
      CharWritten code char → Written rest text → Written (code ++ rest) (char :: text)

/-- Whether a character may stand between the parts of an array without being one. -/
def isGapChar (char : Char) : Bool :=
  [' ', '\t', '\n', '\r'].contains char

def IsGap (text : Text) : Prop :=
  ∀ char ∈ text, isGapChar char = true

/-- Strings, one or more, with commas between them, and the texts that they are. -/
inductive ItemsWritten : Text → List Text → Prop where
  | last {before body after text : Text} :
      IsGap before → Written body text → IsGap after →
      ItemsWritten (before ++ '"' :: (body ++ '"' :: after)) [text]
  | more {before body after rest text : Text} {texts : List Text} :
      IsGap before → Written body text → IsGap after → ItemsWritten rest texts →
      ItemsWritten (before ++ '"' :: (body ++ '"' :: (after ++ ',' :: rest)))
        (text :: texts)

/-- An array of strings as it is written, and the texts that it holds. -/
inductive ArrayWritten : Text → List Text → Prop where
  | empty {before inside after : Text} :
      IsGap before → IsGap inside → IsGap after →
      ArrayWritten (before ++ '[' :: (inside ++ ']' :: after)) []
  | filled {before items after : Text} {texts : List Text} :
      IsGap before → ItemsWritten items texts → IsGap after →
      ArrayWritten (before ++ '[' :: (items ++ ']' :: after)) texts

theorem IsCodeUnit.quote_not_mem {digits : Text} {value : Nat} (unit : IsCodeUnit digits value) :
    '"' ∉ digits :=
  fun member => unit.numeric '"' member (by decide)

/-- A character is written as itself, or behind a backslash, and a quote shows in what
is written only if it is the character and stands right behind the backslash. -/
theorem CharWritten.shape {code : Text} {char : Char} (written : CharWritten code char) :
    (code = [char] ∧ IsPlain char) ∨
      ∃ rest, code = '\\' :: rest ∧ rest ≠ [] ∧
        ('"' ∈ code → code = ['\\', '"'] ∧ char = '"') := by
  cases written with
  | plain isPlain => exact .inl ⟨rfl, isPlain⟩
  | @letter letter _ listed =>
      refine .inr ⟨[letter], rfl, by simp, ?_⟩
      intro quoted
      have same : letter = '"' := by simpa [eq_comm] using quoted
      subst same
      simp [letters] at listed
      exact ⟨rfl, listed⟩
  | @code digits _ unit =>
      refine .inr ⟨'u' :: digits, rfl, by simp, ?_⟩
      intro quoted
      have absent := unit.quote_not_mem
      simp [absent] at quoted
  | @pair first second _ _ _ unit other _ =>
      refine .inr ⟨_, rfl, by simp, ?_⟩
      intro quoted
      have absent := unit.quote_not_mem
      have absentToo := other.quote_not_mem
      simp [absent, absentToo] at quoted

namespace Written

variable {body text : Text}

theorem length_le (written : Written body text) : text.length ≤ body.length := by
  induction written with
  | nil => exact Nat.le_refl _
  | @cons code rest char text one _ induction =>
      have filled : 1 ≤ code.length := by
        rcases one.shape with ⟨rfl, _⟩ | ⟨_, rfl, _⟩ <;> simp
      simp only [List.length_append, List.length_cons]
      omega

theorem eq_of_length_le (written : Written body text) (short : body.length ≤ text.length) :
    body = text ∧ ∀ char ∈ text, IsPlain char := by
  induction written with
  | nil => simp
  | @cons code rest char text one others induction =>
      have grown := others.length_le
      rcases one.shape with ⟨rfl, isPlain⟩ | ⟨escape, rfl, some, _⟩
      · obtain ⟨rfl, arePlain⟩ := induction (by simpa using short)
        exact ⟨rfl, List.forall_mem_cons.mpr ⟨isPlain, arePlain⟩⟩
      · have two : 1 ≤ escape.length := List.length_pos_iff.mpr some
        simp only [List.length_append, List.length_cons] at short
        omega

/-- A quote in a text comes sooner than in what is written, where a backslash stands in
front of it. -/
theorem idxOf_quote_lt (written : Written body text) (quoted : '"' ∈ body) :
    text.idxOf '"' < body.idxOf '"' := by
  induction written with
  | nil => simp at quoted
  | @cons code rest char text one others induction =>
      rcases one.shape with ⟨rfl, isPlain⟩ | ⟨escape, rfl, some, exposed⟩
      · have inRest : '"' ∈ rest := by
          simpa [isPlain.1.symm] using quoted
        have sooner := induction inRest
        rw [List.singleton_append, List.idxOf_cons_ne _ isPlain.1,
          List.idxOf_cons_ne _ isPlain.1]
        omega
      · by_cases inCode : '"' ∈ '\\' :: escape
        · obtain ⟨code, rfl⟩ := exposed inCode
          rw [code, List.idxOf_cons_self]
          simp
        · have inRest : '"' ∈ rest := by
            simpa [inCode] using List.mem_append.mp quoted
          have sooner := induction inRest
          have atMost : (char :: text).idxOf '"' ≤ text.idxOf '"' + 1 := by
            rw [List.idxOf_cons]
            cases char == '"' <;> simp
          rw [List.idxOf_append_of_notMem inCode, List.length_cons]
          omega

/-- Between its quotes, a text says itself only if it is plain. -/
theorem eq_of_closed {rest after : Text} (written : Written body text)
    (same : body ++ '"' :: rest = text ++ '"' :: after) :
    (∀ char ∈ text, IsPlain char) ∧ body = text ∧ rest = after := by
  have first : ∀ front back : Text, (front ++ '"' :: back).idxOf '"' = front.idxOf '"' := by
    intro front back
    by_cases member : '"' ∈ front
    · exact List.idxOf_append_of_mem member
    · rw [List.idxOf_append_of_notMem member, List.idxOf_cons_self,
        List.idxOf_of_notMem member, Nat.add_zero]
  have place : body.idxOf '"' = text.idxOf '"' := by
    rw [← first body rest, same, first]
  -- The first quote closes what is written, so this is no longer than the text.
  have unquoted : '"' ∉ body := by
    intro quoted
    have sooner := written.idxOf_quote_lt quoted
    omega
  have short : body.length ≤ text.length := by
    rw [← List.idxOf_of_notMem unquoted, place]
    exact List.idxOf_le_length
  obtain ⟨rfl, arePlain⟩ := written.eq_of_length_le short
  have tails := List.append_cancel_left same
  exact ⟨arePlain, rfl, List.tail_eq_of_cons_eq tails⟩

theorem of_plain (arePlain : ∀ char ∈ text, IsPlain char) : Written text text := by
  induction text with
  | nil => exact .nil
  | cons char text induction =>
      obtain ⟨isPlain, others⟩ := List.forall_mem_cons.mp arePlain
      exact .cons (.plain isPlain) (induction others)

/-- Between its quotes, a plain text says nothing but itself. -/
theorem eq_of_plain {said rest after : Text} (written : Written body said)
    (arePlain : ∀ char ∈ text, IsPlain char)
    (same : body ++ '"' :: rest = text ++ '"' :: after) : said = text := by
  induction written generalizing text with
  | nil =>
      cases text with
      | nil => rfl
      | cons char text =>
          have isPlain := (List.forall_mem_cons.mp arePlain).1
          exact absurd (List.head_eq_of_cons_eq same).symm isPlain.1
  | @cons code front char said one _ induction =>
      cases text with
      | nil =>
          rcases one.shape with ⟨rfl, isPlain⟩ | ⟨_, rfl, _⟩
          · exact absurd (List.head_eq_of_cons_eq same) isPlain.1
          · exact absurd (List.head_eq_of_cons_eq same) (by decide)
      | cons own text =>
          obtain ⟨isPlain, others⟩ := List.forall_mem_cons.mp arePlain
          rcases one.shape with ⟨rfl, _⟩ | ⟨_, rfl, _⟩
          · have heads := List.head_eq_of_cons_eq same
            rw [heads, induction others (List.tail_eq_of_cons_eq same)]
          · exact absurd (List.head_eq_of_cons_eq same).symm isPlain.2.1

end Written

theorem IsGap.takeWhile {gap : Text} (isGap : IsGap gap) {mark : Char}
    (solid : isGapChar mark = false) (rest : Text) :
    (gap ++ mark :: rest).takeWhile isGapChar = gap := by
  have ends : ∀ char ∈ (mark :: rest).head?, isGapChar char = false := by
    intro char first
    rwa [← Option.some.inj first]
  exact (takeWhile_append_of_ends ends isGap).1

theorem IsGap.eq_of_solid {before front after back : Text} {mark sign : Char}
    (gap : IsGap before) (other : IsGap front) (solid : isGapChar mark = false)
    (solidToo : isGapChar sign = false)
    (same : before ++ mark :: after = front ++ sign :: back) :
    before = front ∧ mark = sign ∧ after = back := by
  have taken := gap.takeWhile solid after
  rw [same, other.takeWhile solidToo back] at taken
  rw [taken] at same
  exact ⟨taken.symm, List.cons.inj (List.append_cancel_left same)⟩

theorem isGap_nil : IsGap [] := by
  simp [IsGap]

/-- Texts that are put between quotes as they are, with commas between them. -/
def enclosed (texts : List Text) : Text :=
  [',', ' '].intercalate (texts.map fun text => ['"'] ++ text ++ ['"'])

theorem enclosed_singleton (text : Text) : enclosed [text] = '"' :: (text ++ ['"']) := by
  simp [enclosed]

theorem enclosed_cons_cons (text next : Text) (texts : List Text) :
    enclosed (text :: next :: texts) =
      '"' :: (text ++ '"' :: ',' :: ' ' :: enclosed (next :: texts)) := by
  simp [enclosed, List.intercalate_cons_cons]

theorem Written.agree {body said text rest after : Text} (written : Written body said)
    (settled : said = text ∨ ∀ char ∈ text, IsPlain char)
    (same : body ++ '"' :: rest = text ++ '"' :: after) :
    (∀ char ∈ text, IsPlain char) ∧ said = text ∧ rest = after := by
  have settled : said = text := by
    rcases settled with settled | arePlain
    · exact settled
    · exact written.eq_of_plain arePlain same
  subst settled
  obtain ⟨arePlain, _, tails⟩ := written.eq_of_closed same
  exact ⟨arePlain, rfl, tails⟩

/-- What the first of several strings leads on to, where it is known to be a text or its
text is plain. -/
theorem ItemsWritten.first {lead text tail : Text} {said : List Text} (gap : IsGap lead)
    (written : ItemsWritten (lead ++ '"' :: (text ++ '"' :: tail)) said)
    (settled : said.head? = some text ∨ ∀ char ∈ text, IsPlain char) :
    (∀ char ∈ text, IsPlain char) ∧
      ((IsGap tail ∧ said = [text]) ∨
        ∃ after items texts, IsGap after ∧ tail = after ++ ',' :: items ∧
          ItemsWritten items texts ∧ said = text :: texts) := by
  have quote : isGapChar '"' = false := by decide
  generalize shape : lead ++ '"' :: (text ++ '"' :: tail) = whole at written
  cases written with
  | last before one after =>
      obtain ⟨_, _, same⟩ := gap.eq_of_solid before quote quote shape
      obtain ⟨arePlain, rfl, rfl⟩ := one.agree (settled.imp_left Option.some.inj) same.symm
      exact ⟨arePlain, .inl ⟨after, rfl⟩⟩
  | more before one after others =>
      obtain ⟨_, _, same⟩ := gap.eq_of_solid before quote quote shape
      obtain ⟨arePlain, rfl, rfl⟩ := one.agree (settled.imp_left Option.some.inj) same.symm
      exact ⟨arePlain, .inr ⟨_, _, _, after, rfl, others, rfl⟩⟩

/-- Strings with commas between them are the texts between their quotes, where they are
known to be these texts or the texts are plain. -/
theorem ItemsWritten.agree {lead text : Text} {texts said : List Text} (gap : IsGap lead)
    (written : ItemsWritten (lead ++ enclosed (text :: texts)) said)
    (settled : said = text :: texts ∨ ∀ own ∈ text :: texts, ∀ char ∈ own, IsPlain char) :
    (∀ own ∈ text :: texts, ∀ char ∈ own, IsPlain char) ∧ said = text :: texts := by
  have firstSettled : said.head? = some text ∨ ∀ char ∈ text, IsPlain char :=
    settled.imp (congrArg List.head?) fun arePlain => (List.forall_mem_cons.mp arePlain).1
  induction texts generalizing lead text said with
  | nil =>
      rw [enclosed_singleton] at written
      obtain ⟨arePlain, ⟨_, only⟩ | ⟨_, _, _, _, nothing, _⟩⟩ := written.first gap firstSettled
      · exact ⟨List.forall_mem_singleton.mpr arePlain, only⟩
      · simp at nothing
  | cons next texts induction =>
      have comma : isGapChar ',' = false := by decide
      have space : IsGap [' '] := List.forall_mem_singleton.mpr (by decide)
      rw [enclosed_cons_cons] at written
      obtain ⟨arePlain, ⟨isGap, _⟩ | ⟨after, items, others, gapAfter, behind, rest, rfl⟩⟩ :=
        written.first gap firstSettled
      · exact absurd (isGap ',' List.mem_cons_self) (by simp [comma])
      · obtain ⟨_, _, rfl⟩ := isGap_nil.eq_of_solid gapAfter comma comma behind
        have restSettled : others = next :: texts ∨
            ∀ own ∈ next :: texts, ∀ char ∈ own, IsPlain char :=
          settled.imp List.tail_eq_of_cons_eq fun all => (List.forall_mem_cons.mp all).2
        obtain ⟨othersPlain, rfl⟩ := induction space rest restSettled
          (restSettled.imp (congrArg List.head?) fun all => (List.forall_mem_cons.mp all).1)
        exact ⟨List.forall_mem_cons.mpr ⟨arePlain, othersPlain⟩, rfl⟩

theorem ItemsWritten.of_plain (lead : Text) (gap : IsGap lead) (text : Text)
    (texts : List Text) (arePlain : ∀ own ∈ text :: texts, ∀ char ∈ own, IsPlain char) :
    ItemsWritten (lead ++ enclosed (text :: texts)) (text :: texts) := by
  obtain ⟨isPlain, others⟩ := List.forall_mem_cons.mp arePlain
  induction texts generalizing lead text with
  | nil =>
      rw [enclosed_singleton]
      exact .last gap (.of_plain isPlain) isGap_nil
  | cons next texts induction =>
      have space : IsGap [' '] := List.forall_mem_singleton.mpr (by decide)
      obtain ⟨nextPlain, rest⟩ := List.forall_mem_cons.mp others
      rw [enclosed_cons_cons]
      exact .more gap (.of_plain isPlain) isGap_nil
        (induction [' '] space next others nextPlain rest)

/-- What stands between the brackets of an array. -/
theorem ArrayWritten.inside {inner : Text} {said : List Text}
    (written : ArrayWritten ('[' :: (inner ++ [']'])) said) :
    (said = [] ∧ IsGap inner) ∨ ItemsWritten inner said := by
  have opening : isGapChar '[' = false := by decide
  have closing : isGapChar ']' = false := by decide
  have closed : ∀ {content after : Text}, IsGap after →
      inner ++ [']'] = content ++ ']' :: after → inner = content := by
    intro content after gap same
    have backwards := congrArg List.reverse same
    simp only [List.reverse_append, List.reverse_cons, List.reverse_nil, List.nil_append,
      List.append_assoc, List.singleton_append] at backwards
    have reversed : IsGap after.reverse := fun char member =>
      gap char (List.mem_reverse.mp member)
    exact List.reverse_injective
      (isGap_nil.eq_of_solid reversed closing closing backwards).2.2
  generalize shape : '[' :: (inner ++ [']']) = whole at written
  cases written with
  | empty before gap after =>
      obtain ⟨_, _, same⟩ := isGap_nil.eq_of_solid before opening opening shape
      rw [closed after same]
      exact .inl ⟨rfl, gap⟩
  | filled before items after =>
      obtain ⟨_, _, same⟩ := isGap_nil.eq_of_solid before opening opening shape
      rw [closed after same]
      exact .inr items

theorem ItemsWritten.ne_nil {items : Text} {said : List Text}
    (written : ItemsWritten items said) : items ≠ [] := by
  cases written <;> simp

theorem ArrayWritten.agree {texts said : List Text}
    (written : ArrayWritten ('[' :: (enclosed texts ++ [']'])) said)
    (settled : said = texts ∨ ∀ text ∈ texts, ∀ char ∈ text, IsPlain char) :
    (∀ text ∈ texts, ∀ char ∈ text, IsPlain char) ∧ said = texts := by
  rcases written.inside with ⟨rfl, gap⟩ | items
  · cases texts with
    | nil => simp
    | cons text texts =>
        have quoted : '"' ∈ enclosed (text :: texts) := by
          cases texts with
          | nil => simp [enclosed_singleton]
          | cons next texts => simp [enclosed_cons_cons]
        exact absurd (gap '"' quoted) (by decide)
  · cases texts with
    | nil => exact absurd rfl items.ne_nil
    | cons text texts => exact items.agree isGap_nil settled

theorem ArrayWritten.of_plain {texts : List Text}
    (arePlain : ∀ text ∈ texts, ∀ char ∈ text, IsPlain char) :
    ArrayWritten ('[' :: (enclosed texts ++ [']'])) texts := by
  cases texts with
  | nil => exact .empty isGap_nil isGap_nil isGap_nil
  | cons text texts =>
      exact .filled isGap_nil (.of_plain [] isGap_nil text texts arePlain) isGap_nil

/-- Texts that are put between quotes as they are make up an array of just these texts
exactly if all of them are plain. -/
theorem arrayWritten_enclosed_iff (texts : List Text) :
    (∀ said, ArrayWritten ('[' :: (enclosed texts ++ [']'])) said ↔ said = texts) ↔
      ∀ text ∈ texts, ∀ char ∈ text, IsPlain char := by
  constructor
  · intro exactly
    exact (((exactly texts).mpr rfl).agree (.inl rfl)).1
  · intro arePlain said
    constructor
    · intro written
      exact (written.agree (.inr arePlain)).2
    · rintro rfl
      exact .of_plain arePlain

end Json

namespace Prompt

theorem severityNames_splitNames {given : List Text}
    (separable : ∀ name ∈ given, ',' ∉ name) :
    severityNames (splitNames ([','].intercalate given)) = severityNames given := by
  cases given with
  | nil => rfl
  | cons name names =>
      rw [splitNames, List.splitOn_intercalate ',' separable (List.cons_ne_nil name names)]

/-- The severities that are given, in a list or as the parts of a text between commas,
are shown as an array of their names, trimmed and in capitals and without the blank ones,
exactly if all characters of these names are plain.  Names without commas are shown the
same in both forms. -/
theorem showSeverities_array_iff (given : List Text) :
    let names := ((given.map Text.trim).filter (· ≠ [])).map Text.upper
    ((∀ texts, Json.ArrayWritten (showSeverities given) texts ↔ texts = names) ↔
      ∀ name ∈ names, ∀ char ∈ name, Json.IsPlain char) ∧
    ((∀ name ∈ given, ',' ∉ name) →
      showSeverities (splitNames ([','].intercalate given)) = showSeverities given) := by
  intro names
  constructor
  · exact Json.arrayWritten_enclosed_iff names
  · intro separable
    rw [showSeverities, severityNames_splitNames separable]
    rfl

theorem showSeverities_array_iff_capitals :
    let given : List Text := [" error", "\t", "straße"]
    (∀ name ∈ given, ',' ∉ name) ∧
      showSeverities given = ("[\"ERROR\", \"STRASSE\"]" : String) ∧
      Json.ArrayWritten (showSeverities given) ["ERROR", "STRASSE"] ∧
      showSeverities (splitNames (" error,\t,straße" : String)) = showSeverities given := by
  intro given
  have separable : ∀ name ∈ given, ',' ∉ name := by decide
  have arePlain : ((((given.map Text.trim).filter (· ≠ [])).map Text.upper).all
      fun name => name.all fun char => decide (Json.IsPlain char)) = true := by
    decide +kernel
  simp only [List.all_eq_true, decide_eq_true_eq] at arePlain
  obtain ⟨shown, joined⟩ := showSeverities_array_iff given
  have names : ([("ERROR" : Text), "STRASSE"] : List Text) =
      ((given.map Text.trim).filter (· ≠ [])).map Text.upper := by
    decide +kernel
  exact ⟨separable, by decide +kernel, (shown.mpr arePlain _).mpr names, joined separable⟩

/-- A quote in a name closes its string, and what is shown is no array at all.  The array
of the name has a backslash in front of the quote. -/
theorem showSeverities_unescaped :
    let given : List Text := ["a\"b"]
    let name : Text := "A\"B"
    ((given.map Text.trim).filter (· ≠ [])).map Text.upper = [name] ∧
      showSeverities given = ("[\"A\"B\"]" : String) ∧
      (∀ texts, ¬Json.ArrayWritten (showSeverities given) texts) ∧
      Json.ArrayWritten ("[\"A\\\"B\"]" : String) [name] := by
  intro given name
  refine ⟨by decide +kernel, by decide +kernel, ?_, ?_⟩
  · intro texts written
    have shown : showSeverities given = '[' :: (("\"A\"B\"" : String).toList ++ [']']) := by
      decide +kernel
    rw [shown] at written
    rcases written.inside with ⟨_, gap⟩ | items
    · exact absurd (gap '"' List.mem_cons_self) (by decide)
    · have plain : ∀ char ∈ ['A'], Json.IsPlain char := by
        simp only [List.forall_mem_singleton]
        decide
      have split : ("\"A\"B\"" : String).toList =
          [] ++ '"' :: (['A'] ++ '"' :: ['B', '"']) := by
        decide
      rw [split] at items
      obtain ⟨_, ⟨gap, _⟩ | ⟨after, _, _, gap, same, _⟩⟩ :=
        items.first Json.isGap_nil (.inr plain)
      · exact absurd (gap 'B' List.mem_cons_self) (by decide)
      · obtain ⟨_, comma, _⟩ := Json.isGap_nil.eq_of_solid gap (by decide) (by decide) same
        exact absurd comma (by decide)
  · have body : Json.Written ("A\\\"B" : String) name :=
      .cons (.plain (by decide)) (.cons (.letter (by decide)) (.cons (.plain (by decide)) .nil))
    exact .filled Json.isGap_nil (.last Json.isGap_nil body Json.isGap_nil) Json.isGap_nil

end Prompt

end LogLens
