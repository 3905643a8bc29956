import LogLens.Proofs.Token.Coverage
import LogLens.Proofs.Token.Grammar

/-!
# Tokens and the ends of lines

A line ending ends every token but a string, and it ends a string unless a backslash
takes it along.  So a token leaves its line exactly where a string is still open at the
end of the line, and the last backslash there has only the line ending to take along.
-/

namespace LogLens

namespace Lexer

/-- `Dangling quote line`: behind an opening quote, the line does not close the string,
and nothing is left in it for its last character, a backslash, to take along. -/
inductive Dangling (quote : Char) : Text → Prop where
  | lone : Dangling quote ['\\']
  | escaped (char : Char) {line : Text} :
      Dangling quote line → Dangling quote ('\\' :: char :: line)
  | plain {char : Char} {line : Text} :
      char ≠ '\\' → char ≠ quote → Dangling quote line →
      Dangling quote (char :: line)

/-- What stands behind an opening quote begins with a dangling line, and the line is not
the last one. -/
def RunsOn (quote : Char) (text : Text) : Prop :=
  ∃ line ending rest,
    text = line ++ ending :: rest ∧ Dangling quote line ∧
      (∀ char ∈ line, isLineEnding char = false) ∧ isLineEnding ending = true

/-- The text begins with a string that runs on over the end of its line. -/
def Overruns (text : Text) : Prop :=
  ∃ quote rest, text = quote :: rest ∧ isQuote quote = true ∧ RunsOn quote rest

section RunsOn

variable {quote char : Char} {text : Text}

theorem isLineEnding_backslash : isLineEnding '\\' = false := by
  decide

theorem not_runsOn_short (short : text = [] ∨ text = ['\\']) : ¬RunsOn quote text := by
  rintro ⟨line, ending, rest, rfl, dangling, _, _⟩
  cases dangling <;> simp at short

/-- Behind a backslash either the line ends at once or the character is passed over. -/
theorem runsOn_escaped :
    RunsOn quote ('\\' :: char :: text) ↔
      isLineEnding char = true ∨ RunsOn quote text := by
  constructor
  · rintro ⟨line, ending, rest, split, dangling, inside, ends⟩
    cases dangling with
    | lone =>
        obtain ⟨rfl, rfl⟩ : char = ending ∧ text = rest := by simpa using split
        exact .inl ends
    | @escaped own line dangling =>
        obtain ⟨rfl, rfl⟩ : char = own ∧ text = line ++ ending :: rest := by
          simpa using split
        refine .inr ⟨line, ending, rest, rfl, dangling, ?_, ends⟩
        intro other member
        exact inside other (by simp [member])
    | plain other _ _ => exact absurd (List.cons.inj split).1.symm other
  · by_cases here : isLineEnding char = true
    · intro _
      exact ⟨['\\'], char, text, rfl, .lone, by simp [isLineEnding_backslash], here⟩
    · rintro (ends | ⟨line, ending, rest, rfl, dangling, inside, ends⟩)
      · exact absurd ends here
      · have passed : isLineEnding char = false := by simpa using here
        exact ⟨'\\' :: char :: line, ending, rest, rfl, .escaped char dangling,
          List.forall_mem_cons.mpr ⟨isLineEnding_backslash,
            List.forall_mem_cons.mpr ⟨passed, inside⟩⟩, ends⟩

theorem runsOn_plain (other : char ≠ '\\') :
    RunsOn quote (char :: text) ↔
      char ≠ quote ∧ isLineEnding char = false ∧ RunsOn quote text := by
  constructor
  · rintro ⟨line, ending, rest, split, dangling, inside, ends⟩
    cases dangling with
    | lone => exact absurd (List.cons.inj split).1 other
    | escaped _ _ => exact absurd (List.cons.inj split).1 other
    | @plain own line _ different dangling =>
        obtain ⟨rfl, rfl⟩ : char = own ∧ text = line ++ ending :: rest := by
          simpa using split
        obtain ⟨passed, later⟩ := List.forall_mem_cons.mp inside
        exact ⟨different, passed, line, ending, rest, rfl, dangling, later, ends⟩
  · rintro ⟨different, passed, line, ending, rest, rfl, dangling, inside, ends⟩
    exact ⟨char :: line, ending, rest, rfl, .plain other different dangling,
      List.forall_mem_cons.mpr ⟨passed, inside⟩, ends⟩

end RunsOn

/-- A string holds a line ending exactly if it runs on over the end of its line. -/
theorem StringBody.exists_ending_iff {quote : Char} (quotes : isQuote quote = true)
    {tail following : Text} (body : StringBody quote tail following) :
    (∃ char ∈ tail, isLineEnding char = true) ↔ RunsOn quote (tail ++ following) := by
  obtain ⟨noBackslash, noEnding⟩ := isQuote_excludes quotes
  -- Each way to go on with a string is one of the fronts that are told apart above.
  induction body with
  | closed following =>
      rw [List.singleton_append, runsOn_plain noBackslash]
      simp [noEnding]
  | @cut ending rest ends =>
      have other : ending ≠ '\\' := by
        rintro rfl
        rw [isLineEnding_backslash] at ends
        contradiction
      rw [List.nil_append, runsOn_plain other]
      simp [ends]
  | ended => simpa using not_runsOn_short (.inl rfl)
  | escaped char _ induction =>
      rw [List.cons_append, List.cons_append, runsOn_escaped, ← induction]
      simp [isLineEnding_backslash]
  | lone =>
      rw [List.append_nil]
      simpa [isLineEnding_backslash] using not_runsOn_short (.inr rfl)
  | plain other different passed _ induction =>
      rw [List.cons_append, runsOn_plain other, ← induction]
      simp [different, passed]

theorem not_overruns_of_begins {shape : Shape} {first : Char} {rest : Text}
    (begins : shape.begins first = true) (other : shape ≠ .string) :
    ¬Overruns (first :: rest) := by
  rintro ⟨_, _, ⟨⟩, quotes, _⟩
  have opens : Shape.string.begins first = true := quotes
  have settled := (begins_iff.mp begins).2
  rw [(begins_iff.mp opens).2] at settled
  exact other settled.symm

theorem isLineEnding_of_member {member : Char → Bool} {char : Char}
    (excludes : member '\r' = false ∧ member '\n' = false)
    (inside : member char = true) : isLineEnding char = false := by
  apply Bool.eq_false_iff.mpr
  intro ends
  rcases isLineEnding_iff.mp ends with rfl | rfl
  · rw [excludes.1] at inside
    contradiction
  · rw [excludes.2] at inside
    contradiction

theorem Lexeme.within_line {shape : Shape} {lexeme following : Text}
    {styled : TokenKind × TokenColor} (fits : Lexeme shape lexeme following styled)
    (other : shape ≠ .string) : ∀ char ∈ lexeme, isLineEnding char = false := by
  cases fits with
  | bracket following bracket =>
      simpa using isLineEnding_of_member (by decide) bracket
  | separator following separates =>
      simpa using isLineEnding_of_member (by decide) separates
  | number digit run _ =>
      intro char member
      exact isLineEnding_of_member (by decide) (run.inside char member)
  | word opens run _ =>
      intro char member
      exact isLineEnding_of_member (by decide) (run.inside char member)
  | string => exact absurd rfl other

theorem Lexeme.exists_ending_iff {shape : Shape} {lexeme following : Text}
    {styled : TokenKind × TokenColor} (fits : Lexeme shape lexeme following styled) :
    (∃ char ∈ lexeme, isLineEnding char = true) ↔ Overruns (lexeme ++ following) := by
  by_cases string : shape = .string
  · subst string
    cases fits with
    | @string quote tail following quotes body =>
        have noEnding := (isQuote_excludes quotes).2
        have opened : Overruns (quote :: (tail ++ following)) ↔
            RunsOn quote (tail ++ following) := by
          simp [Overruns, quotes]
        rw [List.cons_append, opened, ← body.exists_ending_iff quotes]
        simp [noEnding]
  · have inside := fits.within_line string
    obtain ⟨first, tail, rfl⟩ := fits.exists_first
    have begins := (lexeme_iff.mp fits).1
    constructor
    · rintro ⟨char, member, ends⟩
      rw [inside char member] at ends
      contradiction
    · intro overruns
      exact absurd overruns (not_overruns_of_begins begins string)

/-- A token holds no line ending exactly if it is no string that its line leaves open
behind a backslash, which then takes the line ending along. -/
theorem tokenize_within_line_iff (text : Text) :
    ∀ token ∈ tokenize text,
      ('\r' ∉ slice text token.start token.stop ∧
          '\n' ∉ slice text token.start token.stop) ↔
        ¬Overruns (text.drop token.start) := by
  intro token member
  obtain ⟨first, rest, split, begins, equality⟩ :=
    (scans_tokenize text).exists_tokenAt rfl token member
  obtain ⟨lexeme, following, whole, stop, fits⟩ :
      (Shape.ofFirst first).Fits text token :=
    fits_iff.mpr ⟨first, rest, split, begins_iff.mpr ⟨begins, rfl⟩, equality⟩
  have own : slice text token.start token.stop = lexeme := by
    rw [slice, whole, stop, Nat.add_sub_cancel_left, List.take_left]
  rw [own, whole, ← fits.exists_ending_iff]
  constructor
  · rintro ⟨noReturn, noFeed⟩ ⟨char, inside, ends⟩
    rcases isLineEnding_iff.mp ends with rfl | rfl
    · exact noReturn inside
    · exact noFeed inside
  · intro noEnding
    exact ⟨fun inside => noEnding ⟨'\r', inside, by decide⟩,
      fun inside => noEnding ⟨'\n', inside, by decide⟩⟩

theorem tokenize_within_line_iff_backslashes :
    let text : Text := "\"a\\\\\n'b\\\rc'"
    let kept : Token := ⟨.string, .string, 0, 4⟩
    let overrun : Token := ⟨.string, .string, 5, 11⟩
    tokenize text = [kept, overrun] ∧
      ¬Overruns (text.drop kept.start) ∧
      Overruns (text.drop overrun.start) ∧
      ¬('\r' ∉ slice text overrun.start overrun.stop ∧
        '\n' ∉ slice text overrun.start overrun.stop) := by
  intro text kept overrun
  have found : tokenize text = [kept, overrun] := by decide +kernel
  have runsOn : Overruns (text.drop overrun.start) :=
    ⟨'\'', _, rfl, rfl, ['b', '\\'], '\r', _, rfl,
      .plain (by decide) (by decide) .lone, by simp [isLineEnding], rfl⟩
  have first := tokenize_within_line_iff text kept (by rw [found]; simp)
  have second := tokenize_within_line_iff text overrun (by rw [found]; simp)
  exact ⟨found, first.mp (by decide +kernel), runsOn,
    fun within => second.mp within runsOn⟩

/-- A backslash at the end of a line that nothing closes takes the line feed into the
string. -/
theorem tokenize_crosses_line :
    let text : Text := "\"a\\\nb\""
    tokenize text = [⟨.string, .string, 0, 6⟩] ∧
      ∃ token ∈ tokenize text, '\n' ∈ slice text token.start token.stop := by
  decide +kernel

end Lexer

end LogLens
