import Mathlib.Data.List.Basic
import Mathlib.Logic.ExistsUnique
import LogLens.Proofs.Token.Scan

/-!
# Every character is accounted for

The tokens of a text are non-empty spans in order, and what no token spans is a
space, a tab or a line ending.  So the characters of the tokens and those of the
gaps between them are, put together again, the text itself.
-/

namespace LogLens

namespace Token

def Spans (token : Token) (position : Nat) : Prop :=
  token.start ≤ position ∧ position < token.stop

theorem eq_of_spans {tokens : List Token}
    (ordered : tokens.Pairwise fun first second => first.stop ≤ second.start)
    {left right : Token} {position : Nat}
    (leftMember : left ∈ tokens) (rightMember : right ∈ tokens)
    (leftSpans : left.Spans position) (rightSpans : right.Spans position) :
    left = right := by
  unfold Spans at leftSpans rightSpans
  induction tokens with
  | nil => simp at leftMember
  | cons token rest induction =>
      rw [List.pairwise_cons] at ordered
      rcases List.mem_cons.mp leftMember with leftHere | leftLater
      · rcases List.mem_cons.mp rightMember with rightHere | rightLater
        · rw [leftHere, rightHere]
        · have apart := ordered.1 right rightLater
          subst leftHere
          omega
      · rcases List.mem_cons.mp rightMember with rightHere | rightLater
        · have apart := ordered.1 left leftLater
          subst rightHere
          omega
        · exact induction ordered.2 leftLater rightLater

/-- The characters between tokens, from an offset in front of all of them to the
end of the text. -/
def gapsFrom (text : Text) (position : Nat) : List Token → List Text
  | [] => [text.drop position]
  | token :: rest =>
      slice text position token.start :: gapsFrom text token.stop rest

/-- The characters in front of, between and behind tokens: one gap more than
there are tokens. -/
def gapsIn (text : Text) (tokens : List Token) : List Text :=
  gapsFrom text 0 tokens

/-- Gaps and parts in turn, beginning and ending with a gap. -/
def weave : List Text → List Text → Text
  | gap :: gaps, part :: parts => gap ++ (part ++ weave gaps parts)
  | gaps, _ => gaps.flatten

theorem weave_gapsFrom (text : Text) (position : Nat) (tokens : List Token)
    (ahead : ∀ token ∈ tokens, position ≤ token.start)
    (proper : ∀ token ∈ tokens, token.start ≤ token.stop ∧
      token.stop ≤ text.length)
    (ordered : tokens.Pairwise fun first second => first.stop ≤ second.start)
    (within : position ≤ text.length) :
    weave (gapsFrom text position tokens)
        (tokens.map fun token => slice text token.start token.stop) =
      text.drop position := by
  induction tokens generalizing position with
  | nil => simp [gapsFrom, weave]
  | cons token rest induction =>
      have position_le : position ≤ token.start := ahead token (by simp)
      obtain ⟨start_le, stop_le⟩ := proper token (by simp)
      rw [List.pairwise_cons] at ordered
      have restWoven := induction token.stop
        (fun later member => ordered.1 later member)
        (fun later member => proper later (by simp [member]))
        ordered.2 stop_le
      simp only [gapsFrom, List.map_cons, weave, restWoven]
      rw [← slice_length, ← slice_length,
        slice_append_slice text start_le stop_le,
        slice_append_slice text position_le (Nat.le_trans start_le stop_le)]

end Token

namespace Lexer

namespace Scans

variable {offset : Nat} {text : Text} {tokens : List Token}

theorem span (scans : Scans offset text tokens) :
    ∀ token ∈ tokens, offset ≤ token.start ∧ token.start < token.stop ∧
      token.stop ≤ offset + text.length := by
  induction scans with
  | done offset => simp
  | skip skipped _ induction =>
      intro token member
      obtain ⟨start_ge, proper, stop_le⟩ := induction token member
      rw [List.length_cons]
      omega
  | @token offset first rest tokens begins _ induction =>
      have fits := tailLength_le first rest
      intro token member
      rw [List.length_cons]
      rcases List.mem_cons.mp member with here | later
      · subst here
        simp only [tokenAt_start, tokenAt_stop]
        omega
      · obtain ⟨start_ge, proper, stop_le⟩ := induction token later
        rw [List.length_drop] at stop_le
        omega

theorem ordered (scans : Scans offset text tokens) :
    tokens.Pairwise fun first second => first.stop ≤ second.start := by
  induction scans with
  | done offset => exact .nil
  | skip _ _ induction => exact induction
  | token begins following induction =>
      apply List.Pairwise.cons _ induction
      intro later member
      exact (following.span later member).1

/-- In a gap there is nothing but spaces, tabs and line endings.  The induction
carries along that this holds from the end of the last token, at `position`, to
the place that the scan has reached. -/
theorem gaps_skipped (scans : Scans offset text tokens) (whole : Text)
    (position : Nat) (behind : whole.drop offset = text)
    (reached : position ≤ offset)
    (passed : ∀ char ∈ slice whole position offset, isSkipped char = true) :
    ∀ gap ∈ Token.gapsFrom whole position tokens,
      ∀ char ∈ gap, isSkipped char = true := by
  induction scans generalizing position with
  | done offset =>
      intro gap member
      have equality : gap = whole.drop position := by
        simpa [Token.gapsFrom] using member
      have wholePassed : slice whole position offset = whole.drop position := by
        rw [slice, List.take_of_length_le]
        have atEnd := List.drop_eq_nil_iff.mp behind
        rw [List.length_drop]
        omega
      rw [equality, ← wholePassed]
      exact passed
  | @skip offset first rest tokens skipped _ induction =>
      have restBehind : whole.drop (offset + 1) = rest := by
        rw [← List.drop_drop, behind]
        rfl
      apply induction position restBehind (by omega)
      have here : slice whole offset (offset + 1) = [first] := by
        simp [slice, behind]
      rw [← slice_append_slice whole reached (Nat.le_succ offset), here]
      intro char member
      rcases List.mem_append.mp member with before | last
      · exact passed char before
      · rw [List.mem_singleton.mp last]
        exact skipped
  | @token offset first rest tokens begins _ induction =>
      intro gap member
      rcases List.mem_cons.mp member with here | later
      · subst here
        exact passed
      · apply induction _ _ (Nat.le_refl _) _ gap later
        · rw [Nat.add_assoc, ← List.drop_drop, behind, Nat.add_comm,
            List.drop_succ_cons]
        · simp

theorem isSkipped_of_uncovered (scans : Scans offset text tokens)
    {index : Nat} {char : Char} (found : text[index]? = some char)
    (uncovered : ∀ token ∈ tokens, ¬token.Spans (offset + index)) :
    isSkipped char = true := by
  induction scans generalizing index with
  | done offset => simp at found
  | @skip offset first rest tokens skipped _ induction =>
      cases index with
      | zero =>
          have equality : first = char := by simpa using found
          rw [← equality]
          exact skipped
      | succ index =>
          have foundInRest : rest[index]? = some char := by simpa using found
          apply induction foundInRest
          intro token member
          have outside := uncovered token member
          rwa [Nat.add_assoc, Nat.add_comm 1 index]
  | @token offset first rest tokens begins _ induction =>
      have outside := uncovered _ List.mem_cons_self
      simp only [Token.Spans, tokenAt_start, tokenAt_stop] at outside
      obtain ⟨more, rfl⟩ : ∃ more, index = tailLength first rest + more + 1 :=
        ⟨index - (tailLength first rest + 1), by omega⟩
      have foundBehind :
          (rest.drop (tailLength first rest))[more]? = some char := by
        simpa [List.getElem?_drop] using found
      apply induction foundBehind
      intro token member
      have laterOutside := uncovered token (List.mem_cons_of_mem _ member)
      have place : offset + (tailLength first rest + more + 1) =
          offset + 1 + tailLength first rest + more := by omega
      rwa [place] at laterOutside

end Scans

theorem textsIn_tokenize (text : Text) :
    Token.textsIn text (tokenize text) =
      (tokenize text).map fun token => slice text token.start token.stop := by
  have scans := scans_tokenize text
  have ascending : ((tokenize text).map fun token =>
      (token.start, token.stop)).Pairwise fun first second =>
        first.1 ≤ second.1 := by
    rw [List.pairwise_map]
    apply scans.ordered.imp_of_mem
    intro first second firstMember _ apart
    have proper := (scans.span first firstMember).2.1
    simp only
    omega
  rw [Token.textsIn, slices_eq_map text _ ascending, List.map_map]
  rfl

theorem weave_tokenize (text : Text) :
    Token.weave (Token.gapsIn text (tokenize text))
        (Token.textsIn text (tokenize text)) = text := by
  have scans := scans_tokenize text
  have proper : ∀ token ∈ tokenize text, token.start ≤ token.stop ∧
      token.stop ≤ text.length := by
    intro token member
    obtain ⟨_, nonempty, stop_le⟩ := scans.span token member
    omega
  rw [textsIn_tokenize, Token.gapsIn,
    Token.weave_gapsFrom text 0 (tokenize text) (by simp) proper scans.ordered
      (Nat.zero_le _)]
  rfl

theorem spanned_or_skipped (text : Text) (position : Nat)
    (within : position < text.length) :
    (∃! token, token ∈ tokenize text ∧ token.Spans position) ∨
      (text[position] ∈ ([' ', '\t', '\r', '\n'] : Text) ∧
        ∀ token ∈ tokenize text, ¬token.Spans position) := by
  have scans := scans_tokenize text
  by_cases spanned : ∃ token ∈ tokenize text, token.Spans position
  · obtain ⟨token, member, spans⟩ := spanned
    left
    refine ⟨token, ⟨member, spans⟩, ?_⟩
    intro other found
    exact Token.eq_of_spans scans.ordered found.1 member found.2 spans
  · right
    have uncovered : ∀ token ∈ tokenize text, ¬token.Spans (0 + position) := by
      intro token member spans
      exact spanned ⟨token, member, by simpa using spans⟩
    refine ⟨isSkipped_iff.mp ?_, by simpa using uncovered⟩
    exact scans.isSkipped_of_uncovered (List.getElem?_eq_getElem within) uncovered

/-- The tokens of a text are non-empty spans within it, in order and without
overlap; every character is in exactly one of them or is a space, a tab or a
line ending in none; and the gaps, which hold nothing else, give back the text
when they are put between the tokens. -/
theorem tokenize_accounts (text : Text) :
    (∀ token ∈ tokenize text,
      token.start < token.stop ∧ token.stop ≤ text.length) ∧
    ((tokenize text).Pairwise fun first second =>
      first.start < second.start ∧ first.stop ≤ second.start) ∧
    (∀ (position : Nat) (within : position < text.length),
      (∃! token, token ∈ tokenize text ∧ token.Spans position) ∨
        (text[position] ∈ ([' ', '\t', '\r', '\n'] : Text) ∧
          ∀ token ∈ tokenize text, ¬token.Spans position)) ∧
    (∀ gap ∈ Token.gapsIn text (tokenize text), ∀ char ∈ gap,
      char ∈ ([' ', '\t', '\r', '\n'] : Text)) ∧
    Token.weave (Token.gapsIn text (tokenize text))
        (Token.textsIn text (tokenize text)) = text := by
  have scans := scans_tokenize text
  refine ⟨?_, ?_, spanned_or_skipped text, ?_, weave_tokenize text⟩
  · intro token member
    obtain ⟨_, nonempty, stop_le⟩ := scans.span token member
    exact ⟨nonempty, by simpa using stop_le⟩
  · apply scans.ordered.imp_of_mem
    intro first second firstMember _ apart
    have nonempty := (scans.span first firstMember).2.1
    exact ⟨by omega, apart⟩
  · intro gap member char charMember
    have skipped := scans.gaps_skipped text 0 rfl (Nat.le_refl 0) (by simp)
    exact isSkipped_iff.mp (skipped gap member char charMember)

theorem tokenize_accounts_backslash :
    tokenize "a\r\n\"b\\" =
        [⟨.message, .word, 0, 1⟩, ⟨.string, .string, 3, 6⟩] ∧
      Token.weave [[], ['\r', '\n'], []] ["a".toList, "\"b\\".toList] =
        "a\r\n\"b\\".toList := by
  have found : tokenize "a\r\n\"b\\" =
      [⟨.message, .word, 0, 1⟩, ⟨.string, .string, 3, 6⟩] := by decide
  refine ⟨found, ?_⟩
  have woven := (tokenize_accounts "a\r\n\"b\\").2.2.2.2
  rw [found] at woven
  exact woven

end Lexer

end LogLens
