import LogLens.Proofs.Token.Coverage

/-!
# Lexical analysis can be restarted

Nothing is carried from one token to the next, and no token is found by looking
at what follows behind it.  So a text may be cut wherever no token is cut in two:
the tokens of the whole are those of the front and, shifted, those of the back.
-/

namespace LogLens

namespace Lexer

namespace Scans

variable {offset : Nat} {text : Text} {tokens : List Token}

/-- A scan is cut in two where no token is. -/
theorem split (scans : Scans offset text tokens) (cut : Nat)
    (between : ∀ token ∈ tokens,
      ¬(token.start < offset + cut ∧ offset + cut < token.stop)) :
    ∃ front back, tokens = front ++ back ∧
      Scans offset (text.take cut) front ∧
      Scans (offset + cut) (text.drop cut) back := by
  induction scans generalizing cut with
  | done offset =>
      refine ⟨[], [], rfl, ?_, ?_⟩
      · simpa using Scans.done offset
      · simpa using Scans.done (offset + cut)
  | @skip offset first rest tokens skipped following induction =>
      cases cut with
      | zero => exact ⟨[], _, rfl, .done offset, .skip skipped following⟩
      | succ cut =>
          have place : offset + (cut + 1) = offset + 1 + cut := by omega
          obtain ⟨front, back, equality, frontScans, backScans⟩ :=
            induction cut (by simpa only [place] using between)
          refine ⟨front, back, equality, .skip skipped frontScans, ?_⟩
          rw [place]
          exact backScans
  | @token offset first rest tokens begins following induction =>
      cases cut with
      | zero => exact ⟨[], _, rfl, .done offset, .token begins following⟩
      | succ cut =>
          -- A cut behind the first character lies behind the whole token.
          have behind : tailLength first rest ≤ cut := by
            have uncut := between _ List.mem_cons_self
            simp only [tokenAt_start, tokenAt_stop] at uncut
            omega
          obtain ⟨more, rfl⟩ : ∃ more, cut = tailLength first rest + more :=
            ⟨cut - tailLength first rest, by omega⟩
          have place : offset + (tailLength first rest + more + 1) =
              offset + 1 + tailLength first rest + more := by omega
          obtain ⟨front, back, equality, frontScans, backScans⟩ :=
            induction more (by
              intro token member
              simpa only [place] using
                between token (List.mem_cons_of_mem _ member))
          refine ⟨tokenAt offset first rest :: front, back, ?_, ?_, ?_⟩
          · rw [equality, List.cons_append]
          · rw [List.take_succ_cons, ← tokenAt_take offset first rest _ behind]
            apply Scans.token begins
            rw [tailLength_take first rest _ behind, List.drop_take,
              Nat.add_sub_cancel_left]
            exact frontScans
          · rw [place, List.drop_succ_cons, ← List.drop_drop]
            exact backScans

private theorem slice_behind {whole rest : Text} {amount offset start stop : Nat}
    (behind : whole.drop amount = rest)
    (start_ge : offset + amount ≤ start) (stop_ge : offset + amount ≤ stop) :
    slice rest (start - (offset + amount)) (stop - (offset + amount)) =
      slice whole (start - offset) (stop - offset) := by
  have startPlace : amount + (start - (offset + amount)) = start - offset := by
    omega
  have stopPlace : amount + (stop - (offset + amount)) = stop - offset := by
    omega
  rw [← behind, slice_drop, startPlace, stopPlace]

theorem alone (scans : Scans offset text tokens) :
    ∀ token ∈ tokens,
      Scans token.start
        (slice text (token.start - offset) (token.stop - offset)) [token] := by
  induction scans with
  | done offset => simp
  | @skip offset first rest tokens skipped following induction =>
      intro token member
      obtain ⟨start_ge, proper, _⟩ := following.span token member
      have behind : (first :: rest).drop 1 = rest := rfl
      rw [← slice_behind behind start_ge (by omega)]
      exact induction token member
  | @token offset first rest tokens begins following induction =>
      intro token member
      rcases List.mem_cons.mp member with here | later
      · subst here
        have own : slice (first :: rest) 0 (tailLength first rest + 1) =
            first :: rest.take (tailLength first rest) := rfl
        have stopPlace : offset + 1 + tailLength first rest - offset =
            tailLength first rest + 1 := by omega
        rw [tokenAt_start, tokenAt_stop, Nat.sub_self, stopPlace, own,
          ← tokenAt_take offset first rest _ (Nat.le_refl _)]
        apply Scans.token begins
        rw [tailLength_take first rest _ (Nat.le_refl _), List.drop_take,
          Nat.sub_self]
        exact .done _
      · obtain ⟨start_ge, proper, _⟩ := following.span token later
        rw [Nat.add_assoc] at start_ge
        have behind : (first :: rest).drop (1 + tailLength first rest) =
            rest.drop (tailLength first rest) := by
          rw [Nat.add_comm, List.drop_succ_cons]
        rw [← slice_behind behind start_ge (by omega), ← Nat.add_assoc]
        exact induction token later

end Scans

theorem tokenize_cut (text : Text) (cut : Nat)
    (between : ∀ token ∈ tokenize text, ¬(token.start < cut ∧ cut < token.stop)) :
    tokenize text =
      tokenize (text.take cut) ++
        (tokenize (text.drop cut)).map (Token.shift cut) := by
  have scans := scans_tokenize text
  have betweenHere : ∀ token ∈ tokenize text,
      ¬(token.start < 0 + cut ∧ 0 + cut < token.stop) := by
    simpa only [Nat.zero_add] using between
  obtain ⟨front, back, equality, frontScans, backScans⟩ :=
    scans.split cut betweenHere
  rw [Nat.zero_add] at backScans
  rw [equality, scans_zero_iff.mp frontScans, backScans.eq_shift]

theorem eq_of_shift_start {own token : Token}
    (equality : own.shift token.start = token) :
    own = ⟨token.kind, token.color, 0, token.stop - token.start⟩ := by
  have startEquality := congrArg Token.start equality
  simp only [Token.shift] at startEquality
  have startZero : own.start = 0 := by omega
  rw [← equality]
  simp only [Token.shift, startZero, Nat.add_zero, Nat.add_sub_cancel_left]
  rw [← startZero]

theorem tokenize_slice (text : Text) {token : Token}
    (member : token ∈ tokenize text) :
    tokenize (slice text token.start token.stop) =
      [⟨token.kind, token.color, 0, token.stop - token.start⟩] := by
  have scans := scans_tokenize text
  have shifted := (scans.alone token member).eq_shift
  rw [Nat.sub_zero, Nat.sub_zero] at shifted
  obtain ⟨own, ownEquality, shiftEquality⟩ :=
    List.map_eq_singleton_iff.mp shifted.symm
  rw [ownEquality, eq_of_shift_start shiftEquality]

/-- Lexical analysis can be restarted wherever no token is cut in two, and in
particular each token is found by itself in its own characters. -/
theorem tokenize_restart (text : Text) :
    (∀ cut : Nat,
      (∀ token ∈ tokenize text, ¬(token.start < cut ∧ cut < token.stop)) →
      tokenize text =
        tokenize (text.take cut) ++
          (tokenize (text.drop cut)).map (Token.shift cut)) ∧
    (∀ token ∈ tokenize text,
      tokenize (slice text token.start token.stop) =
        [⟨token.kind, token.color, 0, token.stop - token.start⟩]) := by
  constructor
  · intro cut between
    exact tokenize_cut text cut between
  · intro token member
    exact tokenize_slice text member

theorem tokenize_restart_open_string :
    tokenize "\"a\\\"b\r\n12" =
        tokenize "\"a\\\"b\r" ++ (tokenize "\n12").map (Token.shift 6) ∧
      tokenize "\"a\\\"b" = [⟨.string, .string, 0, 5⟩] := by
  have found : tokenize "\"a\\\"b\r\n12" =
      [⟨.string, .string, 0, 5⟩, ⟨.number, .number, 7, 9⟩] := by decide
  have restart := tokenize_restart "\"a\\\"b\r\n12"
  rw [found] at restart
  constructor
  · rw [found]
    exact restart.1 6 (by simp)
  · exact restart.2 ⟨.string, .string, 0, 5⟩ (by simp)

end Lexer

end LogLens
