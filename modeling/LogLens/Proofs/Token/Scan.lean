import LogLens.Token

/-!
# Lexical analysis as a relation

`Scans` relates a text to its tokens by one rule for each thing that can stand
at the front of a text: nothing, a character between tokens, or the first
character of a token.  The relation and the lexer agree, so a law of tokens is
proved by induction over a derivation, without the lexer's bookkeeping of
characters that are still inside a token.
-/

namespace LogLens

def Token.shift (amount : Nat) (token : Token) : Token :=
  { token with start := amount + token.start, stop := amount + token.stop }

namespace Lexer

theorem le_stringTail (quote : Char) (read : Nat) (text : Text) :
    read ≤ stringTail quote read text := by
  fun_induction stringTail quote read text with
  | case1 read => exact Nat.le_refl read
  | case2 read next rest induction => omega
  | case3 read rest _ => omega
  | case4 read char rest _ _ _ => exact Nat.le_refl read
  | case5 read char rest _ _ _ induction => omega

theorem stringTail_le (quote : Char) (read : Nat) (text : Text) :
    stringTail quote read text ≤ read + text.length := by
  fun_induction stringTail quote read text with
  | case1 read => simp
  | case2 read next rest induction =>
      simp only [List.length_cons]
      omega
  | case3 read rest _ =>
      simp only [List.length_cons]
      omega
  | case4 read char rest _ _ _ => omega
  | case5 read char rest _ _ _ induction =>
      simp only [List.length_cons]
      omega

theorem tailLength_le (first : Char) (rest : Text) :
    tailLength first rest ≤ rest.length := by
  have stringBound := stringTail_le first 0 rest
  have numberBound := (List.takeWhile_prefix (l := rest) isNumberChar).length_le
  have wordBound := (List.takeWhile_prefix (l := rest) isWordChar).length_le
  unfold tailLength
  split
  · exact Nat.zero_le _
  · split
    · simpa using stringBound
    · split
      · exact numberBound
      · split
        · exact wordBound
        · exact Nat.zero_le _

theorem stringTail_cons (quote : Char) (read : Nat) {char : Char} {rest : Text}
    (lone : ∀ next following, char = '\\' → rest = next :: following → False) :
    stringTail quote read (char :: rest) =
      if char = quote then read + 1
      else if isLineEnding char then read
      else stringTail quote (read + 1) rest := by
  rw [stringTail]
  exact lone

/-- A string that ends within a prefix of its text is read alike from the
prefix alone.  A backslash is read together with what it takes along, so the
prefix ends behind a backslash only where the text does. -/
theorem stringTail_take (quote : Char) (read count : Nat) (text : Text)
    (within : stringTail quote read text ≤ read + count) :
    stringTail quote read (text.take count) = stringTail quote read text := by
  have lone_take : ∀ {char : Char} {rest : Text} (more : Nat),
      (∀ next following, char = '\\' → rest = next :: following → False) →
      ∀ next following, char = '\\' → rest.take more = next :: following →
        False := by
    intro char rest more lone next following backslash equal
    cases rest with
    | nil => simp at equal
    | cons head tail => exact lone head tail backslash rfl
  fun_induction stringTail quote read text generalizing count with
  | case1 read => simp [stringTail]
  | case2 read next rest induction =>
      have reached := le_stringTail quote (read + 2) rest
      obtain ⟨more, rfl⟩ : ∃ more, count = more + 2 := ⟨count - 2, by omega⟩
      have restWithin : stringTail quote (read + 2) rest ≤ read + 2 + more := by
        omega
      simpa [stringTail] using induction more restWithin
  | case3 read rest lone =>
      obtain ⟨more, rfl⟩ : ∃ more, count = more + 1 := ⟨count - 1, by omega⟩
      rw [List.take_succ_cons, stringTail_cons quote read (lone_take more lone),
        if_pos rfl]
  | case4 read char rest lone different ending =>
      cases count with
      | zero => simp [stringTail]
      | succ more =>
          rw [List.take_succ_cons, stringTail_cons quote read (lone_take more lone),
            if_neg different, if_pos ending]
  | case5 read char rest lone different inside induction =>
      have reached := le_stringTail quote (read + 1) rest
      obtain ⟨more, rfl⟩ : ∃ more, count = more + 1 := ⟨count - 1, by omega⟩
      have restWithin : stringTail quote (read + 1) rest ≤ read + 1 + more := by
        omega
      rw [List.take_succ_cons, stringTail_cons quote read (lone_take more lone),
        if_neg different, if_neg inside]
      exact induction more restWithin

theorem tailLength_take (first : Char) (rest : Text) (count : Nat)
    (within : tailLength first rest ≤ count) :
    tailLength first (rest.take count) = tailLength first rest := by
  have run_take : ∀ member : Char → Bool,
      (rest.takeWhile member).length ≤ count →
      ((rest.take count).takeWhile member).length =
        (rest.takeWhile member).length := by
    intro member runWithin
    rw [← List.take_takeWhile, List.take_of_length_le runWithin]
  by_cases bracket : isBracket first = true
  · simp [tailLength, bracket]
  by_cases quote : isQuote first = true
  · simp only [tailLength, if_neg bracket, if_pos quote] at within ⊢
    exact stringTail_take first 0 count rest (by omega)
  by_cases digit : isDigit first = true
  · simp only [tailLength, if_neg bracket, if_neg quote, if_pos digit]
      at within ⊢
    exact run_take isNumberChar within
  by_cases wordStart : isWordStart first = true
  · simp only [tailLength, if_neg bracket, if_neg quote, if_neg digit,
      if_pos wordStart] at within ⊢
    exact run_take isWordChar within
  · simp [tailLength, bracket, quote, digit, wordStart]

/-- The token that begins with `first` at the given offset, where `rest` follows
behind its first character. -/
def tokenAt (offset : Nat) (first : Char) (rest : Text) : Token :=
  let length := tailLength first rest
  let (kind, color) := style first (rest.take length)
  { kind := kind
    color := color
    start := offset
    stop := offset + 1 + length }

@[simp] theorem tokenAt_start (offset : Nat) (first : Char) (rest : Text) :
    (tokenAt offset first rest).start = offset := rfl

@[simp] theorem tokenAt_stop (offset : Nat) (first : Char) (rest : Text) :
    (tokenAt offset first rest).stop = offset + 1 + tailLength first rest := rfl

theorem tokenAt_take (offset : Nat) (first : Char) (rest : Text) (count : Nat)
    (within : tailLength first rest ≤ count) :
    tokenAt offset first (rest.take count) = tokenAt offset first rest := by
  simp only [tokenAt, tailLength_take first rest count within, List.take_take,
    Nat.min_eq_left within]

theorem shift_tokenAt (amount offset : Nat) (first : Char) (rest : Text) :
    (tokenAt offset first rest).shift amount =
      tokenAt (amount + offset) first rest := by
  simp [Token.shift, tokenAt, Nat.add_assoc]

/-- `Scans offset text tokens`: the tokens of a text whose first character has
the given offset. -/
inductive Scans : Nat → Text → List Token → Prop where
  | done (offset : Nat) : Scans offset [] []
  | skip {offset : Nat} {first : Char} {rest : Text} {tokens : List Token} :
      isSkipped first = true →
      Scans (offset + 1) rest tokens →
      Scans offset (first :: rest) tokens
  | token {offset : Nat} {first : Char} {rest : Text} {tokens : List Token} :
      isSkipped first = false →
      Scans (offset + 1 + tailLength first rest)
        (rest.drop (tailLength first rest)) tokens →
      Scans offset (first :: rest) (tokenAt offset first rest :: tokens)

theorem tokensFrom_skip {first : Char} (skipped : isSkipped first = true)
    (offset : Nat) (rest : Text) :
    tokensFrom [] offset 0 (first :: rest) =
      tokensFrom [] (offset + 1) 0 rest := by
  simp [tokensFrom, skipped]

theorem tokensFrom_token {first : Char} (begins : isSkipped first = false)
    (offset : Nat) (rest : Text) :
    tokensFrom [] offset 0 (first :: rest) =
      tokenAt offset first rest ::
        tokensFrom [] (offset + 1 + tailLength first rest) 0
          (rest.drop (tailLength first rest)) := by
  rw [← tokensFrom_inside [] (offset + 1) _ rest (tailLength_le first rest)]
  simp only [tokensFrom, begins, Bool.false_eq_true, ↓reduceIte]
  rw [tokensFrom_eq]
  rfl

theorem scans_tokensFrom (offset : Nat) (text : Text) :
    Scans offset text (tokensFrom [] offset 0 text) := by
  -- By length, because a token is passed over as a whole.
  induction size : text.length using Nat.strongRecOn generalizing offset text with
  | ind size induction =>
      subst size
      cases text with
      | nil => exact .done offset
      | cons first rest =>
          by_cases skipped : isSkipped first = true
          · rw [tokensFrom_skip skipped]
            exact .skip skipped (induction rest.length (by simp) _ _ rfl)
          · have begins : isSkipped first = false := by simpa using skipped
            rw [tokensFrom_token begins]
            apply Scans.token begins
            have shorter : (rest.drop (tailLength first rest)).length <
                (first :: rest).length := by
              rw [List.length_drop, List.length_cons]
              omega
            exact induction _ shorter _ _ rfl

/-- The rules leave no choice: they give the tokens that the lexer finds. -/
theorem scans_iff {offset : Nat} {text : Text} {tokens : List Token} :
    Scans offset text tokens ↔ tokens = tokensFrom [] offset 0 text := by
  constructor
  · intro scans
    induction scans with
    | done offset => rfl
    | skip skipped _ induction => rw [tokensFrom_skip skipped, induction]
    | token begins _ induction => rw [tokensFrom_token begins, ← induction]
  · intro equality
    subst equality
    exact scans_tokensFrom offset text

theorem scans_zero_iff {text : Text} {tokens : List Token} :
    Scans 0 text tokens ↔ tokens = tokenize text :=
  scans_iff

theorem scans_tokenize (text : Text) : Scans 0 text (tokenize text) :=
  scans_zero_iff.mpr rfl

theorem Scans.shift {offset : Nat} {text : Text} {tokens : List Token}
    (scans : Scans offset text tokens) (amount : Nat) :
    Scans (amount + offset) text (tokens.map (Token.shift amount)) := by
  induction scans with
  | done offset => exact .done (amount + offset)
  | skip skipped _ induction => exact .skip skipped induction
  | token begins _ induction =>
      rw [List.map_cons, shift_tokenAt]
      apply Scans.token begins
      simpa only [Nat.add_assoc] using induction

theorem Scans.eq_shift {offset : Nat} {text : Text} {tokens : List Token}
    (scans : Scans offset text tokens) :
    tokens = (tokenize text).map (Token.shift offset) := by
  have own := scans_tokenize text
  have shifted := own.shift offset
  exact (scans_iff.mp scans).trans (scans_iff.mp shifted).symm

end Lexer

end LogLens
