import Mathlib.Tactic.SplitIfs
import LogLens.Proofs.Text.Search
import LogLens.Proofs.Token.Scan
import LogLens.Token

/-!
# The grammar of tokens

A token has one of five shapes, and its first character settles which: no character
begins tokens of two shapes, and every character that is not skipped begins tokens of
one.  How far a token goes on and what it means is then a matter of its shape alone.

Brackets and separators are single characters, numbers and words are runs that nothing
behind them could prolong, and strings reach to a closing quote or as far as their line
does.  The grammar says this of characters alone; where the lexer finds a token, it
admits exactly one, and this is the token found.
-/

namespace LogLens

namespace Lexer

inductive Shape where
  | bracket
  | string
  | number
  | word
  | separator
  deriving DecidableEq, Repr

/-- Whether a token of the shape begins with the character. -/
def Shape.begins : Shape → Char → Bool
  | bracket, char => isBracket char
  | string, char => isQuote char
  | number, char => isDigit char
  | word, char => isWordStart char
  | separator, char =>
      !isSkipped char && !isBracket char && !isQuote char && !isDigit char &&
        !isWordStart char

/-- The shape that the first character settles. -/
def Shape.ofFirst (first : Char) : Shape :=
  if isBracket first then .bracket
  else if isQuote first then .string
  else if isDigit first then .number
  else if isWordStart first then .word
  else .separator

section First

variable {first : Char} {rest : Text}

theorem toNat_lt_of_begins {shape : Shape} (begins : shape.begins first = true)
    (special : shape ≠ .separator) : first.toNat < 0x80 := by
  cases shape with
  | bracket => exact toNat_lt_of_mem (by decide) (isBracket_iff.mp begins)
  | string => exact toNat_lt_of_mem (by decide) (isQuote_iff.mp begins)
  | number => exact toNat_lt_of_mem (by decide) (isDigit_iff.mp begins)
  | word => exact toNat_lt_of_mem (by decide) (isWordStart_iff.mp begins)
  | separator => exact absurd rfl special

theorem settled_of_ascii :
    ∀ code < 0x80, [Shape.bracket, .string, .number, .word].all (fun shape =>
      !shape.begins (Char.ofNat code) ||
        (!isSkipped (Char.ofNat code) && Shape.ofFirst (Char.ofNat code) = shape)) =
      true := by
  decide +kernel

/-- No character begins tokens of two shapes, and every one that is not skipped begins
tokens of one. -/
theorem begins_iff {shape : Shape} :
    shape.begins first = true ↔
      isSkipped first = false ∧ Shape.ofFirst first = shape := by
  constructor
  · intro begins
    by_cases special : shape = .separator
    · subst special
      simp only [Shape.begins, Bool.and_eq_true, Bool.not_eq_true'] at begins
      obtain ⟨⟨⟨⟨skipped, bracket⟩, quote⟩, digit⟩, wordStart⟩ := begins
      refine ⟨skipped, ?_⟩
      simp [Shape.ofFirst, bracket, quote, digit, wordStart]
    · have settled := settled_of_ascii first.toNat (toNat_lt_of_begins begins special)
      rw [Char.ofNat_toNat] at settled
      have listed : shape ∈ [Shape.bracket, .string, .number, .word] := by
        cases shape <;> simp at special ⊢
      simpa [begins] using List.all_eq_true.mp settled shape listed
  · rintro ⟨skipped, rfl⟩
    unfold Shape.ofFirst
    split_ifs <;> simp_all [Shape.begins]

theorem tailLength_eq :
    tailLength first rest =
      match Shape.ofFirst first with
      | .bracket => 0
      | .string => stringTail first 0 rest
      | .number => (rest.takeWhile isNumberChar).length
      | .word => (rest.takeWhile isWordChar).length
      | .separator => 0 := by
  unfold tailLength Shape.ofFirst
  split_ifs <;> rfl

theorem style_eq :
    style first rest =
      match Shape.ofFirst first with
      | .bracket => (.bracket, .operator)
      | .string => (.string, .string)
      | .number => numberStyle (first :: rest)
      | .word => wordStyle (first :: rest)
      | .separator => (.separator, .operator) := by
  unfold style Shape.ofFirst
  split_ifs <;> rfl

end First

end Lexer

namespace Lexer

/-- A run of characters of a class that what follows it does not go on with. -/
structure MaximalRun (member : Char → Bool) (run following : Text) : Prop where
  inside : ∀ char ∈ run, member char = true
  maximal : ∀ char ∈ following.head?, member char = false

/-- `StringBody quote tail following`: what stands behind an opening quote and belongs
to the string, and what follows the string.  A backslash takes the next character
along, whatever it is, and stands alone only where there is none. -/
inductive StringBody (quote : Char) : Text → Text → Prop where
  | closed (following : Text) : StringBody quote [quote] following
  | cut {ending : Char} (rest : Text) :
      isLineEnding ending = true → StringBody quote [] (ending :: rest)
  | ended : StringBody quote [] []
  | escaped (char : Char) {tail following : Text} :
      StringBody quote tail following →
      StringBody quote ('\\' :: char :: tail) following
  | lone : StringBody quote ['\\'] []
  | plain {char : Char} {tail following : Text} :
      char ≠ '\\' → char ≠ quote → isLineEnding char = false →
      StringBody quote tail following →
      StringBody quote (char :: tail) following

inductive NumberStyle (run : Text) : TokenKind × TokenColor → Prop where
  | address :
      run.count '.' = 3 → ':' ∉ run → '-' ∉ run →
      NumberStyle run (.ipAddress, .keyword2)
  | time : ':' ∈ run ∨ '-' ∈ run → NumberStyle run (.timestamp, .keyword)
  | number :
      run.count '.' ≠ 3 → ':' ∉ run → '-' ∉ run →
      NumberStyle run (.number, .number)

inductive WordStyle (word : Text) : TokenKind × TokenColor → Prop where
  | severity {style : TokenKind × TokenColor} :
      severityStyle? (Severity.ofWord word) = some style → WordStyle word style
  | method :
      Severity.ofWord word = .unknown → word.upper ∈ httpWords →
      WordStyle word (.httpMethod, .keyword2)
  | other :
      Severity.ofWord word = .unknown → word.upper ∉ httpWords →
      WordStyle word (.message, .word)

/-- `Lexeme shape lexeme following style`: the characters of a token of a shape, what
follows them in the text, and the meaning and colour of the token. -/
inductive Lexeme : Shape → Text → Text → TokenKind × TokenColor → Prop where
  | bracket {char : Char} (following : Text) :
      isBracket char = true →
      Lexeme .bracket [char] following (.bracket, .operator)
  | separator {char : Char} (following : Text) :
      Shape.separator.begins char = true →
      Lexeme .separator [char] following (.separator, .operator)
  | number {first : Char} {tail following : Text} {style : TokenKind × TokenColor} :
      isDigit first = true →
      MaximalRun isNumberChar (first :: tail) following →
      NumberStyle (first :: tail) style →
      Lexeme .number (first :: tail) following style
  | word {first : Char} {tail following : Text} {style : TokenKind × TokenColor} :
      isWordStart first = true →
      MaximalRun isWordChar (first :: tail) following →
      WordStyle (first :: tail) style →
      Lexeme .word (first :: tail) following style
  | string {quote : Char} {tail following : Text} :
      isQuote quote = true →
      StringBody quote tail following →
      Lexeme .string (quote :: tail) following (.string, .string)

/-- The token stands in the text as the grammar has it for the shape. -/
def Shape.Fits (shape : Shape) (text : Text) (token : Token) : Prop :=
  ∃ lexeme following,
    text.drop token.start = lexeme ++ following ∧
      token.stop = token.start + lexeme.length ∧
      Lexeme shape lexeme following (token.kind, token.color)

/-- A run is as long as the characters of its class go on. -/
theorem maximalRun_iff {member : Char → Bool} {first : Char} {tail following : Text}
    (opens : member first = true) :
    MaximalRun member (first :: tail) following ↔
      ((tail ++ following).takeWhile member).length = tail.length := by
  have whole : ((tail ++ following).takeWhile member).length = tail.length ↔
      (tail ++ following).takeWhile member = tail := by
    constructor
    · intro width
      have within := List.prefix_iff_eq_take.mp
        (List.takeWhile_prefix (l := tail ++ following) member)
      rw [within, width, List.take_left]
    · exact congrArg List.length
  rw [whole, takeWhile_append_eq_iff]
  constructor
  · rintro ⟨inside, maximal⟩
    exact ⟨fun char later => inside char (List.mem_cons_of_mem _ later), maximal⟩
  · rintro ⟨inside, maximal⟩
    exact ⟨List.forall_mem_cons.mpr ⟨opens, inside⟩, maximal⟩

section StringBody

theorem exists_stringBody (quote : Char) (read : Nat) (text : Text) :
    ∃ tail following, text = tail ++ following ∧
      stringTail quote read text = read + tail.length ∧
      StringBody quote tail following := by
  fun_induction stringTail quote read text with
  | case1 read => exact ⟨[], [], rfl, rfl, .ended⟩
  | case2 read next rest induction =>
      obtain ⟨tail, following, rfl, width, body⟩ := induction
      refine ⟨'\\' :: next :: tail, following, rfl, ?_, .escaped next body⟩
      rw [width, List.length_cons, List.length_cons]
      omega
  | case3 read rest _ => exact ⟨[quote], rest, rfl, rfl, .closed rest⟩
  | case4 read char rest _ _ ending =>
      exact ⟨[], char :: rest, rfl, rfl, .cut rest ending⟩
  | case5 read char rest lone different inside induction =>
      by_cases backslash : char = '\\'
      · -- A backslash that takes nothing along has nothing behind it.
        subst backslash
        cases rest with
        | nil => exact ⟨['\\'], [], rfl, rfl, .lone⟩
        | cons next rest => exact absurd rfl (lone next rest rfl)
      · obtain ⟨tail, following, rfl, width, body⟩ := induction
        have within : isLineEnding char = false := by simpa using inside
        refine ⟨char :: tail, following, rfl, ?_,
          .plain backslash different within body⟩
        rw [width, List.length_cons]
        omega

variable {quote : Char} (quotes : isQuote quote = true)

include quotes

theorem isQuote_excludes : quote ≠ '\\' ∧ isLineEnding quote = false := by
  simp only [isQuote, Bool.or_eq_true, decide_eq_true_eq] at quotes
  rcases quotes with rfl | rfl <;> decide

theorem StringBody.stringTail_eq {tail following : Text}
    (body : StringBody quote tail following) (read : Nat) :
    stringTail quote read (tail ++ following) = read + tail.length := by
  obtain ⟨noBackslash, noEnding⟩ := isQuote_excludes quotes
  have plain : ∀ {char : Char} {rest : Text} (read : Nat), char ≠ '\\' →
      stringTail quote read (char :: rest) =
        if char = quote then read + 1
        else if isLineEnding char then read
        else stringTail quote (read + 1) rest := by
    intro char rest read other
    exact stringTail_cons quote read fun _ _ backslash => absurd backslash other
  induction body generalizing read with
  | closed following => rw [List.singleton_append, plain read noBackslash]; simp
  | @cut ending rest ends =>
      have noQuote : ending ≠ quote := by
        rintro rfl
        rw [noEnding] at ends
        contradiction
      have other : ending ≠ '\\' := by
        rintro rfl
        contradiction
      rw [List.nil_append, plain read other, if_neg noQuote, if_pos ends]
      rfl
  | ended => rfl
  | escaped char _ induction =>
      rw [List.cons_append, List.cons_append, stringTail, induction,
        List.length_cons, List.length_cons]
      omega
  | lone =>
      rw [List.append_nil, stringTail_cons quote read (by simp),
        if_neg noBackslash.symm]
      rfl
  | plain other different inside _ induction =>
      rw [List.cons_append, plain read other, if_neg different,
        if_neg (by simp [inside]), induction, List.length_cons]
      omega

theorem stringBody_iff {tail following : Text} :
    StringBody quote tail following ↔
      stringTail quote 0 (tail ++ following) = tail.length := by
  constructor
  · intro body
    rw [body.stringTail_eq quotes, Nat.zero_add]
  · intro width
    obtain ⟨own, behind, split, ownWidth, body⟩ :=
      exists_stringBody quote 0 (tail ++ following)
    have lengths : tail.length = own.length := by omega
    obtain ⟨rfl, rfl⟩ := List.append_inj split lengths
    exact body

end StringBody

theorem numberStyle_iff {run : Text} {style : TokenKind × TokenColor} :
    NumberStyle run style ↔ numberStyle run = style := by
  constructor
  · rintro (⟨points, noColon, noDash⟩ | marked | ⟨points, noColon, noDash⟩)
    · simp [numberStyle, points, noColon, noDash]
    · simp [numberStyle, marked]
    · simp [numberStyle, points, noColon, noDash]
  · rintro rfl
    by_cases marked : ':' ∈ run ∨ '-' ∈ run
    · have own : numberStyle run = (.timestamp, .keyword) := by
        simp [numberStyle, marked]
      rw [own]
      exact .time marked
    · obtain ⟨noColon, noDash⟩ := not_or.mp marked
      by_cases points : run.count '.' = 3
      · have own : numberStyle run = (.ipAddress, .keyword2) := by
          simp [numberStyle, points, noColon, noDash]
        rw [own]
        exact .address points noColon noDash
      · have own : numberStyle run = (.number, .number) := by
          simp [numberStyle, points, noColon, noDash]
        rw [own]
        exact .number points noColon noDash

theorem severityStyle?_eq_none_iff {severity : Severity} :
    severityStyle? severity = none ↔ severity = .unknown := by
  cases severity <;> simp [severityStyle?]

theorem wordStyle_iff {word : Text} {style : TokenKind × TokenColor} :
    WordStyle word style ↔ wordStyle word = style := by
  constructor
  · rintro (known | ⟨unknown, http⟩ | ⟨unknown, other⟩)
    · simp [wordStyle, known]
    · simp [wordStyle, unknown, severityStyle?, http]
    · simp [wordStyle, unknown, severityStyle?, other]
  · rintro rfl
    cases known : severityStyle? (Severity.ofWord word) with
    | some style =>
        have own : wordStyle word = style := by simp [wordStyle, known]
        rw [own]
        exact .severity known
    | none =>
        have unknown := severityStyle?_eq_none_iff.mp known
        by_cases http : word.upper ∈ httpWords
        · have own : wordStyle word = (.httpMethod, .keyword2) := by
            simp [wordStyle, known, http]
          rw [own]
          exact .method unknown http
        · have own : wordStyle word = (.message, .word) := by
            simp [wordStyle, known, http]
          rw [own]
          exact .other unknown http

theorem isNumberChar_of_isDigit {char : Char} (digit : isDigit char = true) :
    isNumberChar char = true := by
  simp [isNumberChar, digit]

theorem isWordChar_of_isWordStart {char : Char} (opens : isWordStart char = true) :
    isWordChar char = true := by
  simp only [isWordStart, Bool.or_eq_true, decide_eq_true_eq] at opens
  rcases opens with letter | rfl
  · simp [isWordChar, letter]
  · decide

/-- A lexeme is what the lexer takes for a token: as many characters, with the same
meaning and colour. -/
theorem lexeme_iff {shape : Shape} {first : Char} {tail following : Text}
    {styled : TokenKind × TokenColor} :
    Lexeme shape (first :: tail) following styled ↔
      shape.begins first = true ∧
        tailLength first (tail ++ following) = tail.length ∧
        style first tail = styled := by
  constructor
  · intro lexeme
    have begins : shape.begins first = true := by
      cases lexeme <;> assumption
    have settled := (begins_iff.mp begins).2
    refine ⟨begins, ?_⟩
    rw [tailLength_eq, style_eq, settled]
    cases lexeme with
    | bracket => exact ⟨rfl, rfl⟩
    | separator => exact ⟨rfl, rfl⟩
    | number digit run meaning =>
        exact ⟨(maximalRun_iff (isNumberChar_of_isDigit digit)).mp run,
          numberStyle_iff.mp meaning⟩
    | word opens run meaning =>
        exact ⟨(maximalRun_iff (isWordChar_of_isWordStart opens)).mp run,
          wordStyle_iff.mp meaning⟩
    | string quotes body => exact ⟨(stringBody_iff quotes).mp body, rfl⟩
  · rintro ⟨begins, width, meaning⟩
    have settled := (begins_iff.mp begins).2
    rw [tailLength_eq, settled] at width
    rw [style_eq, settled] at meaning
    cases shape with
    | bracket =>
        obtain rfl := List.length_eq_zero_iff.mp width.symm
        exact meaning ▸ .bracket following begins
    | string =>
        exact meaning ▸ .string begins ((stringBody_iff begins).mpr width)
    | number =>
        exact .number begins
          ((maximalRun_iff (isNumberChar_of_isDigit begins)).mpr width)
          (numberStyle_iff.mpr meaning)
    | word =>
        exact .word begins
          ((maximalRun_iff (isWordChar_of_isWordStart begins)).mpr width)
          (wordStyle_iff.mpr meaning)
    | separator =>
        obtain rfl := List.length_eq_zero_iff.mp width.symm
        exact meaning ▸ .separator following begins

theorem Lexeme.exists_first {shape : Shape} {lexeme following : Text}
    {styled : TokenKind × TokenColor} (fits : Lexeme shape lexeme following styled) :
    ∃ first tail, lexeme = first :: tail := by
  cases fits <;> exact ⟨_, _, rfl⟩

/-- What the grammar admits at a place is the token that begins there. -/
theorem fits_iff {shape : Shape} {text : Text} {token : Token} :
    shape.Fits text token ↔
      ∃ first rest, text.drop token.start = first :: rest ∧
        shape.begins first = true ∧ token = tokenAt token.start first rest := by
  constructor
  · rintro ⟨lexeme, following, split, stop, fits⟩
    obtain ⟨first, tail, rfl⟩ := fits.exists_first
    obtain ⟨begins, width, meaning⟩ := lexeme_iff.mp fits
    refine ⟨first, tail ++ following, split, begins, ?_⟩
    obtain ⟨kind, color, start, _⟩ := token
    simp only [List.length_cons] at stop
    simp only [tokenAt, width, List.take_left, meaning, stop, Token.mk.injEq,
      true_and]
    omega
  · rintro ⟨first, rest, split, begins, equality⟩
    have bound := tailLength_le first rest
    have width : (rest.take (tailLength first rest)).length =
        tailLength first rest :=
      List.length_take_of_le bound
    refine ⟨first :: rest.take (tailLength first rest),
      rest.drop (tailLength first rest), ?_, ?_, ?_⟩
    · rw [split, List.cons_append, List.take_append_drop]
    · rw [equality, tokenAt_stop, tokenAt_start, List.length_cons, width]
      omega
    · rw [equality]
      refine lexeme_iff.mpr ⟨begins, ?_, rfl⟩
      rw [List.take_append_drop, width]

theorem Scans.exists_tokenAt {offset : Nat} {text whole : Text}
    {tokens : List Token} (scans : Scans offset text tokens)
    (behind : whole.drop offset = text) :
    ∀ token ∈ tokens, ∃ first rest, whole.drop token.start = first :: rest ∧
      isSkipped first = false ∧ token = tokenAt token.start first rest := by
  induction scans with
  | done offset => simp
  | @skip offset first rest tokens _ _ induction =>
      apply induction
      rw [← List.drop_drop, behind]
      rfl
  | @token offset first rest tokens begins _ induction =>
      intro token member
      rcases List.mem_cons.mp member with rfl | later
      · exact ⟨first, rest, behind, begins, rfl⟩
      · apply induction _ token later
        rw [Nat.add_assoc, ← List.drop_drop, behind, Nat.add_comm,
          List.drop_succ_cons]

/-- Every token of a text has exactly one shape, the one that its first character
begins, and stands in the text as the grammar has it for this shape; and where it
begins, the grammar admits no other token of any shape. -/
theorem tokenize_grammatical (text : Text) :
    ∀ token ∈ tokenize text, ∃ first shape,
      text[token.start]? = some first ∧
      (∀ other : Shape, other.begins first = true ↔ other = shape) ∧
      (∀ other : Shape, other.Fits text token ↔ other = shape) ∧
      ∀ rival : Token, rival.start = token.start →
        ∀ other : Shape, other.Fits text rival → rival = token := by
  intro token member
  obtain ⟨first, rest, split, begins, equality⟩ :=
    (scans_tokenize text).exists_tokenAt rfl token member
  have settles : ∀ other : Shape,
      other.begins first = true ↔ other = Shape.ofFirst first := by
    intro other
    rw [begins_iff, and_iff_right begins]
    exact eq_comm
  have admits : ∀ (rival : Token) (other : Shape), rival.start = token.start →
      (other.Fits text rival ↔ other = Shape.ofFirst first ∧ rival = token) := by
    intro rival other start
    rw [fits_iff, start, split, ← settles]
    constructor
    · rintro ⟨_, _, ⟨⟩, opens, own⟩
      exact ⟨opens, own.trans equality.symm⟩
    · rintro ⟨opens, rfl⟩
      exact ⟨first, rest, rfl, opens, equality⟩
  refine ⟨first, Shape.ofFirst first, ?_, settles, ?_, ?_⟩
  · rw [← List.head?_drop, split]
    rfl
  · intro other
    rw [admits token other rfl]
    exact and_iff_left rfl
  · intro rival start other fits
    exact ((admits rival other start).mp fits).2

theorem tokenize_grammatical_escaped :
    let text : Text := "Trace '\\\r\"\n"
    let word : Token := ⟨.levelDebug, .comment, 0, 5⟩
    let string : Token := ⟨.string, .string, 6, 10⟩
    tokenize text = [word, string] ∧
      Shape.word.Fits text word ∧ ¬Shape.separator.Fits text word ∧
      Shape.string.Fits text string := by
  intro text word string
  have found : tokenize text = [word, string] := by decide +kernel
  obtain ⟨first, shape, opens, begins, fits, _⟩ :=
    tokenize_grammatical text word (by rw [found]; simp)
  obtain rfl : 'T' = first := Option.some.inj opens
  obtain rfl : Shape.word = shape := (begins .word).mp rfl
  obtain ⟨quote, other, quoted, opened, closes, _⟩ :=
    tokenize_grammatical text string (by rw [found]; simp)
  obtain rfl : '\'' = quote := Option.some.inj quoted
  have notSeparator : ¬Shape.separator.Fits text word := by
    rw [fits .separator]
    decide
  exact ⟨found, (fits .word).mpr rfl, notSeparator,
    (closes .string).mpr ((opened .string).mp rfl)⟩

end Lexer

end LogLens
