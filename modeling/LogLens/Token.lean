import LogLens.Severity
import LogLens.Text.Basic

/-!
# Tokens

A token is a coloured span of a text.  Offsets count characters, and the
character at `stop` is no longer part of the token.

A text is cut into tokens from left to right.  The first character of a token
decides its shape, and its extent is found by looking at the characters behind
it only as far as the token reaches.  Spaces, tabs and line endings belong to
no token; every other character belongs to exactly one.
-/

namespace LogLens

inductive TokenKind where
  | timestamp
  | level
  | levelError
  | levelWarning
  | levelInfo
  | levelDebug
  | source
  | message
  | ipAddress
  | httpMethod
  | httpStatus
  | url
  | number
  | bracket
  | string
  | separator
  deriving DecidableEq, Repr

namespace TokenKind

def all : List TokenKind :=
  [timestamp, level, levelError, levelWarning, levelInfo, levelDebug, source,
    message, ipAddress, httpMethod, httpStatus, url, number, bracket, string,
    separator]

def identifier : TokenKind → Text
  | timestamp => "timestamp"
  | level => "level"
  | levelError => "level_error"
  | levelWarning => "level_warning"
  | levelInfo => "level_info"
  | levelDebug => "level_debug"
  | source => "source"
  | message => "message"
  | ipAddress => "ip_address"
  | httpMethod => "http_method"
  | httpStatus => "http_status"
  | url => "url"
  | number => "number"
  | bracket => "bracket"
  | string => "string"
  | separator => "separator"

def displayName : TokenKind → Text
  | timestamp => "Timestamp"
  | level => "Level"
  | levelError => "Error"
  | levelWarning => "Warning"
  | levelInfo => "Info"
  | levelDebug => "Debug"
  | source => "Source"
  | message => "Message"
  | ipAddress => "IP Address"
  | httpMethod => "HTTP Method"
  | httpStatus => "HTTP Status"
  | url => "URL"
  | number => "Number"
  | bracket => "Bracket"
  | string => "String"
  | separator => "Separator"

end TokenKind

inductive TokenColor where
  | operator
  | string
  | number
  | keyword
  | keyword2
  | word
  | error
  | comment
  deriving DecidableEq, Repr

def TokenColor.identifier : TokenColor → Text
  | operator => "operator"
  | string => "string"
  | number => "number"
  | keyword => "keyword"
  | keyword2 => "keyword2"
  | word => "word"
  | error => "error"
  | comment => "comment"

structure Token where
  kind : TokenKind
  color : TokenColor
  start : Nat
  stop : Nat
  deriving DecidableEq, Repr

def Token.textsIn (text : Text) (tokens : List Token) : List Text :=
  slices text (tokens.map fun token => (token.start, token.stop))

namespace Lexer

/-- Line endings end a string and belong to no token. -/
def isLineEnding (char : Char) : Bool :=
  char = '\r' || char = '\n'

def isSkipped (char : Char) : Bool :=
  char = ' ' || char = '\t' || isLineEnding char

def isBracket (char : Char) : Bool :=
  ['[', ']', '(', ')', '\x7b', '\x7d', '<', '>'].contains char

def isQuote (char : Char) : Bool :=
  char = '"' || char = '\''

def isDigit (char : Char) : Bool :=
  '0' ≤ char && char ≤ '9'

def isLetter (char : Char) : Bool :=
  ('a' ≤ char && char ≤ 'z') || ('A' ≤ char && char ≤ 'Z')

def isNumberChar (char : Char) : Bool :=
  isDigit char || ['.', ':', '-', '/', 'T', 'Z', '+'].contains char

def isWordStart (char : Char) : Bool :=
  isLetter char || char = '_'

def isWordChar (char : Char) : Bool :=
  isLetter char || isDigit char || ['_', '-', '.'].contains char

section Classes

variable {char : Char}

theorem isLineEnding_iff : isLineEnding char = true ↔ char = '\r' ∨ char = '\n' := by
  simp [isLineEnding]

theorem isSkipped_iff :
    isSkipped char = true ↔ char ∈ ([' ', '\t', '\r', '\n'] : Text) := by
  simp [isSkipped, isLineEnding, or_assoc]

theorem isBracket_iff :
    isBracket char = true ↔ char ∈ ("[]()\x7b\x7d<>" : Text) := by
  rw [isBracket, List.contains_iff_mem]
  rfl

theorem isQuote_iff : isQuote char = true ↔ char ∈ (['"', '\''] : Text) := by
  simp [isQuote]

theorem toNat_lt_of_mem {members : Text} {bound : Nat}
    (below : (members.all fun member => member.toNat < bound) = true)
    (member : char ∈ members) : char.toNat < bound := by
  simpa using List.all_eq_true.mp below char member

/-- A class of characters in a row, all of them ASCII, is told by its ends. -/
theorem between_iff {first last : Char} {members : Text}
    (ascii : (members.all fun member => member.toNat < 0x80) = true)
    (lastAscii : last.toNat < 0x80)
    (listed : ∀ code < 0x80, members.contains (Char.ofNat code) =
      (first.toNat ≤ code && code ≤ last.toNat)) :
    (first ≤ char && char ≤ last) = true ↔ char ∈ members := by
  have bounds : (first ≤ char && char ≤ last) =
      (first.toNat ≤ char.toNat && char.toNat ≤ last.toNat) := by
    simp only [Char.le_def, UInt32.le_iff_toNat_le, Char.toNat]
  rw [bounds, ← List.contains_iff_mem]
  by_cases small : char.toNat < 0x80
  · rw [← listed char.toNat small, Char.ofNat_toNat]
  · have notMember : char ∉ members := fun member =>
      small (toNat_lt_of_mem ascii member)
    simp [notMember]
    omega

theorem isDigit_iff : isDigit char = true ↔ char ∈ ("0123456789" : Text) :=
  between_iff (by decide) (by decide) (by decide +kernel)

def letters : Text :=
  "abcdefghijklmnopqrstuvwxyzABCDEFGHIJKLMNOPQRSTUVWXYZ"

theorem isLetter_iff : isLetter char = true ↔ char ∈ letters := by
  have small : ('a' ≤ char && char ≤ 'z') = true ↔
      char ∈ ("abcdefghijklmnopqrstuvwxyz" : Text) :=
    between_iff (by decide) (by decide) (by decide +kernel)
  have capital : ('A' ≤ char && char ≤ 'Z') = true ↔
      char ∈ ("ABCDEFGHIJKLMNOPQRSTUVWXYZ" : Text) :=
    between_iff (by decide) (by decide) (by decide +kernel)
  rw [isLetter, Bool.or_eq_true, small, capital, ← List.mem_append]
  rfl

theorem isNumberChar_iff :
    isNumberChar char = true ↔ char ∈ ("0123456789.:-/TZ+" : Text) := by
  rw [isNumberChar, Bool.or_eq_true, isDigit_iff, List.contains_iff_mem,
    ← List.mem_append]
  rfl

theorem isWordStart_iff :
    isWordStart char = true ↔ char ∈ letters ++ ['_'] := by
  simp [isWordStart, isLetter_iff]

theorem isWordChar_iff :
    isWordChar char = true ↔
      char ∈ letters ++ ("0123456789_-." : Text) := by
  rw [isWordChar, Bool.or_eq_true, Bool.or_eq_true, isLetter_iff, isDigit_iff,
    List.contains_iff_mem, ← List.mem_append, ← List.mem_append, List.append_assoc]
  rfl

end Classes

def httpWords : List Text :=
  ["GET", "POST", "PUT", "DELETE", "PATCH", "HEAD", "OPTIONS", "CONNECT", "TRACE",
    "HTTP"]

/-- The meaning and colour of a number: an address has three points and neither
colon nor dash, and with a colon or a dash it is a time. -/
def numberStyle (run : Text) : TokenKind × TokenColor :=
  if run.contains ':' || run.contains '-' then (.timestamp, .keyword)
  else if run.count '.' = 3 then (.ipAddress, .keyword2)
  else (.number, .number)

def severityStyle? : Severity → Option (TokenKind × TokenColor)
  | .unknown => none
  | .trace | .debug => some (.levelDebug, .comment)
  | .info => some (.levelInfo, .keyword)
  | .warning => some (.levelWarning, .keyword2)
  | .error | .fatal | .critical => some (.levelError, .error)

/-- The meaning and colour of a word.  A severity comes before a method of the
same name. -/
def wordStyle (word : Text) : TokenKind × TokenColor :=
  match severityStyle? (Severity.ofWord word) with
  | some style => style
  | none =>
      if httpWords.contains word.upper then (.httpMethod, .keyword2)
      else (.message, .word)

/-- The number of characters that belong to a string behind its opening quote,
`read` of them having been passed.  A backslash takes the next character along,
whatever it is; the closing quote belongs to the string, a line ending does
not. -/
def stringTail (quote : Char) (read : Nat) : Text → Nat
  | [] => read
  | '\\' :: _ :: rest => stringTail quote (read + 2) rest
  | char :: rest =>
      if char = quote then read + 1
      else if isLineEnding char then read
      else stringTail quote (read + 1) rest

/-- The number of characters behind the first one that belong to the token it
begins. -/
def tailLength (first : Char) (rest : Text) : Nat :=
  if isBracket first then 0
  else if isQuote first then stringTail first 0 rest
  else if isDigit first then (rest.takeWhile isNumberChar).length
  else if isWordStart first then (rest.takeWhile isWordChar).length
  else 0

/-- The meaning and colour of the token that begins with the first character
and goes on with the given ones. -/
def style (first : Char) (tail : Text) : TokenKind × TokenColor :=
  if isBracket first then (.bracket, .operator)
  else if isQuote first then (.string, .string)
  else if isDigit first then numberStyle (first :: tail)
  else if isWordStart first then wordStyle (first :: tail)
  else (.separator, .operator)

/-- The tokens of a text whose first character has the given offset, its first
`inside` characters belonging to a token that is already found.  Found tokens
are kept newest first. -/
def tokensFrom (found : List Token) (offset inside : Nat) : Text → List Token
  | [] => found.reverse
  | first :: rest =>
      match inside with
      | inside + 1 => tokensFrom found (offset + 1) inside rest
      | 0 =>
          if isSkipped first then tokensFrom found (offset + 1) 0 rest
          else
            let length := tailLength first rest
            let (kind, color) := style first (rest.take length)
            tokensFrom (⟨kind, color, offset, offset + 1 + length⟩ :: found)
              (offset + 1) length rest

def tokenize (text : Text) : List Token :=
  tokensFrom [] 0 0 text

theorem tokensFrom_inside (found : List Token) (offset inside : Nat)
    (text : Text) (within : inside ≤ text.length) :
    tokensFrom found offset inside text =
      tokensFrom found (offset + inside) 0 (text.drop inside) := by
  induction inside generalizing offset text with
  | zero => rfl
  | succ inside induction =>
      cases text with
      | nil => simp at within
      | cons first rest =>
          have inRest : inside ≤ rest.length := by simpa using within
          rw [tokensFrom, induction (offset + 1) rest inRest, List.drop_succ_cons,
            Nat.add_assoc, Nat.add_comm 1 inside]

theorem tokensFrom_eq (found : List Token) (offset inside : Nat) (text : Text) :
    tokensFrom found offset inside text =
      found.reverse ++ tokensFrom [] offset inside text := by
  induction text generalizing found offset inside with
  | nil => simp [tokensFrom]
  | cons first rest induction =>
      cases inside with
      | succ inside => simpa only [tokensFrom] using induction found _ _
      | zero =>
          simp only [tokensFrom]
          split
          · exact induction found _ _
          · rw [induction, induction [_]]
            simp

example :
    tokenize "GET 10.0.0.1" =
      [⟨.httpMethod, .keyword2, 0, 3⟩, ⟨.ipAddress, .keyword2, 4, 12⟩] := by
  decide

end Lexer

end LogLens
