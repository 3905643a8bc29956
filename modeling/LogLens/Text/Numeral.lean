import LogLens.Text.Basic

/-!
# Blanks, digits and integers

The blank characters, which separate words, are those with a bidirectional type
of paragraph or segment separator or white space, and those of category space
separator (Unicode 14).  Unicode arranges the decimal digits of every script in
runs of ten consecutive code points, in ascending order of value, so a run is
known by its zero.

An integer may be surrounded by blanks, may carry one sign, and is written with
the decimal digits of any script.  Single underscores may stand between digits.
A text of more than 4300 digits is refused.
-/

namespace LogLens

def blankRanges : CodeRanges :=
  [ (0x9, 0xD), (0x1C, 0x20), (0x85, 0x85), (0xA0, 0xA0), (0x1680, 0x1680),
    (0x2000, 0x200A), (0x2028, 0x2029), (0x202F, 0x202F), (0x205F, 0x205F), (0x3000, 0x3000) ]

def isBlank (char : Char) : Bool :=
  blankRanges.holds char

/-- There are twenty-nine blank characters. -/
example : (blankRanges.map fun (first, last) => last + 1 - first).sum = 29 := by
  decide

/-- Drops, at both ends, the characters of a class. -/
def Text.trimBy (drops : Char → Bool) (text : Text) : Text :=
  ((text.dropWhile drops).reverse.dropWhile drops).reverse

def Text.trim (text : Text) : Text :=
  text.trimBy isBlank

namespace Text

variable {drops : Char → Bool}

/-- Nothing is dropped from a text whose ends are kept. -/
theorem trimBy_of_kept {text : Text}
    (first : ∀ char ∈ text.head?, drops char = false)
    (last : ∀ char ∈ text.getLast?, drops char = false) :
    text.trimBy drops = text := by
  have kept : ∀ other : Text, (∀ char ∈ other.head?, drops char = false) →
      other.dropWhile drops = other := by
    intro other keeps
    cases other with
    | nil => rfl
    | cons char rest =>
        have stays : ¬drops char = true := by simpa using keeps char rfl
        exact List.dropWhile_cons_of_neg stays
  rw [trimBy, kept text first, kept text.reverse, List.reverse_reverse]
  rwa [List.head?_reverse]

theorem head?_trimBy_cons {char : Char} (keeps : drops char = false)
    (rest : Text) : (trimBy drops (char :: rest)).head? = some char := by
  have stays : ¬drops char = true := by simpa using keeps
  rw [trimBy, List.dropWhile_cons_of_neg stays, List.reverse_cons,
    List.dropWhile_append]
  split <;> simp [keeps]

end Text

/-- The zero of each run of decimal digits (Unicode 14). -/
def decimalZeros : List Nat :=
  [ 0x30, 0x660, 0x6F0, 0x7C0, 0x966, 0x9E6, 0xA66, 0xAE6, 0xB66, 0xBE6, 0xC66, 0xCE6,
    0xD66, 0xDE6, 0xE50, 0xED0, 0xF20, 0x1040, 0x1090, 0x17E0, 0x1810, 0x1946, 0x19D0,
    0x1A80, 0x1A90, 0x1B50, 0x1BB0, 0x1C40, 0x1C50, 0xA620, 0xA8D0, 0xA900, 0xA9D0, 0xA9F0,
    0xAA50, 0xABF0, 0xFF10, 0x104A0, 0x10D30, 0x11066, 0x110F0, 0x11136, 0x111D0, 0x112F0,
    0x11450, 0x114D0, 0x11650, 0x116C0, 0x11730, 0x118E0, 0x11950, 0x11C50, 0x11D50,
    0x11DA0, 0x16A60, 0x16AC0, 0x16B50, 0x1D7CE, 0x1D7D8, 0x1D7E2, 0x1D7EC, 0x1D7F6,
    0x1E140, 0x1E2F0, 0x1E950, 0x1FBF0 ]

def decimalDigit? (char : Char) : Option Nat :=
  (decimalZeros.find? fun start =>
    start ≤ char.toNat && char.toNat < start + 10).map (char.toNat - ·)

example : decimalDigit? '7' = some 7 := by decide
example : decimalDigit? '٣' = some 3 := by decide
example : decimalDigit? 'a' = none := by decide

def maxIntegerDigits : Nat := 4300

/-- Blank characters that may surround an integer: all of them but the four
ASCII information separators. -/
def isNumeralPadding (char : Char) : Bool :=
  isBlank char && !(0x1C ≤ char.toNat && char.toNat ≤ 0x1F)

/-- The values of the digits of a text that holds nothing else and is not
empty. -/
def digitGroup? (text : Text) : Option (List Nat) :=
  if text.isEmpty then none else text.mapM decimalDigit?

def ofDigits (digits : List Nat) : Nat :=
  digits.foldl (fun value digit => value * 10 + digit) 0

/-- Reads digit groups joined by single underscores. -/
def unsigned? (text : Text) : Option Nat := do
  let groups ← (text.splitOn '_').mapM digitGroup?
  let digits := groups.flatten
  if digits.length ≤ maxIntegerDigits then some (ofDigits digits) else none

def integer? (text : Text) : Option Int :=
  match text.trimBy isNumeralPadding with
  | '-' :: rest => (unsigned? rest).map fun value => -(value : Int)
  | '+' :: rest => (unsigned? rest).map fun value => (value : Int)
  | rest => (unsigned? rest).map fun value => (value : Int)

example : integer? " -1_000 " = some (-1000) := by decide +kernel
example : integer? "1__0" = none := by decide +kernel
example : integer? "+-1" = none := by decide +kernel
example : integer? "٤٢" = some 42 := by decide +kernel

end LogLens
