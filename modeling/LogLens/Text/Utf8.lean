import LogLens.Text.Basic

/-!
# UTF-8

Decoding reads one byte at a time.  Between bytes the decoder either stands
between characters or owes the tail of a character whose beginning it has seen.
A byte that cannot continue that character ends it: what was seen becomes one
replacement character and the byte is read afresh.  Every maximal beginning of
a character that is never completed therefore becomes exactly one replacement
character, and an ASCII byte always leaves the decoder between characters.
-/

namespace LogLens

/-- The character that stands for bytes that are not UTF-8. -/
def replacement : Char := '\uFFFD'

namespace Utf8

/-- The rest of a character whose first bytes have been read: the value they
give, the number of bytes still missing, and the range in which the next one
has to lie. -/
structure Owed where
  value : Nat
  missing : Nat
  low : UInt8
  high : UInt8

/-- The decoder between two bytes.  The output is kept newest first. -/
structure Decoder where
  owed : Option Owed
  output : Text

/-- What a byte beyond ASCII owes as the first byte of a character; nothing if
no character begins with it. -/
def lead (byte : UInt8) : Option Owed :=
  if byte < 0xC2 then none
  else if byte < 0xE0 then some ⟨byte.toNat - 0xC0, 1, 0x80, 0xBF⟩
  else if byte = 0xE0 then some ⟨0, 2, 0xA0, 0xBF⟩
  else if byte = 0xED then some ⟨0xD, 2, 0x80, 0x9F⟩
  else if byte < 0xF0 then some ⟨byte.toNat - 0xE0, 2, 0x80, 0xBF⟩
  else if byte = 0xF0 then some ⟨0, 3, 0x90, 0xBF⟩
  else if byte < 0xF4 then some ⟨byte.toNat - 0xF0, 3, 0x80, 0xBF⟩
  else if byte = 0xF4 then some ⟨4, 3, 0x80, 0x8F⟩
  else none

def begin (output : Text) (byte : UInt8) : Decoder :=
  if byte < 0x80 then ⟨none, Char.ofNat byte.toNat :: output⟩
  else match lead byte with
    | some owed => ⟨some owed, output⟩
    | none => ⟨none, replacement :: output⟩

def step (decoder : Decoder) (byte : UInt8) : Decoder :=
  match decoder.owed with
  | none => begin decoder.output byte
  | some owed =>
      if owed.low ≤ byte ∧ byte ≤ owed.high then
        let value := owed.value * 64 + (byte.toNat - 0x80)
        if owed.missing ≤ 1 then ⟨none, Char.ofNat value :: decoder.output⟩
        else ⟨some ⟨value, owed.missing - 1, 0x80, 0xBF⟩, decoder.output⟩
      else begin (replacement :: decoder.output) byte

/-- What is already written has no influence on how a byte is read. -/
theorem step_append (owed : Option Owed) (written before : Text) (byte : UInt8) :
    step ⟨owed, written ++ before⟩ byte =
      ⟨(step ⟨owed, written⟩ byte).owed,
        (step ⟨owed, written⟩ byte).output ++ before⟩ := by
  cases owed with
  | none =>
      simp only [step, begin]
      split
      · rfl
      · split <;> rfl
  | some owed =>
      simp only [step, begin]
      split
      · split <;> rfl
      · split
        · rfl
        · split <;> rfl

def finish (decoder : Decoder) : Text :=
  match decoder.owed with
  | none => decoder.output.reverse
  | some _ => (replacement :: decoder.output).reverse

/-- Decodes a byte string, replacing what is not UTF-8. -/
def decode (bytes : Bytes) : Text :=
  finish (bytes.foldl step ⟨none, []⟩)

def encode (text : Text) : Bytes :=
  text.flatMap String.utf8EncodeChar

def size (text : Text) : Nat :=
  text.foldr (fun char size => char.utf8Size + size) 0

example : decode [0xE0, 0x80, 0x80] = List.replicate 3 replacement := by decide
example : decode [0xF0, 0x9F, 0x98, 0x0A] = [replacement, '\n'] := by decide
example : decode (encode "é😀") = ("é😀" : Text) := by decide +kernel

end Utf8

end LogLens
