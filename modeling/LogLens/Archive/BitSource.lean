import LogLens.Failure

/-!
# Bits, words and steps

Compressed data is read as a sequence of bits, the least significant bit of each
byte first.  A source holds the bits of a byte that is only partly read, and
knows how many bytes of the file it has taken, so that a defect can be located.

A canonical prefix code is given by the length of the word of each symbol.
Words of one length are consecutive numbers in the order of their symbols, and
shorter words come before longer ones.

A compressed file gives its data step by step, and every step tells how many
bytes of the file have to be known for it, so that one can tell how far a reader
gets who is handed the file in portions and asks for a part of the data only.
-/

namespace LogLens

inductive Fault where
  | starved
  /-- The data is wrong, which shows as soon as the first `reach` bytes of the
  file are known. -/
  | wrong (defect : Defect) (reach : Nat)
  deriving DecidableEq, Repr

def Fault.failure : Fault → ArchiveFailure
  | starved => .endsEarly
  | wrong defect _ => .damaged defect

/-- The bytes not yet taken, the number of those that are, and the number `held`
whose `heldCount` low bits are still to be read before the bytes. -/
structure BitSource where
  bytes : Bytes
  position : Nat
  held : Nat
  heldCount : Nat

namespace BitSource

def ofBytes (bytes : Bytes) : BitSource :=
  { bytes := bytes, position := 0, held := 0, heldCount := 0 }

/-- Reads `need` bits as a number from the bits held and the bytes behind
them. -/
def takeFrom (need held heldCount position : Nat) (bytes : Bytes) :
    Except Fault (Nat × BitSource) :=
  if need ≤ heldCount then
    .ok (held % (1 <<< need),
      { bytes := bytes
        position := position
        held := held >>> need
        heldCount := heldCount - need })
  else match bytes with
    | [] => .error .starved
    | byte :: rest =>
        takeFrom need (held + (byte.toNat <<< heldCount)) (heldCount + 8)
          (position + 1) rest

/-- Reads `need` bits as a number, the first bit being the least significant. -/
def take (need : Nat) (source : BitSource) : Except Fault (Nat × BitSource) :=
  takeFrom need source.held source.heldCount source.position source.bytes

def align (source : BitSource) : BitSource :=
  { source with held := 0, heldCount := 0 }

def takeBytes (count : Nat) (source : BitSource) : Bytes × BitSource :=
  let taken := source.bytes.take count
  (taken,
    { source.align with
      bytes := source.bytes.drop count
      position := source.position + taken.length })

/-- The fault that shows in what has been read last. -/
def wrong {α : Type} (source : BitSource) (defect : Defect) : Except Fault α :=
  .error (.wrong defect source.position)

end BitSource

/-- A canonical prefix code: how many words there are of each length from one
on, and the symbols in the order of their words. -/
structure PrefixCode where
  counts : List Nat
  symbols : Array Nat

namespace PrefixCode

def maxLength : Nat := 15

/-- The lengths of the words of a code, from one to the longest.  At least one
bit is read of a code without words, too. -/
def wordLengths (lengths : List Nat) : List Nat :=
  (List.range (max 1 (lengths.foldl max 0))).map (· + 1)

/-- The code that gives each symbol a word of the listed length, a length of
zero giving it none. -/
def ofLengths (lengths : List Nat) : PrefixCode :=
  { counts := (wordLengths lengths).map lengths.count
    symbols :=
      ((wordLengths lengths).flatMap fun length =>
        (lengths.zipIdx.filter (·.1 = length)).map Prod.snd).toArray }

def present (lengths : List Nat) : List Nat :=
  lengths.filter (· ≠ 0)

/-- The number of sequences of bits, all of the greatest length, that begin with
a word, if no word begins with another one. -/
def covered (lengths : List Nat) : Nat :=
  (present lengths).foldl
    (fun count length => count + (1 <<< (maxLength - length))) 0

/-- Whether every sequence of bits begins with exactly one word. -/
def isComplete (lengths : List Nat) : Bool :=
  covered lengths = 1 <<< maxLength

/-- Whether a code may stand for word lengths: it is complete or empty. -/
def isCompleteOrEmpty (lengths : List Nat) : Bool :=
  isComplete lengths || present lengths = []

/-- Whether a code may stand for data.  A single word of one bit is accepted as
well. -/
def isUsable (lengths : List Nat) : Bool :=
  isCompleteOrEmpty lengths || present lengths = [1]

/-- Reads one word and gives its symbol, if it is a word.  `word` holds the bits
read so far, `first` the first word of the current length and `index` the place
of its symbol. -/
def readFrom (symbols : Array Nat) (word first index : Nat) :
    List Nat → BitSource → Except Fault (Option Nat × BitSource)
  | [], source => return (none, source)
  | count :: counts, source => do
      let (bit, source) ← source.take 1
      let word := 2 * word + bit
      if word < first + count then
        return (symbols[index + (word - first)]?, source)
      else
        readFrom symbols word (2 * (first + count)) (index + count) counts source

/-- Reads one word and gives its symbol.  Bits that cannot be the beginning of a
word give none. -/
def read (code : PrefixCode) (source : BitSource) :
    Except Fault (Option Nat × BitSource) :=
  readFrom code.symbols 0 0 0 code.counts source

end PrefixCode

/-- A step of unpacking.  Positions count bytes from the beginning of the
file. -/
inductive Move where
  /-- The header of a member ends. -/
  | enter (position : Nat)
  /-- A symbol that ends within the first `reach` bytes of the file gives `count`
  bytes of data. -/
  | give (count reach : Nat)
  /-- From `start` on, `count` bytes of the file are data as they are. -/
  | store (count start : Nat)
  /-- The data of a member ends within the first `reach` bytes of the file. -/
  | leave (reach : Nat)
  /-- Damage shows within the first `reach` bytes of the file. -/
  | damage (reach : Nat)
  /-- A symbol that ends within the first `reach` bytes of the file repeats what
  is not there, which shows when its first byte is wanted. -/
  | farCopy (reach : Nat)
  deriving DecidableEq, Repr

def Fault.moves : Fault → List Move
  | starved => []
  | wrong .farDistance reach => [.farCopy reach]
  | wrong _ reach => [.damage reach]

end LogLens
