import LogLens.Archive.BitSource

/-!
# Unpacking

Deflated data is a sequence of blocks.  The head of a block tells whether it is
the last one and either how many bytes follow as they are or which two prefix
codes its symbols are written in.  The codes are fixed or given with the block,
in which case the lengths of their words are themselves written in a code.

The symbols of a block are literals and repetitions of what has come before.
Where the data turns out to be faulty, everything that was read before is kept.
Every step of a loop reads at least one bit, so the number of bits bounds it.
-/

namespace LogLens

inductive BlockBody where
  | stored (length : Nat)
  | coded (literals distances : PrefixCode)

structure Block where
  last : Bool
  body : BlockBody

namespace Block

def fixedLiterals : PrefixCode :=
  .ofLengths (List.replicate 144 8 ++ List.replicate 112 9 ++
    List.replicate 24 7 ++ List.replicate 8 8)

def fixedDistances : PrefixCode :=
  .ofLengths (List.replicate 32 5)

def lengthOrder : List Nat :=
  [16, 17, 18, 0, 8, 7, 9, 6, 10, 5, 11, 4, 12, 3, 13, 2, 14, 1, 15]

def endSymbol : Nat := 256

def maxLiterals : Nat := 286

def maxDistances : Nat := 30

def readOrdered (source : BitSource) :
    List Nat → Except Fault (List (Nat × Nat) × BitSource)
  | [] => return ([], source)
  | symbol :: rest => do
      let (length, source) ← source.take 3
      let (others, source) ← readOrdered source rest
      return ((symbol, length) :: others, source)

/-- Reads what a symbol of the code of lengths stands for: a length, or a run of
the last length or of zeros.  The lengths before it are given newest first. -/
def readRun (lengths : List Nat) (symbol : Nat) (source : BitSource) :
    Except Fault (List Nat × BitSource) :=
  match symbol with
  | 16 => do
      let (more, source) ← source.take 2
      match lengths with
      | [] => source.wrong .lengthRun
      | last :: _ => return (List.replicate (3 + more) last, source)
  | 17 => do
      let (more, source) ← source.take 3
      return (List.replicate (3 + more) 0, source)
  | 18 => do
      let (more, source) ← source.take 7
      return (List.replicate (11 + more) 0, source)
  | length => return ([length], source)

/-- Reads word lengths, newest first, until there are `wanted` of them.  In a
code of lengths without words every bit stands for a length of zero. -/
def readLengths (code : PrefixCode) (wanted : Nat) :
    Nat → List Nat → BitSource → Except Fault (List Nat × BitSource)
  | 0, lengths, source => return (lengths, source)
  | fuel + 1, lengths, source => do
      if wanted ≤ lengths.length then return (lengths, source)
      else
        let (symbol, source) ← code.read source
        let (run, source) ← readRun lengths (symbol.getD 0) source
        if wanted < lengths.length + run.length then source.wrong .lengthRun
        else readLengths code wanted fuel (run ++ lengths) source

def codesOf (literals distances : List Nat) (source : BitSource) :
    Except Fault (BlockBody × BitSource) :=
  if literals.getD endSymbol 0 = 0 then source.wrong .blockEnd
  else if !PrefixCode.isUsable literals then source.wrong .literalCode
  else if !PrefixCode.isUsable distances then source.wrong .distanceCode
  else
    return (.coded (PrefixCode.ofLengths literals) (PrefixCode.ofLengths distances),
      source)

def readCodes (source : BitSource) : Except Fault (BlockBody × BitSource) := do
  let (literalExtra, source) ← source.take 5
  let (distanceExtra, source) ← source.take 5
  let (orderExtra, source) ← source.take 4
  let literalCount := 257 + literalExtra
  let distanceCount := 1 + distanceExtra
  if maxLiterals < literalCount ∨ maxDistances < distanceCount then
    source.wrong .symbolCount
  else
    let (given, source) ← readOrdered source (lengthOrder.take (4 + orderExtra))
    let lengthLengths :=
      (List.range 19).map fun symbol => (given.lookup symbol).getD 0
    if !PrefixCode.isCompleteOrEmpty lengthLengths then source.wrong .lengthCode
    else
      let wanted := literalCount + distanceCount
      let (lengths, source) ←
        readLengths (.ofLengths lengthLengths) wanted wanted [] source
      let inOrder := lengths.reverse
      codesOf (inOrder.take literalCount) (inOrder.drop literalCount) source

/-- Reads the length of a stored block, which is given twice, the second time
with all bits turned over. -/
def readStoredLength (source : BitSource) :
    Except Fault (BlockBody × BitSource) := do
  let (length, source) ← source.align.take 16
  let (complement, source) ← source.take 16
  if length + complement ≠ 0xFFFF then source.wrong .storedLength
  else return (.stored length, source)

def read (source : BitSource) : Except Fault (Block × BitSource) := do
  let (last, source) ← source.take 1
  let (kind, source) ← source.take 2
  let (body, source) ←
    match kind with
    | 0 => readStoredLength source
    | 1 => pure (.coded fixedLiterals fixedDistances, source)
    | 2 => readCodes source
    | _ => source.wrong .blockKind
  return (⟨last = 1, body⟩, source)

end Block

inductive Symbol where
  | literal (byte : UInt8)
  | blockEnd
  | repetition (length distance : Nat)
  deriving DecidableEq, Repr

namespace Symbol

/-- The shortest length of each class of repetition, and its extra bits. -/
def lengthClasses : List (Nat × Nat) :=
  [ (3, 0), (4, 0), (5, 0), (6, 0), (7, 0), (8, 0), (9, 0), (10, 0), (11, 1),
    (13, 1), (15, 1), (17, 1), (19, 2), (23, 2), (27, 2), (31, 2), (35, 3),
    (43, 3), (51, 3), (59, 3), (67, 4), (83, 4), (99, 4), (115, 4), (131, 5),
    (163, 5), (195, 5), (227, 5), (258, 0) ]

/-- The shortest distance of each class of repetition, and its extra bits. -/
def distanceClasses : List (Nat × Nat) :=
  [ (1, 0), (2, 0), (3, 0), (4, 0), (5, 1), (7, 1), (9, 2), (13, 2), (17, 3),
    (25, 3), (33, 4), (49, 4), (65, 5), (97, 5), (129, 6), (193, 6), (257, 7),
    (385, 7), (513, 8), (769, 8), (1025, 9), (1537, 9), (2049, 10), (3073, 10),
    (4097, 11), (6145, 11), (8193, 12), (12289, 12), (16385, 13), (24577, 13) ]

/-- Reads the number that a class and its extra bits give.  A class that there
is not is the given defect. -/
def readClass (defect : Defect) (classes : List (Nat × Nat))
    (index : Option Nat) (source : BitSource) : Except Fault (Nat × BitSource) :=
  match index.bind (classes[·]?) with
  | none => source.wrong defect
  | some (base, extra) => do
      let (more, source) ← source.take extra
      return (base + more, source)

def readRepetition (distances : PrefixCode) (lengthClass : Nat)
    (source : BitSource) : Except Fault (Symbol × BitSource) := do
  let (length, source) ←
    readClass .literalWord lengthClasses (some lengthClass) source
  let (distanceClass, source) ← distances.read source
  let (distance, source) ←
    readClass .distanceWord distanceClasses distanceClass source
  return (.repetition length distance, source)

def read (literals distances : PrefixCode) (source : BitSource) :
    Except Fault (Symbol × BitSource) := do
  let (found, source) ← literals.read source
  match found with
  | none => source.wrong .literalWord
  | some symbol =>
      if symbol < Block.endSymbol then
        return (.literal (UInt8.ofNat symbol), source)
      else if symbol = Block.endSymbol then return (.blockEnd, source)
      else readRepetition distances (symbol - Block.endSymbol - 1) source

end Symbol

namespace Inflate

/-- What has been unpacked so far and how, the steps being kept newest first,
and the source of the rest. -/
structure Progress where
  source : BitSource
  output : Array UInt8
  course : List Move

/-- Repeats `length` bytes from `distance` bytes before the end. -/
def copyBack (distance : Nat) : Nat → Array UInt8 → Array UInt8
  | 0, output => output
  | length + 1, output =>
      copyBack distance length
        (output.push (output[output.size - distance]?.getD 0))

def readCoded (literals distances : PrefixCode) :
    Nat → Progress → Progress × Option Fault
  | 0, progress => (progress, some .starved)
  | fuel + 1, progress =>
      match Symbol.read literals distances progress.source with
      | .error fault => (progress, some fault)
      | .ok (.blockEnd, source) => ({ progress with source := source }, none)
      | .ok (.literal byte, source) =>
          readCoded literals distances fuel
            { source := source
              output := progress.output.push byte
              course := .give 1 source.position :: progress.course }
      | .ok (.repetition length distance, source) =>
          if progress.output.size < distance then
            (progress, some (.wrong .farDistance source.position))
          else
            readCoded literals distances fuel
              { source := source
                output := copyBack distance length progress.output
                course := .give length source.position :: progress.course }

def readStored (length : Nat) (progress : Progress) :
    Progress × Option Fault :=
  let start := progress.source.position
  let (block, source) := progress.source.takeBytes length
  ({ source := source
     output := progress.output ++ block
     course :=
       if block = [] then progress.course
       else .store block.length start :: progress.course },
    if block.length < length then some .starved else none)

/-- Reads what follows the head of a block.  `bits` bounds the number of
symbols. -/
def readBody (bits : Nat) (progress : Progress) :
    BlockBody → Progress × Option Fault
  | .stored length => readStored length progress
  | .coded literals distances => readCoded literals distances bits progress

def readBlocks (bits : Nat) : Nat → Progress → Progress × Option Fault
  | 0, progress => (progress, some .starved)
  | fuel + 1, progress =>
      match Block.read progress.source with
      | .error fault => (progress, some fault)
      | .ok (block, source) =>
          match readBody bits { progress with source := source } block.body with
          | (progress, some fault) => (progress, some fault)
          | (progress, none) =>
              if block.last then (progress, none)
              else readBlocks bits fuel progress

/-- Unpacks the deflated data that begins at the source.  `bits` bounds the
number of bits that there are. -/
def unpack (bits : Nat) (source : BitSource) : Progress × Option Fault :=
  readBlocks bits bits
    { source := source, output := #[], course := [.enter source.position] }

end Inflate

end LogLens
