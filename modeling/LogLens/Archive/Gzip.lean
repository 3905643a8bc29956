import LogLens.Archive.Buffer
import LogLens.Archive.Inflate
import LogLens.Text.Basic

/-!
# Compressed files

A compressed file is a sequence of members, each of which gives deflated data
between a header and a trailer with its length and the cyclic redundancy check
of 32 bits that protects it.  Zero bytes may follow a member.  An empty file
holds no member and no data.

A file may be damaged somewhere and still give data up to that place.  Reading
all of it then fails; reading a prefix fails only if the damage shows while the
prefix is read.
-/

namespace LogLens

namespace Checksum

/-- The reversed generator polynomial. -/
def polynomial : UInt32 := 0xEDB88320

def shift (register : UInt32) : UInt32 :=
  if register &&& 1 = 1 then (register >>> 1) ^^^ polynomial else register >>> 1

def update (register : UInt32) (byte : UInt8) : UInt32 :=
  Nat.repeat shift 8 (register ^^^ byte.toUInt32)

def ofBytes (bytes : Bytes) : UInt32 :=
  bytes.foldl update 0xFFFFFFFF ^^^ 0xFFFFFFFF

example : ofBytes (ascii "123456789") = 0xCBF43926 := by decide +kernel

end Checksum

namespace Gzip

def mark : Bytes := [0x1F, 0x8B]

/-- The number that bytes write, the least significant byte first. -/
def littleEndian (bytes : Bytes) : Nat :=
  bytes.foldr (fun byte value => byte.toNat + 256 * value) 0

def toLittleEndian (width value : Nat) : Bytes :=
  (List.range width).map fun place => UInt8.ofNat (value >>> (8 * place))

def need (count : Nat) (source : BitSource) :
    Except ArchiveFailure (Bytes × BitSource) :=
  let (taken, rest) := source.takeBytes count
  if taken.length < count then .error .endsEarly else .ok (taken, rest)

def skip (count : Nat) (source : BitSource) : Except ArchiveFailure BitSource :=
  (need count source).map Prod.snd

def skipZeroEnded (source : BitSource) : Except ArchiveFailure BitSource :=
  skip ((source.bytes.takeWhile (· ≠ 0)).length + 1) source

def hasFlag (flags : UInt8) (place : Nat) : Bool :=
  flags.toNat.testBit place

def skipField (source : BitSource) : Except ArchiveFailure BitSource := do
  let (length, source) ← need 2 source
  skip (littleEndian length) source

def skipOptional (flags : UInt8) (source : BitSource) :
    Except ArchiveFailure BitSource := do
  let source ← if hasFlag flags 2 then skipField source else pure source
  let source ← if hasFlag flags 3 then skipZeroEnded source else pure source
  let source ← if hasFlag flags 4 then skipZeroEnded source else pure source
  if hasFlag flags 1 then skip 2 source else pure source

def skipHeader (source : BitSource) : Except ArchiveFailure BitSource := do
  let (found, source) := source.takeBytes 2
  if found ≠ mark then .error (.wrongMark found)
  else
    let (fields, source) ← need 8 source
    if fields.take 1 ≠ [8] then .error .unknownMethod
    else skipOptional (fields.getD 1 0) source

/-- A member records the length of its data modulo this number. -/
def lengthModulus : Nat := 0x100000000

/-- Checks the trailer of a member against its data, and passes over it and the
zero bytes behind it. -/
def checkTrailer (content : Bytes) (source : BitSource) :
    Except ArchiveFailure BitSource := do
  let (trailer, source) ← need 8 source
  let recorded := littleEndian (trailer.take 4)
  let actual := (Checksum.ofBytes content).toNat
  if recorded ≠ actual then .error (.wrongChecksum recorded actual)
  else if littleEndian (trailer.drop 4) ≠ content.length % lengthModulus then
    .error .wrongLength
  else
    let padding := (source.bytes.takeWhile (· = 0)).length
    return (source.takeBytes padding).2

/-- What is read of a member: its data and the steps that gave it, newest first,
and what follows it, if nothing was wrong. -/
structure Member where
  content : Bytes
  course : List Move
  rest : Except ArchiveFailure BitSource

def readMember (bits : Nat) (source : BitSource) : Member :=
  match skipHeader source with
  | .error failure => { content := [], course := [], rest := .error failure }
  | .ok source =>
      let (progress, fault) := Inflate.unpack bits source
      let content := progress.output.toList
      match fault with
      | some fault =>
          { content := content
            course := fault.moves ++ progress.course
            rest := .error fault.failure }
      | none =>
          { content := content
            course := .leave progress.source.position :: progress.course
            rest := checkTrailer content progress.source }

/-- What a compressed file comes to: the data up to the first damage, if there
is any, and the steps that give it. -/
structure Unpacked where
  content : Bytes
  course : List Move
  failure : Option ArchiveFailure

/-- What members, newest first, come to. -/
def gather (members : List Member) (failure : Option ArchiveFailure) : Unpacked :=
  { content := members.reverse.flatMap Member.content
    course := (members.flatMap Member.course).reverse
    failure := failure }

/-- Reads members as long as there are bytes left.  Those already read are kept
newest first. -/
def readMembers (bits : Nat) : Nat → List Member → BitSource → Unpacked
  | 0, members, _ => gather members (some .endsEarly)
  | fuel + 1, members, source =>
      if source.bytes = [] then gather members none
      else
        let member := readMember bits source
        match member.rest with
        | .error failure => gather (member :: members) (some failure)
        | .ok rest => readMembers bits fuel (member :: members) rest

/-- Unpacks a compressed file as far as possible. -/
def unpack (bytes : Bytes) : Unpacked :=
  let length := bytes.length
  readMembers (8 * length + 1) (length + 1) [] (.ofBytes bytes)

/-- All the data of a file, unless it is damaged. -/
def Unpacked.all (unpacked : Unpacked) : Except ArchiveFailure Bytes :=
  match unpacked.failure with
  | none => .ok unpacked.content
  | some failure => .error failure

/-- The first `count` bytes of the data of a file of `total` bytes, unless
damage shows while they are read. -/
def Unpacked.first (buffering : Buffering) (total count : Nat)
    (unpacked : Unpacked) : Except ArchiveFailure Bytes :=
  match unpacked.failure with
  | none => .ok (unpacked.content.take count)
  | some failure =>
      if buffering.showsDamage total count unpacked.course then .error failure
      else .ok (unpacked.content.take count)

def data (bytes : Bytes) : Except ArchiveFailure Bytes :=
  (unpack bytes).all

def readPrefix (buffering : Buffering) (count : Nat) (bytes : Bytes) :
    Except ArchiveFailure Bytes :=
  (unpack bytes).first buffering bytes.length count

theorem readPrefix_of_data {bytes content : Bytes}
    (intact : data bytes = .ok content) (buffering : Buffering) (count : Nat) :
    readPrefix buffering count bytes = .ok (content.take count) := by
  unfold data Unpacked.all at intact
  unfold readPrefix Unpacked.first
  split at intact
  · next =>
      cases intact
      rfl
  · cases intact

def maxStored : Nat := 0xFFFF

/-- Writes data as stored blocks, of which the last one is marked. -/
def storedBlocks : Nat → Bytes → Bytes
  | 0, _ => []
  | fuel + 1, content =>
      let block := content.take maxStored
      let rest := content.drop maxStored
      [if rest = [] then 1 else 0] ++ toLittleEndian 2 block.length ++
        toLittleEndian 2 (0xFFFF - block.length) ++ block ++
        (if rest = [] then [] else storedBlocks fuel rest)

/-- A compressed file of one member that holds the data as it is. -/
def pack (content : Bytes) : Bytes :=
  mark ++ [8, 0, 0, 0, 0, 0, 0, 0xFF] ++
    storedBlocks (content.length + 1) content ++
    toLittleEndian 4 (Checksum.ofBytes content).toNat ++
    toLittleEndian 4 (content.length % lengthModulus)

example : (data (pack (ascii "zipped"))).toOption = some (ascii "zipped") := by
  decide +kernel

end Gzip

end LogLens
