import LogLens.Archive.BitSource

/-!
# Reading through buffers

A reader asks for data of a compressed file and is handed at most what was asked
for.  To answer, packed bytes are taken in portions, as many of them as are
needed to give any data at all, and the steps of unpacking are followed as far
as the bytes taken and the room for data allow.  Steps that give no data are
followed even where there is no room left, so damage may show before the data in
front of it has been used up.

A buffer passes on large requests for whole portions as they are and rounds the
remainder up to a portion, keeping what is left over for the next request.  So
reading through a buffer looks further ahead than what was asked for, and
reading through two buffers further still.

The sources here are those of damaged files: they never run dry, they only give
data until damage shows.
-/

namespace LogLens

/-- The size of the portions in which a file is taken, and of buffers. -/
def portion : Nat := 8192

/-- How far a reader has got: the number of packed bytes taken, and the steps
still ahead. -/
structure Cursor where
  taken : Nat
  ahead : List Move
  deriving DecidableEq, Repr

namespace Cursor

/-- The number of bytes known after as many portions as `reach` needs have been
taken on top of the `known` ones.  Where data has been given, no further portion
is taken. -/
def extend (total given known reach : Nat) : Nat :=
  if reach ≤ known ∨ 0 < given then known
  else min total (known + (reach - known + portion - 1) / portion * portion)

/-- Follows the steps ahead while `given` bytes of data have been given out of
`wish`, in a file of `total` bytes of which `known` are known.  The result is
the number of bytes given in the end, and nothing where damage shows. -/
def follow (total wish given known : Nat) :
    List Move → Option (Nat × Cursor)
  | [] => if given = 0 then none else some (given, ⟨known, []⟩)
  | .enter position :: rest =>
      follow total wish given (min total (position + portion)) rest
  | .give count reach :: rest =>
      let known := extend total given known reach
      if known < reach then some (given, ⟨known, .give count reach :: rest⟩)
      else if given + count ≤ wish then
        follow total wish (given + count) known rest
      else some (wish, ⟨reach, .give (given + count - wish) reach :: rest⟩)
  | .store count start :: rest =>
      let known := extend total given known (start + 1)
      let now := min count (min (known - start) (wish - given))
      if now = count then follow total wish (given + count) known rest
      else
        some (given + now,
          ⟨min known (start + now), .store (count - now) (start + now) :: rest⟩)
  | .leave reach :: rest =>
      let known := extend total given known reach
      if known < reach then some (given, ⟨known, .leave reach :: rest⟩)
      else if given = 0 then follow total wish given known rest
      else some (given, ⟨reach, rest⟩)
  | .damage reach :: rest =>
      let known := extend total given known reach
      if known < reach then some (given, ⟨known, .damage reach :: rest⟩)
      else none
  | .farCopy reach :: rest =>
      let known := extend total given known reach
      if known < reach then some (given, ⟨known, .farCopy reach :: rest⟩)
      else if given < wish then none
      else some (given, ⟨reach, .farCopy reach :: rest⟩)

def ask (total : Nat) (cursor : Cursor) (wish : Nat) : Option (Nat × Cursor) :=
  follow total wish 0 (min total (cursor.taken + portion)) cursor.ahead

end Cursor

/-- A source behind a buffer that still holds `spare` bytes of data. -/
structure Buffer (σ : Type) where
  source : σ
  spare : Nat

namespace Buffer

variable {σ : Type} (ask : σ → Nat → Option (Nat × σ))

/-- Asks for whole portions as long as `missing` holds one, and tells how many
bytes are missing afterwards. -/
def fillPortions (missing : Nat) (source : σ) : Option (Nat × σ) :=
  if portion ≤ missing then
    match ask source (missing / portion * portion) with
    | none => none
    | some (count, source) =>
        if 0 < count then fillPortions (missing - count) source
        else some (missing, source)
  else some (missing, source)
termination_by missing
decreasing_by simp only [portion] at *; omega

/-- Fills the buffer, which holds `filled` bytes, until it has the `missing`
ones, and tells how many are left over. -/
def fillRest (missing filled : Nat) (source : σ) : Option (Nat × σ) :=
  if 0 < missing then
    match ask source (portion - filled) with
    | none => none
    | some (count, source) =>
        if missing ≤ count then some (count - missing, source)
        else if 0 < count then
          fillRest (missing - count) (filled + count) source
        else some (0, source)
  else some (0, source)
termination_by missing
decreasing_by omega

/-- Reads `count` bytes, unless damage shows. -/
def read (buffer : Buffer σ) (count : Nat) : Option (Nat × Buffer σ) :=
  if count ≤ buffer.spare then
    some (count, { buffer with spare := buffer.spare - count })
  else do
    let (missing, source) ←
      fillPortions ask (count - buffer.spare) buffer.source
    let (spare, source) ← fillRest ask missing 0 source
    return (count, ⟨source, spare⟩)

end Buffer

inductive Buffering where
  | single
  | double
  deriving DecidableEq, Repr

/-- Whether damage behind the given steps shows when the first `count` bytes of
the data are read of a file of `total` bytes. -/
def Buffering.showsDamage (buffering : Buffering) (total count : Nat)
    (course : List Move) : Bool :=
  let readInner := Buffer.read (Cursor.ask total)
  let inner : Buffer Cursor := ⟨⟨0, course⟩, 0⟩
  match buffering with
  | single => (readInner inner count).isNone
  | double => (Buffer.read readInner ⟨inner, 0⟩ count).isNone

end LogLens
