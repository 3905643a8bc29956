import LogLens.Severity
import LogLens.Text.Utf8

/-!
# Lines and entries

A document is cut into lines at its line feeds.  Every line is placed by its
number, which counts blank lines too, and by the range of its bytes, the line
feed left out.  A carriage return before the line feed belongs to the range but
not to the text.

What a line says is its record, which is read from the text of this line alone.
The place of the line is added afterwards, so no reader can depend on it, and
makes the entry of the document.
-/

namespace LogLens

def lineFeed : UInt8 := 0x0A

/-- The byte that may stand before it. -/
def carriageReturn : UInt8 := 0x0D

/-- A physical line: its number, the byte range from `start` up to `stop`, and
its text. -/
structure Line where
  number : Int
  start : Int
  stop : Int
  text : Text
  deriving DecidableEq, Repr

/-- Drops one item at the end if it is the given one. -/
def dropFinal {α : Type} [DecidableEq α] (item : α) (items : List α) : List α :=
  if items.getLast? = some item then items.dropLast else items

section DropFinal

variable {α : Type} [DecidableEq α] {item : α} {items : List α}

@[simp] theorem dropFinal_concat (item : α) (items : List α) :
    dropFinal item (items ++ [item]) = items := by
  simp [dropFinal]

theorem dropFinal_of_ne (different : items.getLast? ≠ some item) :
    dropFinal item items = items :=
  if_neg different

theorem dropFinal_eq_nil_iff :
    dropFinal item items = [] ↔ items = [] ∨ items = [item] := by
  by_cases final : items.getLast? = some item
  · obtain ⟨front, equality⟩ := List.getLast?_eq_some_iff.mp final
    simp [equality]
  · rw [dropFinal_of_ne final]
    constructor
    · exact .inl
    · rintro (none | single)
      · exact none
      · rw [single] at final
        exact absurd rfl final

end DropFinal

namespace Line

/-- The bytes between the line feeds of a document.  Nothing follows a line
feed that ends the document. -/
def pieces (content : Bytes) : List Bytes :=
  let split := content.splitOn lineFeed
  if split.getLast? = some [] then split.dropLast else split

def textOf (bytes : Bytes) : Text :=
  Utf8.decode (dropFinal carriageReturn bytes)

/-- Places the pieces of a document one after the other, the first of them as
the line of the given number and start.  Lines already placed are kept newest
first. -/
def placeFrom (placed : List Line) (number start : Nat) : List Bytes → List Line
  | [] => placed.reverse
  | bytes :: rest =>
      placeFrom
        (⟨number, start, start + bytes.length, textOf bytes⟩ :: placed)
        (number + 1) (start + bytes.length + 1) rest

/-- The lines of the pieces, numbered and placed from the given values. -/
def place (number start : Nat) (split : List Bytes) : List Line :=
  placeFrom [] number start split

def scan (content : Bytes) : List Line :=
  place 1 0 (pieces content)

theorem placeFrom_eq (placed : List Line) (number start : Nat)
    (split : List Bytes) :
    placeFrom placed number start split =
      placed.reverse ++ place number start split := by
  induction split generalizing placed number start with
  | nil => simp [placeFrom, place]
  | cons bytes rest induction =>
      rw [placeFrom, place, placeFrom, induction, induction [_]]
      simp

@[simp] theorem place_nil (number start : Nat) : place number start [] = [] := rfl

@[simp] theorem place_cons (number start : Nat) (bytes : Bytes)
    (rest : List Bytes) :
    place number start (bytes :: rest) =
      ⟨number, start, start + bytes.length, textOf bytes⟩ ::
        place (number + 1) (start + bytes.length + 1) rest := by
  rw [place, placeFrom, placeFrom_eq]
  simp

end Line

/-- What an access log says about a request.  Absent fields are empty or zero. -/
structure WebRequest where
  clientAddress : Text := []
  method : Text := []
  url : Text := []
  status : Int := 0
  responseSize : Int := 0
  referer : Text := []
  userAgent : Text := []
  deriving DecidableEq, Repr

/-- What one line says.  Absent fields are empty. -/
structure Record where
  message : Text := []
  timestamp : Text := []
  severity : Severity := .unknown
  source : Text := []
  web : WebRequest := {}
  deriving DecidableEq, Repr

structure Entry extends Record where
  lineNumber : Int := 0
  lineStart : Int := 0
  lineStop : Int := 0
  deriving DecidableEq, Repr

namespace Entry

def ofLine (read : Text → Record) (line : Line) : Entry :=
  { read line.text with
    lineNumber := line.number
    lineStart := line.start
    lineStop := line.stop }

/-- The entries of the lines of a document that are not blank. -/
def ofContent (read : Text → Record) (content : Bytes) : List Entry :=
  ((Line.scan content).filter fun line => line.text ≠ []).map (ofLine read)

end Entry

end LogLens
