import LogLens.Archive.Gzip
import LogLens.Failure
import LogLens.FilePath
import LogLens.LogFormat
import LogLens.Record
import LogLens.Statistics
import LogLens.Text.Numeral
import LogLens.Token

/-!
# Documents

Settings say how much of a document is inspected and which files count as logs.
A variable of the environment overrides the number of bytes that are parsed.

A document holds the bytes that are inspected and everything derived from them.
A refresh rebuilds all of it from the new source and keeps nothing of the old
one, so the state of a document is that of its last refresh.

A document is loaded from a file by reading no more of it than the parse cap
allows.  Compressed files are read as the data they hold.  The size of the whole
is only determined where the part that was read may not be all of it.
-/

namespace LogLens

/-- The settings of an inspection.  Bytes beyond the parse cap are never looked
at; a negative size leaves bytes off the end instead. -/
structure Settings where
  parseCap : Int
  sampleSize : Int
  allowedExtensions : List Text
  deriving DecidableEq, Repr

namespace Settings

def defaultParseCap : Nat := 50 * 1024 * 1024

def standard : Settings :=
  { parseCap := defaultParseCap
    sampleSize := LogFormat.defaultSampleSize
    allowedExtensions := Eligibility.defaultExtensions }

/-- Reads the parse cap of the environment.  An empty value counts as absent. -/
def readParseCap (override : Option Text) : Except Failure (Option Int) :=
  match override with
  | none | some [] => .ok none
  | some text =>
      match integer? text with
      | none => .error .parseCapNotInteger
      | some value =>
          if value < 1 then .error .parseCapTooSmall else .ok (some value)

/-- The settings that hold in an environment. -/
def resolve (settings : Settings) (override : Option Text) :
    Except Failure Settings := do
  match ← readParseCap override with
  | none => return settings
  | some cap => return { settings with parseCap := cap }

end Settings

/-- A document with its settings, the bytes kept, the size of its source, and
what was derived from the bytes. -/
structure Document where
  name : Text
  settings : Settings
  content : Bytes
  size : Nat
  format : LogFormat
  entries : List Entry
  statistics : Statistics
  deriving DecidableEq, Repr

namespace Document

def blank (name : Text) (settings : Settings) : Document :=
  { name := name
    settings := settings
    content := []
    size := 0
    format := .unknown
    entries := []
    statistics := {} }

/-- The document of a source.  The source may be only the beginning of a whole
of the given size, which is ignored if it is smaller than the source. -/
def ofSource (name : Text) (settings : Settings) (source : Bytes)
    (totalSize : Option Int) : Document :=
  let content := takeSigned settings.parseCap source
  let format := LogFormat.detect settings.sampleSize content
  let entries := format.entries content
  { name := name
    settings := settings
    content := content
    size := max source.length (totalSize.getD 0).toNat
    format := format
    entries := entries
    statistics := Statistics.ofEntries entries }

/-- A new document under the settings that hold in the environment. -/
def create (name : Text) (settings : Settings) (override : Option Text) :
    Except Failure Document := do
  return blank name (← settings.resolve override)

/-- Replaces everything that the document holds by what the source gives.
Without a source, or with an empty one, the document is blank again. -/
def refresh (document : Document) (source : Option Bytes)
    (totalSize : Option Int) : Document :=
  match source with
  | none | some [] => blank document.name document.settings
  | some (byte :: rest) =>
      ofSource document.name document.settings (byte :: rest) totalSize

def hasData (source : Option Bytes) : Bool :=
  match source with
  | none | some [] => false
  | some (_ :: _) => true

def text (document : Document) : Text :=
  Utf8.decode document.content

def tokens (document : Document) : List Token :=
  Lexer.tokenize document.text

def summary (document : Document) : Except Failure Summary :=
  Summary.build document.name document.size document.format
    document.statistics

end Document

namespace FileStore

/-- The last position that a file can have. -/
def maxPosition : Nat := 0x7FFFFFFFFFFFFFFF

/-- The length of the longest byte string, next to which there is room for what
is noted with it. -/
def maxLength : Nat := maxPosition - 33

/-- The number of bytes to read that a limit gives.  Room is set aside for all
of them, however many there are to be read. -/
def bytesToRead (files : FileStore) (limit : Int) : Except Failure Nat :=
  if limit < 0 then .error .negativeReadLimit
  else if maxPosition < limit then .error .hugeReadLimit
  else if maxLength < limit then .error .oversizedRead
  else if files.room < limit then .error .noRoom
  else .ok limit.toNat

def stored (files : FileStore) (path : FilePath) : Except Failure Bytes :=
  match files.look path with
  | .file bytes => .ok bytes
  | .nothing => .error (.logNotFound path.toText)
  | .tooLong => .error (.nameTooLong path.toText)

def dataOf (path : FilePath) (bytes : Bytes) : Except Failure Bytes :=
  if path.isCompressed then (Gzip.data bytes).mapError .archive else .ok bytes

/-- The first bytes of the data of a file whose stored bytes are given.  Nothing
is unpacked where no byte is asked for. -/
def firstOf (buffering : Buffering) (path : FilePath) (count : Nat)
    (bytes : Bytes) : Except Failure Bytes :=
  if path.isCompressed ∧ 0 < count then
    (Gzip.readPrefix buffering count bytes).mapError .archive
  else .ok (bytes.take count)

def readPrefix (files : FileStore) (buffering : Buffering) (path : FilePath)
    (limit : Int) : Except Failure Bytes := do
  let bytes ← files.stored path
  firstOf buffering path (← files.bytesToRead limit) bytes

def sourceSize (files : FileStore) (path : FilePath) : Except Failure Nat := do
  let bytes ← files.stored path
  return (← dataOf path bytes).length

/-- Loads the document of a file, of which no more than a prefix is read, through
the given buffers.  A file without data is refused. -/
def loadThrough (files : FileStore) (buffering : Buffering) (settings : Settings)
    (override : Option Text) (path : FilePath) : Except Failure Document := do
  let settings ← settings.resolve override
  let data ← files.readPrefix buffering path settings.parseCap
  let size ←
    if settings.parseCap ≤ data.length then files.sourceSize path
    else pure data.length
  let document ← Document.create path.name settings override
  if Document.hasData (some data) then
    return document.refresh (some data) (some (size : Int))
  else .error (.logEmpty path.toText)

/-- Loads the document of a file for one who waits for it. -/
def load (files : FileStore) (settings : Settings) (override : Option Text)
    (path : FilePath) : Except Failure Document :=
  files.loadThrough .single settings override path

end FileStore

end LogLens
