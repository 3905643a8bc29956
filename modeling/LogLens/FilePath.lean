import LogLens.Text.Case
import LogLens.Text.Utf8

/-!
# Paths and files

A path is a root and a list of components.  Empty components and `.` say
nothing and are dropped when a path is read; `..` is kept, because what it
leads to depends on where it is looked up.  The suffix of a name is what
follows its last point, unless that point is the first or the last character.

A store tells which files there are, that is, what a path leads to, and how much
room there is to read them.  A tree is a store of files without links.
Directories are implied by the files below them; the working directory and what
is above it exist in any case.  A path is followed step by step, and every step
starts from a directory that exists.
-/

namespace LogLens

/-- Where a path starts.  A path that begins with exactly two slashes keeps
them. -/
inductive PathRoot where
  | relative
  | slash
  | doubleSlash
  deriving DecidableEq, Repr

def PathRoot.text : PathRoot → Text
  | relative => ""
  | slash => "/"
  | doubleSlash => "//"

structure FilePath where
  root : PathRoot
  parts : List Text
  deriving DecidableEq, Repr

def currentDirectory : Text := "."

def parentDirectory : Text := ".."

def suffixOf (name : Text) : Text :=
  let tail := (name.reverse.takeWhile (· ≠ '.')).reverse
  if 0 < tail.length ∧ tail.length + 1 < name.length then '.' :: tail else []

def stemOf (name : Text) : Text :=
  name.take (name.length - (suffixOf name).length)

def gzipSuffix : Text := ".gz"

namespace FilePath

def rootOf (text : Text) : PathRoot :=
  match (text.takeWhile (· = '/')).length with
  | 0 => .relative
  | 2 => .doubleSlash
  | _ => .slash

def ofText (text : Text) : FilePath :=
  { root := rootOf text
    parts := (text.splitOn '/').filter fun part =>
      part ≠ [] ∧ part ≠ currentDirectory }

/-- Writes a path; one that leads nowhere is the current directory. -/
def toText (path : FilePath) : Text :=
  if path.root = .relative ∧ path.parts = [] then currentDirectory
  else path.root.text ++ ['/'].intercalate path.parts

def name (path : FilePath) : Text :=
  path.parts.getLast?.getD []

def isAbsolute (path : FilePath) : Bool :=
  path.root ≠ .relative

def join (base path : FilePath) : FilePath :=
  if path.isAbsolute then path
  else { base with parts := base.parts ++ path.parts }

def foldedSuffix (path : FilePath) : Text :=
  (suffixOf path.name).lower

def isCompressed (path : FilePath) : Bool :=
  path.foldedSuffix = gzipSuffix

/-- The suffix that tells the kind of file: that of a compressed file is sought
behind the suffix of the compression. -/
def effectiveExtension (path : FilePath) : Text :=
  if path.isCompressed then (suffixOf (stemOf path.name)).lower
  else path.foldedSuffix

def isForbidden (path : FilePath) : Bool :=
  path.parts.any (·.contains '\x00')

def maxNameSize : Nat := 255

def maxSize : Nat := 4095

def isLongName (part : Text) : Bool :=
  maxNameSize < Utf8.size part

def isLong (path : FilePath) : Bool :=
  maxSize < Utf8.size path.toText

/-- One step of following a path by its text alone, from components kept
newest first.  Above the root there is nothing. -/
def followPart (trail : List Text) (part : Text) : List Text :=
  if part = parentDirectory then trail.tail else part :: trail

/-- The components that an absolute path leads to when every `..` removes the
component before it. -/
def collapse (path : FilePath) : List Text :=
  (path.parts.foldl followPart []).reverse

end FilePath

example : (FilePath.ofText "./a//b/").toText = ("a/b" : Text) := by decide +kernel
example : (FilePath.ofText "").toText = ("." : Text) := by decide +kernel
example : (FilePath.ofText "x/App.LOG.gz").effectiveExtension = (".log" : Text) := by
  decide +kernel
example : (FilePath.ofText ".gz").effectiveExtension = ("" : Text) := by decide +kernel

inductive Found where
  | file (bytes : Bytes)
  | nothing
  /-- The path cannot be followed, because it or a name in it is too long. -/
  | tooLong
  deriving DecidableEq, Repr

/-- What every path leads to, and how many bytes there is room for when data is
read: sixty-four gibibytes unless it is known. -/
structure FileStore where
  look : FilePath → Found
  room : Nat := 0x1000000000

/-- Files by their location, the way from the root, together with the working
directory.  Of two files of one location the first counts. -/
structure FileTree where
  workingDirectory : List Text
  files : List (List Text × Bytes)

namespace FileTree

def isDirectory (tree : FileTree) (location : List Text) : Bool :=
  location.isPrefixOf tree.workingDirectory ||
    tree.files.any fun (place, _) =>
      location.isPrefixOf place && location.length < place.length

def fileAt (tree : FileTree) (location : List Text) : Found :=
  match tree.files.lookup location with
  | some bytes => .file bytes
  | none => .nothing

/-- What components lead to from a directory that is given by its way from the
root, newest first.  Only a name that is looked up can be too long. -/
def follow (tree : FileTree) (trail : List Text) : List Text → Found
  | [] => tree.fileAt trail.reverse
  | part :: rest =>
      if !tree.isDirectory trail.reverse then .nothing
      else if FilePath.isLongName part then .tooLong
      else tree.follow (FilePath.followPart trail part) rest

def look (tree : FileTree) (path : FilePath) : Found :=
  if path.isForbidden then .nothing
  else if path.isLong then .tooLong
  else
    tree.follow (if path.isAbsolute then [] else tree.workingDirectory.reverse)
      path.parts

def store (tree : FileTree) : FileStore :=
  { look := tree.look }

end FileTree

end LogLens
