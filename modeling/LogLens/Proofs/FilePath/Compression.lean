import Mathlib
import Mathlib.Data.List.DropRight
import LogLens.FilePath
import LogLens.Proofs.Document.Loading
import LogLens.Proofs.Text.Casing

/-!
# Extensions behind a suffix of compression

The name of a path is what stands behind its last slash, if that is a name at all.  What
is written behind the path is then written behind its name, and a point with more
characters makes it the suffix of the new name, which without it is the old one: however
many points there are in the old name, and wherever they stand.

Whether a file is read as compressed, and whether its extension is sought behind the
suffix of the compression, is told by one suffix, that of its name.  So one such suffix,
in whatever case, changes how a file is read and nothing about its extension; a second
one is an extension like any other.
-/

namespace LogLens

theorem rtakeWhile_append_of_not_mem {stop : Char} (front : Text) {back : Text}
    (absent : stop ∉ back) :
    (front ++ back).rtakeWhile (· ≠ stop) = front.rtakeWhile (· ≠ stop) ++ back := by
  have goesOn : ∀ char ∈ back.reverse, decide (char ≠ stop) = true := by
    intro char member
    rw [List.mem_reverse] at member
    exact decide_eq_true fun same => absent (same ▸ member)
  simp only [List.rtakeWhile, List.reverse_append,
    List.takeWhile_append_of_pos goesOn, List.reverse_reverse]

theorem suffixOf_append {front tail : Text} (named : front ≠ []) (filled : tail ≠ [])
    (pointless : '.' ∉ tail) : suffixOf (front ++ '.' :: tail) = '.' :: tail := by
  have behind : (front ++ '.' :: tail).rtakeWhile (· ≠ '.') = tail := by
    rw [← List.singleton_append, ← List.append_assoc,
      rtakeWhile_append_of_not_mem _ pointless,
      List.rtakeWhile_concat_neg _ _ _ (by decide), List.nil_append]
  have frontSize := List.length_pos_of_ne_nil named
  have tailSize := List.length_pos_of_ne_nil filled
  unfold suffixOf
  unfold List.rtakeWhile at behind
  rw [behind, if_pos]
  simp only [List.length_append, List.length_cons]
  omega

theorem stemOf_append {front suffix : Text}
    (found : suffixOf (front ++ suffix) = suffix) : stemOf (front ++ suffix) = front := by
  simp [stemOf, found]

namespace FilePath

/-- What stands behind the last slash of a path. -/
def lastPiece (text : Text) : Text :=
  text.rtakeWhile (· ≠ '/')

theorem slash_not_mem_lastPiece (text : Text) : '/' ∉ lastPiece text := by
  intro member
  simpa using List.mem_rtakeWhile_imp member

theorem exists_splitOn_slash (text : Text) :
    ∃ pieces, text.splitOn '/' = pieces ++ [lastPiece text] := by
  have single := List.splitOn_eq_singleton (slash_not_mem_lastPiece text)
  have whole : text.rdropWhile (· ≠ '/') ++ lastPiece text = text :=
    List.rdropWhile_append_rtakeWhile
  by_cases none : text.rdropWhile (· ≠ '/') = []
  · rw [none, List.nil_append] at whole
    rw [whole] at single
    exact ⟨[], by rw [single, whole, List.nil_append]⟩
  · have slash : (text.rdropWhile (· ≠ '/')).getLast? = some '/' := by
      rw [List.getLast?_eq_some_getLast none]
      simpa using List.rdropWhile_last_not (· ≠ '/') text none
    obtain ⟨directory, front⟩ := List.getLast?_eq_some_iff.mp slash
    rw [front, List.append_assoc, List.singleton_append] at whole
    refine ⟨directory.splitOn '/', ?_⟩
    calc text.splitOn '/'
        = (directory ++ '/' :: lastPiece text).splitOn '/' := by rw [whole]
      _ = directory.splitOn '/' ++ [lastPiece text] := by
          rw [List.splitOn_append_cons_self, single]

/-- The last piece of a path is its name, unless it is empty or a point. -/
theorem name_ofText {text : Text} (filled : lastPiece text ≠ [])
    (proper : lastPiece text ≠ currentDirectory) :
    (ofText text).name = lastPiece text := by
  obtain ⟨pieces, split⟩ := exists_splitOn_slash text
  have kept : [lastPiece text].filter
      (fun part => part ≠ [] ∧ part ≠ currentDirectory) = [lastPiece text] :=
    List.filter_cons_of_pos (decide_eq_true ⟨filled, proper⟩)
  simp only [name, ofText, split]
  rw [List.filter_append, kept, List.getLast?_concat, Option.getD_some]

theorem lastPiece_append (text : Text) {added : Text} (inside : '/' ∉ added) :
    lastPiece (text ++ added) = lastPiece text ++ added :=
  rtakeWhile_append_of_not_mem text inside

end FilePath

namespace FilePath

theorem lowersApart_of_mem_gzipSuffix : ∀ letter ∈ gzipSuffix, LowersApart letter := by
  have letters : gzipSuffix = ['.', 'g', 'z'] := rfl
  rw [letters]
  simp [LowersApart]

theorem isCasing_gzipSuffix_iff (text : Text) :
    IsCasing gzipSuffix text ↔ text ∈ ([".gz", ".gZ", ".Gz", ".GZ"] : List Text) := by
  constructor
  · intro casing
    obtain ⟨point, tail, rfl, isPoint, casing⟩ := List.map_eq_cons_iff.mp casing
    obtain ⟨first, tail, rfl, isG, casing⟩ := List.map_eq_cons_iff.mp casing
    obtain ⟨second, tail, rfl, isZ, casing⟩ := List.map_eq_cons_iff.mp casing
    obtain rfl := List.map_eq_nil_iff.mp casing
    rcases eq_or_eq_toUpper_of_toLower isPoint with rfl | rfl <;>
      rcases eq_or_eq_toUpper_of_toLower isG with rfl | rfl <;>
      rcases eq_or_eq_toUpper_of_toLower isZ with rfl | rfl <;> decide
  · intro listed
    simp only [List.mem_cons, List.not_mem_nil, or_false] at listed
    rcases listed with rfl | rfl | rfl | rfl <;> decide

theorem isCompressed_iff (path : FilePath) :
    path.isCompressed = true ↔ IsCasing gzipSuffix (suffixOf path.name) := by
  rw [isCompressed, decide_eq_true_iff, foldedSuffix]
  exact Text.lower_eq_iff_isCasing lowersApart_of_mem_gzipSuffix _

/-- The name of a path without a suffix of compression. -/
def unpackedName (path : FilePath) : Text :=
  if IsCasing gzipSuffix (suffixOf path.name) then stemOf path.name else path.name

theorem effectiveExtension_eq (path : FilePath) :
    path.effectiveExtension = (suffixOf path.unpackedName).lower := by
  unfold effectiveExtension unpackedName
  by_cases compressed : path.isCompressed = true
  · rw [if_pos compressed, if_pos (path.isCompressed_iff.mp compressed)]
  · rw [if_neg compressed, if_neg (mt path.isCompressed_iff.mpr compressed)]
    rfl

end FilePath

namespace FileStore

/-- What reading a path comes to, whatever bytes are stored there: the bytes that are
read first, where any are asked for, and the data whose size is that of the file. -/
def ReadsAs (path : FilePath) (first : Buffering → Nat → Bytes → Except Failure Bytes)
    (whole : Bytes → Except Failure Bytes) : Prop :=
  ∀ (files : FileStore) (bytes : Bytes), files.look path = .file bytes →
    (∀ (buffering : Buffering) (limit : Int) (count : Nat),
      files.bytesToRead limit = .ok count → 0 < count →
        files.readPrefix buffering path limit = first buffering count bytes) ∧
    files.sourceSize path = (whole bytes).map List.length

def ReadsUnpacked (path : FilePath) : Prop :=
  ReadsAs path
    (fun buffering count bytes =>
      (Gzip.readPrefix buffering count bytes).mapError .archive)
    (fun bytes => (Gzip.data bytes).mapError .archive)

def ReadsStored (path : FilePath) : Prop :=
  ReadsAs path (fun _ count bytes => .ok (bytes.take count)) .ok

theorem readsUnpacked_of_isCompressed {path : FilePath}
    (compressed : path.isCompressed = true) : ReadsUnpacked path := by
  intro files bytes found
  constructor
  · intro buffering limit count counted some
    rw [readPrefix_of_found found, counted]
    exact if_pos ⟨compressed, some⟩
  · rw [sourceSize_of_found found, dataOf, if_pos compressed]

theorem readsStored_of_not_isCompressed {path : FilePath}
    (plain : ¬path.isCompressed = true) : ReadsStored path := by
  intro files bytes found
  constructor
  · intro buffering limit count counted _
    rw [readPrefix_of_found found, counted]
    exact if_neg fun both => plain both.1
  · rw [sourceSize_of_found found, dataOf, if_neg plain]

/-- What is read of an archive that is not damaged is the data in it. -/
theorem ReadsUnpacked.of_intact {files : FileStore} {path : FilePath} {bytes data : Bytes}
    (unpacked : ReadsUnpacked path) (found : files.look path = .file bytes)
    (intact : Gzip.data bytes = .ok data) :
    (∀ (buffering : Buffering) (limit : Int) (count : Nat),
      files.bytesToRead limit = .ok count → 0 < count →
        files.readPrefix buffering path limit = .ok (data.take count)) ∧
    files.sourceSize path = .ok data.length := by
  obtain ⟨read, size⟩ := unpacked files bytes found
  constructor
  · intro buffering limit count counted some
    rw [read buffering limit count counted some]
    simp only [Gzip.readPrefix_of_data intact, Except.mapError]
  · rw [size]
    simp only [intact, Except.mapError, Except.map]

/-- A file that is no archive tells the two ways of reading apart. -/
theorem not_readsUnpacked_of_readsStored {path : FilePath} (stored : ReadsStored path) :
    ¬ReadsUnpacked path := by
  intro unpacked
  let files : FileStore := { look := fun _ => .file [0] }
  have same := (stored files [0] rfl).2.symm.trans (unpacked files [0] rfl).2
  exact absurd same (by decide +kernel)

theorem readsUnpacked_iff (path : FilePath) :
    ReadsUnpacked path ↔ IsCasing gzipSuffix (suffixOf path.name) := by
  rw [← path.isCompressed_iff]
  constructor
  · intro unpacked
    by_contra plain
    exact not_readsUnpacked_of_readsStored (readsStored_of_not_isCompressed plain) unpacked
  · exact readsUnpacked_of_isCompressed

end FileStore

namespace FilePath

section Casing

variable {text name gzip : Text}

theorem exists_tail_of_casing (casing : IsCasing gzipSuffix gzip) :
    ∃ tail, gzip = '.' :: tail ∧ tail ≠ [] ∧ '.' ∉ tail ∧ '/' ∉ gzip := by
  rw [isCasing_gzipSuffix_iff] at casing
  simp only [List.mem_cons, List.not_mem_nil, or_false] at casing
  rcases casing with rfl | rfl | rfl | rfl <;>
    exact ⟨_, rfl, by decide, by decide, by decide⟩

theorem suffixOf_append_casing (named : name ≠ []) (casing : IsCasing gzipSuffix gzip) :
    suffixOf (name ++ gzip) = gzip := by
  obtain ⟨tail, rfl, filled, pointless, _⟩ := exists_tail_of_casing casing
  exact suffixOf_append named filled pointless

theorem lastPiece_append_casing (casing : IsCasing gzipSuffix gzip) :
    lastPiece (text ++ gzip) = lastPiece text ++ gzip := by
  obtain ⟨_, _, _, _, slashless⟩ := exists_tail_of_casing casing
  exact lastPiece_append text slashless

theorem name_append_casing (casing : IsCasing gzipSuffix gzip) :
    (ofText (text ++ gzip)).name = lastPiece text ++ gzip := by
  have long : currentDirectory.length < (lastPiece text ++ gzip).length := by
    rw [List.length_append, casing.length_eq]
    exact Nat.lt_add_left _ (by decide)
  rw [← lastPiece_append_casing casing] at long ⊢
  apply name_ofText
  · exact List.ne_nil_of_length_pos (Nat.zero_lt_of_lt long)
  · intro point
    rw [point] at long
    exact Nat.lt_irrefl _ long

theorem unpackedName_append_casing (named : lastPiece text ≠ [])
    (casing : IsCasing gzipSuffix gzip) :
    (ofText (text ++ gzip)).unpackedName = lastPiece text := by
  have suffix := suffixOf_append_casing named casing
  rw [unpackedName, name_append_casing casing, suffix, if_pos casing,
    stemOf_append suffix]

end Casing

/-- A suffix of compression, in whatever case, that is written behind a path with a name
and without such a suffix leaves its extension as it is, and it is what makes the reader
unpack the file.  A second one is the extension.  Of any path it is the suffix of the name
that tells whether the reader unpacks and whether the extension is sought behind it. -/
theorem effectiveExtension_append_gzip {text gzip : Text}
    (named : lastPiece text ≠ []) (proper : lastPiece text ≠ currentDirectory)
    (plain : ¬IsCasing gzipSuffix (suffixOf (ofText text).name))
    (casing : IsCasing gzipSuffix gzip) :
    (ofText (text ++ gzip)).effectiveExtension = (ofText text).effectiveExtension ∧
      (∀ again, IsCasing gzipSuffix again →
        (ofText (text ++ gzip ++ again)).effectiveExtension = gzipSuffix) ∧
      FileStore.ReadsUnpacked (ofText (text ++ gzip)) ∧
      FileStore.ReadsStored (ofText text) ∧
      suffixOf (ofText (text ++ gzip)).name = gzip ∧
      ∀ path : FilePath,
        (FileStore.ReadsUnpacked path ↔ IsCasing gzipSuffix (suffixOf path.name)) ∧
        path.effectiveExtension = (suffixOf path.unpackedName).lower := by
  have suffix : suffixOf (ofText (text ++ gzip)).name = gzip := by
    rw [name_append_casing casing, suffixOf_append_casing named casing]
  refine ⟨?_, ?_, ?_, ?_, suffix, fun path =>
    ⟨FileStore.readsUnpacked_iff path, effectiveExtension_eq path⟩⟩
  · calc (ofText (text ++ gzip)).effectiveExtension
        = (suffixOf (lastPiece text)).lower := by
          rw [effectiveExtension_eq, unpackedName_append_casing named casing]
      _ = (suffixOf (ofText text).unpackedName).lower := by
          rw [unpackedName, if_neg plain, name_ofText named proper]
      _ = (ofText text).effectiveExtension := (effectiveExtension_eq _).symm
  · intro again casingAgain
    have namedAgain : lastPiece (text ++ gzip) ≠ [] := by
      rw [lastPiece_append_casing casing]
      exact List.append_ne_nil_of_left_ne_nil named _
    rw [effectiveExtension_eq, unpackedName_append_casing namedAgain casingAgain,
      lastPiece_append_casing casing, suffixOf_append_casing named casing]
    exact (Text.lower_eq_iff_isCasing lowersApart_of_mem_gzipSuffix gzip).mpr casing
  · rw [FileStore.readsUnpacked_iff, suffix]
    exact casing
  · exact FileStore.readsStored_of_not_isCompressed (mt (isCompressed_iff _).mp plain)

theorem effectiveExtension_append_gzip_hidden :
    let text : Text := "logs/.App..LOG"
    let gzip : Text := ".gZ"
    let again : Text := ".GZ"
    let data := ascii "warn me"
    let files : FileStore := { look := fun _ => .file (Gzip.pack data) }
    (lastPiece text ≠ [] ∧ lastPiece text ≠ currentDirectory ∧
      ¬IsCasing gzipSuffix (suffixOf (ofText text).name) ∧ IsCasing gzipSuffix gzip) ∧
    (ofText (text ++ gzip)).effectiveExtension = (".log" : Text) ∧
    (ofText (text ++ gzip ++ again)).effectiveExtension = (".gz" : Text) ∧
    files.readPrefix .double (ofText (text ++ gzip)) 4 = .ok (ascii "warn") ∧
    files.sourceSize (ofText (text ++ gzip)) = .ok 7 ∧
    files.sourceSize (ofText text) = .ok (Gzip.pack data).length := by
  intro text gzip again data files
  have named : lastPiece text ≠ [] := by decide +kernel
  have proper : lastPiece text ≠ currentDirectory := by decide +kernel
  have plain : ¬IsCasing gzipSuffix (suffixOf (ofText text).name) := by decide +kernel
  have casing : IsCasing gzipSuffix gzip := by decide
  have intact : Gzip.data (Gzip.pack (ascii "warn me")) = .ok (ascii "warn me") := by cbv
  have fits : (4 : Int) ≤ files.readable := by
    change (4 : Int) ≤ (min 0x1000000000 FileStore.maxLength : Nat)
    decide
  have counted : files.bytesToRead 4 = .ok 4 :=
    FileStore.bytesToRead_eq_ok files (by decide) fits
  obtain ⟨kept, second, unpacked, stored, _⟩ :=
    effectiveExtension_append_gzip named proper plain casing
  have found : files.look (ofText (text ++ gzip)) = .file (Gzip.pack data) := rfl
  obtain ⟨read, size⟩ := unpacked.of_intact found intact
  refine ⟨⟨named, proper, plain, casing⟩, ?_, second again (by decide),
    read .double 4 4 counted (by decide), size, (stored files (Gzip.pack data) rfl).2⟩
  rw [kept]
  decide +kernel

end FilePath

end LogLens
