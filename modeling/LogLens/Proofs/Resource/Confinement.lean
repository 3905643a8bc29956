import LogLens.FilePath
import LogLens.Proofs.Document.Loading
import LogLens.Resource

/-!
# Readers are confined to the base directory

A path is walked along from a directory, piece by piece between its slashes, and
what it leads to is told by the names on the way alone.  Reading the path first,
joining it to the directory and collapsing the whole comes to the same, whatever
slashes are repeated and wherever the path climbs.

A path to a log file is refused exactly if what it leads to does not lie below
the base directory, name for name.  That is told by the path alone, so nothing
about the files outside can be learned from the answer.  What is read is the file
at the place that the path leads to, and no other one.
-/

namespace LogLens

namespace FilePath

/-- The location after one more piece of a path: nothing and a point stay, two
points leave the last name unless the root is reached, and a name is entered. -/
def walk (location : List Text) (piece : Text) : List Text :=
  if piece = [] ∨ piece = currentDirectory then location
  else if piece = parentDirectory then location.dropLast
  else location ++ [piece]

/-- The location that a path leads to from a directory, or from the root if it
begins with a slash. -/
def destination (directory : List Text) (path : Text) : List Text :=
  (path.splitOn '/').foldl walk
    (if path.head? = some '/' then [] else directory)

theorem rootOf_eq_relative_iff (path : Text) :
    rootOf path = .relative ↔ path.head? ≠ some '/' := by
  cases path with
  | nil => simp [rootOf]
  | cons first rest =>
      by_cases slash : first = '/'
      · subst slash
        simp only [rootOf, List.takeWhile_cons_of_pos, decide_true,
          List.length_cons, List.head?_cons, ne_eq, not_true_eq_false, iff_false]
        split
        · omega
        · exact PathRoot.noConfusion
        · exact PathRoot.noConfusion
      · simp [rootOf, slash]

theorem isAbsolute_ofText (path : Text) :
    (ofText path).isAbsolute = decide (path.head? = some '/') := by
  rw [Bool.eq_iff_iff]
  simp [isAbsolute, ofText, rootOf_eq_relative_iff]

theorem reverse_followPart (trail : List Text) {part : Text}
    (name : part ≠ [] ∧ part ≠ currentDirectory) :
    (followPart trail part).reverse = walk trail.reverse part := by
  have notStaying : ¬(part = [] ∨ part = currentDirectory) := by
    rintro (empty | point)
    · exact name.1 empty
    · exact name.2 point
  unfold followPart walk
  rw [if_neg notStaying]
  split
  · exact (List.dropLast_reverse).symm
  · exact List.reverse_cons

/-- The parts of a path are followed as its pieces are walked along. -/
theorem reverse_foldl_followPart (trail : List Text) (pieces : List Text) :
    ((pieces.filter fun part => part ≠ [] ∧ part ≠ currentDirectory).foldl
        followPart trail).reverse =
      pieces.foldl walk trail.reverse := by
  induction pieces generalizing trail with
  | nil => rfl
  | cons piece rest induction =>
      by_cases name : piece ≠ [] ∧ piece ≠ currentDirectory
      · rw [List.filter_cons_of_pos (by simpa using name), List.foldl_cons,
          List.foldl_cons, induction, reverse_followPart trail name]
      · have stays : walk trail.reverse piece = trail.reverse := by
          apply if_pos
          by_cases empty : piece = []
          · exact .inl empty
          · exact .inr (Decidable.not_not.mp fun other => name ⟨empty, other⟩)
        rw [List.filter_cons_of_neg (by simpa using name), List.foldl_cons,
          induction, stays]

theorem foldl_followPart_of_names (trail : List Text) {names : List Text}
    (descends : parentDirectory ∉ names) :
    names.foldl followPart trail = names.reverse ++ trail := by
  induction names generalizing trail with
  | nil => rfl
  | cons name rest induction =>
      rw [List.mem_cons, not_or] at descends
      have entered : followPart trail name = name :: trail :=
        if_neg (Ne.symm descends.1)
      rw [List.foldl_cons, entered, induction _ descends.2]
      simp

/-- A path that is joined to a directory collapses to where it leads from
there. -/
theorem collapse_join {directory : List Text}
    (descends : parentDirectory ∉ directory) (path : Text) :
    (({ root := .slash, parts := directory } : FilePath).join
      (ofText path)).collapse = destination directory path := by
  unfold destination join
  rw [isAbsolute_ofText]
  by_cases absolute : path.head? = some '/'
  · simp only [absolute, decide_true, if_true]
    exact reverse_foldl_followPart [] (path.splitOn '/')
  · simp only [absolute, decide_false, if_false, Bool.false_eq_true]
    have followed := reverse_foldl_followPart directory.reverse
      (path.splitOn '/')
    rw [List.reverse_reverse] at followed
    rw [← followed, collapse, List.foldl_append,
      foldl_followPart_of_names [] descends, List.append_nil]
    rfl

theorem walk_descends {location : List Text}
    (descends : parentDirectory ∉ location) (piece : Text) :
    parentDirectory ∉ walk location piece := by
  unfold walk
  split
  · exact descends
  · split
    · exact fun member => descends ((List.dropLast_sublist location).subset member)
    · next different =>
        simpa [List.mem_append] using ⟨descends, Ne.symm different⟩

/-- What a path leads to is told without climbing. -/
theorem destination_descends {directory : List Text}
    (descends : parentDirectory ∉ directory) (path : Text) :
    parentDirectory ∉ destination directory path := by
  have walked : ∀ (pieces : List Text) (location : List Text),
      parentDirectory ∉ location → parentDirectory ∉ pieces.foldl walk location := by
    intro pieces
    induction pieces with
    | nil => exact fun _ start => start
    | cons piece rest induction =>
        exact fun location start => induction _ (walk_descends start piece)
  apply walked
  split
  · exact List.not_mem_nil
  · exact descends

end FilePath

theorem mem_of_mem_splitOn {α : Type} [BEq α] [LawfulBEq α] {separator item : α}
    {items piece : List α} (member : piece ∈ items.splitOn separator)
    (inside : item ∈ piece) : item ∈ items := by
  have joined : ∀ pieces : List (List α), piece ∈ pieces →
      item ∈ [separator].intercalate pieces := by
    intro pieces
    induction pieces with
    | nil => exact fun absent => nomatch absent
    | cons first rest induction =>
        intro here
        by_cases none : rest = []
        · rw [none, List.mem_singleton] at here
          rw [none, List.intercalate_singleton, ← here]
          exact inside
        · rw [List.intercalate_cons_of_ne_nil none]
          rcases List.mem_cons.mp here with same | later
          · rw [← same]
            simp [inside]
          · simp [induction later]
  have whole := joined _ member
  rwa [List.intercalate_splitOn] at whole

namespace FilePath

/-- Whether a path begins, behind points, with the name of a home directory. -/
def opensHome (path : Text) : Bool :=
  path.head? ≠ some '/' &&
    ((path.splitOn '/').find? fun piece =>
      piece ≠ [] ∧ piece ≠ currentDirectory).any fun name =>
        name.head? = some '~'

theorem not_isForbidden {path : Text} (printable : '\x00' ∉ path) :
    (ofText path).isForbidden = false := by
  unfold isForbidden
  rw [List.any_eq_false]
  intro part member
  rw [List.contains_iff_mem]
  exact fun inside =>
    printable (mem_of_mem_splitOn (List.mem_of_mem_filter member) inside)

end FilePath

namespace FileTree

/-- What is found by following names that do not climb is the file of that
location. -/
theorem fileAt_of_follow {tree : FileTree} {trail parts : List Text}
    {bytes : Bytes} (descends : parentDirectory ∉ parts)
    (found : tree.follow trail parts = .file bytes) :
    tree.fileAt (trail.reverse ++ parts) = .file bytes := by
  induction parts generalizing trail with
  | nil => simpa [follow] using found
  | cons part rest induction =>
      rw [List.mem_cons, not_or] at descends
      have entered : FilePath.followPart trail part = part :: trail :=
        if_neg (Ne.symm descends.1)
      rw [follow] at found
      split at found
      · cases found
      · split at found
        · cases found
        · rw [entered] at found
          simpa using induction descends.2 found

theorem fileAt_of_look {tree : FileTree} {location : List Text} {bytes : Bytes}
    (descends : parentDirectory ∉ location)
    (found : tree.look (Resource.pathTo location) = .file bytes) :
    tree.fileAt location = .file bytes := by
  rw [look] at found
  split at found
  · cases found
  · split at found
    · cases found
    · exact fileAt_of_follow descends found

end FileTree

/-- Reading a file is never refused for where it is. -/
theorem FileStore.readPrefix_ne_escapesBase (files : FileStore)
    (buffering : Buffering) (path : FilePath) (limit : Int) :
    files.readPrefix buffering path limit ≠ .error .escapesBase := by
  apply bind_ne_error
  · unfold stored
    split <;> exact fun failed => nomatch failed
  · intro bytes
    apply bind_ne_error
    · unfold bytesToRead
      split_ifs <;> exact fun failed => nomatch failed
    · intro count
      unfold firstOf
      split
      · cases Gzip.readPrefix buffering count bytes <;>
          exact fun failed => nomatch failed
      · exact fun failed => nomatch failed

theorem Settings.resolve_ne_escapesBase (settings : Settings)
    (override : Option Text) :
    settings.resolve override ≠ .error .escapesBase := by
  apply bind_ne_error
  · unfold readParseCap
    split
    · exact fun failed => nomatch failed
    · exact fun failed => nomatch failed
    · split
      · exact fun failed => nomatch failed
      · split <;> exact fun failed => nomatch failed
  · intro found
    cases found <;> exact fun failed => nomatch failed

namespace Resource

open FilePath

theorem expandHome_of_not_opensHome (homes : List (Text × Text)) {path : Text}
    (plain : opensHome path = false) :
    expandHome homes (ofText path) = .ok (ofText path) := by
  unfold expandHome
  split
  · next account rest root parts =>
      have relative : path.head? ≠ some '/' := (rootOf_eq_relative_iff path).mp root
      have first : (ofText path).parts.head? = some ('~' :: account) := by
        rw [parts]
        rfl
      rw [ofText, List.head?_filter] at first
      rw [opensHome, first] at plain
      simp [relative] at plain
  · rfl

/-- What a location gives once it is known to lie below the base directory. -/
def fileLocation (files : FileStore) (location : List Text) :
    Except Failure (List Text) :=
  match files.look (pathTo location) with
  | .nothing => .error (.resourceNotFound (pathTo location).toText)
  | .tooLong => .error (.nameTooLong (pathTo location).toText)
  | .file _ =>
      if Eligibility.defaultExtensions.contains
          (pathTo location).effectiveExtension then
        .ok location
      else .error (.resourceNotAllowed Eligibility.extensionList)

theorem fileLocation_eq_ok_iff {files : FileStore} {location found : List Text} :
    fileLocation files location = .ok found ↔
      found = location ∧ (∃ bytes, files.look (pathTo location) = .file bytes) ∧
        (pathTo location).effectiveExtension ∈ Eligibility.defaultExtensions := by
  unfold fileLocation
  cases files.look (pathTo location) with
  | nothing => simp
  | tooLong => simp
  | file bytes =>
      by_cases allowed : (pathTo location).effectiveExtension ∈
          Eligibility.defaultExtensions
      · simp [allowed, eq_comm]
      · simp [allowed]

theorem fileLocation_ne_escapesBase (files : FileStore) (location : List Text) :
    fileLocation files location ≠ .error .escapesBase := by
  intro failed
  unfold fileLocation at failed
  split at failed
  · cases failed
  · cases failed
  · split at failed <;> cases failed

section Confined

variable {base : List Text} (descends : parentDirectory ∉ base)
  {path : Text} (printable : '\x00' ∉ path) (plain : opensHome path = false)

include descends printable plain

theorem logLocation_eq (files : FileStore) (homes : List (Text × Text)) :
    logLocation files base homes path =
      if base.isPrefixOf (destination base path) then
        fileLocation files (destination base path)
      else .error .escapesBase := by
  have place : ((pathTo base).join (ofText path)).collapse =
      destination base path := collapse_join descends path
  unfold logLocation
  rw [expandHome_of_not_opensHome homes plain]
  simp only [bind, Except.bind, not_isForbidden printable, Bool.false_eq_true,
    if_false, confine, place]
  by_cases inside : base.isPrefixOf (destination base path) = true
  · simp only [if_pos inside]
    rfl
  · simp only [if_neg inside]

/-- The path alone decides whether a reader is refused for leaving the base
directory. -/
theorem readLog_eq_escapesBase_iff (files : FileStore)
    (homes : List (Text × Text)) (override : Option Text) :
    readLog files base homes override path = .error .escapesBase ↔
      ¬base <+: destination base path := by
  have location := logLocation_eq descends printable plain files homes
  rw [← List.isPrefixOf_iff_prefix]
  by_cases inside : base.isPrefixOf (destination base path) = true
  · rw [if_pos inside] at location
    simp only [inside, not_true_eq_false, iff_false]
    apply bind_ne_error
    · rw [location]
      exact fileLocation_ne_escapesBase _ _
    · intro found
      apply bind_ne_error (Settings.resolve_ne_escapesBase _ _)
      intro settings
      apply bind_ne_error (files.readPrefix_ne_escapesBase _ _ _)
      exact fun data failed => nomatch failed
  · rw [if_neg inside] at location
    exact iff_of_true (bind_eq_error_iff.mpr (.inl location)) inside

/-- What is read are the first bytes of the file that the path leads to. -/
theorem readLog_eq_ok_iff (files : FileStore) (homes : List (Text × Text))
    (override : Option Text) (text : Text) :
    readLog files base homes override path = .ok text ↔
      base <+: destination base path ∧
      (pathTo (destination base path)).effectiveExtension ∈
        Eligibility.defaultExtensions ∧
      ∃ settings data, Settings.standard.resolve override = .ok settings ∧
        files.readPrefix .single (pathTo (destination base path))
          settings.parseCap = .ok data ∧
        text = Utf8.decode data := by
  have location := logLocation_eq descends printable plain files homes
  rw [← List.isPrefixOf_iff_prefix]
  constructor
  · intro answered
    obtain ⟨found, located, answered⟩ := bind_eq_ok_iff.mp answered
    obtain ⟨settings, resolves, answered⟩ := bind_eq_ok_iff.mp answered
    obtain ⟨data, read, answered⟩ := bind_eq_ok_iff.mp answered
    cases answered
    rw [location] at located
    split at located
    · next inside =>
        obtain ⟨same, _, allowed⟩ := fileLocation_eq_ok_iff.mp located
        rw [same] at read
        exact ⟨inside, allowed, settings, data, resolves, read, rfl⟩
    · cases located
  · rintro ⟨inside, allowed, settings, data, resolves, read, rfl⟩
    obtain ⟨bytes, found, _⟩ := FileStore.readPrefix_eq_ok read
    rw [if_pos inside, fileLocation_eq_ok_iff.mpr ⟨rfl, ⟨bytes, found⟩, allowed⟩]
      at location
    apply bind_eq_ok_iff.mpr
    refine ⟨_, location, ?_⟩
    apply bind_eq_ok_iff.mpr
    refine ⟨settings, resolves, ?_⟩
    apply bind_eq_ok_iff.mpr
    exact ⟨data, read, rfl⟩

end Confined

theorem baseLocation_eq {workingDirectory : List Text}
    (descends : parentDirectory ∉ workingDirectory) (base : Option Text) :
    baseLocation workingDirectory base =
      destination workingDirectory (base.getD []) :=
  collapse_join descends (base.getD [])

/-- A reader is confined to the base directory.  Whatever files there are, it is
refused for leaving the directory exactly if the directory is no beginning of the
location that the path leads to.  Otherwise a text is given only for a file at
this very location with an extension of a log, and it is what the first bytes of
its data say.  It is given for every such file that is not damaged and not too
large to be read. -/
theorem readLog_confined (tree : FileTree) (room : Nat) (base : Option Text)
    (homes : List (Text × Text)) (override : Option Text) {path : Text}
    (descends : parentDirectory ∉ tree.workingDirectory)
    (printable : '\x00' ∉ path) (plain : opensHome path = false) :
    let top := destination tree.workingDirectory (base.getD [])
    let location := destination top path
    let resolved := pathTo location
    let files : FileStore := { look := tree.look, room := room }
    let answer := fun files =>
      readLog files (baseLocation tree.workingDirectory base) homes override path
    (∀ others : FileStore,
      answer others = .error .escapesBase ↔ ¬top <+: location) ∧
    (∀ text, answer files = .ok text →
      top <+: location ∧
      resolved.effectiveExtension ∈ ([".log", ".txt", ".logs"] : List Text) ∧
      ∃ bytes settings, tree.fileAt location = .file bytes ∧
        Settings.standard.resolve override = .ok settings ∧
        text = Utf8.decode
          ((FileStore.available resolved bytes).take settings.parseCap.toNat)) ∧
    (∀ bytes data settings, top <+: location →
      resolved.effectiveExtension ∈ ([".log", ".txt", ".logs"] : List Text) →
      tree.look resolved = .file bytes →
      FileStore.dataOf resolved bytes = .ok data →
      Settings.standard.resolve override = .ok settings →
      settings.parseCap ≤ files.readable →
      answer files = .ok (Utf8.decode (data.take settings.parseCap.toNat))) := by
  intro top location resolved files answer
  have topDescends : parentDirectory ∉ top := destination_descends descends _
  have locationDescends : parentDirectory ∉ location :=
    destination_descends topDescends path
  have answerIs : ∀ others, answer others =
      readLog others top homes override path := by
    intro others
    simp only [answer, baseLocation_eq descends]
    rfl
  refine ⟨?_, ?_, ?_⟩
  · intro others
    rw [answerIs]
    exact readLog_eq_escapesBase_iff topDescends printable plain others homes
      override
  · intro text answered
    rw [answerIs, readLog_eq_ok_iff topDescends printable plain] at answered
    obtain ⟨inside, allowed, settings, data, resolves, read, equality⟩ := answered
    obtain ⟨bytes, found, first⟩ := FileStore.readPrefix_eq_ok read
    refine ⟨inside, allowed, bytes, settings, ?_, resolves, ?_⟩
    · exact FileTree.fileAt_of_look locationDescends found
    · rw [equality, first]
  · intro bytes data settings inside allowed found intact resolves fits
    rw [answerIs, readLog_eq_ok_iff topDescends printable plain]
    refine ⟨inside, allowed, settings, data.take settings.parseCap.toNat,
      resolves, ?_, rfl⟩
    have positive : 1 ≤ settings.parseCap :=
      Settings.one_le_parseCap (by decide) resolves
    have foundHere : files.look resolved = .file bytes := found
    rw [FileStore.readPrefix_of_intact foundHere intact,
      FileStore.bytesToRead_eq_ok files (by omega) fits]
    rfl

theorem readLog_confined_returning :
    let packed := Gzip.pack (ascii "warn me")
    let tree : FileTree :=
      { workingDirectory := ["srv"]
        files := [(["srv", "logs", "a.log.GZ"], packed)] }
    let path : Text := "x/.././../logs//a.log.GZ"
    let answer :=
      readLog tree.store (baseLocation ["srv"] (some "logs/")) [] (some "4") path
    (parentDirectory ∉ tree.workingDirectory ∧ '\x00' ∉ path ∧
      opensHome path = false) ∧
    answer ≠ .error .escapesBase ∧ answer = .ok "warn" := by
  intro packed tree path answer
  have descends : parentDirectory ∉ tree.workingDirectory := by decide
  have printable : '\x00' ∉ path := by decide
  have plain : opensHome path = false := by decide +kernel
  have resolves : Settings.standard.resolve (some "4") =
      .ok { Settings.standard with parseCap := 4 } := by rfl
  obtain ⟨escapes, _, given⟩ := readLog_confined tree 0x1000000000
    (some "logs/") [] (some "4") descends printable plain
  have inside : destination tree.workingDirectory "logs/" <+:
      destination (destination tree.workingDirectory "logs/") path := by
    decide +kernel
  have answered := given packed (ascii "warn me")
    { Settings.standard with parseCap := 4 } inside (by decide +kernel)
    (by decide +kernel) (by decide +kernel) resolves (by decide +kernel)
  refine ⟨⟨descends, printable, plain⟩, ?_, answered⟩
  intro refused
  exact (escapes tree.store).mp refused inside

/-- A path that leads below the base directory is refused all the same where its
first name, behind a point, is that of a home directory. -/
theorem readLog_opens_home :
    let tree : FileTree :=
      { workingDirectory := ["srv"]
        files := [(["srv", "~", "a.log"], ascii "x")] }
    let path : Text := "./~/a.log"
    let top := destination tree.workingDirectory []
    ('\x00' ∉ path ∧ path.head? ≠ some '~') ∧
    top <+: destination top path ∧
    tree.look (pathTo (destination top path)) = .file (ascii "x") ∧
    readLog tree.store (baseLocation tree.workingDirectory none)
      [([], "/root")] none path = .error .escapesBase := by
  decide +kernel

end Resource

end LogLens
