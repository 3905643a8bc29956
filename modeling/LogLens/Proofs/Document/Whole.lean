import Mathlib
import LogLens.Proofs.Archive.Damage
import LogLens.Proofs.Document.Loading

/-!
# Loading is reading the whole

A file is refused as empty when nothing of it was read.  This tells whether it has data as
long as the parse cap lets a byte be read and can be asked for at once.  Under a parse cap
of zero nothing is read, and every file passes for an empty one.

A document is loaded from a prefix of its data, and the whole is only looked at
where the prefix is as long as was asked for.  Damage behind a shorter prefix
shows while it is read, whichever buffers are in between, so loading comes to the
same as reading all of the data first.
-/

namespace LogLens

namespace FileStore

section Intact

variable {files : FileStore} {path : FilePath} {bytes data : Bytes}
  {settings resolved : Settings} {override : Option Text}

/-- A file of which nothing may be read is refused as empty, whatever its data. -/
theorem loadThrough_of_zero (found : files.look path = .file bytes)
    (intact : dataOf path bytes = .ok data)
    (resolves : settings.resolve override = .ok resolved)
    (zero : resolved.parseCap = 0) (buffering : Buffering) :
    files.loadThrough buffering settings override path =
      .error (.logEmpty path.toText) := by
  have counted : files.bytesToRead 0 = .ok 0 :=
    bytesToRead_eq_ok files (Int.le_refl 0) (Int.natCast_nonneg _)
  have nothing : files.readPrefix buffering path 0 = .ok [] := by
    rw [readPrefix_of_intact found intact, counted]
    rfl
  have created :=
    Document.create_of_resolves (Settings.resolve_resolve resolves) path.name
  unfold loadThrough
  rw [resolves]
  simp only [bind, Except.bind, zero, nothing, created, List.length_nil,
    Nat.cast_zero, Int.le_refl, if_true, sourceSize_of_intact found intact]
  rfl

/-- Where a byte may be read, a file is refused as empty if it has no data, and otherwise
loaded as a document of its whole size. -/
theorem loadThrough_of_positive (found : files.look path = .file bytes)
    (intact : dataOf path bytes = .ok data)
    (resolves : settings.resolve override = .ok resolved)
    (positive : 1 ≤ resolved.parseCap) (fits : resolved.parseCap ≤ files.readable)
    (buffering : Buffering) :
    (files.loadThrough buffering settings override path = .error (.logEmpty path.toText) ↔
        data = []) ∧
      (data ≠ [] → ∃ document,
        files.loadThrough buffering settings override path = .ok document ∧
          document.size = data.length) := by
  have counted := bytesToRead_eq_ok files (by omega) fits
  rw [loadThrough_of_counted found intact resolves positive counted]
  constructor
  · rw [Document.refreshFrom_eq_error_iff, and_iff_left rfl, ← Bool.not_eq_true,
      Document.hasData_iff, not_not]
  · intro present
    exact ⟨(Document.blank path.name resolved).refresh (some data) none,
      if_pos ((Document.hasData_iff data).mpr present), Document.refresh_size _ present⟩

theorem exists_failure_of_large (found : files.look path = .file bytes)
    (resolves : settings.resolve override = .ok resolved)
    (large : files.readable < resolved.parseCap) (buffering : Buffering) :
    ∃ failure ∈ [Failure.hugeReadLimit, .oversizedRead, .noRoom],
      files.loadThrough buffering settings override path = .error failure := by
  obtain ⟨failure, member, refused⟩ := bytesToRead_eq_error files large
  exact ⟨failure, member, loadThrough_of_refused found resolves refused buffering⟩

/-- A file that is not damaged is refused as empty exactly where it has no data, and
otherwise loaded as a document of its whole size, exactly if the parse cap can be asked
for at once and is not zero, unless there is no data.  Under a parse cap of zero every
such file is refused as empty, and under one that is too large it is not told whether
there is data. -/
theorem loadThrough_empty_iff (found : files.look path = .file bytes)
    (intact : dataOf path bytes = .ok data)
    (resolves : settings.resolve override = .ok resolved)
    (accepted : 0 ≤ resolved.parseCap) (buffering : Buffering) :
    let empty := Failure.logEmpty path.toText
    let outcome := files.loadThrough buffering settings override path
    (empty.kind = .refused ∧ empty.message = "Log file is empty: " ++ path.toText) ∧
      ((outcome = .error empty ↔ data = []) ∧
          (data ≠ [] → ∃ document, outcome = .ok document ∧
            document.size = data.length) ↔
        (resolved.parseCap = 0 → data = []) ∧ resolved.parseCap ≤ files.readable) ∧
      (resolved.parseCap = 0 → outcome = .error empty) ∧
      (files.readable < resolved.parseCap →
        ∃ failure ∈ [Failure.hugeReadLimit, .oversizedRead, .noRoom],
          outcome = .error failure) := by
  intro empty outcome
  have unread : resolved.parseCap = 0 → outcome = .error empty := fun zero =>
    loadThrough_of_zero found intact resolves zero buffering
  have large : files.readable < resolved.parseCap → _ := fun exceeds =>
    exists_failure_of_large found resolves exceeds buffering
  refine ⟨⟨rfl, rfl⟩, ⟨?_, ?_⟩, unread, large⟩
  · rintro ⟨told, loaded⟩
    refine ⟨fun zero => told.mp (unread zero), ?_⟩
    by_contra exceeds
    obtain ⟨failure, member, refused⟩ := large (Int.lt_of_not_ge exceeds)
    by_cases none : data = []
    · -- The failure of a read is none that an empty file is refused with.
      have same := refused.symm.trans (told.mpr none)
      cases same
      simp [empty] at member
    · obtain ⟨document, loads, _⟩ := loaded none
      exact absurd (refused.symm.trans loads) (by simp)
  · rintro ⟨zero, fits⟩
    by_cases positive : 1 ≤ resolved.parseCap
    · exact loadThrough_of_positive found intact resolves positive fits buffering
    · have unreadable : resolved.parseCap = 0 := by omega
      have none := zero unreadable
      exact ⟨iff_of_true (unread unreadable) none, fun present => absurd none present⟩

end Intact

theorem loadThrough_empty_iff_single :
    let path := FilePath.ofText "a.log.gz"
    let data := ascii "xy"
    let files : FileStore := { look := fun _ => .file (Gzip.pack data) }
    let resolved := { Settings.standard with parseCap := 1 }
    dataOf path (Gzip.pack data) = .ok data ∧
      Settings.standard.resolve (some "1") = .ok resolved ∧ 0 ≤ resolved.parseCap ∧
      ∃ document, files.loadThrough .double Settings.standard (some "1") path =
          .ok document ∧ document.size = 2 := by
  intro path data files resolved
  have intact : dataOf (FilePath.ofText "a.log.gz") (Gzip.pack (ascii "xy")) =
      .ok (ascii "xy") := by cbv
  have resolves : Settings.standard.resolve (some "1") = .ok resolved := by rfl
  have accepted : 0 ≤ resolved.parseCap := by
    change (0 : Int) ≤ 1
    decide
  have admitted : (resolved.parseCap = 0 → data = []) ∧
      resolved.parseCap ≤ files.readable := by
    change ((1 : Int) = 0 → data = []) ∧ (1 : Int) ≤ (min 0x1000000000 maxLength : Nat)
    decide
  have present : data ≠ [] := by
    change ascii "xy" ≠ []
    decide
  have found : files.look path = .file (Gzip.pack data) := rfl
  obtain ⟨_, told, _⟩ := loadThrough_empty_iff found intact resolves accepted .double
  exact ⟨intact, resolves, accepted, (told.mpr admitted).2 present⟩

/-- A parse cap of zero, which the reader accepts: a file with data is refused as an
empty one. -/
theorem loadThrough_empty_unread :
    let path := FilePath.ofText "m.log"
    let data := ascii "x"
    let files : FileStore := { look := fun _ => .file data }
    let settings := { Settings.standard with parseCap := 0 }
    dataOf path data = .ok data ∧ data ≠ [] ∧
      settings.resolve none = .ok settings ∧
      files.bytesToRead settings.parseCap = .ok 0 ∧
      files.load settings none path = .error (.logEmpty path.toText) := by
  intro path data files settings
  have intact : dataOf (FilePath.ofText "m.log") (ascii "x") = .ok (ascii "x") := by cbv
  have present : data ≠ [] := by
    change ascii "x" ≠ []
    decide
  exact ⟨intact, present, rfl, rfl, loadThrough_of_zero rfl intact rfl rfl .single⟩

end FileStore

namespace FileStore

/-- Loads the document of a file from all of its data.  The parse cap still has
to be one that can be asked for in a single read. -/
def loadWhole (files : FileStore) (settings : Settings) (override : Option Text)
    (path : FilePath) : Except Failure Document := do
  let resolved ← settings.resolve override
  let bytes ← files.stored path
  let _ ← files.bytesToRead resolved.parseCap
  let data ← dataOf path bytes
  (Document.blank path.name resolved).refreshFrom path data

section Damaged

variable {files : FileStore} {path : FilePath} {bytes : Bytes} {failure : Failure}

/-- The beginning of a damaged file is refused, or it is as long as it was asked
for. -/
theorem firstOf_of_damaged (damaged : dataOf path bytes = .error failure)
    (buffering : Buffering) {count : Nat} (some : 0 < count) :
    firstOf buffering path count bytes = .error failure ∨
      ∃ first, firstOf buffering path count bytes = .ok first ∧
        first.length = count := by
  obtain ⟨compressed, cause, unpacked, failureIs⟩ :=
    dataOf_eq_error_iff.mp damaged
  unfold firstOf
  rw [if_pos ⟨compressed, some⟩, failureIs]
  rcases Gzip.readPrefix_of_damaged unpacked buffering count with
    refused | ⟨first, given, full⟩
  · rw [refused]
    exact .inl rfl
  · rw [given]
    exact .inr ⟨first, rfl, full⟩

variable {settings resolved : Settings} {override : Option Text}

/-- A damaged file is never loaded. -/
theorem loadThrough_of_damaged (stores : files.stored path = .ok bytes)
    (damaged : dataOf path bytes = .error failure)
    (resolves : settings.resolve override = .ok resolved)
    (positive : 1 ≤ resolved.parseCap)
    (counted : files.bytesToRead resolved.parseCap =
      .ok resolved.parseCap.toNat) (buffering : Buffering) :
    files.loadThrough buffering settings override path = .error failure := by
  have prefixRead : files.readPrefix buffering path resolved.parseCap =
      firstOf buffering path resolved.parseCap.toNat bytes := by
    rw [readPrefix_of_found (stored_eq_ok_iff.mp stores), counted]
    rfl
  have sized : files.sourceSize path = .error failure := by
    rw [sourceSize_of_found (stored_eq_ok_iff.mp stores), damaged]
    rfl
  unfold loadThrough
  rw [resolves]
  simp only [bind, Except.bind, prefixRead]
  have some : 0 < resolved.parseCap.toNat := by omega
  rcases firstOf_of_damaged damaged buffering some with
    refused | ⟨first, given, full⟩
  · rw [refused]
  · -- What was read is all that was asked for, so the whole is looked at.
    have reached : resolved.parseCap ≤ first.length := by omega
    rw [given]
    simp only [if_pos reached, sized]

end Damaged

/-- Through any buffers a file is loaded as if it were read as a whole. -/
theorem loadThrough_eq_loadWhole (files : FileStore) {settings : Settings}
    (usual : 1 ≤ settings.parseCap) (buffering : Buffering)
    (override : Option Text) (path : FilePath) :
    files.loadThrough buffering settings override path =
      files.loadWhole settings override path := by
  unfold loadWhole
  cases resolves : settings.resolve override with
  | error failure =>
      unfold loadThrough
      rw [resolves]
      rfl
  | ok resolved =>
      have positive := Settings.one_le_parseCap usual resolves
      simp only [bind, Except.bind]
      cases stores : files.stored path with
      | error failure =>
          have prefixRead : files.readPrefix buffering path resolved.parseCap =
              .error failure := by
            unfold readPrefix
            rw [stores]
            rfl
          unfold loadThrough
          rw [resolves]
          simp only [bind, Except.bind, prefixRead]
      | ok bytes =>
          have found := stored_eq_ok_iff.mp stores
          simp only
          rcases bytesToRead_cases files resolved.parseCap with
            counted | ⟨failure, _, refused⟩
          · simp only [counted]
            cases held : dataOf path bytes with
            | ok data =>
                exact loadThrough_of_counted found held resolves positive counted
                  buffering
            | error failure =>
                exact loadThrough_of_damaged stores held resolves positive
                  counted buffering
          · simp only [refused]
            exact loadThrough_of_refused found resolves refused buffering

theorem load_resolved (files : FileStore) {settings resolved : Settings}
    (usual : 1 ≤ settings.parseCap) {override : Option Text}
    (resolves : settings.resolve override = .ok resolved) (path : FilePath) :
    files.load resolved override path =
      files.loadWhole settings override path := by
  have positive := Settings.one_le_parseCap usual resolves
  rw [load, loadThrough_eq_loadWhole files positive]
  unfold loadWhole
  rw [resolves, Settings.resolve_resolve resolves]

end FileStore

end LogLens
