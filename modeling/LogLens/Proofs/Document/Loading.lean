import Mathlib
import LogLens.Document
import LogLens.Failure
import LogLens.Proofs.Document.History
import LogLens.Proofs.Statistics.Counts

/-!
# Loading a file and refreshing from its data

A file is read only up to the parse cap and sized only where the part that was
read may not be all of it, and still the document is the one that a refresh from
all of the data gives.  What a file in memory does not know is a limit to a
single read: a parse cap beyond it is refused, whatever the file holds.
-/

namespace LogLens

/-- Settings that hold in an environment are not changed by it again. -/
theorem Settings.resolve_resolve {settings resolved : Settings}
    {override : Option Text}
    (resolves : settings.resolve override = .ok resolved) :
    resolved.resolve override = .ok resolved := by
  unfold Settings.resolve at resolves ⊢
  cases read : Settings.readParseCap override with
  | error failure =>
      rw [read] at resolves
      cases resolves
  | ok found =>
      rw [read] at resolves
      cases found with
      | none => rfl
      | some cap =>
          cases resolves
          rfl

/-- An environment leaves settings as they are, sets a parse cap of at least one,
or gives a cap that is refused. -/
theorem Settings.resolve_cases (settings : Settings) (override : Option Text) :
    settings.resolve override = .ok settings ∨
      (∃ cap : Int, 1 ≤ cap ∧
        settings.resolve override = .ok { settings with parseCap := cap }) ∨
      ∃ failure, failure.kind = .refused ∧
        settings.resolve override = .error failure := by
  match override with
  | none | some [] => exact .inl rfl
  | some (char :: rest) =>
      right
      cases number : integer? (char :: rest) with
      | none =>
          have read : readParseCap (some (char :: rest)) =
              .error .parseCapNotInteger := by
            simp only [readParseCap, number]
          exact .inr ⟨.parseCapNotInteger, rfl, by rw [resolve, read]; rfl⟩
      | some cap =>
          by_cases small : cap < 1
          · have read : readParseCap (some (char :: rest)) =
                .error .parseCapTooSmall := by
              simp only [readParseCap, number, if_pos small]
            exact .inr ⟨.parseCapTooSmall, rfl, by rw [resolve, read]; rfl⟩
          · have read : readParseCap (some (char :: rest)) =
                .ok (some cap) := by
              simp only [readParseCap, number, if_neg small]
            exact .inl ⟨cap, by omega, by rw [resolve, read]; rfl⟩

/-- An environment sets nothing but the parse cap. -/
theorem Settings.resolve_parseCap {settings resolved : Settings}
    {override : Option Text} (resolves : settings.resolve override = .ok resolved) :
    resolved = { settings with parseCap := resolved.parseCap } := by
  rcases settings.resolve_cases override with
    kept | ⟨cap, _, capped⟩ | ⟨failure, _, refused⟩
  · rw [kept] at resolves
    cases resolves
    rfl
  · rw [capped] at resolves
    cases resolves
    rfl
  · rw [refused] at resolves
    cases resolves

/-- No environment lets the parse cap of usual settings fall below one. -/
theorem Settings.one_le_parseCap {settings resolved : Settings}
    {override : Option Text} (usual : 1 ≤ settings.parseCap)
    (resolves : settings.resolve override = .ok resolved) :
    1 ≤ resolved.parseCap := by
  rcases settings.resolve_cases override with
    kept | ⟨cap, large, capped⟩ | ⟨failure, _, refused⟩
  · rw [kept] at resolves
    cases resolves
    exact usual
  · rw [capped] at resolves
    cases resolves
    exact large
  · rw [refused] at resolves
    cases resolves

/-- What a new document comes to when all the data of the file at a path is at
hand: data is refused where a refresh finds none. -/
def Document.refreshFrom (document : Document) (path : FilePath)
    (data : Bytes) : Except Failure Document :=
  if Document.hasData (some data) then .ok (document.refresh (some data) none)
  else .error (.logEmpty path.toText)

namespace Document

/-- The beginning of a source and the size of the whole give the document of the
whole, if the parse cap lies within the beginning. -/
theorem ofSource_take (name : Text) (settings : Settings) (source : Bytes)
    (positive : 0 ≤ settings.parseCap) :
    ofSource name settings (source.take settings.parseCap.toNat)
        (some (source.length : Int)) =
      ofSource name settings source none := by
  have content : takeSigned settings.parseCap
      (source.take settings.parseCap.toNat) =
        takeSigned settings.parseCap source := by
    simp [takeSigned, positive, List.take_take]
  have size : max (source.take settings.parseCap.toNat).length
      (((some (source.length : Int)).getD 0).toNat) =
        max source.length (((none : Option Int).getD 0).toNat) := by
    simp only [List.length_take, Option.getD_some, Option.getD_none,
      Int.toNat_natCast, Int.toNat_zero]
    omega
  simp only [ofSource, content, size]

theorem refreshFrom_take (document : Document) (path : FilePath) (data : Bytes)
    (positive : 1 ≤ document.settings.parseCap) :
    (if hasData (some (data.take document.settings.parseCap.toNat)) then
        .ok (document.refresh
          (some (data.take document.settings.parseCap.toNat))
          (some (data.length : Int)))
      else .error (.logEmpty path.toText)) =
      document.refreshFrom path data := by
  cases data with
  | nil =>
      rw [List.take_nil]
      rfl
  | cons byte rest =>
      have begins : (byte :: rest).take document.settings.parseCap.toNat ≠ [] := by
        rw [Ne, List.take_eq_nil_iff]
        simp
        omega
      have read : hasData (some ((byte :: rest).take
          document.settings.parseCap.toNat)) = true :=
        (hasData_iff _).mpr begins
      rw [if_pos read, refresh_of_data document begins, refreshFrom,
        if_pos ((hasData_iff _).mpr (List.cons_ne_nil byte rest)),
        refresh_of_data document (List.cons_ne_nil byte rest),
        ofSource_take _ _ _ (by omega)]

theorem refreshFrom_eq_error_iff (document : Document) (path : FilePath)
    (data : Bytes) (failure : Failure) :
    document.refreshFrom path data = .error failure ↔
      hasData (some data) = false ∧ failure = .logEmpty path.toText := by
  unfold refreshFrom
  cases found : hasData (some data) with
  | true => simp
  | false => simp [eq_comm]

theorem refresh_size (document : Document) {data : Bytes} (present : data ≠ []) :
    (document.refresh (some data) none).size = data.length := by
  rw [refresh_of_data document present]
  exact Nat.max_eq_left (Nat.zero_le _)

theorem refresh_summary (document : Document) {data : Bytes}
    (present : data ≠ []) :
    ∃ summary, (document.refresh (some data) none).summary = .ok summary ∧
      summary.contentSize = data.length := by
  have size := refresh_size document present
  rw [refresh_of_data document present] at size ⊢
  have built := Summary.build_ofEntries document.name
    (ofSource document.name document.settings data none).size
    (ofSource document.name document.settings data none).format
    (ofSource document.name document.settings data none).entries
  exact ⟨_, built, size⟩

end Document

namespace FileStore

/-- The most bytes that a single read can ask for. -/
def readable (files : FileStore) : Nat :=
  min files.room maxLength

theorem bytesToRead_eq_ok (files : FileStore) {limit : Int} (positive : 0 ≤ limit)
    (fits : limit ≤ files.readable) :
    files.bytesToRead limit = .ok limit.toNat := by
  have notNegative : ¬limit < 0 := by omega
  have notHuge : ¬(maxPosition : Int) < limit := by
    simp only [readable, maxLength, maxPosition] at fits ⊢
    omega
  have notOversized : ¬(maxLength : Int) < limit := by
    simp only [readable] at fits
    omega
  have room : ¬(files.room : Int) < limit := by
    simp only [readable] at fits
    omega
  simp only [bytesToRead, if_neg notNegative, if_neg notHuge,
    if_neg notOversized, if_neg room]

theorem bytesToRead_eq_error (files : FileStore) {limit : Int}
    (exceeds : (files.readable : Int) < limit) :
    ∃ failure ∈ [Failure.hugeReadLimit, .oversizedRead, .noRoom],
      files.bytesToRead limit = .error failure := by
  have notNegative : ¬limit < 0 := by omega
  simp only [bytesToRead, if_neg notNegative]
  split
  · exact ⟨.hugeReadLimit, by simp, rfl⟩
  · split
    · exact ⟨.oversizedRead, by simp, rfl⟩
    · split
      · exact ⟨.noRoom, by simp, rfl⟩
      · simp only [readable] at exceeds
        omega

/-- The data of a file, of a damaged one up to the damage. -/
def available (path : FilePath) (bytes : Bytes) : Bytes :=
  if path.isCompressed then (Gzip.unpack bytes).content else bytes

theorem firstOf_eq_ok {buffering : Buffering} {path : FilePath} {count : Nat}
    {bytes data : Bytes} (read : firstOf buffering path count bytes = .ok data) :
    data = (available path bytes).take count := by
  unfold firstOf at read
  unfold available
  by_cases compressed : path.isCompressed = true
  · rw [if_pos compressed]
    by_cases some : 0 < count
    · rw [if_pos ⟨compressed, some⟩, Gzip.readPrefix, Gzip.Unpacked.first] at read
      split at read
      · cases read
        rfl
      · split at read
        · cases read
        · cases read
          rfl
    · have none : count = 0 := by omega
      rw [if_neg (fun both => some both.2)] at read
      cases read
      rw [none, List.take_zero, List.take_zero]
  · rw [if_neg (fun both => compressed both.1)] at read
    cases read
    rw [if_neg compressed]

theorem dataOf_eq_error_iff {path : FilePath} {bytes : Bytes} {failure : Failure} :
    dataOf path bytes = .error failure ↔
      path.isCompressed = true ∧
        ∃ cause, Gzip.data bytes = .error cause ∧ failure = .archive cause := by
  unfold dataOf
  by_cases compressed : path.isCompressed = true
  · rw [if_pos compressed]
    cases Gzip.data bytes with
    | ok data => simp [Except.mapError]
    | error cause => simp [Except.mapError, compressed, eq_comm]
  · rw [if_neg compressed]
    simp [compressed]

theorem bytesToRead_cases (files : FileStore) (limit : Int) :
    files.bytesToRead limit = .ok limit.toNat ∨
      ∃ failure ∈ [Failure.negativeReadLimit, .hugeReadLimit, .oversizedRead,
        .noRoom], files.bytesToRead limit = .error failure := by
  by_cases negative : limit < 0
  · exact .inr ⟨.negativeReadLimit, by simp, if_pos negative⟩
  · by_cases fits : limit ≤ files.readable
    · exact .inl (bytesToRead_eq_ok files (by omega) fits)
    · obtain ⟨failure, member, refused⟩ :=
        bytesToRead_eq_error files (Int.lt_of_not_ge fits)
      exact .inr ⟨failure, List.mem_cons_of_mem _ member, refused⟩

theorem stored_eq_ok_iff {files : FileStore} {path : FilePath} {bytes : Bytes} :
    files.stored path = .ok bytes ↔ files.look path = .file bytes := by
  unfold stored
  cases files.look path <;> simp

theorem readPrefix_of_found {files : FileStore} {path : FilePath} {bytes : Bytes}
    (found : files.look path = .file bytes) {buffering : Buffering} {limit : Int} :
    files.readPrefix buffering path limit = (files.bytesToRead limit).bind
      fun count => firstOf buffering path count bytes := by
  unfold readPrefix stored
  rw [found]
  rfl

theorem sourceSize_of_found {files : FileStore} {path : FilePath} {bytes : Bytes}
    (found : files.look path = .file bytes) :
    files.sourceSize path = (dataOf path bytes).map List.length := by
  unfold sourceSize stored
  rw [found]
  change (do return (← dataOf path bytes).length) = _
  cases dataOf path bytes <;> rfl

/-- What is read are the first bytes of the data of the file that is found. -/
theorem readPrefix_eq_ok {files : FileStore} {buffering : Buffering}
    {path : FilePath} {limit : Int} {data : Bytes}
    (read : files.readPrefix buffering path limit = .ok data) :
    ∃ bytes, files.look path = .file bytes ∧
      data = (available path bytes).take limit.toNat := by
  obtain ⟨bytes, stored, read⟩ := bind_eq_ok_iff.mp read
  obtain ⟨count, counted, read⟩ := bind_eq_ok_iff.mp read
  refine ⟨bytes, stored_eq_ok_iff.mp stored, ?_⟩
  rcases bytesToRead_cases files limit with some | ⟨failure, _, refused⟩
  · rw [some] at counted
    cases counted
    exact firstOf_eq_ok read
  · rw [refused] at counted
    cases counted

/-- A document that is loaded is one that some data gives. -/
theorem exists_source_of_load {files : FileStore} {buffering : Buffering}
    {settings : Settings} {override : Option Text} {path : FilePath}
    {document : Document}
    (loads : files.loadThrough buffering settings override path =
      .ok document) :
    ∃ resolved data size, settings.resolve override = .ok resolved ∧
      data ≠ [] ∧
      document = Document.ofSource path.name resolved data (some size) := by
  obtain ⟨resolved, resolves, loads⟩ := bind_eq_ok_iff.mp loads
  obtain ⟨data, _, loads⟩ := bind_eq_ok_iff.mp loads
  -- Where the size comes from does not matter.
  obtain ⟨size, loads⟩ : ∃ size : Nat,
      (Document.create path.name resolved override >>= fun fresh =>
        if Document.hasData (some data) then
          pure (fresh.refresh (some data) (some (size : Int)))
        else .error (.logEmpty path.toText)) = .ok document := by
    by_cases full : resolved.parseCap ≤ data.length
    · simp only [if_pos full] at loads
      obtain ⟨size, _, loads⟩ := bind_eq_ok_iff.mp loads
      exact ⟨size, loads⟩
    · simp only [if_neg full] at loads
      exact ⟨data.length, loads⟩
  obtain ⟨fresh, created, loads⟩ := bind_eq_ok_iff.mp loads
  rw [Document.create_eq, Settings.resolve_resolve resolves] at created
  cases created
  by_cases present : data = []
  · rw [present] at loads
    cases loads
  · rw [if_pos ((Document.hasData_iff data).mpr present),
      Document.refresh_of_data _ present] at loads
    cases loads
    exact ⟨resolved, data, size, resolves, present, rfl⟩

theorem entries_of_load {files : FileStore} {buffering : Buffering}
    {settings : Settings} {override : Option Text} {path : FilePath}
    {document : Document}
    (loads : files.loadThrough buffering settings override path =
      .ok document) :
    document.entries = document.format.entries document.content := by
  obtain ⟨resolved, data, size, _, _, equality⟩ := exists_source_of_load loads
  rw [equality]
  rfl

section Intact

variable {files : FileStore} {path : FilePath} {bytes data : Bytes}

theorem firstOf_of_intact (intact : dataOf path bytes = .ok data)
    (buffering : Buffering) (count : Nat) :
    firstOf buffering path count bytes = .ok (data.take count) := by
  unfold dataOf at intact
  unfold firstOf
  by_cases compressed : path.isCompressed = true
  · rw [if_pos compressed] at intact
    cases unpacked : Gzip.data bytes with
    | error failure =>
        rw [unpacked] at intact
        cases intact
    | ok content =>
        rw [unpacked] at intact
        cases intact
        by_cases some : 0 < count
        · rw [if_pos ⟨compressed, some⟩,
            Gzip.readPrefix_of_data unpacked buffering count]
          rfl
        · have none : count = 0 := by omega
          rw [if_neg (fun both => some both.2), none]
          rfl
  · rw [if_neg compressed] at intact
    cases intact
    rw [if_neg (fun both => compressed both.1)]

theorem readPrefix_of_intact (found : files.look path = .file bytes)
    (intact : dataOf path bytes = .ok data) (buffering : Buffering)
    (limit : Int) :
    files.readPrefix buffering path limit =
      (files.bytesToRead limit).map data.take := by
  rw [readPrefix_of_found found]
  cases files.bytesToRead limit with
  | error failure => rfl
  | ok count => exact firstOf_of_intact intact buffering count

theorem sourceSize_of_intact (found : files.look path = .file bytes)
    (intact : dataOf path bytes = .ok data) :
    files.sourceSize path = .ok data.length := by
  rw [sourceSize_of_found found, intact]
  rfl

variable {settings resolved : Settings} {override : Option Text}

theorem loadThrough_of_counted (found : files.look path = .file bytes)
    (intact : dataOf path bytes = .ok data)
    (resolves : settings.resolve override = .ok resolved)
    (positive : 1 ≤ resolved.parseCap)
    (counted : files.bytesToRead resolved.parseCap =
      .ok resolved.parseCap.toNat) (buffering : Buffering) :
    files.loadThrough buffering settings override path =
      (Document.blank path.name resolved).refreshFrom path data := by
  have prefixRead : files.readPrefix buffering path resolved.parseCap =
      .ok (data.take resolved.parseCap.toNat) := by
    rw [readPrefix_of_intact found intact, counted]
    rfl
  have created :=
    Document.create_of_resolves (Settings.resolve_resolve resolves) path.name
  have outcome := Document.refreshFrom_take
    (Document.blank path.name resolved) path data positive
  unfold loadThrough
  rw [resolves]
  simp only [bind, Except.bind, prefixRead, created]
  by_cases full : resolved.parseCap ≤ (data.take resolved.parseCap.toNat).length
  · rw [if_pos full, sourceSize_of_intact found intact]
    exact outcome
  · -- A read that is shorter than asked for is one of all the data.
    have whole : (data.take resolved.parseCap.toNat).length = data.length := by
      rw [List.length_take] at full ⊢
      omega
    rw [if_neg full, whole]
    exact outcome

theorem load_of_readable (found : files.look path = .file bytes)
    (intact : dataOf path bytes = .ok data)
    (resolves : settings.resolve override = .ok resolved)
    (positive : 1 ≤ resolved.parseCap)
    (fits : resolved.parseCap ≤ files.readable) :
    files.load settings override path =
      (Document.blank path.name resolved).refreshFrom path data :=
  loadThrough_of_counted found intact resolves positive
    (bytesToRead_eq_ok files (by omega) fits) .single

theorem loadThrough_of_refused (found : files.look path = .file bytes)
    (resolves : settings.resolve override = .ok resolved) {failure : Failure}
    (refused : files.bytesToRead resolved.parseCap = .error failure)
    (buffering : Buffering) :
    files.loadThrough buffering settings override path = .error failure := by
  have prefixRead : files.readPrefix buffering path resolved.parseCap =
      .error failure := by
    rw [readPrefix_of_found found, refused]
    rfl
  unfold loadThrough
  rw [resolves]
  simp only [bind, Except.bind, prefixRead]

theorem load_of_refused (found : files.look path = .file bytes)
    (resolves : settings.resolve override = .ok resolved) {failure : Failure}
    (refused : files.bytesToRead resolved.parseCap = .error failure) :
    files.load settings override path = .error failure :=
  loadThrough_of_refused found resolves refused .single

/-- The document of a file that is not damaged is the one that a refresh from all
of its data gives, under the settings that hold in the environment, exactly if
the parse cap can be read at once.  It then has the size of the data, in its
summary too, and is refused exactly where the refresh finds nothing. -/
theorem load_eq_refresh_iff (found : files.look path = .file bytes)
    (intact : dataOf path bytes = .ok data)
    (resolves : settings.resolve override = .ok resolved)
    (positive : 1 ≤ resolved.parseCap) :
    ∃ fresh, Document.create path.name settings override = .ok fresh ∧
      fresh.settings = resolved ∧
      resolved.resolve override = .ok resolved ∧
      (files.load settings override path = fresh.refreshFrom path data ↔
        resolved.parseCap ≤ files.readable) ∧
      (resolved.parseCap ≤ files.readable →
        (data ≠ [] → ∃ document summary,
          files.load settings override path = .ok document ∧
          document = fresh.refresh (some data) none ∧
          document.size = data.length ∧
          document.summary = .ok summary ∧
          summary.contentSize = data.length) ∧
        (Document.hasData (some data) = false ↔
          files.load settings override path =
            .error (.logEmpty path.toText))) := by
  let fresh := Document.blank path.name resolved
  have created : Document.create path.name settings override = .ok fresh := by
    rw [Document.create_eq, resolves]
    rfl
  refine ⟨fresh, created, rfl, Settings.resolve_resolve resolves, ?_, ?_⟩
  · constructor
    · intro loaded
      by_cases fits : resolved.parseCap ≤ files.readable
      · exact fits
      · -- The failure of a read is none that a refresh can end in.
        obtain ⟨failure, member, refused⟩ :=
          bytesToRead_eq_error files (Int.lt_of_not_ge fits)
        rw [load_of_refused found resolves refused] at loaded
        have onlyEmpty :=
          (Document.refreshFrom_eq_error_iff fresh path data failure).mp
            loaded.symm
        rw [onlyEmpty.2] at member
        simp at member
    · exact load_of_readable found intact resolves positive
  · intro fits
    rw [load_of_readable found intact resolves positive fits]
    constructor
    · intro present
      obtain ⟨summary, summarised, size⟩ :=
        Document.refresh_summary fresh present
      refine ⟨fresh.refresh (some data) none, summary, ?_, rfl,
        Document.refresh_size fresh present, summarised, size⟩
      exact if_pos ((Document.hasData_iff data).mpr present)
    · rw [Document.refreshFrom_eq_error_iff]
      simp

end Intact

theorem load_eq_refresh_iff_compressed :
    let path := FilePath.ofText "logs/a.GZ"
    let data := ascii "warn me"
    let files : FileStore := { look := fun _ => .file (Gzip.pack data) }
    let resolved := { Settings.standard with parseCap := 4 }
    dataOf path (Gzip.pack data) = .ok data ∧
      Settings.standard.resolve (some "4") = .ok resolved ∧
      ∃ document, files.load Settings.standard (some "4") path = .ok document ∧
        document.size = 7 := by
  intro path data files resolved
  have intact : dataOf (FilePath.ofText "logs/a.GZ")
      (Gzip.pack (ascii "warn me")) = .ok (ascii "warn me") := by cbv
  have resolves : Settings.standard.resolve (some "4") = .ok resolved := by rfl
  have found : files.look path = .file (Gzip.pack data) := rfl
  have positive : 1 ≤ resolved.parseCap := by
    change (1 : Int) ≤ 4
    decide
  have fits : resolved.parseCap ≤ files.readable := by
    change (4 : Int) ≤ (min 0x1000000000 maxLength : Nat)
    decide
  have present : ascii "warn me" ≠ [] := by decide
  obtain ⟨fresh, _, _, _, _, refines⟩ :=
    load_eq_refresh_iff found intact resolves positive
  obtain ⟨document, _, loaded, _, size, _⟩ := (refines fits).1 present
  exact ⟨intact, resolves, document, loaded, size⟩

/-- A parse cap that fits into a position of a file but not into the length of a
byte string is refused, although a refresh under it finds the data. -/
theorem load_refuses_unreadable_cap :
    let path := FilePath.ofText "m.log"
    let data := ascii "x"
    let files : FileStore := { look := fun _ => .file data }
    let override : Option Text := some "9223372036854775807"
    let resolved := { Settings.standard with parseCap := 9223372036854775807 }
    dataOf path data = .ok data ∧
      Settings.standard.resolve override = .ok resolved ∧
      1 ≤ resolved.parseCap ∧
      Document.create path.name Settings.standard override =
        .ok (Document.blank path.name resolved) ∧
      (Document.blank path.name resolved).refreshFrom path data =
        .ok ((Document.blank path.name resolved).refresh (some data) none) ∧
      files.load Settings.standard override path = .error .oversizedRead := by
  intro path data files override resolved
  have intact : dataOf (FilePath.ofText "m.log") (ascii "x") =
      .ok (ascii "x") := by cbv
  have resolves : Settings.standard.resolve override = .ok resolved := by rfl
  have created : Document.create path.name Settings.standard override =
      .ok (Document.blank path.name resolved) := by
    rw [Document.create_eq, resolves]
    rfl
  have refused : files.bytesToRead resolved.parseCap =
      .error .oversizedRead := by
    simp [resolved, bytesToRead, maxPosition, maxLength]
  refine ⟨intact, resolves, ?_, created, rfl,
    load_of_refused rfl resolves refused⟩
  change (1 : Int) ≤ 9223372036854775807
  decide

end FileStore

end LogLens
