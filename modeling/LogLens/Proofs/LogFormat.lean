import LogLens.LogFormat
import LogLens.Proofs.Document.Loading
import LogLens.Proofs.Text.Search
import LogLens.Report.Request

/-!
# What recognised formats promise

A format is recognised by what occurs in a sample, and so it still is when bytes are put
in front of the sample or behind it.  Of the formats that a sample shows the first in
order is taken, so a larger sample can only lead to a format that is tried sooner.

What an access log, a syslog or the log of a framework is recognised by carries a sign
that a file is worth inspecting, and the sample in which it is found is no larger than
the probe.  The other formats make no such promise.
-/

namespace LogLens

theorem anyOccursIn_of_isInfix {needles signs : List Bytes} {inner outer : Bytes}
    (within : inner <:+: outer)
    (covered : ∀ needle ∈ needles, ∃ sign ∈ signs, sign <:+: needle)
    (occurs : anyOccursIn needles inner = true) : anyOccursIn signs outer = true := by
  obtain ⟨needle, member, found⟩ := List.any_eq_true.mp occurs
  obtain ⟨sign, listed, inNeedle⟩ := covered needle member
  apply List.any_eq_true.mpr
  exact ⟨sign, listed, occursIn_iff.mpr
    (inNeedle.trans ((occursIn_iff.mp found).trans within))⟩

namespace LogFormat

theorem recognises_of_isInfix {format : LogFormat} {inner outer : Bytes}
    (within : inner <:+: outer) (shown : format.recognises inner = true) :
    format.recognises outer = true := by
  have any : ∀ needles, anyOccursIn needles inner = true →
      anyOccursIn needles outer = true := by
    intro needles
    apply anyOccursIn_of_isInfix within
    exact fun needle member => ⟨needle, member, List.infix_rfl⟩
  cases format with
  | webAccess | json =>
      obtain ⟨marked, listed⟩ := Bool.and_eq_true_iff.mp shown
      exact Bool.and_eq_true_iff.mpr
        ⟨occursIn_of_isInfix within marked, any _ listed⟩
  | syslog | structured =>
      obtain ⟨listed, marked⟩ := Bool.and_eq_true_iff.mp shown
      exact Bool.and_eq_true_iff.mpr
        ⟨any _ listed, occursIn_of_isInfix within marked⟩
  | webError => exact any _ shown
  | unknown | windowsEvent | iis | custom => contradiction

/-- The place of a format among the recognisable ones, behind which come all others. -/
def rank (format : LogFormat) : Nat :=
  recognisable.idxOf format

example : [webAccess, webError, syslog, structured, json, custom].map rank =
    [0, 1, 2, 3, 4, 5] := by
  decide

/-- A document has the first format that its sample shows. -/
theorem rank_detect (sampleSize : Int) (content : Bytes) :
    rank (detect sampleSize content) =
      recognisable.findIdx (·.recognises (takeSigned sampleSize content)) := by
  have distinct : recognisable.Nodup := by decide
  have place_le : recognisable.findIdx (·.recognises (takeSigned sampleSize content)) ≤
      recognisable.length :=
    List.findIdx_le_length
  rw [detect, detectAmong, List.find?_eq_getElem?_findIdx]
  -- A search without a hit ends behind the last format, which is where `custom` is.
  rcases Nat.lt_or_eq_of_le place_le with found | nothing
  · rw [List.getElem?_eq_getElem found]
    exact distinct.idxOf_getElem _ found
  · rw [nothing]
    rfl

theorem rank_detect_le {size larger : Int} {content whole : Bytes}
    (within : takeSigned size content <:+: takeSigned larger whole) :
    rank (detect larger whole) ≤ rank (detect size content) := by
  rw [rank_detect, rank_detect]
  apply List.findIdx_le_findIdx
  intro format _
  exact recognises_of_isInfix within

/-- The format of a document is the first that its sample shows.  What a sample shows is
shown wherever the sample is a part, so more bytes around it and a larger sample lead to
no later format, and what is behind the sample does not matter. -/
theorem detect_monotone :
    (∀ (sampleSize : Int) (content : Bytes), rank (detect sampleSize content) =
      recognisable.findIdx (·.recognises (takeSigned sampleSize content))) ∧
    (∀ (format : LogFormat) (before sample after : Bytes),
      format.recognises sample = true →
      format.recognises (before ++ sample ++ after) = true) ∧
    (∀ (before sample after : Bytes) (size larger : Int), sample.length ≤ size →
      (before ++ sample ++ after).length ≤ larger →
      rank (detect larger (before ++ sample ++ after)) ≤ rank (detect size sample)) ∧
    (∀ (content : Bytes) (fewer more : Nat), fewer ≤ more →
      rank (detect more content) ≤ rank (detect fewer content)) ∧
    (∀ (content other : Bytes) (size : Nat), content.take size = other.take size →
      detect size content = detect size other) := by
  refine ⟨rank_detect, ?_, ?_, ?_, ?_⟩
  · intro format before sample after
    exact recognises_of_isInfix ⟨before, after, rfl⟩
  · intro before sample after size larger covers coversAll
    apply rank_detect_le
    rw [takeSigned_of_length_le covers, takeSigned_of_length_le coversAll]
    exact ⟨before, after, rfl⟩
  · intro content fewer more smaller
    apply rank_detect_le
    rw [takeSigned_natCast, takeSigned_natCast]
    exact (List.take_prefix_take_left smaller).isInfix
  · intro content other size alike
    simp only [detect, detectAmong, takeSigned_natCast, alike]

theorem detect_monotone_completed :
    let sample := ascii "[INFO] a - b"
    let whole := ascii "> " ++ sample ++ ascii "\nh - - [t] \"GET /\""
    (structured.recognises sample = true ∧ structured.recognises whole = true) ∧
      (sample.length ≤ 12 ∧ whole.length ≤ 33 ∧
        rank (detect 33 whole) ≤ rank (detect 12 sample)) ∧
      (29 ≤ 30 ∧ detect (29 : Nat) whole = structured ∧
        detect (30 : Nat) whole = webAccess ∧
        rank (detect (30 : Nat) whole) ≤ rank (detect (29 : Nat) whole)) ∧
      whole.take 29 = (whole.take 29 ++ sample).take 29 ∧
      detect (29 : Nat) whole = detect (29 : Nat) (whole.take 29 ++ sample) := by
  intro sample whole
  obtain ⟨_, shown, around, larger, behind⟩ := detect_monotone
  have recognised : structured.recognises sample = true := by decide +kernel
  have small : sample.length ≤ (12 : Int) := by decide +kernel
  have long : whole.length ≤ (33 : Int) := by decide +kernel
  have alike : whole.take 29 = (whole.take 29 ++ sample).take 29 := by decide +kernel
  exact ⟨⟨recognised, shown structured _ _ _ recognised⟩,
    ⟨by decide +kernel, by decide +kernel, around _ _ _ 12 33 small long⟩,
    ⟨by decide, by decide +kernel, by decide +kernel, larger whole 29 30 (by decide)⟩,
    alike, behind whole _ 29 alike⟩

end LogFormat

section Signs

open Eligibility

namespace LogFormat

theorem recognises_of_detect {sampleSize : Int} {content : Bytes}
    (special : detect sampleSize content ≠ custom) :
    (detect sampleSize content).recognises (takeSigned sampleSize content) = true := by
  have settled : detect sampleSize content =
      (recognisable.find? (·.recognises (takeSigned sampleSize content))).getD custom :=
    rfl
  rw [settled] at special ⊢
  cases found : recognisable.find? (·.recognises (takeSigned sampleSize content)) with
  | none =>
      rw [found] at special
      exact absurd rfl special
  | some format =>
      have recognised := List.find?_some found
      exact recognised

theorem showsSign_of_recognises {format : LogFormat} {sample content : Bytes}
    (listed : format ∈ [webAccess, syslog, structured])
    (within : sample <:+: content.take probeSize)
    (shown : format.recognises sample = true) : showsSign content = true := by
  have signs : anyOccursIn requestSigns (content.take probeSize) = true ∨
      anyOccursIn dateSigns (content.take probeSize) = true ∨
      anyOccursIn severitySigns (content.take probeSize) = true := by
    simp only [List.mem_cons, List.not_mem_nil, or_false] at listed
    -- That each needle holds a sign is seen by running through the two tables.
    rcases listed with rfl | rfl | rfl
    · obtain ⟨_, access⟩ := Bool.and_eq_true_iff.mp shown
      left
      apply anyOccursIn_of_isInfix within _ access
      decide +kernel
    · obtain ⟨months, _⟩ := Bool.and_eq_true_iff.mp shown
      right; left
      apply anyOccursIn_of_isInfix within _ months
      decide +kernel
    · obtain ⟨severities, _⟩ := Bool.and_eq_true_iff.mp shown
      right; right
      apply anyOccursIn_of_isInfix within _ severities
      decide +kernel
  simpa only [showsSign, Bool.or_eq_true, or_assoc] using signs

theorem isEligible_of_detect {allowed : List Text} {extension : Text} {size : Nat}
    {content : Bytes} (within : size ≤ probeSize)
    (listed : detect size content ∈ [webAccess, syslog, structured])
    (named : extension.lower ∈ allowed) :
    isEligible allowed extension content = true := by
  have special : detect size content ≠ custom := by
    intro equality
    rw [equality] at listed
    contradiction
  have shown := recognises_of_detect special
  rw [takeSigned_natCast] at shown
  have inside : content.take size <:+: content.take probeSize :=
    (List.take_prefix_take_left within).isInfix
  have shows := showsSign_of_recognises listed inside shown
  rw [isEligible, Bool.and_eq_true]
  exact ⟨List.contains_iff_mem.mpr named, shows⟩

end LogFormat

theorem Eligibility.lower_of_mem {extension : Text}
    (listed : extension ∈ defaultExtensions) : extension.lower = extension := by
  simp only [defaultExtensions, List.mem_cons, List.not_mem_nil, or_false] at listed
  rcases listed with rfl | rfl | rfl <;> decide +kernel

/-- An overview reports the format that the first bytes of the document show, and
whether the document is eligible. -/
theorem FileStore.exists_document_of_inspect {files : FileStore} {override : Option Text}
    {path : FilePath} {overview : Overview}
    (inspected : files.inspect override path = .ok overview) :
    ∃ content, overview.format = LogFormat.detect probeSize content ∧
      overview.eligible =
        isEligible defaultExtensions path.effectiveExtension content := by
  obtain ⟨document, loads, answers⟩ := bind_eq_ok_iff.mp inspected
  obtain ⟨summary, _, answers⟩ := bind_eq_ok_iff.mp answers
  obtain ⟨settings, data, size, resolves, _, equality⟩ := exists_source_of_load loads
  have sampled : settings.sampleSize = probeSize := by
    rw [Settings.resolve_parseCap resolves]
    rfl
  cases answers
  refine ⟨document.content, ?_, rfl⟩
  rw [← sampled, equality]
  rfl

namespace LogFormat

/-- What is recognised as an access log, as syslog or as the log of a framework, by a
sample that is no larger than the probe, is eligible under every extension that is
allowed, and a file of which this is reported is reported as eligible.  Of what is
recognised as any other format, or as none, this does not hold. -/
theorem isEligible_of_recognised :
    (∀ (allowed : List Text) (extension : Text) (size : Nat) (content : Bytes),
      size ≤ 4096 → detect size content ∈ [webAccess, syslog, structured] →
      extension.lower ∈ allowed → isEligible allowed extension content = true) ∧
    (∀ (files : FileStore) (override : Option Text) (path : FilePath)
      (overview : Overview), files.inspect override path = .ok overview →
      overview.format ∈ [webAccess, syslog, structured] →
      path.effectiveExtension ∈ ([".log", ".txt", ".logs"] : List Text) →
      overview.eligible = true) ∧
    (∀ format ∈ [webError, json, custom], ∃ content : Bytes,
      detect (4096 : Nat) content = format ∧
        ∀ allowed extension, isEligible allowed extension content = false) := by
  refine ⟨?_, ?_, ?_⟩
  · intro allowed extension size content within listed named
    exact isEligible_of_detect within listed named
  · intro files override path overview inspected listed named
    obtain ⟨content, format, eligible⟩ :=
      FileStore.exists_document_of_inspect inspected
    rw [format] at listed
    rw [eligible]
    apply isEligible_of_detect (Nat.le_refl probeSize) listed
    rw [lower_of_mem named]
    exact named
  · have signless : ∀ content : Bytes, showsSign content = false →
        ∀ allowed extension, isEligible allowed extension content = false := by
      intro content nothing allowed extension
      rw [isEligible, nothing, Bool.and_false]
    intro format listed
    simp only [List.mem_cons, List.not_mem_nil, or_false] at listed
    rcases listed with rfl | rfl | rfl
    · exact ⟨ascii "[notice]", by decide +kernel, signless _ (by decide +kernel)⟩
    · exact ⟨ascii "\x7b\"level\"", by decide +kernel, signless _ (by decide +kernel)⟩
    · exact ⟨[], by decide +kernel, signless _ (by decide +kernel)⟩

theorem isEligible_of_recognised_folded :
    let content := ascii "Dec 1 h p[7]: x"
    let files : FileStore := { look := fun _ => .file content }
    let inspected := files.inspect none (FilePath.ofText "d/App.LOGS")
    (14 ≤ 4096 ∧ detect (14 : Nat) content = syslog ∧
      isEligible [".x"] ".X" content = true) ∧
    (inspected.map Overview.format = .ok syslog ∧
      inspected.map Overview.eligible = .ok true) ∧
    ∃ other : Bytes, detect (4096 : Nat) other = webError ∧
      isEligible [".log"] ".log" other = false := by
  intro content files inspected
  obtain ⟨sampled, reported, others⟩ := isEligible_of_recognised
  have found : detect (14 : Nat) content = syslog := by decide +kernel
  have format : inspected.map Overview.format = .ok syslog := by decide +kernel
  refine ⟨⟨by decide, found, ?_⟩, ⟨format, ?_⟩, ?_⟩
  · exact sampled [".x"] ".X" 14 content (by decide) (by rw [found]; decide)
      (by decide +kernel)
  · cases answers : inspected with
    | error failure =>
        rw [answers] at format
        cases format
    | ok overview =>
        rw [answers] at format
        have own : overview.format = syslog := Except.ok.inj format
        have eligible : overview.eligible = true :=
          reported files none _ overview answers (by rw [own]; decide)
            (by decide +kernel)
        rw [← eligible]
        rfl
  · obtain ⟨other, recognised, refused⟩ := others webError (by decide)
    exact ⟨other, recognised, refused _ _⟩

end LogFormat

end Signs

end LogLens
