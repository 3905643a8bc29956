import Mathlib
import LogLens.Archive.Gzip
import LogLens.Failure
import LogLens.Proofs.Archive.Position

/-!
# The course of unpacking accounts for the data

The steps by which a compressed file is unpacked give exactly as many bytes as
its data has, and none of them asks for more of the file than there is.
-/

namespace LogLens

namespace Move

/-- The number of bytes of data that a step gives. -/
def gives : Move → Nat
  | enter _ | leave _ | damage _ | farCopy _ => 0
  | give count _ | store count _ => count

/-- The step asks for nothing behind the first `total` bytes of the file. -/
def Within (total : Nat) : Move → Prop
  | enter _ => True
  | give _ reach | leave reach | damage reach | farCopy reach => reach ≤ total
  | store count start => start + count ≤ total

end Move

/-- The steps give `size` bytes of data and stay within a file of `total`
bytes. -/
structure Accounts (total size : Nat) (course : List Move) : Prop where
  given : (course.map Move.gives).sum = size
  within : ∀ move ∈ course, move.Within total

namespace Accounts

variable {total size other : Nat} {course later : List Move}

theorem nil : Accounts total 0 [] :=
  ⟨rfl, by simp⟩

theorem cons (move : Move) (within : move.Within total)
    (accounts : Accounts total size course) :
    Accounts total (size + move.gives) (move :: course) := by
  constructor
  · rw [List.map_cons, List.sum_cons, accounts.given, Nat.add_comm]
  · exact List.forall_mem_cons.mpr ⟨within, accounts.within⟩

theorem append (accounts : Accounts total size course)
    (others : Accounts total other later) :
    Accounts total (size + other) (course ++ later) := by
  constructor
  · rw [List.map_append, List.sum_append, accounts.given, others.given]
  · exact List.forall_mem_append.mpr ⟨accounts.within, others.within⟩

theorem reverse (accounts : Accounts total size course) :
    Accounts total size course.reverse := by
  constructor
  · rw [List.map_reverse, List.sum_reverse, accounts.given]
  · intro move member
    exact accounts.within move (List.mem_reverse.mp member)

theorem of_fault {fault : Fault} (within : fault.Within total) :
    Accounts total 0 fault.moves := by
  unfold Fault.moves
  split
  · exact nil
  · exact nil.cons (.farCopy _) within
  · exact nil.cons (.damage _) within

end Accounts

variable {total : Nat}

namespace Inflate

/-- What has been unpacked of a file of `total` bytes is what its steps give. -/
structure Progress.Sound (total : Nat) (progress : Progress) : Prop where
  spans : progress.source.Spans total
  accounts : Accounts total progress.output.size progress.course

/-- Unpacking is sound, and if it ends with a fault, it shows within the file. -/
structure Leaves (total : Nat) (result : Progress × Option Fault) : Prop where
  sound : result.1.Sound total
  within : ∀ fault ∈ result.2, fault.Within total

variable {progress : Progress}

theorem Leaves.done (sound : progress.Sound total) :
    Leaves total (progress, none) :=
  ⟨sound, by simp⟩

theorem Leaves.failed (sound : progress.Sound total) {fault : Fault}
    (within : fault.Within total) : Leaves total (progress, some fault) :=
  ⟨sound, by simpa using within⟩

theorem size_append (output : Array UInt8) (block : Bytes) :
    (output ++ block).size = output.size + block.length := by
  rw [← Array.length_toList, Array.toList_appendList, List.length_append,
    Array.length_toList]

theorem size_copyBack (distance length : Nat) (output : Array UInt8) :
    (copyBack distance length output).size = output.size + length := by
  induction length generalizing output with
  | zero => rfl
  | succ length induction =>
      rw [copyBack, induction, Array.size_push]
      omega

theorem readCoded_leaves (literals distances : PrefixCode) (fuel : Nat)
    (sound : progress.Sound total) :
    Leaves total (readCoded literals distances fuel progress) := by
  induction fuel generalizing progress with
  | zero => exact .failed sound True.intro
  | succ fuel induction =>
      have stays := Symbol.read_stays literals distances sound.spans
      unfold readCoded
      split
      · rename_i fault found
        rw [found] at stays
        exact .failed sound stays
      · rename_i source found
        rw [found] at stays
        exact .done ⟨stays, sound.accounts⟩
      · rename_i byte source found
        rw [found] at stays
        apply induction
        refine ⟨stays, ?_⟩
        rw [Array.size_push]
        exact sound.accounts.cons (.give 1 _) stays.position_le
      · rename_i length distance source found
        rw [found] at stays
        split
        · exact .failed sound stays.position_le
        · apply induction
          refine ⟨stays, ?_⟩
          rw [size_copyBack]
          exact sound.accounts.cons (.give length _) stays.position_le

theorem readStored_leaves (length : Nat) (sound : progress.Sound total) :
    Leaves total (readStored length progress) := by
  have behind := sound.spans.takeBytes length
  have inside := sound.spans.position_add_le length
  unfold readStored
  constructor
  · refine ⟨behind, ?_⟩
    simp only
    split
    · rename_i none
      rw [none]
      exact sound.accounts
    · rw [size_append]
      exact sound.accounts.cons (.store _ _) inside
  · intro fault member
    simp only at member
    split at member
    · cases member
      exact True.intro
    · cases member

theorem readBody_leaves (bits : Nat) (body : BlockBody)
    (sound : progress.Sound total) :
    Leaves total (readBody bits progress body) := by
  cases body with
  | stored length => exact readStored_leaves length sound
  | coded literals distances => exact readCoded_leaves literals distances bits sound

theorem readBlocks_leaves (bits fuel : Nat) (sound : progress.Sound total) :
    Leaves total (readBlocks bits fuel progress) := by
  induction fuel generalizing progress with
  | zero => exact .failed sound True.intro
  | succ fuel induction =>
      have stays := Block.read_stays sound.spans
      unfold readBlocks
      split
      · rename_i fault found
        rw [found] at stays
        exact .failed sound stays
      · rename_i block source found
        rw [found] at stays
        have body : Leaves total
            (readBody bits { progress with source := source } block.body) :=
          readBody_leaves bits block.body ⟨stays, sound.accounts⟩
        split
        · rename_i after fault ended
          rw [ended] at body
          exact .failed body.sound (body.within fault rfl)
        · rename_i after ended
          rw [ended] at body
          split
          · exact .done body.sound
          · exact induction body.sound

theorem unpack_leaves (bits : Nat) {source : BitSource}
    (spans : source.Spans total) : Leaves total (unpack bits source) :=
  readBlocks_leaves bits bits ⟨spans, Accounts.nil.cons (.enter _) True.intro⟩

end Inflate

namespace Gzip

variable {source rest : BitSource}

theorem need_spans {count : Nat} {taken : Bytes} (spans : source.Spans total)
    (reads : need count source = .ok (taken, rest)) : rest.Spans total := by
  unfold need at reads
  simp only at reads
  split at reads
  · cases reads
  · cases reads
    exact spans.takeBytes count

theorem skip_spans {count : Nat} (spans : source.Spans total)
    (skips : skip count source = .ok rest) : rest.Spans total := by
  unfold skip at skips
  cases reads : need count source with
  | error failure =>
      rw [reads] at skips
      cases skips
  | ok result =>
      rw [reads] at skips
      cases skips
      exact need_spans spans reads

theorem skipField_spans (spans : source.Spans total)
    (skips : skipField source = .ok rest) : rest.Spans total := by
  obtain ⟨⟨length, behind⟩, reads, skips⟩ := bind_eq_ok_iff.mp skips
  exact skip_spans (need_spans spans reads) skips

theorem optional_spans {present : Bool}
    {field next : BitSource → Except ArchiveFailure BitSource}
    (spans : source.Spans total)
    (stays : ∀ behind, field source = .ok behind → behind.Spans total)
    (later : ∀ behind, behind.Spans total → next behind = .ok rest →
      rest.Spans total)
    (skips : (if present then field source >>= next else next source) =
      .ok rest) : rest.Spans total := by
  split at skips
  · obtain ⟨behind, skipsField, skips⟩ := bind_eq_ok_iff.mp skips
    exact later behind (stays behind skipsField) skips
  · exact later source spans skips

theorem skipOptional_spans {flags : UInt8} (spans : source.Spans total)
    (skips : skipOptional flags source = .ok rest) : rest.Spans total := by
  unfold skipOptional at skips
  apply optional_spans spans (fun _ => skipField_spans spans) _ skips
  intro source spans skips
  apply optional_spans spans (fun _ => skip_spans spans) _ skips
  intro source spans skips
  apply optional_spans spans (fun _ => skip_spans spans) _ skips
  intro source spans skips
  split at skips
  · exact skip_spans spans skips
  · cases skips
    exact spans

theorem skipHeader_spans (spans : source.Spans total)
    (skips : skipHeader source = .ok rest) : rest.Spans total := by
  unfold skipHeader at skips
  simp only at skips
  split at skips
  · cases skips
  · obtain ⟨⟨fields, behind⟩, reads, skips⟩ := bind_eq_ok_iff.mp skips
    simp only at skips
    split at skips
    · cases skips
    · exact skipOptional_spans
        (need_spans (spans.takeBytes 2) reads) skips

theorem checkTrailer_spans {content : Bytes} (spans : source.Spans total)
    (passes : checkTrailer content source = .ok rest) : rest.Spans total := by
  obtain ⟨⟨trailer, behind⟩, reads, passes⟩ := bind_eq_ok_iff.mp passes
  simp only at passes
  split at passes
  · cases passes
  · split at passes
    · cases passes
    · cases passes
      exact (need_spans spans reads).takeBytes _

/-- The steps of a member give its data, and what follows it is the rest of the
file. -/
structure Member.Sound (total : Nat) (member : Member) : Prop where
  accounts : Accounts total member.content.length member.course
  spans : ∀ rest, member.rest = .ok rest → rest.Spans total

theorem readMember_sound (bits : Nat) (spans : source.Spans total) :
    (readMember bits source).Sound total := by
  unfold readMember
  split
  · exact ⟨.nil, by simp⟩
  · rename_i behind header
    have leaves := Inflate.unpack_leaves bits (skipHeader_spans spans header)
    simp only
    split
    · rename_i fault faulty
      have moves := Accounts.of_fault (leaves.within fault faulty)
      refine ⟨?_, by simp⟩
      have given := moves.append leaves.sound.accounts
      rwa [Nat.zero_add] at given
    · refine ⟨leaves.sound.accounts.cons (.leave _)
        leaves.sound.spans.position_le, ?_⟩
      intro rest passes
      exact checkTrailer_spans leaves.sound.spans passes

theorem gather_accounts {members : List Member}
    (sound : ∀ member ∈ members, member.Sound total)
    (failure : Option ArchiveFailure) :
    Accounts total (gather members failure).content.length
      (gather members failure).course := by
  have newestFirst : Accounts total
      ((members.reverse.flatMap Member.content).length)
      (members.flatMap Member.course) := by
    induction members with
    | nil => exact .nil
    | cons member members induction =>
        rw [List.forall_mem_cons] at sound
        have given := sound.1.accounts.append (induction sound.2)
        rw [List.reverse_cons, List.flatMap_append, List.flatMap_singleton,
          List.length_append, Nat.add_comm, List.flatMap_cons]
        exact given
  exact newestFirst.reverse

theorem readMembers_accounts (bits fuel : Nat) {members : List Member}
    (sound : ∀ member ∈ members, member.Sound total)
    (spans : source.Spans total) :
    Accounts total (readMembers bits fuel members source).content.length
      (readMembers bits fuel members source).course := by
  induction fuel generalizing members source with
  | zero => exact gather_accounts sound _
  | succ fuel induction =>
      have member := readMember_sound bits spans
      have all := List.forall_mem_cons.mpr ⟨member, sound⟩
      unfold readMembers
      split
      · exact gather_accounts sound _
      · simp only
        split
        · exact gather_accounts all _
        · rename_i rest goesOn
          exact induction all (member.spans rest goesOn)

theorem unpack_accounts (bytes : Bytes) :
    Accounts bytes.length (unpack bytes).content.length (unpack bytes).course :=
  readMembers_accounts _ _ (by simp) (BitSource.spans_ofBytes bytes)

end Gzip

end LogLens
