import Mathlib.Algebra.Group.Nat.Defs
import LogLens.Text.Utf8

/-!
# Decoding and encoding

An ASCII byte ends whatever character the decoder still owes, and no other byte
ever gives an ASCII character.  So the decoding of a byte string may be cut in
two at any ASCII byte, and an ASCII character stands in the decoded text only
where its byte stood.

The first byte of an encoded character tells how many others follow it, and the
decoder owes exactly these.  It accepts them because the value of a character is
neither too small for its bytes nor that of a surrogate.
-/

namespace LogLens

theorem toNat_ofNat {value : Nat} (valid : value.isValidChar) :
    (Char.ofNat value).toNat = value := by
  unfold Char.ofNat
  rw [dif_pos valid]
  unfold Char.ofNatAux Char.toNat
  simp

theorem isValidChar_of_ascii {byte : UInt8} (ascii : byte < 0x80) :
    byte.toNat.isValidChar := by
  have bound : byte.toNat < 0x80 := UInt8.lt_iff_toNat_lt.mp ascii
  exact Or.inl (by omega)

theorem ofNat_toNat_injective {left right : UInt8} (leftAscii : left < 0x80)
    (rightAscii : right < 0x80)
    (equality : Char.ofNat left.toNat = Char.ofNat right.toNat) :
    left = right := by
  apply UInt8.toNat_inj.mp
  rw [← toNat_ofNat (isValidChar_of_ascii leftAscii), equality,
    toNat_ofNat (isValidChar_of_ascii rightAscii)]

namespace Utf8

namespace Owed

/-- The least value that the missing bytes can complete. -/
def least (owed : Owed) : Nat :=
  (owed.value * 64 + (owed.low.toNat - 0x80)) * 64 ^ (owed.missing - 1)

/-- The values that the missing bytes can complete lie below this one. -/
def bound (owed : Owed) : Nat :=
  (owed.value * 64 + (owed.high.toNat - 0x80) + 1) * 64 ^ (owed.missing - 1)

/-- What is owed is a character beyond ASCII: its next byte is none of ASCII,
and all that its bytes can complete are values of characters. -/
structure Beyond (owed : Owed) : Prop where
  low_ge : 0x80 ≤ owed.low.toNat
  least_ge : 0x80 ≤ owed.least
  valid : owed.bound ≤ 0xD800 ∨ 0xE000 ≤ owed.least ∧ owed.bound ≤ 0x110000

end Owed

theorem lead_beyond {byte : UInt8} {owed : Owed}
    (found : lead byte = some owed) : owed.Beyond := by
  unfold lead at found
  simp only [UInt8.lt_iff_toNat_lt, ← UInt8.toNat_inj, UInt8.reduceToNat]
    at found
  split at found
  · cases found
  iterate 7
    split at found
    · rw [← Option.some.inj found]
      constructor <;>
        simp only [Owed.least, Owed.bound, UInt8.reduceToNat] <;> omega
  · cases found

namespace Owed.Beyond

variable {owed : Owed} {byte : UInt8}

theorem completes (beyond : owed.Beyond)
    (fits : owed.low ≤ byte ∧ byte ≤ owed.high) (last : owed.missing ≤ 1) :
    (owed.value * 64 + (byte.toNat - 0x80)).isValidChar ∧
      0x80 ≤ owed.value * 64 + (byte.toNat - 0x80) := by
  have low_le : owed.low.toNat ≤ byte.toNat := UInt8.le_iff_toNat_le.mp fits.1
  have le_high : byte.toNat ≤ owed.high.toNat := UInt8.le_iff_toNat_le.mp fits.2
  have one : owed.missing - 1 = 0 := by omega
  have least_ge := beyond.least_ge
  have valid := beyond.valid
  simp only [least, bound, one, Nat.pow_zero, Nat.mul_one] at least_ge valid
  constructor
  · unfold Nat.isValidChar
    omega
  · omega

/-- A byte that continues a character narrows down the values that it can
have. -/
theorem continues (beyond : owed.Beyond)
    (fits : owed.low ≤ byte ∧ byte ≤ owed.high) (more : ¬owed.missing ≤ 1) :
    Owed.Beyond ⟨owed.value * 64 + (byte.toNat - 0x80), owed.missing - 1,
      0x80, 0xBF⟩ := by
  have low_le : owed.low.toNat ≤ byte.toNat := UInt8.le_iff_toNat_le.mp fits.1
  have le_high : byte.toNat ≤ owed.high.toNat := UInt8.le_iff_toNat_le.mp fits.2
  obtain ⟨missing, size⟩ : ∃ missing, owed.missing = missing + 2 :=
    ⟨owed.missing - 2, by omega⟩
  let value := owed.value * 64 + (byte.toNat - 0x80)
  let next : Owed := ⟨value, missing + 1, 0x80, 0xBF⟩
  have nextLeast : next.least = value * 64 ^ (missing + 1) := by
    simp only [next, least, UInt8.reduceToNat, Nat.sub_self, Nat.add_zero,
      Nat.add_sub_cancel, Nat.pow_succ', Nat.mul_assoc]
  have nextBound : next.bound = (value + 1) * 64 ^ (missing + 1) := by
    have full : value * 64 + (0xBF - 0x80) + 1 = (value + 1) * 64 := by omega
    simp only [next, bound, UInt8.reduceToNat, full, Nat.add_sub_cancel,
      Nat.pow_succ', Nat.mul_assoc]
  have least_le : owed.least ≤ next.least := by
    rw [nextLeast, least, size]
    exact Nat.mul_le_mul_right _ (by omega)
  have bound_le : next.bound ≤ owed.bound := by
    rw [nextBound, bound, size]
    exact Nat.mul_le_mul_right _ (by omega)
  rw [size]
  change next.Beyond
  constructor
  · simp [next]
  · exact Nat.le_trans beyond.least_ge least_le
  · have valid := beyond.valid
    omega

end Owed.Beyond

/-- The decoder stands between characters or owes one beyond ASCII. -/
def Decoder.Sound (decoder : Decoder) : Prop :=
  ∀ owed, decoder.owed = some owed → owed.Beyond

theorem fresh_sound : Decoder.Sound ⟨none, []⟩ := by
  intro owed owes
  cases owes

/-- A character that a byte may add to the text: its own, if it is an ASCII
byte, or one beyond ASCII. -/
def MayGive (byte : UInt8) (char : Char) : Prop :=
  byte < 0x80 ∧ char = Char.ofNat byte.toNat ∨ 0x80 ≤ char.toNat

theorem replacement_beyond : 0x80 ≤ replacement.toNat := by
  decide

/-- What a byte makes of a decoder that has written `output`: it may give
characters, and does so unless it leaves one owed. -/
structure Takes (output : Text) (byte : UInt8) (after : Decoder) : Prop where
  sound : after.Sound
  wrote : ∃ written, after.output = written ++ output ∧
    (∀ char ∈ written, MayGive byte char) ∧
    (after.owed = none → written ≠ [])

namespace Takes

variable {output : Text} {byte : UInt8}

/-- The byte leaves a character owed. -/
theorem owing {owed : Owed} (beyond : owed.Beyond) :
    Takes output byte ⟨some owed, output⟩ := by
  constructor
  · intro next owes
    rw [← Option.some.inj owes]
    exact beyond
  · exact ⟨[], rfl, by simp, by simp⟩

/-- The byte gives a character and leaves none owed. -/
theorem giving {char : Char} (gives : MayGive byte char) :
    Takes output byte ⟨none, char :: output⟩ := by
  constructor
  · intro next owes
    cases owes
  · exact ⟨[char], rfl, by simpa using gives, by simp⟩

theorem after_replacement {after : Decoder}
    (takes : Takes (replacement :: output) byte after) :
    Takes output byte after := by
  obtain ⟨written, outputIs, gives, _⟩ := takes.wrote
  refine ⟨takes.sound, written ++ [replacement], ?_, ?_, ?_⟩
  · rw [outputIs, List.append_assoc, List.singleton_append]
  · intro char member
    rcases List.mem_append.mp member with early | last
    · exact gives char early
    · rw [List.mem_singleton.mp last]
      exact .inr replacement_beyond
  · simp

end Takes

theorem begin_takes (output : Text) (byte : UInt8) :
    Takes output byte (begin output byte) := by
  unfold begin
  split
  · rename_i ascii
    exact .giving (.inl ⟨ascii, rfl⟩)
  · split
    · rename_i owed found
      exact .owing (lead_beyond found)
    · exact .giving (.inr replacement_beyond)

theorem step_takes {decoder : Decoder} (sound : decoder.Sound) (byte : UInt8) :
    Takes decoder.output byte (step decoder byte) := by
  obtain ⟨owed, output⟩ := decoder
  cases owed with
  | none => exact begin_takes output byte
  | some owed =>
      have beyond : owed.Beyond := sound owed rfl
      simp only [step]
      split
      · rename_i fits
        split
        · rename_i last
          obtain ⟨valid, value_ge⟩ := beyond.completes fits last
          apply Takes.giving
          right
          rw [toNat_ofNat valid]
          exact value_ge
        · rename_i more
          exact .owing (beyond.continues fits more)
      · exact (begin_takes _ byte).after_replacement

theorem foldl_step_sound {decoder : Decoder} (sound : decoder.Sound)
    (bytes : Bytes) : (bytes.foldl step decoder).Sound := by
  induction bytes generalizing decoder with
  | nil => exact sound
  | cons byte rest induction => exact induction (step_takes sound byte).sound

theorem mem_foldl_step_output {decoder : Decoder} (sound : decoder.Sound)
    {bytes : Bytes} {char : Char}
    (member : char ∈ (bytes.foldl step decoder).output) :
    char ∈ decoder.output ∨ ∃ byte ∈ bytes, MayGive byte char := by
  induction bytes generalizing decoder with
  | nil => exact .inl member
  | cons byte rest induction =>
      obtain ⟨next, written, outputIs, gives, _⟩ := step_takes sound byte
      rcases induction next member with here | ⟨other, otherMember, given⟩
      · rw [outputIs] at here
        rcases List.mem_append.mp here with new | old
        · exact .inr ⟨byte, List.mem_cons_self, gives char new⟩
        · exact .inl old
      · exact .inr ⟨other, List.mem_cons_of_mem _ otherMember, given⟩

theorem foldl_step_append (owed : Option Owed) (written before : Text)
    (bytes : Bytes) :
    bytes.foldl step ⟨owed, written ++ before⟩ =
      ⟨(bytes.foldl step ⟨owed, written⟩).owed,
        (bytes.foldl step ⟨owed, written⟩).output ++ before⟩ := by
  induction bytes generalizing owed written with
  | nil => rfl
  | cons byte rest induction =>
      rw [List.foldl_cons, List.foldl_cons, step_append, induction]

theorem finish_append (owed : Option Owed) (written before : Text) :
    finish ⟨owed, written ++ before⟩ =
      before.reverse ++ finish ⟨owed, written⟩ := by
  cases owed <;> simp [finish]

/-- An ASCII byte ends what is owed as the end of the bytes would. -/
theorem step_ascii {decoder : Decoder} (sound : decoder.Sound) {byte : UInt8}
    (ascii : byte < 0x80) :
    step decoder byte =
      ⟨none, Char.ofNat byte.toNat :: (finish decoder).reverse⟩ := by
  obtain ⟨owed, output⟩ := decoder
  cases owed with
  | none => simp [step, begin, finish, ascii]
  | some owed =>
      have low_ge := (sound owed rfl).low_ge
      have small : byte.toNat < 0x80 := UInt8.lt_iff_toNat_lt.mp ascii
      have refused : ¬(owed.low ≤ byte ∧ byte ≤ owed.high) := by
        rw [UInt8.le_iff_toNat_le]
        omega
      simp [step, begin, finish, ascii, refused]

/-- Decoding is cut in two at an ASCII byte. -/
theorem decode_append_ascii (first : Bytes) {byte : UInt8}
    (ascii : byte < 0x80) (second : Bytes) :
    decode (first ++ byte :: second) =
      decode first ++ Char.ofNat byte.toNat :: decode second := by
  have sound := foldl_step_sound fresh_sound first
  have cut := foldl_step_append none []
    (Char.ofNat byte.toNat :: (decode first).reverse) second
  unfold decode at cut ⊢
  rw [List.nil_append] at cut
  rw [List.foldl_append, List.foldl_cons, step_ascii sound ascii, cut,
    finish_append]
  simp

theorem mem_finish {decoder : Decoder} {char : Char}
    (member : char ∈ finish decoder) :
    char ∈ decoder.output ∨ 0x80 ≤ char.toNat := by
  obtain ⟨owed, output⟩ := decoder
  cases owed with
  | none => exact .inl (List.mem_reverse.mp member)
  | some owed =>
      rcases List.mem_cons.mp (List.mem_reverse.mp member) with new | old
      · rw [new]
        exact .inr replacement_beyond
      · exact .inl old

/-- An ASCII character of a decoded text comes from its own byte. -/
theorem mem_of_mem_decode {bytes : Bytes} {byte : UInt8} (ascii : byte < 0x80)
    (member : Char.ofNat byte.toNat ∈ decode bytes) : byte ∈ bytes := by
  have small : (Char.ofNat byte.toNat).toNat < 0x80 := by
    rw [toNat_ofNat (isValidChar_of_ascii ascii)]
    exact UInt8.lt_iff_toNat_lt.mp ascii
  rcases mem_finish member with written | beyond
  · rcases mem_foldl_step_output fresh_sound written with
      none | ⟨other, otherMember, own | beyond⟩
    · cases none
    · rw [ofNat_toNat_injective ascii own.1 own.2]
      exact otherMember
    · omega
  · omega

theorem finish_step_ne_nil {decoder : Decoder} (sound : decoder.Sound)
    (byte : UInt8) : finish (step decoder byte) ≠ [] := by
  obtain ⟨_, written, outputIs, _, gives⟩ := step_takes sound byte
  unfold finish
  split
  · rename_i owesNothing
    have some := gives owesNothing
    simp [outputIs, some]
  · simp

@[simp] theorem decode_eq_nil_iff {bytes : Bytes} :
    decode bytes = [] ↔ bytes = [] := by
  constructor
  · intro none
    rcases List.eq_nil_or_concat bytes with empty | ⟨front, last, equality⟩
    · exact empty
    · rw [equality, decode, List.concat_eq_append, List.foldl_append] at none
      have sound := foldl_step_sound fresh_sound front
      exact absurd none (finish_step_ne_nil sound last)
  · intro empty
    rw [empty]
    rfl

end Utf8

namespace Utf8

section Lead

variable {byte : UInt8} {first second : Nat}

theorem lead_two (is : byte.toNat = first + 0xC0) (least : 2 ≤ first)
    (bound : first < 0x20) : lead byte = some ⟨first, 1, 0x80, 0xBF⟩ := by
  have notBelow : ¬byte.toNat < 0xC2 := by omega
  have below : byte.toNat < 0xE0 := by omega
  have value : byte.toNat - 0xC0 = first := by omega
  simp only [lead, UInt8.lt_iff_toNat_lt, UInt8.reduceToNat, if_neg notBelow,
    if_pos below, value]

/-- The first of three bytes owes two, and admits the second one. -/
theorem lead_three (is : byte.toNat = first + 0xE0) (bound : first < 0x10)
    (secondBound : second < 0x40) (least : 0x20 ≤ first * 0x40 + second)
    (noSurrogate : first * 0x40 + second < 0x360 ∨
      0x380 ≤ first * 0x40 + second) :
    ∃ low high, lead byte = some ⟨first, 2, low, high⟩ ∧
      low.toNat ≤ second + 0x80 ∧ second + 0x80 ≤ high.toNat := by
  by_cases lowest : first = 0
  · have own : byte = 0xE0 := UInt8.toNat_inj.mp (by rw [is, lowest]; rfl)
    rw [own, lowest]
    exact ⟨0xA0, 0xBF, rfl, by simp; omega, by simp; omega⟩
  · by_cases surrogates : first = 0xD
    · have own : byte = 0xED := UInt8.toNat_inj.mp (by rw [is, surrogates]; rfl)
      rw [own, surrogates]
      exact ⟨0x80, 0x9F, rfl, by simp, by simp; omega⟩
    · have value : byte.toNat - 0xE0 = first := by omega
      refine ⟨0x80, 0xBF, ?_, by simp, by simp; omega⟩
      unfold lead
      simp only [UInt8.lt_iff_toNat_lt, ← UInt8.toNat_inj, UInt8.reduceToNat]
      rw [if_neg (by omega), if_neg (by omega), if_neg (by omega),
        if_neg (by omega), if_pos (by omega), value]

/-- The first of four bytes owes three, and admits the second one. -/
theorem lead_four (is : byte.toNat = first + 0xF0)
    (secondBound : second < 0x40) (least : 0x10 ≤ first * 0x40 + second)
    (bound : first * 0x40 + second < 0x110) :
    ∃ low high, lead byte = some ⟨first, 3, low, high⟩ ∧
      low.toNat ≤ second + 0x80 ∧ second + 0x80 ≤ high.toNat := by
  by_cases lowest : first = 0
  · have own : byte = 0xF0 := UInt8.toNat_inj.mp (by rw [is, lowest]; rfl)
    rw [own, lowest]
    exact ⟨0x90, 0xBF, rfl, by simp; omega, by simp; omega⟩
  · by_cases highest : first = 4
    · have own : byte = 0xF4 := UInt8.toNat_inj.mp (by rw [is, highest]; rfl)
      rw [own, highest]
      exact ⟨0x80, 0x8F, rfl, by simp, by simp; omega⟩
    · have value : byte.toNat - 0xF0 = first := by omega
      refine ⟨0x80, 0xBF, ?_, by simp, by simp; omega⟩
      unfold lead
      simp only [UInt8.lt_iff_toNat_lt, ← UInt8.toNat_inj, UInt8.reduceToNat]
      rw [if_neg (by omega), if_neg (by omega), if_neg (by omega),
        if_neg (by omega), if_neg (by omega), if_neg (by omega),
        if_pos (by omega), value]

end Lead

section Step

variable {output : Text} {byte : UInt8}

theorem step_lead {owed : Owed} (found : lead byte = some owed) :
    step ⟨none, output⟩ byte = ⟨some owed, output⟩ := by
  have beyond : ¬byte < 0x80 := by
    intro small
    have low : byte < 0xC2 := by
      simp only [UInt8.lt_iff_toNat_lt, UInt8.reduceToNat] at small ⊢
      omega
    rw [lead, if_pos low] at found
    cases found
  simp only [step, begin, if_neg beyond, found]

variable {value tail : Nat} {low high : UInt8}

theorem step_more (is : byte.toNat = tail + 0x80) {missing : Nat}
    (admits : low.toNat ≤ tail + 0x80 ∧ tail + 0x80 ≤ high.toNat) :
    step ⟨some ⟨value, missing + 2, low, high⟩, output⟩ byte =
      ⟨some ⟨value * 64 + tail, missing + 1, 0x80, 0xBF⟩, output⟩ := by
  have fits : low ≤ byte ∧ byte ≤ high := by
    simp only [UInt8.le_iff_toNat_le, is]
    exact admits
  have more : ¬missing + 2 ≤ 1 := by omega
  simp only [step, if_pos fits, if_neg more, is, Nat.add_sub_cancel]
  rfl

theorem step_last (is : byte.toNat = tail + 0x80)
    (admits : low.toNat ≤ tail + 0x80 ∧ tail + 0x80 ≤ high.toNat) :
    step ⟨some ⟨value, 1, low, high⟩, output⟩ byte =
      ⟨none, Char.ofNat (value * 64 + tail) :: output⟩ := by
  have fits : low ≤ byte ∧ byte ≤ high := by
    simp only [UInt8.le_iff_toNat_le, is]
    exact admits
  simp only [step, if_pos fits, is, Nat.add_sub_cancel, Nat.le_refl, if_true]

end Step

section Characters

theorem toNat_tail (value : Nat) :
    (UInt8.ofNat (value % 64 + 0x80)).toNat = value % 64 + 0x80 := by
  rw [UInt8.toNat_ofNat']
  omega

theorem tail_admitted (value : Nat) :
    (0x80 : UInt8).toNat ≤ value % 64 + 0x80 ∧
      value % 64 + 0x80 ≤ (0xBF : UInt8).toNat := by
  simp
  omega

variable {value : Nat} (output : Text)

theorem foldl_step_one (bound : value < 0x80) :
    [UInt8.ofNat value].foldl step ⟨none, output⟩ =
      ⟨none, Char.ofNat value :: output⟩ := by
  have is : (UInt8.ofNat value).toNat = value := by
    rw [UInt8.toNat_ofNat']
    omega
  have ascii : UInt8.ofNat value < 0x80 := by
    rw [UInt8.lt_iff_toNat_lt, is]
    exact bound
  simp only [List.foldl_cons, List.foldl_nil, step, begin, if_pos ascii, is]

theorem foldl_step_two (least : 0x80 ≤ value) (bound : value < 0x800) :
    [UInt8.ofNat (value / 64 % 32 + 0xC0),
      UInt8.ofNat (value % 64 + 0x80)].foldl step ⟨none, output⟩ =
        ⟨none, Char.ofNat value :: output⟩ := by
  have first : value / 64 % 32 = value / 64 := by omega
  have is : (UInt8.ofNat (value / 64 + 0xC0)).toNat = value / 64 + 0xC0 := by
    rw [UInt8.toNat_ofNat']
    omega
  have found := lead_two is (by omega) (by omega)
  have whole : value / 64 * 64 + value % 64 = value := by omega
  rw [first, List.foldl_cons, List.foldl_cons, step_lead found,
    step_last (toNat_tail value) (tail_admitted value), whole]
  rfl

theorem foldl_step_three (least : 0x800 ≤ value) (bound : value < 0x10000)
    (noSurrogate : value < 0xD800 ∨ 0xE000 ≤ value) :
    [UInt8.ofNat (value / 4096 % 16 + 0xE0),
      UInt8.ofNat (value / 64 % 64 + 0x80),
      UInt8.ofNat (value % 64 + 0x80)].foldl step ⟨none, output⟩ =
        ⟨none, Char.ofNat value :: output⟩ := by
  have first : value / 4096 % 16 = value / 4096 := by omega
  have is : (UInt8.ofNat (value / 4096 + 0xE0)).toNat =
      value / 4096 + 0xE0 := by
    rw [UInt8.toNat_ofNat']
    omega
  have beginning : value / 4096 * 64 + value / 64 % 64 = value / 64 := by omega
  obtain ⟨low, high, found, admits⟩ := lead_three is (by omega)
    (Nat.mod_lt (value / 64) (by decide)) (by omega) (by omega)
  have whole : value / 64 * 64 + value % 64 = value := by omega
  rw [first, List.foldl_cons, List.foldl_cons, List.foldl_cons,
    step_lead found, step_more (toNat_tail (value / 64)) admits, beginning,
    step_last (toNat_tail value) (tail_admitted value), whole]
  rfl

theorem foldl_step_four (least : 0x10000 ≤ value) (bound : value < 0x110000) :
    [UInt8.ofNat (value / 262144 % 8 + 0xF0),
      UInt8.ofNat (value / 4096 % 64 + 0x80),
      UInt8.ofNat (value / 64 % 64 + 0x80),
      UInt8.ofNat (value % 64 + 0x80)].foldl step ⟨none, output⟩ =
        ⟨none, Char.ofNat value :: output⟩ := by
  have first : value / 262144 % 8 = value / 262144 := by omega
  have is : (UInt8.ofNat (value / 262144 + 0xF0)).toNat =
      value / 262144 + 0xF0 := by
    rw [UInt8.toNat_ofNat']
    omega
  have beginning : value / 262144 * 64 + value / 4096 % 64 = value / 4096 := by
    omega
  have middle : value / 4096 * 64 + value / 64 % 64 = value / 64 := by omega
  obtain ⟨low, high, found, admits⟩ := lead_four is
    (Nat.mod_lt (value / 4096) (by decide)) (by omega) (by omega)
  have whole : value / 64 * 64 + value % 64 = value := by omega
  rw [first, List.foldl_cons, List.foldl_cons, List.foldl_cons,
    List.foldl_cons, step_lead found,
    step_more (toNat_tail (value / 4096)) admits, beginning,
    step_more (toNat_tail (value / 64)) (tail_admitted (value / 64)), middle,
    step_last (toNat_tail value) (tail_admitted value), whole]
  rfl

end Characters

/-- The bytes of a character give just this character. -/
theorem foldl_step_char (char : Char) (output : Text) :
    (String.utf8EncodeChar char).foldl step ⟨none, output⟩ =
      ⟨none, char :: output⟩ := by
  have valid : char.toNat.isValidChar := char.valid
  have own : char.val.toNat = char.toNat := rfl
  have given : ⟨none, char :: output⟩ =
      (⟨none, Char.ofNat char.toNat :: output⟩ : Decoder) := by
    rw [Char.ofNat_toNat]
  unfold Nat.isValidChar at valid
  unfold String.utf8EncodeChar
  simp only [own, given]
  split
  · exact foldl_step_one output (by omega)
  · split
    · exact foldl_step_two output (by omega) (by omega)
    · split
      · exact foldl_step_three output (by omega) (by omega) (by omega)
      · exact foldl_step_four output (by omega) (by omega)

theorem foldl_step_encode (text output : Text) :
    (encode text).foldl step ⟨none, output⟩ =
      ⟨none, text.reverse ++ output⟩ := by
  induction text generalizing output with
  | nil => rfl
  | cons char rest induction =>
      rw [encode, List.flatMap_cons, List.foldl_append, foldl_step_char,
        ← encode, induction, List.reverse_cons, List.append_assoc]
      rfl

@[simp] theorem decode_encode (text : Text) : decode (encode text) = text := by
  rw [decode, foldl_step_encode, finish, List.append_nil, List.reverse_reverse]

end Utf8

end LogLens
