import Mathlib
import LogLens.Proofs.Text.Utf8
import LogLens.Text.Case

/-!
# Words in any case

Lower-casing knows all of Unicode, and some characters far from ASCII become ASCII
letters.  A word that has none of these letters is the lower-case form of its own
casings only: of the texts that differ from it in the case of ASCII letters.
-/

namespace LogLens

/-- Whether a text is the word but for the case of ASCII letters, the word having small
ones only. -/
def IsCasing (word text : Text) : Prop :=
  text.map Char.toLower = word

instance (word text : Text) : Decidable (IsCasing word text) :=
  inferInstanceAs (Decidable (_ = _))

theorem IsCasing.length_eq {word text : Text} (casing : IsCasing word text) :
    text.length = word.length := by
  rw [← casing, List.length_map]

/-- A character of ASCII that nothing beyond ASCII is lower-cased to.  The letters left
out are those of the dotted capital I and of the sign for kelvin. -/
def LowersApart (char : Char) : Prop :=
  char.toNat < 0x80 ∧ char ≠ 'i' ∧ char ≠ 'k'

theorem toLower_of_beyond {char : Char} (beyond : 0x80 ≤ char.toNat) :
    char.toLower = char := by
  apply Char.toLower_eq_of_not_isUpper
  intro capital
  have bounds : 'A'.val ≤ char.val ∧ char.val ≤ 'Z'.val := of_decide_eq_true capital
  have upper : char.toNat ≤ 'Z'.toNat := UInt32.le_iff_toNat_le.mp bounds.2
  exact absurd (beyond.trans upper) (by decide)

/-- The images of the runs are characters beyond ASCII, but for the sign for kelvin. -/
theorem lowerRuns_image {run : CaseRun} (listed : run ∈ lowerRuns) {code : Nat}
    (covered : run.covers code = true) :
    run.image + (code - run.first) = 'k'.toNat ∨
      0x80 ≤ run.image + (code - run.first) ∧
        (run.image + (code - run.first)).isValidChar := by
  have bounds : ∀ run ∈ lowerRuns,
      run.image + (run.last - run.first) = 'k'.toNat ∧ run.first = run.last ∨
        0x80 ≤ run.image ∧ (run.image + (run.last - run.first) < 0xD800 ∨
          0xE000 ≤ run.image ∧ run.image + (run.last - run.first) < 0x110000) := by
    decide +kernel
  simp only [CaseRun.covers, Bool.and_eq_true, decide_eq_true_eq] at covered
  rcases bounds run listed with ⟨kelvin, single⟩ | ⟨beyond, valid⟩
  · left
    omega
  · right
    refine ⟨by omega, ?_⟩
    rcases valid with low | high
    · exact .inl (by omega)
    · exact .inr ⟨by omega, by omega⟩

theorem not_lowersApart_mapByRuns {char : Char} (beyond : 0x80 ≤ char.toNat) :
    ¬LowersApart (mapByRuns lowerRuns char) := by
  rintro ⟨ascii, _, notKelvin⟩
  unfold mapByRuns at ascii notKelvin
  cases covering : lowerRuns.find? (·.covers char.toNat) with
  | none =>
      simp only [covering] at ascii
      omega
  | some run =>
      simp only [covering] at ascii notKelvin
      have covered := List.find?_some covering
      rcases lowerRuns_image (List.mem_of_find?_eq_some covering) covered with
        kelvin | ⟨far, valid⟩
      · rw [kelvin] at notKelvin
        exact notKelvin (Char.ofNat_toNat 'k')
      · rw [toNat_ofNat valid] at ascii
        omega

theorem not_lowersApart_of_mem_expansion {code : Nat} {codes : List Nat} {image : Char}
    (found : lowerExpansions.lookup code = some codes)
    (member : image ∈ codes.map Char.ofNat) : ¬LowersApart image := by
  have expansion := mem_of_lookup found
  simp only [lowerExpansions, List.mem_singleton, Prod.mk.injEq] at expansion
  rw [expansion.2] at member
  simp only [List.map_cons, List.map_nil, List.mem_cons, List.not_mem_nil,
    or_false] at member
  rintro ⟨ascii, notDotted, _⟩
  rcases member with rfl | rfl
  · exact notDotted rfl
  · exact absurd ascii (by decide)

theorem not_lowersApart_of_mem_lowerCase {char image : Char}
    (beyond : 0x80 ≤ char.toNat) (member : image ∈ lowerCase char) :
    ¬LowersApart image := by
  rw [lowerCase, if_neg (Nat.not_lt_of_le beyond)] at member
  split at member
  · next found => exact not_lowersApart_of_mem_expansion found member
  · rw [List.mem_singleton.mp member]
    exact not_lowersApart_mapByRuns beyond

/-- What a character within a text becomes: in ASCII its small letter alone, and beyond
ASCII nothing that begins like a word whose letters lower-case apart. -/
theorem exists_lowerFrom_cons (passed : Text) (char : Char) (rest : Text) :
    ∃ first others, lowerFrom passed (char :: rest) =
        first :: (others ++ lowerFrom (char :: passed) rest) ∧
      (char.toNat < 0x80 → first = char.toLower ∧ others = []) ∧
      (0x80 ≤ char.toNat → ¬LowersApart first) := by
  rw [lowerFrom]
  by_cases sigma : char = 'Σ'
  · rw [if_pos sigma]
    refine ⟨_, [], rfl, ?_, ?_⟩
    · intro ascii
      rw [sigma] at ascii
      exact absurd ascii (by decide)
    · rintro _ ⟨ascii, _⟩
      split at ascii <;> exact absurd ascii (by decide)
  · rw [if_neg sigma]
    obtain ⟨first, others, image⟩ := List.exists_cons_of_ne_nil (lowerCase_ne_nil char)
    refine ⟨first, others, by rw [image]; rfl, ?_, ?_⟩
    · intro ascii
      rw [lowerCase, if_pos ascii] at image
      cases image
      exact ⟨rfl, rfl⟩
    · intro beyond
      apply not_lowersApart_of_mem_lowerCase beyond
      rw [image]
      exact List.mem_cons_self

theorem lowerFrom_eq_iff_isCasing {word : Text}
    (apart : ∀ letter ∈ word, LowersApart letter) (passed text : Text) :
    lowerFrom passed text = word ↔ IsCasing word text := by
  induction text generalizing passed word with
  | nil => simp [lowerFrom, IsCasing]
  | cons char rest induction =>
      obtain ⟨first, others, equality, ascii, beyond⟩ :=
        exists_lowerFrom_cons passed char rest
      rw [equality]
      cases word with
      | nil => simp [IsCasing]
      | cons letter word =>
          rw [List.forall_mem_cons] at apart
          by_cases small : char.toNat < 0x80
          · obtain ⟨rfl, rfl⟩ := ascii small
            simp only [List.nil_append, IsCasing, List.map_cons, List.cons.injEq]
            rw [induction apart.2]
            rfl
          · -- No character beyond ASCII is the first one of a casing.
            have large : 0x80 ≤ char.toNat := by omega
            apply iff_of_false
            · rintro ⟨rfl, _⟩
              exact beyond large apart.1
            · intro casing
              have own : char.toLower = letter := (List.cons.inj casing).1
              rw [toLower_of_beyond large] at own
              exact small (own ▸ apart.1.1)

/-- A word is the lower-case form of its casings and of no other text. -/
theorem Text.lower_eq_iff_isCasing {word : Text}
    (apart : ∀ letter ∈ word, LowersApart letter) (text : Text) :
    text.lower = word ↔ IsCasing word text :=
  lowerFrom_eq_iff_isCasing apart [] text

-- The sign for kelvin becomes a small k without being one in another case.
example : Text.lower "\u212a" = ("k" : Text) ∧ ¬IsCasing "k" "\u212a" := by decide +kernel

theorem eq_or_eq_toUpper_of_toLower {char letter : Char}
    (small : char.toLower = letter) : char = letter ∨ char = letter.toUpper := by
  subst small
  by_cases capital : char.isUpper = true
  · right
    rw [Char.toUpper_toLower_eq_toUpper,
      Char.toUpper_eq_of_not_isLower (Char.not_isLower_of_isUpper capital)]
  · left
    exact (Char.toLower_eq_of_not_isUpper capital).symm

end LogLens
