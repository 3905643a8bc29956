import LogLens.Archive.Inflate

/-!
# Positions in a compressed file

Whatever is read of a compressed file, the position of its source and the bytes
left make up the file, so no position lies beyond its end.  The same holds of the
place at which a fault shows.
-/

namespace LogLens

namespace BitSource

/-- The bytes taken and the bytes left make up a file of `total` bytes. -/
def Spans (total : Nat) (source : BitSource) : Prop :=
  source.position + source.bytes.length = total

end BitSource

/-- A fault shows within the first `total` bytes. -/
def Fault.Within (total : Nat) : Fault → Prop
  | .starved => True
  | .wrong _ reach => reach ≤ total

/-- What is read of a file of `total` bytes leaves a source of that file or shows
a fault in it. -/
def Stays (total : Nat) {α : Type} : Except Fault (α × BitSource) → Prop
  | .ok (_, source) => source.Spans total
  | .error fault => fault.Within total

variable {total : Nat} {source : BitSource}

theorem Stays.pure {α : Type} (value : α) (spans : source.Spans total) :
    Stays total (pure (value, source)) :=
  spans

theorem Stays.bind {α β : Type} {first : Except Fault (α × BitSource)}
    {next : α × BitSource → Except Fault (β × BitSource)}
    (stays : Stays total first)
    (later : ∀ value rest, rest.Spans total → Stays total (next (value, rest))) :
    Stays total (first >>= next) := by
  cases first with
  | error fault => exact stays
  | ok result =>
      obtain ⟨value, rest⟩ := result
      exact later value rest stays

namespace BitSource

theorem spans_ofBytes (bytes : Bytes) : (ofBytes bytes).Spans bytes.length :=
  Nat.zero_add _

theorem Spans.position_le (spans : source.Spans total) :
    source.position ≤ total :=
  Nat.le.intro spans

theorem Spans.takeBytes (spans : source.Spans total) (count : Nat) :
    (source.takeBytes count).2.Spans total := by
  simp only [Spans, BitSource.takeBytes, List.length_take,
    List.length_drop] at spans ⊢
  omega

theorem Spans.position_add_le (spans : source.Spans total) (count : Nat) :
    source.position + (source.takeBytes count).1.length ≤ total := by
  simp only [Spans, BitSource.takeBytes, List.length_take] at spans ⊢
  omega

theorem wrong_stays {α : Type} (spans : source.Spans total) (defect : Defect) :
    Stays total (source.wrong defect : Except Fault (α × BitSource)) :=
  spans.position_le

theorem takeFrom_stays (need held heldCount position : Nat) (bytes : Bytes)
    (spans : position + bytes.length = total) :
    Stays total (takeFrom need held heldCount position bytes) := by
  induction bytes generalizing held heldCount position with
  | nil =>
      unfold takeFrom
      split
      · exact spans
      · exact True.intro
  | cons byte rest induction =>
      unfold takeFrom
      split
      · exact spans
      · apply induction
        rw [List.length_cons] at spans
        omega

theorem take_stays (need : Nat) (spans : source.Spans total) :
    Stays total (source.take need) :=
  takeFrom_stays need _ _ _ _ spans

end BitSource

open BitSource

theorem PrefixCode.readFrom_stays (symbols : Array Nat) (word first index : Nat)
    (counts : List Nat) (spans : source.Spans total) :
    Stays total (readFrom symbols word first index counts source) := by
  induction counts generalizing word first index source with
  | nil => exact Stays.pure _ spans
  | cons count counts induction =>
      apply (take_stays 1 spans).bind
      intro bit rest spans
      simp only
      split
      · exact Stays.pure _ spans
      · exact induction _ _ _ spans

theorem PrefixCode.read_stays (code : PrefixCode) (spans : source.Spans total) :
    Stays total (code.read source) :=
  readFrom_stays code.symbols 0 0 0 code.counts spans

namespace Block

theorem readOrdered_stays (order : List Nat) (spans : source.Spans total) :
    Stays total (readOrdered source order) := by
  induction order generalizing source with
  | nil => exact Stays.pure _ spans
  | cons symbol rest induction =>
      apply (take_stays 3 spans).bind
      intro length source spans
      apply (induction spans).bind
      intro others source spans
      exact Stays.pure _ spans

theorem readRun_stays (lengths : List Nat) (symbol : Nat)
    (spans : source.Spans total) :
    Stays total (readRun lengths symbol source) := by
  unfold readRun
  split
  · apply (take_stays 2 spans).bind
    intro more source spans
    cases lengths with
    | nil => exact wrong_stays spans _
    | cons last _ => exact Stays.pure _ spans
  · apply (take_stays 3 spans).bind
    intro more source spans
    exact Stays.pure _ spans
  · apply (take_stays 7 spans).bind
    intro more source spans
    exact Stays.pure _ spans
  · exact Stays.pure _ spans

theorem readLengths_stays (code : PrefixCode) (wanted fuel : Nat)
    (lengths : List Nat) (spans : source.Spans total) :
    Stays total (readLengths code wanted fuel lengths source) := by
  induction fuel generalizing lengths source with
  | zero => exact Stays.pure _ spans
  | succ fuel induction =>
      unfold readLengths
      split
      · exact Stays.pure _ spans
      · apply (code.read_stays spans).bind
        intro symbol source spans
        apply (readRun_stays lengths (symbol.getD 0) spans).bind
        intro run source spans
        simp only
        split
        · exact wrong_stays spans _
        · exact induction _ spans

theorem codesOf_stays (literals distances : List Nat)
    (spans : source.Spans total) :
    Stays total (codesOf literals distances source) := by
  unfold codesOf
  split
  · exact wrong_stays spans _
  · split
    · exact wrong_stays spans _
    · split
      · exact wrong_stays spans _
      · exact Stays.pure _ spans

theorem readCodes_stays (spans : source.Spans total) :
    Stays total (readCodes source) := by
  apply (take_stays 5 spans).bind
  intro literalExtra source spans
  apply (take_stays 5 spans).bind
  intro distanceExtra source spans
  apply (take_stays 4 spans).bind
  intro orderExtra source spans
  simp only
  split
  · exact wrong_stays spans _
  · apply (readOrdered_stays _ spans).bind
    intro given source spans
    simp only
    split
    · exact wrong_stays spans _
    · apply (readLengths_stays _ _ _ _ spans).bind
      intro lengths source spans
      exact codesOf_stays _ _ spans

theorem readStoredLength_stays (spans : source.Spans total) :
    Stays total (readStoredLength source) := by
  have aligned : source.align.Spans total := spans
  apply (take_stays 16 aligned).bind
  intro length source spans
  apply (take_stays 16 spans).bind
  intro complement source spans
  simp only
  split
  · exact wrong_stays spans _
  · exact Stays.pure _ spans

theorem read_stays (spans : source.Spans total) :
    Stays total (Block.read source) := by
  apply (take_stays 1 spans).bind
  intro last source spans
  apply (take_stays 2 spans).bind
  intro kind source spans
  simp only
  -- Each kind of block goes on alike once its body is read.
  split
  · apply (readStoredLength_stays spans).bind
    intro body source spans
    exact Stays.pure _ spans
  · exact Stays.pure _ spans
  · apply (readCodes_stays spans).bind
    intro body source spans
    exact Stays.pure _ spans
  · apply (wrong_stays spans _).bind
    intro body source spans
    exact Stays.pure _ spans

end Block

namespace Symbol

theorem readClass_stays (defect : Defect) (classes : List (Nat × Nat))
    (index : Option Nat) (spans : source.Spans total) :
    Stays total (readClass defect classes index source) := by
  unfold readClass
  split
  · exact wrong_stays spans _
  · apply (take_stays _ spans).bind
    intro more source spans
    exact Stays.pure _ spans

theorem readRepetition_stays (distances : PrefixCode) (lengthClass : Nat)
    (spans : source.Spans total) :
    Stays total (readRepetition distances lengthClass source) := by
  apply (readClass_stays _ _ _ spans).bind
  intro length source spans
  apply (distances.read_stays spans).bind
  intro distanceClass source spans
  apply (readClass_stays _ _ _ spans).bind
  intro distance source spans
  exact Stays.pure _ spans

theorem read_stays (literals distances : PrefixCode)
    (spans : source.Spans total) :
    Stays total (Symbol.read literals distances source) := by
  apply (literals.read_stays spans).bind
  intro found source spans
  cases found with
  | none => exact wrong_stays spans _
  | some symbol =>
      simp only
      split
      · exact Stays.pure _ spans
      · split
        · exact Stays.pure _ spans
        · generalize symbol - Block.endSymbol - 1 = lengthClass
          exact readRepetition_stays distances lengthClass spans

end Symbol

end LogLens
