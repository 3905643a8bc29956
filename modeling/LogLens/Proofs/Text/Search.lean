import LogLens.Text.Basic

/-!
# Places of occurrences

A search is told by the places at which its needle stands.  A sequence is cut at
the first of them.  Where a sequence is put together around the needle, this is
the place in between, whatever follows, unless the needle stands in front of it or
is completed there by its own items.
-/

namespace LogLens

/-- The needle stands in the sequence, beginning at the given place. -/
def StandsAt {α : Type} (needle items : List α) (place : Nat) : Prop :=
  needle <+: items.drop place

section StandsAt

variable {α : Type} {needle items front back : List α} {place : Nat}

instance [DecidableEq α] : Decidable (StandsAt needle items place) :=
  inferInstanceAs (Decidable (needle <+: items.drop place))

@[simp] theorem standsAt_cons_succ {item : α} :
    StandsAt needle (item :: items) (place + 1) ↔ StandsAt needle items place :=
  Iff.rfl

theorem standsAt_drop (passed : Nat) :
    StandsAt needle (items.drop passed) place ↔
      StandsAt needle items (passed + place) := by
  rw [StandsAt, StandsAt, List.drop_drop]

theorem standsAt_append_right :
    StandsAt needle (front ++ items) (front.length + place) ↔
      StandsAt needle items place := by
  rw [← standsAt_drop, List.drop_left]

theorem standsAt_append_left (within : place + needle.length ≤ front.length) :
    StandsAt needle (front ++ back) place ↔ StandsAt needle front place := by
  have inside : place ≤ front.length := by omega
  have room : needle.length ≤ (front.drop place).length := by
    rw [List.length_drop]
    omega
  rw [StandsAt, StandsAt, List.drop_append_of_le_length inside]
  constructor
  · intro stands
    exact List.prefix_of_prefix_length_le stands (List.prefix_append _ _) room
  · exact List.prefix_append_of_prefix

theorem StandsAt.getElem? {first : α}
    (stands : StandsAt (first :: needle) items place) :
    items[place]? = some first := by
  obtain ⟨rest, equality⟩ := stands
  rw [← List.head?_drop, ← equality]
  rfl

variable [DecidableEq α]

theorem occursIn_iff_exists_standsAt :
    occursIn needle items = true ↔ ∃ place, StandsAt needle items place := by
  rw [occursIn_iff]
  constructor
  · rintro ⟨front, back, equality⟩
    refine ⟨front.length, back, ?_⟩
    rw [← equality, List.append_assoc, List.drop_left]
  · rintro ⟨place, stands⟩
    exact stands.isInfix.trans (List.drop_suffix place items).isInfix

theorem occursIn_of_isInfix {inner outer : List α} (within : inner <:+: outer)
    (occurs : occursIn needle inner = true) : occursIn needle outer = true :=
  occursIn_iff.mpr ((occursIn_iff.mp occurs).trans within)

theorem occursIn_concat_of_ne (needle : List α) {last item : α}
    (different : last ≠ item) :
    occursIn (needle ++ [last]) (items ++ [item]) =
      occursIn (needle ++ [last]) items := by
  rw [Bool.eq_iff_iff, occursIn_iff, occursIn_iff, List.infix_concat_iff,
    or_iff_right]
  rintro ⟨front, equality⟩
  rw [← List.append_assoc] at equality
  obtain ⟨_, final⟩ := List.append_inj' equality rfl
  exact different (List.singleton_inj.mp final)

end StandsAt

section Cut

variable {α : Type} [DecidableEq α] {needle items before after : List α}

theorem cutFrom_eq_map (passed : List α) :
    cutFrom needle passed items =
      (cutAt needle items).map fun parts =>
        (passed.reverse ++ parts.1, parts.2) := by
  rw [cutAt]
  induction items generalizing passed with
  | nil =>
      simp only [cutFrom]
      split <;> simp
  | cons item rest induction =>
      simp only [cutFrom]
      split
      · simp
      · rw [induction, induction [item], Option.map_map]
        congr 1
        funext parts
        simp

theorem cutAt_cons (item : α) (rest : List α) :
    cutAt needle (item :: rest) =
      if needle <+: item :: rest then
        some ([], (item :: rest).drop needle.length)
      else
        (cutAt needle rest).map fun parts => (item :: parts.1, parts.2) := by
  rw [cutAt, cutFrom, cutFrom_eq_map]
  simp only [List.isPrefixOf_iff_prefix]
  rfl

/-- A sequence is cut at the first place where the needle stands. -/
theorem cutAt_eq_some_iff :
    cutAt needle items = some (before, after) ↔
      items = before ++ needle ++ after ∧
        ∀ place < before.length, ¬StandsAt needle items place := by
  constructor
  · intro cut
    refine ⟨cutAt_eq cut, ?_⟩
    induction items generalizing before with
    | nil =>
        have nothing := cutAt_eq cut
        rw [eq_comm, List.append_eq_nil_iff, List.append_eq_nil_iff] at nothing
        rw [nothing.1.1]
        exact fun place inside => absurd inside (Nat.not_lt_zero place)
    | cons item rest induction =>
        rw [cutAt_cons] at cut
        split at cut
        · cases cut
          simp
        · rename_i elsewhere
          obtain ⟨parts, restCut, equality⟩ := Option.map_eq_some_iff.mp cut
          cases equality
          rintro (_ | place) inside
          · exact elsewhere
          · rw [standsAt_cons_succ]
            exact induction restCut place (Nat.lt_of_succ_lt_succ inside)
  · rintro ⟨rfl, first⟩
    induction before with
    | nil =>
        cases shape : needle ++ after with
        | nil =>
            obtain ⟨rfl, rfl⟩ := List.append_eq_nil_iff.mp shape
            rfl
        | cons item rest =>
            have here : needle <+: item :: rest := shape ▸ List.prefix_append _ _
            rw [List.nil_append, shape, cutAt_cons, if_pos here, ← shape,
              List.drop_left]
    | cons item before induction =>
        have elsewhere : ¬needle <+: item :: (before ++ needle ++ after) :=
          first 0 (Nat.succ_pos _)
        have restFirst : ∀ place < before.length,
            ¬StandsAt needle (before ++ needle ++ after) place := by
          intro place inside
          exact first (place + 1) (Nat.succ_lt_succ inside)
        have restCut := induction restFirst
        rw [List.cons_append, List.cons_append, cutAt_cons, if_neg elsewhere,
          restCut]
        rfl

theorem standsAt_of_cutAt (cut : cutAt needle items = some (before, after)) :
    StandsAt needle items before.length := by
  refine ⟨after, ?_⟩
  rw [cutAt_eq cut, List.append_assoc, List.drop_left]

theorem prefix_of_cutAt (cut : cutAt needle items = some (before, after)) :
    before <+: items :=
  ⟨needle ++ after, by rw [cutAt_eq cut, List.append_assoc]⟩

theorem suffix_of_cutAt (cut : cutAt needle items = some (before, after)) :
    after <:+ items :=
  ⟨before ++ needle, (cutAt_eq cut).symm⟩

theorem not_mem_of_cutAt {item : α} (cut : cutAt [item] items = some (before, after)) :
    item ∉ before := by
  intro member
  obtain ⟨front, back, split, absent⟩ := List.eq_append_cons_of_mem member
  have sooner : cutAt [item] items = some (front, back ++ item :: after) := by
    rw [cutAt_eq cut, split, ← cutAt_append absent]
    simp
  rw [sooner] at cut
  simp only [Option.some.injEq, Prod.mk.injEq] at cut
  have lengths := congrArg List.length (cut.1.trans split)
  simp at lengths

/-- What is put together around a needle is cut there, if the needle neither stands
in front of it nor is completed there by its own items. -/
theorem cutAt_of_not_occursIn (needle : List α) {last : α}
    (absent : occursIn (needle ++ [last]) (before ++ needle) = false)
    (after : List α) :
    cutAt (needle ++ [last]) (before ++ (needle ++ [last]) ++ after) =
      some (before, after) := by
  rw [cutAt_eq_some_iff]
  refine ⟨rfl, ?_⟩
  intro place inside stands
  have split : before ++ (needle ++ [last]) ++ after =
      (before ++ needle) ++ (last :: after) := by simp
  have within : place + (needle ++ [last]).length ≤ (before ++ needle).length := by
    simp only [List.length_append, List.length_singleton]
    omega
  rw [split, standsAt_append_left within] at stands
  have occurs := occursIn_iff_exists_standsAt.mpr ⟨place, stands⟩
  rw [absent] at occurs
  contradiction

end Cut

section Run

variable {α : Type} {run rest : List α} {inRun : α → Bool}
  (ends : ∀ item ∈ rest.head?, inRun item = false)

include ends

theorem takeWhile_of_ends : rest.takeWhile inRun = [] ∧
    rest.dropWhile inRun = rest := by
  cases rest with
  | nil => exact ⟨rfl, rfl⟩
  | cons item rest =>
      have stops : ¬inRun item = true := by simpa using ends item rfl
      exact ⟨List.takeWhile_cons_of_neg stops, List.dropWhile_cons_of_neg stops⟩

/-- A run of items is taken off as far as it goes. -/
theorem takeWhile_append_of_ends (all : ∀ item ∈ run, inRun item = true) :
    (run ++ rest).takeWhile inRun = run ∧
      (run ++ rest).dropWhile inRun = rest := by
  obtain ⟨taken, dropped⟩ := takeWhile_of_ends ends
  rw [List.takeWhile_append_of_pos all, List.dropWhile_append_of_pos all, taken,
    dropped, List.append_nil]
  exact ⟨rfl, rfl⟩

omit ends in
/-- Only a run that cannot be prolonged is taken off as a whole. -/
theorem takeWhile_append_eq_iff :
    (run ++ rest).takeWhile inRun = run ↔
      (∀ item ∈ run, inRun item = true) ∧
        ∀ item ∈ rest.head?, inRun item = false := by
  constructor
  · intro taken
    have all : ∀ item ∈ run, inRun item = true := by
      rw [← taken]
      exact List.all_eq_true.mp List.all_takeWhile
    refine ⟨all, ?_⟩
    intro item first
    obtain ⟨behind, rfl⟩ := List.head?_eq_some_iff.mp first
    apply Bool.eq_false_iff.mpr
    intro goesOn
    rw [List.takeWhile_append_of_pos all, List.takeWhile_cons_of_pos goesOn] at taken
    simp at taken
  · rintro ⟨all, ends⟩
    exact (takeWhile_append_of_ends ends all).1

end Run

end LogLens
