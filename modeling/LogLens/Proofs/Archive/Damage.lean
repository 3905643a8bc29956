import LogLens.Proofs.Archive.Course

/-!
# Damage shows to a reader who asks for more than there is

A damaged file gives the data in front of the damage and never ends before it.
So a reader who asks for more than that data comes across the damage, however
many buffers stand between the reader and the file.
-/

namespace LogLens

theorem Accounts.of_cons {total amount : Nat} {move : Move} {rest : List Move}
    (accounts : Accounts total amount (move :: rest)) :
    move.Within total ∧
      ∃ left, amount = move.gives + left ∧ Accounts total left rest := by
  obtain ⟨given, within⟩ := accounts
  rw [List.forall_mem_cons] at within
  rw [List.map_cons, List.sum_cons] at given
  exact ⟨within.1, _, given.symm, rfl, within.2⟩

/-- Whoever asks a source that holds some data for more than nothing is handed
some of it, or comes across damage. -/
def Serves {σ : Type} (ask : σ → Nat → Option (Nat × σ)) (Holds : σ → Nat → Prop) :
    Prop :=
  ∀ source amount wish count next, Holds source amount → 0 < wish →
    ask source wish = some (count, next) →
    0 < count ∧ count ≤ wish ∧
      ∃ left, amount = count + left ∧ Holds next left

namespace Cursor

variable {total : Nat}

theorem pos_of_extend_lt {given known reach : Nat}
    (late : extend total given known reach < reach) (inside : reach ≤ total) :
    0 < given := by
  unfold extend at late
  split at late
  · omega
  · simp only [portion] at late
    omega

/-- The data that the steps ahead give. -/
def Holds (total : Nat) (cursor : Cursor) (amount : Nat) : Prop :=
  Accounts total amount cursor.ahead

theorem follow_hands {wish given known amount count : Nat} {moves : List Move}
    {next : Cursor} (accounts : Accounts total amount moves) (wished : 0 < wish)
    (room : given ≤ wish)
    (handed : follow total wish given known moves = some (count, next)) :
    0 < count ∧ count ≤ wish ∧
      ∃ left, given + amount = count + left ∧ next.Holds total left := by
  induction moves generalizing given known amount with
  | nil =>
      unfold follow at handed
      split at handed
      · cases handed
      · cases handed
        exact ⟨by omega, room, amount, rfl, accounts⟩
  | cons move rest induction =>
      obtain ⟨within, left, gives, others⟩ := accounts.of_cons
      cases move with
      | enter position =>
          rw [follow] at handed
          rw [gives, Move.gives, Nat.zero_add]
          exact induction others room handed
      | give own reach =>
          rw [follow] at handed
          simp only [Move.gives] at gives
          split at handed
          · rename_i late
            cases handed
            exact ⟨pos_of_extend_lt late within, room, amount, rfl, accounts⟩
          · split at handed
            · rename_i fits
              rw [gives, ← Nat.add_assoc]
              exact induction others fits handed
            · cases handed
              have cut := others.cons (.give (given + own - wish) reach) within
              refine ⟨wished, Nat.le_refl _, _, ?_, cut⟩
              simp only [Move.gives]
              omega
      | store own start =>
          rw [follow] at handed
          simp only [Move.gives, Move.Within] at gives within
          have reached : given = 0 → 0 < own →
              start < extend total given known (start + 1) := by
            intro none _
            by_cases late : extend total given known (start + 1) < start + 1
            · have some := pos_of_extend_lt late (by omega)
              omega
            · omega
          generalize extend total given known (start + 1) = reach
            at handed reached
          obtain ⟨now, nowIs⟩ :
              ∃ now, now = min own (min (reach - start) (wish - given)) :=
            ⟨_, rfl⟩
          simp only [← nowIs] at handed
          split at handed
          · rw [gives, ← Nat.add_assoc]
            exact induction others (by omega) handed
          · cases handed
            have cut := others.cons (.store (own - now) (start + now))
              (by simp only [Move.Within]; omega)
            refine ⟨by omega, by omega, _, ?_, cut⟩
            simp only [Move.gives]
            omega
      | leave reach =>
          rw [follow] at handed
          simp only [Move.gives, Nat.zero_add] at gives
          split at handed
          · rename_i late
            cases handed
            exact ⟨pos_of_extend_lt late within, room, amount, rfl, accounts⟩
          · split at handed
            · rw [gives]
              exact induction others room handed
            · cases handed
              exact ⟨by omega, room, left, by rw [gives], others⟩
      | damage reach =>
          rw [follow] at handed
          split at handed
          · rename_i late
            cases handed
            exact ⟨pos_of_extend_lt late within, room, amount, rfl, accounts⟩
          · cases handed
      | farCopy reach =>
          rw [follow] at handed
          split at handed
          · rename_i late
            cases handed
            exact ⟨pos_of_extend_lt late within, room, amount, rfl, accounts⟩
          · split at handed
            · cases handed
            · cases handed
              exact ⟨by omega, room, amount, rfl, accounts⟩

theorem ask_serves (total : Nat) : Serves (ask total) (Holds total) := by
  intro cursor amount wish count next held wished handed
  have hands := follow_hands held wished (Nat.zero_le _) handed
  rwa [Nat.zero_add] at hands

end Cursor

namespace Buffer

variable {σ : Type} {ask : σ → Nat → Option (Nat × σ)}
  {Held : σ → Nat → Prop}

/-- The data in the buffer and behind it. -/
def Holds (Held : σ → Nat → Prop) (buffer : Buffer σ) (amount : Nat) : Prop :=
  ∃ left, amount = buffer.spare + left ∧ Held buffer.source left

theorem fillPortions_hands (serves : Serves ask Held) {missing amount rest : Nat}
    {source next : σ} (held : Held source amount)
    (filled : fillPortions ask missing source = some (rest, next)) :
    rest < portion ∧ ∃ left, amount + rest = missing + left ∧ Held next left := by
  induction missing using Nat.strongRecOn generalizing source amount with
  | ind missing induction =>
      rw [fillPortions] at filled
      split at filled
      · rename_i whole
        simp only [portion] at whole
        split at filled
        · cases filled
        · rename_i count behind asked
          obtain ⟨some, few, left, amountIs, heldBehind⟩ :=
            serves _ _ _ _ _ held (by simp only [portion]; omega) asked
          rw [if_pos some] at filled
          obtain ⟨small, other, otherIs, heldNext⟩ :=
            induction (missing - count) (by omega) heldBehind filled
          simp only [portion] at few
          exact ⟨small, other, by omega, heldNext⟩
      · cases filled
        exact ⟨by omega, amount, by omega, held⟩

theorem fillRest_hands (serves : Serves ask Held)
    {missing taken amount spare : Nat} {source next : σ}
    (held : Held source amount) (fits : taken + missing ≤ portion)
    (filled : fillRest ask missing taken source = some (spare, next)) :
    ∃ left, amount = missing + (spare + left) ∧ Held next left := by
  induction missing using Nat.strongRecOn generalizing source amount taken with
  | ind missing induction =>
      rw [fillRest] at filled
      split at filled
      · rename_i wanted
        split at filled
        · cases filled
        · rename_i count behind asked
          obtain ⟨some, few, left, amountIs, heldBehind⟩ :=
            serves _ _ _ _ _ held (by omega) asked
          split at filled
          · cases filled
            exact ⟨left, by omega, heldBehind⟩
          · obtain ⟨other, otherIs, heldNext⟩ :=
              induction (missing - count) (by omega) heldBehind (by omega) filled
            exact ⟨other, by omega, heldNext⟩
      · cases filled
        exact ⟨amount, by omega, held⟩

/-- A buffer hands out all that it is asked for, and cannot hand out more than
there is. -/
theorem read_hands (serves : Serves ask Held) {buffer next : Buffer σ}
    {amount wish count : Nat} (held : buffer.Holds Held amount)
    (handed : read ask buffer wish = some (count, next)) :
    count = wish ∧ ∃ left, amount = count + left ∧ next.Holds Held left := by
  obtain ⟨behind, amountIs, heldBehind⟩ := held
  unfold read at handed
  split at handed
  · cases handed
    exact ⟨rfl, buffer.spare - wish + behind, by omega, behind, rfl, heldBehind⟩
  · obtain ⟨⟨missing, source⟩, filled, handed⟩ := Option.bind_eq_some_iff.mp handed
    obtain ⟨⟨spare, source⟩, completed, handed⟩ := Option.bind_eq_some_iff.mp handed
    cases handed
    obtain ⟨small, left, leftIs, heldLeft⟩ :=
      fillPortions_hands serves heldBehind filled
    obtain ⟨other, otherIs, heldOther⟩ :=
      fillRest_hands serves heldLeft (by omega) completed
    exact ⟨rfl, spare + other, by omega, other, rfl, heldOther⟩

theorem read_serves (serves : Serves ask Held) :
    Serves (read ask) (Holds Held) := by
  intro buffer amount wish count next held wished handed
  obtain ⟨all, left, amountIs, heldNext⟩ := read_hands serves held handed
  exact ⟨by omega, by omega, left, amountIs, heldNext⟩

end Buffer

/-- Damage behind less data than is asked for shows, through any buffers. -/
theorem Buffering.showsDamage_of_lt {total size count : Nat} {course : List Move}
    (accounts : Accounts total size course) (more : size < count)
    (buffering : Buffering) :
    buffering.showsDamage total count course = true := by
  have serves := Cursor.ask_serves total
  have held : Buffer.Holds (Cursor.Holds total) ⟨⟨0, course⟩, 0⟩ size :=
    ⟨size, by simp, accounts⟩
  cases buffering with
  | single =>
      cases handed : Buffer.read (Cursor.ask total) ⟨⟨0, course⟩, 0⟩ count with
      | none => simp only [showsDamage, handed, Option.isNone_none]
      | some result =>
          obtain ⟨all, left, sizeIs, _⟩ := Buffer.read_hands serves held handed
          omega
  | double =>
      have outerHeld : Buffer.Holds (Buffer.Holds (Cursor.Holds total))
          ⟨⟨⟨0, course⟩, 0⟩, 0⟩ size := ⟨size, by simp, held⟩
      cases handed : Buffer.read (Buffer.read (Cursor.ask total))
          ⟨⟨⟨0, course⟩, 0⟩, 0⟩ count with
      | none => simp only [showsDamage, handed, Option.isNone_none]
      | some result =>
          obtain ⟨all, left, sizeIs, _⟩ :=
            Buffer.read_hands (Buffer.read_serves serves) outerHeld handed
          omega

/-- The beginning of a damaged file is refused, or it is as long as it was asked
for. -/
theorem Gzip.readPrefix_of_damaged {bytes : Bytes} {failure : ArchiveFailure}
    (damaged : data bytes = .error failure) (buffering : Buffering) (count : Nat) :
    readPrefix buffering count bytes = .error failure ∨
      ∃ first, readPrefix buffering count bytes = .ok first ∧
        first.length = count := by
  have accounts := unpack_accounts bytes
  unfold data Unpacked.all at damaged
  unfold readPrefix Unpacked.first
  split at damaged
  · cases damaged
  · rename_i own found
    cases damaged
    by_cases more : (unpack bytes).content.length < count
    · left
      rw [if_pos (Buffering.showsDamage_of_lt accounts more buffering)]
    · split
      · exact .inl rfl
      · refine .inr ⟨_, rfl, ?_⟩
        rw [List.length_take]
        omega

end LogLens
