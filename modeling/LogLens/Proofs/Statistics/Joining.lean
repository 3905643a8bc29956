import LogLens.Proofs.Statistics.Counts

/-!
# Statistics of entries that are put together

The statistics of entries are joined from those of their parts: counts add up, and
each of the two times comes from the part nearer to its end, where that part gives
one.  Joined counts do not depend on the order of the parts, so no order of entries
changes a count.
-/

namespace LogLens

/-- The text, or the other one where it is empty. -/
def Text.orElse (text other : Text) : Text :=
  if text = [] then other else text

theorem Text.orElse_nil (text : Text) : Text.orElse text [] = text := by
  cases text <;> rfl

namespace Statistics

/-- The statistics of what is counted in front and of what is counted behind it,
taken together. -/
def join (front back : Statistics) : Statistics where
  total := front.total + back.total
  errors := front.errors + back.errors
  warnings := front.warnings + back.warnings
  infos := front.infos + back.infos
  debugs := front.debugs + back.debugs
  traces := front.traces + back.traces
  fatals := front.fatals + back.fatals
  unknowns := front.unknowns + back.unknowns
  successes := front.successes + back.successes
  redirections := front.redirections + back.redirections
  clientErrors := front.clientErrors + back.clientErrors
  serverErrors := front.serverErrors + back.serverErrors
  firstTimestamp := Text.orElse front.firstTimestamp back.firstTimestamp
  lastTimestamp := Text.orElse back.lastTimestamp front.lastTimestamp

def untimed (statistics : Statistics) : Statistics :=
  { statistics with firstTimestamp := [], lastTimestamp := [] }

section Join

variable (front back : Statistics)

theorem join_blank : front.join {} = front := by
  have noTime : Text.orElse [] front.lastTimestamp = front.lastTimestamp := rfl
  simp [join, Text.orElse_nil, noTime]

theorem countSeverity_join (severity : Severity) :
    (front.join back).countSeverity severity =
      front.join (back.countSeverity severity) := by
  cases severity <;> simp [countSeverity, join, Int.add_assoc]

theorem countStatus_join (status : Option StatusClass) :
    (front.join back).countStatus status =
      front.join (back.countStatus status) := by
  cases status with
  | none => rfl
  | some status => cases status <;> simp [countStatus, join, Int.add_assoc]

theorem noteTimestamp_join (timestamp : Text) :
    (front.join back).noteTimestamp timestamp =
      front.join (back.noteTimestamp timestamp) := by
  by_cases absent : timestamp = []
  · simp only [noteTimestamp, if_pos absent]
  · simp only [noteTimestamp, if_neg absent]
    by_cases none : front.firstTimestamp = []
    · simp [join, Text.orElse, none, absent]
    · simp [join, Text.orElse, none, absent]

theorem count_join (entry : Entry) :
    (front.join back).count entry = front.join (back.count entry) := by
  have total : (front.join back).total + 1 = front.total + (back.total + 1) :=
    Int.add_assoc _ _ _
  unfold count
  rw [countSeverity_join, countStatus_join]
  simp only [noteTimestamp_join, total]
  rfl

theorem foldl_count_join (entries : List Entry) :
    entries.foldl count (front.join back) =
      front.join (entries.foldl count back) := by
  induction entries generalizing back with
  | nil => rfl
  | cons entry rest induction =>
      rw [List.foldl_cons, List.foldl_cons, count_join, induction]

theorem untimed_join :
    (front.join back).untimed = front.untimed.join back.untimed :=
  rfl

theorem untimed_join_left_comm (rest : Statistics) :
    (front.join (back.join rest)).untimed =
      (back.join (front.join rest)).untimed := by
  simp [untimed, join, Int.add_left_comm]

end Join

theorem ofEntries_append (front back : List Entry) :
    ofEntries (front ++ back) = (ofEntries front).join (ofEntries back) := by
  calc
    ofEntries (front ++ back) = back.foldl count (ofEntries front) :=
      List.foldl_append
    _ = back.foldl count ((ofEntries front).join {}) := by rw [join_blank]
    _ = (ofEntries front).join (ofEntries back) := foldl_count_join _ _ back

theorem ofEntries_cons (entry : Entry) (rest : List Entry) :
    ofEntries (entry :: rest) = (ofEntries [entry]).join (ofEntries rest) :=
  ofEntries_append [entry] rest

theorem untimed_ofEntries_of_perm {entries reordered : List Entry}
    (permuted : entries.Perm reordered) :
    (ofEntries entries).untimed = (ofEntries reordered).untimed := by
  induction permuted with
  | nil => rfl
  | @cons entry rest reordered _ induction =>
      rw [ofEntries_cons entry rest, ofEntries_cons entry reordered, untimed_join,
        untimed_join, induction]
  | swap first second rest =>
      rw [ofEntries_cons second (first :: rest), ofEntries_cons first rest,
        ofEntries_cons first (second :: rest), ofEntries_cons second rest,
        untimed_join_left_comm]
  | trans _ _ forth further => exact forth.trans further

theorem ofClass_ofEntries_insert (front back : List Entry) (entry : Entry)
    (status : StatusClass) :
    (ofEntries (front ++ entry :: back)).ofClass status =
      (ofEntries (front ++ back)).ofClass status +
        if StatusClass.ofStatus? entry.web.status = some status then 1
        else 0 := by
  simp only [ofEntries_ofClass, StatusClass.tally, List.countP_append,
    List.countP_cons, decide_eq_true_eq]
  split <;> omega

/-- The statistics of entries are joined from those of their parts.  Every entry is
counted once under a severity and once in all, and it raises at most one of the
class counts, wherever it stands; and a permutation of the entries changes no
count. -/
theorem ofEntries_additive (front back : List Entry) :
    ofEntries (front ++ back) = (ofEntries front).join (ofEntries back) ∧
    (ofEntries front).severityTotal = (ofEntries front).total ∧
    (ofEntries front).total = front.length ∧
    (∀ entry, ∃ raised : Option StatusClass, ∀ status,
      (ofEntries (front ++ entry :: back)).ofClass status =
        (ofEntries (front ++ back)).ofClass status +
          if raised = some status then 1 else 0) ∧
    ∀ reordered, front.Perm reordered →
      (ofEntries reordered).untimed = (ofEntries front).untimed := by
  refine ⟨ofEntries_append front back, ofEntries_severityTotal front,
    ofEntries_total front, ?_, ?_⟩
  · intro entry
    exact ⟨StatusClass.ofStatus? entry.web.status,
      ofClass_ofEntries_insert front back entry⟩
  · intro reordered permuted
    exact (untimed_ofEntries_of_perm permuted).symm

theorem ofEntries_additive_mixed :
    let critical : Entry := { severity := .critical, web := { status := 299 } }
    let fatal : Entry :=
      { severity := .fatal, timestamp := "b", web := { status := 600 } }
    let unknown : Entry := { timestamp := "c", web := { status := -1 } }
    [critical, fatal, unknown].Perm [unknown, critical, fatal] ∧
      (ofEntries [unknown, critical, fatal]).untimed =
        (ofEntries [critical, fatal, unknown]).untimed ∧
      ofEntries [critical, fatal, unknown] =
        { total := 3
          fatals := 2
          unknowns := 1
          successes := 1
          serverErrors := 1
          firstTimestamp := "b"
          lastTimestamp := "c" } := by
  intro critical fatal unknown
  have permuted :
      [critical, fatal, unknown].Perm [unknown, critical, fatal] := by
    decide +kernel
  have additive := ofEntries_additive [critical, fatal, unknown] []
  exact ⟨permuted, additive.2.2.2.2 _ permuted, by decide +kernel⟩

end Statistics

end LogLens
