import LogLens.Session

/-!
# The history of a document

A refresh reads nothing of the document but its name and settings, and no other
step changes anything.  So what a session has done before its last refresh
leaves no trace, whichever of its steps found data, found none, or failed.
-/

namespace LogLens

def Step.isRefresh : Step → Bool
  | .refresh _ _ => true
  | .entries | .summary | .text | .content | .tokens | .extract _ | .eligible _
  | .select _ => false

/-- The last refresh of a sequence of steps. -/
def Step.lastRefresh? (steps : List Step) : Option Step :=
  steps.findRev? Step.isRefresh

theorem Step.isRefresh_of_lastRefresh? {steps : List Step} {last : Step}
    (found : Step.lastRefresh? steps = some last) : last.isRefresh = true := by
  rw [Step.lastRefresh?, List.findRev?_eq_find?_reverse] at found
  exact List.find?_some found

namespace Document

/-- The document holds what a source gives under the settings: the bytes that
the parse cap allows, and everything derived from them. -/
structure Reflects (document : Document) (settings : Settings) (source : Bytes)
    (totalSize : Option Int) : Prop where
  content : document.content = takeSigned settings.parseCap source
  size : (document.size : Int) = max (source.length : Int) (totalSize.getD 0)
  format : document.format =
    LogFormat.detect settings.sampleSize document.content
  entries : document.entries = document.format.entries document.content
  statistics : document.statistics = Statistics.ofEntries document.entries

theorem hasData_iff (source : Bytes) :
    hasData (some source) = true ↔ source ≠ [] := by
  cases source with
  | nil => simp [hasData]
  | cons byte rest => simp [hasData]

theorem refresh_of_no_data (document : Document) {source : Option Bytes}
    (noData : hasData source = false) (totalSize : Option Int) :
    document.refresh source totalSize =
      blank document.name document.settings := by
  match source with
  | none => rfl
  | some [] => rfl
  | some (_ :: _) => cases noData

theorem refresh_of_data (document : Document) {source : Bytes}
    (data : source ≠ []) (totalSize : Option Int) :
    document.refresh (some source) totalSize =
      ofSource document.name document.settings source totalSize := by
  match source with
  | [] => exact absurd rfl data
  | _ :: _ => rfl

theorem ofSource_reflects (name : Text) (settings : Settings) (source : Bytes)
    (totalSize : Option Int) :
    (ofSource name settings source totalSize).Reflects settings source
      totalSize := by
  refine ⟨rfl, ?_, rfl, rfl, rfl⟩
  simp only [ofSource]
  omega

theorem Reflects.content_length_le {document : Document} {settings : Settings}
    {source : Bytes} {totalSize : Option Int}
    (reflects : document.Reflects settings source totalSize) :
    document.content.length ≤ document.size := by
  have kept : document.content.length ≤ source.length := by
    rw [reflects.content]
    exact (takeSigned_isPrefix _ _).length_le
  have whole := reflects.size
  omega

@[simp] theorem refresh_name (document : Document) (source : Option Bytes)
    (totalSize : Option Int) :
    (document.refresh source totalSize).name = document.name := by
  unfold refresh
  split <;> rfl

@[simp] theorem refresh_settings (document : Document) (source : Option Bytes)
    (totalSize : Option Int) :
    (document.refresh source totalSize).settings = document.settings := by
  unfold refresh
  split <;> rfl

theorem refresh_congr {left right : Document} (name : left.name = right.name)
    (settings : left.settings = right.settings) (source : Option Bytes)
    (totalSize : Option Int) :
    left.refresh source totalSize = right.refresh source totalSize := by
  unfold refresh
  rw [name, settings]

theorem after_of_not_refresh (document : Document) {step : Step}
    (other : step.isRefresh = false) : document.after step = document := by
  cases step with
  | refresh source totalSize => cases other
  | _ => rfl

theorem after_name (document : Document) (step : Step) :
    (document.after step).name = document.name := by
  cases step with
  | refresh source totalSize => exact refresh_name document source totalSize
  | _ => rfl

theorem after_settings (document : Document) (step : Step) :
    (document.after step).settings = document.settings := by
  cases step with
  | refresh source totalSize => exact refresh_settings document source totalSize
  | _ => rfl

theorem after_after_refresh (document : Document) (step : Step) {last : Step}
    (refreshes : last.isRefresh = true) :
    (document.after step).after last = document.after last := by
  cases last with
  | refresh source totalSize =>
      exact refresh_congr (after_name document step)
        (after_settings document step) source totalSize
  | _ => cases refreshes

theorem afterAll_cons (document : Document) (step : Step) (rest : List Step) :
    document.afterAll (step :: rest) = (document.after step).afterAll rest := rfl

/-- A sequence of steps comes to the same as its last refresh alone. -/
theorem afterAll_eq_lastRefresh (document : Document) (steps : List Step) :
    document.afterAll steps =
      document.afterAll (Step.lastRefresh? steps).toList := by
  induction steps generalizing document with
  | nil => rfl
  | cons step rest induction =>
      rw [afterAll_cons, induction]
      unfold Step.lastRefresh?
      rw [List.findRev?]
      cases found : rest.findRev? Step.isRefresh with
      | some last =>
          -- The first step is undone later on, whatever it is.
          have refreshes : last.isRefresh = true :=
            Step.isRefresh_of_lastRefresh? found
          exact after_after_refresh document step refreshes
      | none =>
          by_cases refreshes : step.isRefresh = true
          · simp only [if_pos refreshes]
            rfl
          · simp only [if_neg refreshes]
            exact after_of_not_refresh document (by simpa using refreshes)

/-- Each step of a session is answered from, and leaves behind, what the steps
up to it have made of the document. -/
theorem answers_getElem? (document : Document) (steps : List Step)
    (index : Nat) :
    (document.answers steps)[index]? =
      steps[index]?.map fun step =>
        ((document.afterAll (steps.take index)).answer step,
          document.afterAll (steps.take (index + 1))) := by
  induction steps generalizing document index with
  | nil => rfl
  | cons step rest induction =>
      cases index with
      | zero => rfl
      | succ index => exact induction (document.after step) index

theorem afterAll_of_no_refresh (document : Document) {steps : List Step}
    (absent : Step.lastRefresh? steps = none) :
    document.afterAll steps = document := by
  rw [afterAll_eq_lastRefresh, absent]
  rfl

theorem afterAll_of_lastRefresh (document : Document) {steps : List Step}
    {source : Option Bytes} {totalSize : Option Int}
    (found : Step.lastRefresh? steps = some (.refresh source totalSize)) :
    document.afterAll steps = document.refresh source totalSize := by
  rw [afterAll_eq_lastRefresh, found]
  rfl

theorem afterAll_blank_cases (name : Text) (settings : Settings)
    (steps : List Step) :
    (blank name settings).afterAll steps = blank name settings ∨
      ∃ source totalSize, source ≠ [] ∧
        (blank name settings).afterAll steps =
          ofSource name settings source totalSize := by
  cases found : Step.lastRefresh? steps with
  | none => exact .inl (afterAll_of_no_refresh _ found)
  | some last =>
      cases last with
      | refresh source totalSize =>
          rw [afterAll_of_lastRefresh _ found]
          cases data : hasData source with
          | false => exact .inl (refresh_of_no_data _ data totalSize)
          | true =>
              match source with
              | some (byte :: rest) =>
                  exact .inr ⟨byte :: rest, totalSize, by simp, rfl⟩
      | _ => cases Step.isRefresh_of_lastRefresh? found

theorem create_eq (name : Text) (settings : Settings) (override : Option Text) :
    create name settings override =
      (settings.resolve override).map (blank name) := by
  unfold create
  cases settings.resolve override <;> rfl

theorem create_of_resolves {settings resolved : Settings} {override : Option Text}
    (resolves : settings.resolve override = .ok resolved) (name : Text) :
    create name settings override = .ok (blank name resolved) := by
  rw [create_eq, resolves]
  rfl

theorem eq_blank_of_create {name : Text} {settings : Settings}
    {override : Option Text} {fresh : Document}
    (created : create name settings override = .ok fresh) :
    settings.resolve override = .ok fresh.settings ∧
      fresh = blank name fresh.settings := by
  rw [create_eq] at created
  cases resolved : settings.resolve override with
  | error failure =>
      rw [resolved] at created
      cases created
  | ok settings =>
      rw [resolved] at created
      cases created
      exact ⟨rfl, rfl⟩

/-- What a session makes of a new document is what the last refresh alone makes
of it: nothing where there is no refresh or it finds no data, and otherwise what
its source gives under the settings of the document.  The states that the
session reports on the way, at failing steps too, are those of its beginnings,
so this holds of each of them. -/
theorem session_eq_lastRefresh {name : Text} {settings : Settings}
    {override : Option Text} {fresh : Document}
    (created : create name settings override = .ok fresh) (steps : List Step) :
    (settings.resolve override = .ok fresh.settings ∧
      fresh = blank name fresh.settings) ∧
    (∀ index answer state, (fresh.answers steps)[index]? = some (answer, state) →
      state = fresh.afterAll (steps.take (index + 1))) ∧
    fresh.afterAll steps = fresh.afterAll (Step.lastRefresh? steps).toList ∧
    (Step.lastRefresh? steps = none → fresh.afterAll steps = fresh) ∧
    (∀ source totalSize,
      Step.lastRefresh? steps = some (.refresh source totalSize) →
      (source = none ∨ source = some [] → fresh.afterAll steps = fresh) ∧
      (∀ bytes, source = some bytes → bytes ≠ [] →
        (fresh.afterAll steps).Reflects fresh.settings bytes totalSize)) ∧
    (fresh.afterAll steps).content.length ≤ (fresh.afterAll steps).size := by
  have isNew := eq_blank_of_create created
  refine ⟨isNew, ?_, afterAll_eq_lastRefresh fresh steps,
    afterAll_of_no_refresh fresh, ?_, ?_⟩
  · intro index answer state reported
    rw [answers_getElem?] at reported
    obtain ⟨step, _, equality⟩ := Option.map_eq_some_iff.mp reported
    exact (congrArg Prod.snd equality).symm
  · intro source totalSize found
    rw [afterAll_of_lastRefresh fresh found]
    constructor
    · intro absentOrEmpty
      have noData : hasData source = false := by
        rcases absentOrEmpty with absent | empty
        · rw [absent]
          rfl
        · rw [empty]
          rfl
      have named : fresh.name = name := congrArg Document.name isNew.2
      rw [refresh_of_no_data fresh noData, named]
      exact isNew.2.symm
    · intro bytes given data
      rw [given, refresh_of_data fresh data]
      exact ofSource_reflects _ _ _ _
  · rw [isNew.2]
    rcases afterAll_blank_cases name fresh.settings steps with
      stillBlank | ⟨source, totalSize, _, holds⟩
    · rw [stillBlank]
      exact Nat.le_refl 0
    · rw [holds]
      exact (ofSource_reflects _ _ _ _).content_length_le

theorem session_eq_lastRefresh_capped :
    let steps : List Step :=
      [.refresh (some (ascii "warn")) none, .select { offset := -1 },
        .refresh none (some 9), .refresh (some (ascii "GET /x")) (some 2),
        .summary]
    let fresh := blank "a.log" ⟨4, 4096, []⟩
    (create "a.log" ⟨9, 4096, []⟩ (some "4") = .ok fresh ∧
      Step.lastRefresh? steps =
        some (.refresh (some (ascii "GET /x")) (some 2))) ∧
      (fresh.afterAll steps).Reflects fresh.settings (ascii "GET /x") (some 2) ∧
      (fresh.afterAll steps).content.length ≤ (fresh.afterAll steps).size := by
  intro steps fresh
  have created : create "a.log" ⟨9, 4096, []⟩ (some "4") = .ok fresh := by
    rfl
  have found : Step.lastRefresh? steps =
      some (.refresh (some (ascii "GET /x")) (some 2)) := by rfl
  obtain ⟨_, _, _, _, refreshed, kept⟩ := session_eq_lastRefresh created steps
  exact ⟨⟨created, found⟩, (refreshed _ _ found).2 _ rfl (by decide), kept⟩

end Document

end LogLens
