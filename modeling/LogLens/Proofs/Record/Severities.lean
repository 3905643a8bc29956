import LogLens.Proofs.Record.Access
import LogLens.Proofs.Text.Search
import LogLens.Record

/-!
# The severities that readers give

A severity comes from a status, from the word for it, or from keywords, each of
which is looked up in a table.  So a reader only gives the severities of its
tables, and no table has the critical one: the word for it stands for fatal.

The capitals of a part of a text are a part of its capitals, so a keyword that announces
a severity still does when a text is put in front or behind.  Of the rules with a keyword
in the text the first one counts, so more text can only lead to a rule that comes sooner.
-/

namespace LogLens

namespace Severity

theorem ofWord_mem (word : Text) :
    ofWord word ∈ unknown :: words.map Prod.snd := by
  unfold ofWord
  cases found : words.lookup word.upper with
  | none => exact List.mem_cons_self
  | some severity =>
      exact List.mem_cons_of_mem _ (List.mem_map_of_mem (mem_of_lookup found))

/-- Keywords announce the severity of one of the rules, or none does. -/
theorem infer_mem (rules : List KeywordRule) (fallback : Severity)
    (text : Text) :
    infer rules fallback text ∈ fallback :: rules.map KeywordRule.severity := by
  unfold infer
  cases found : rules.find? (·.holds text.upper) with
  | none => simp [found]
  | some rule =>
      have member : rule ∈ rules := List.mem_of_find?_eq_some found
      simp only [found]
      exact List.mem_cons_of_mem _ (List.mem_map_of_mem member)

end Severity

namespace LogFormat

/-- The severities that the reader of a format can give. -/
def severities : LogFormat → List Severity
  | .webAccess => [.error, .warning, .info, .unknown]
  | .syslog => .info :: Severity.syslogKeywords.map KeywordRule.severity
  | .structured => .unknown :: Severity.words.map Prod.snd
  | .unknown | .webError | .windowsEvent | .iis | .json | .custom =>
      .unknown :: Severity.genericKeywords.map KeywordRule.severity

theorem read_severity_mem (format : LogFormat) (text : Text) :
    (format.read text).severity ∈ format.severities := by
  cases format with
  | webAccess =>
      have given := (Access.read_status text).2
      simp only [read, severities, given]
      exact Access.severityOf_mem _
  | syslog => exact Severity.infer_mem _ _ _
  | structured =>
      simp only [read, Structured.read, severities]
      split
      · exact List.mem_cons_self
      · exact Severity.ofWord_mem _
  | _ => exact Severity.infer_mem _ _ _

theorem critical_not_mem_severities (format : LogFormat) :
    Severity.critical ∉ format.severities := by
  cases format <;> decide

theorem read_severity_ne_critical (format : LogFormat) (text : Text) :
    (format.read text).severity ≠ .critical := by
  intro critical
  have member := format.read_severity_mem text
  rw [critical] at member
  exact format.critical_not_mem_severities member

theorem entries_severity_ne_critical (format : LogFormat) {content : Bytes}
    {entry : Entry} (member : entry ∈ format.entries content) :
    entry.severity ≠ .critical := by
  obtain ⟨line, _, equality⟩ := List.mem_map.mp member
  rw [← equality]
  exact format.read_severity_ne_critical line.text

end LogFormat

theorem Text.upper_isInfix {inner outer : Text} (within : inner <:+: outer) :
    inner.upper <:+: outer.upper := by
  obtain ⟨before, after, equality⟩ := within
  refine ⟨upper before, upper after, ?_⟩
  rw [← equality, upper_append, upper_append]

/-- A keyword of the rule occurs in the text, whatever the case of its letters. -/
def KeywordRule.Matches (rule : KeywordRule) (text : Text) : Prop :=
  ∃ keyword ∈ rule.keywords, keyword <:+: text.upper

namespace KeywordRule

variable {rule : KeywordRule}

theorem holds_iff {text : Text} : rule.holds text.upper = true ↔ rule.Matches text := by
  simp only [holds, List.any_eq_true, occursIn_iff, Matches]

theorem Matches.widen {inner outer : Text} (found : rule.Matches inner)
    (within : inner <:+: outer) : rule.Matches outer := by
  obtain ⟨keyword, member, occurs⟩ := found
  exact ⟨keyword, member, occurs.trans (Text.upper_isInfix within)⟩

end KeywordRule

namespace Severity

/-- The place of the first rule that matches a text, behind the chain if none does. -/
def firstRule (rules : List KeywordRule) (text : Text) : Nat :=
  rules.findIdx (·.holds text.upper)

theorem firstRule_le {rules : List KeywordRule} {inner outer : Text}
    (within : inner <:+: outer) : firstRule rules outer ≤ firstRule rules inner := by
  apply List.findIdx_le_findIdx
  intro rule _ found
  exact KeywordRule.holds_iff.mpr ((KeywordRule.holds_iff.mp found).widen within)

/-- The first rule that matches settles the severity, and the fallback is taken where
none does. -/
theorem infer_cases (rules : List KeywordRule) (fallback : Severity) (text : Text) :
    (∃ rule, rules[firstRule rules text]? = some rule ∧ rule.Matches text ∧
      (∀ sooner ∈ rules.take (firstRule rules text), ¬sooner.Matches text) ∧
      infer rules fallback text = rule.severity) ∨
    (firstRule rules text = rules.length ∧ (∀ rule ∈ rules, ¬rule.Matches text) ∧
      infer rules fallback text = fallback) := by
  have sought : rules.find? (·.holds text.upper) = rules[firstRule rules text]? :=
    List.find?_eq_getElem?_findIdx
  rw [infer, sought]
  cases first : rules[firstRule rules text]? with
  | none =>
      right
      rw [first, List.find?_eq_none] at sought
      have place : firstRule rules text = rules.length :=
        Nat.le_antisymm List.findIdx_le_length (List.getElem?_eq_none_iff.mp first)
      refine ⟨place, ?_, rfl⟩
      exact fun rule member matched =>
        sought rule member (KeywordRule.holds_iff.mpr matched)
  | some rule =>
      left
      rw [first] at sought
      have holds : rule.holds text.upper = true := by
        have found := List.find?_some sought
        exact found
      refine ⟨rule, rfl, KeywordRule.holds_iff.mp holds, ?_, rfl⟩
      intro sooner member matched
      obtain ⟨place, inside, equality⟩ := List.mem_take_iff_getElem.mp member
      have before : place < firstRule rules text := by omega
      have fails := List.not_of_lt_findIdx before
      rw [equality, KeywordRule.holds_iff.mpr matched] at fails
      contradiction

end Severity

namespace Generic

/-- The severities of lines of no known convention, in the order in which their keywords
are sought. -/
def severities : List Severity :=
  [.fatal, .error, .warning, .debug, .trace, .info, .unknown]

/-- The place of a severity in this order is the one of the rule that announces it. -/
theorem getElem?_firstRule (text : Text) :
    severities[Severity.firstRule Severity.genericKeywords text]? =
      some (read text).severity := by
  have order : severities =
      Severity.genericKeywords.map KeywordRule.severity ++ [.unknown] := rfl
  rcases Severity.infer_cases Severity.genericKeywords .unknown text with
    ⟨rule, found, _, _, settled⟩ | ⟨nothing, _, settled⟩
  · have inside := (List.getElem?_eq_some_iff.mp found).1
    rw [order, List.getElem?_append_left (by rwa [List.length_map]), List.getElem?_map,
      found]
    exact congrArg some settled.symm
  · rw [nothing]
    exact congrArg some settled.symm

theorem idxOf_severity (text : Text) :
    severities.idxOf (read text).severity =
      Severity.firstRule Severity.genericKeywords text := by
  have distinct : severities.Nodup := by decide
  obtain ⟨inside, equality⟩ := List.getElem?_eq_some_iff.mp (getElem?_firstRule text)
  rw [← equality]
  exact distinct.idxOf_getElem _ inside

end Generic

namespace Severity

/-- The severity that keywords announce is the one of the first rule with a keyword in
the text, or the fallback where no keyword of any rule occurs.  A text around the text
leads to no later rule, and so, in a line of no known convention, to no severity that is
further down in their order. -/
theorem infer_monotone :
    (∀ (rules : List KeywordRule) (fallback : Severity) (text : Text),
      (∃ rule, rules[firstRule rules text]? = some rule ∧ rule.Matches text ∧
        (∀ sooner ∈ rules.take (firstRule rules text), ¬sooner.Matches text) ∧
        infer rules fallback text = rule.severity) ∨
      (firstRule rules text = rules.length ∧ (∀ rule ∈ rules, ¬rule.Matches text) ∧
        infer rules fallback text = fallback)) ∧
    (∀ (rules : List KeywordRule) (before text after : Text),
      firstRule rules (before ++ text ++ after) ≤ firstRule rules text) ∧
    (∀ before text after : Text,
      (Generic.read text).severity ∈ Generic.severities ∧
        Generic.severities.idxOf (Generic.read (before ++ text ++ after)).severity ≤
          Generic.severities.idxOf (Generic.read text).severity) := by
  refine ⟨infer_cases, ?_, ?_⟩
  · intro rules before text after
    exact firstRule_le ⟨before, after, rfl⟩
  · intro before text after
    refine ⟨List.mem_of_getElem? (Generic.getElem?_firstRule text), ?_⟩
    rw [Generic.idxOf_severity, Generic.idxOf_severity]
    exact firstRule_le ⟨before, after, rfl⟩

theorem infer_monotone_sharp :
    let rules : List KeywordRule := [⟨["SSE"], .error⟩, ⟨["S"], .info⟩]
    (firstRule rules "ß" = 1 ∧ infer rules .unknown "ß" = .info) ∧
      (firstRule rules ("-" ++ "ß" ++ "e" : Text) = 0 ∧
        infer rules .unknown ("-" ++ "ß" ++ "e" : Text) = .error) ∧
      firstRule rules ("-" ++ "ß" ++ "e" : Text) ≤ firstRule rules "ß" := by
  intro rules
  exact ⟨by decide, by decide, infer_monotone.2.1 rules "-" "ß" "e"⟩

end Severity

end LogLens
