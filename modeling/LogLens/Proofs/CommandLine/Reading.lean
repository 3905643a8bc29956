import Mathlib.Data.List.Forall2
import LogLens.CommandLine.Invocation
import LogLens.Failure

/-!
# How options are read

Each argument is judged by itself, so that what a group of arguments does to the
reading does not depend on what follows.  Groups are read one after the other,
and their effects add up.

Releases of the option parser differ over dividers that are attached to options
and over what stands behind a short call for help, and over nothing else.
-/

namespace LogLens

namespace OptionName

variable {name : OptionName}

theorem mem_spellings (proper : name ≠ .help) :
    (name.displayName, name) ∈ spellings := by
  cases name with
  | help => exact absurd rfl proper
  | _ => decide

theorem isLong_displayName (proper : name ≠ .help) :
    ['-', '-'].isPrefixOf name.displayName = true := by
  cases name with
  | help => exact absurd rfl proper
  | _ => decide

end OptionName

namespace Argument

theorem option_of_namedInFull? {text : Text} {argument : Argument}
    (named : namedInFull? text = some argument) :
    ∃ name attached, argument = .option name attached := by
  unfold namedInFull? at named
  split at named
  · cases named
    exact ⟨_, _, rfl⟩
  · split at named
    · obtain ⟨name, _, rfl⟩ := Option.map_eq_some_iff.mp named
      exact ⟨_, _, rfl⟩
    · cases named

theorem option_of_mem_candidates {text spelling : Text} {argument : Argument}
    (candidate : (spelling, argument) ∈ candidates text) :
    ∃ name attached, argument = .option name attached := by
  unfold candidates at candidate
  split at candidate
  · obtain ⟨⟨_, name⟩, _, same⟩ := List.mem_map.mp candidate
    cases same
    exact ⟨_, _, rfl⟩
  · obtain ⟨⟨_, name⟩, _, same⟩ := List.mem_map.mp candidate
    cases same
    exact ⟨_, _, rfl⟩
  · cases candidate

/-- What is not an option stands for itself. -/
theorem classify_cases {text : Text} {argument : Argument}
    (classified : classify text = .ok argument) :
    (∃ name attached, argument = .option name attached) ∨
      argument = .value text ∨ argument = .unknownOption text := by
  unfold classify at classified
  split at classified
  · cases classified
    exact .inr (.inl rfl)
  · split at classified
    · rename_i named
      cases classified
      exact .inl (option_of_namedInFull? named)
    · split at classified
      · rename_i spelling _ only
        cases classified
        have candidate : (spelling, argument) ∈ candidates text := by
          rw [only]
          exact List.mem_singleton_self _
        exact .inl (option_of_mem_candidates candidate)
      · split at classified
        · cases classified
          exact .inr (.inl rfl)
        · cases classified
          exact .inr (.inr rfl)
      · cases classified

theorem classify_value {text value : Text}
    (classified : classify text = .ok (.value value)) : value = text := by
  rcases classify_cases classified with ⟨_, _, same⟩ | same | same
  · cases same
  · cases same
    rfl
  · cases same

theorem classify_of_head {text : Text} (plain : text.head? ≠ some '-') :
    classify text = .ok (.value text) :=
  if_pos (.inl plain)

theorem ne_dividerText_of_classify {text : Text} {argument : Argument}
    (classified : classify text = .ok argument) : text ≠ dividerText := by
  rintro rfl
  have ambiguous : ¬(classify dividerText).isOk = true := by decide
  rw [classified] at ambiguous
  exact ambiguous rfl

theorem classify_spelling {spelling : Text} {name : OptionName}
    (spelled : (spelling, name) ∈ OptionName.spellings) :
    classify spelling = .ok (.option name none) := by
  have each : ∀ entry ∈ OptionName.spellings,
      classify entry.1 = .ok (.option entry.2 none) := by
    decide
  exact each _ spelled

/-- A long option with a value attached to it. -/
theorem classify_attached {spelling : Text} {name : OptionName}
    (spelled : (spelling, name) ∈ OptionName.spellings)
    (long : ['-', '-'].isPrefixOf spelling = true) (value : Text) :
    classify (spelling ++ '=' :: value) =
      .ok (.option name (some (.equals value))) := by
  have noSign : ∀ entry ∈ OptionName.spellings, '=' ∉ entry.1 := by decide
  have found : ∀ entry ∈ OptionName.spellings,
      OptionName.spellings.lookup entry.1 = some entry.2 := by
    decide
  have unnamed :
      OptionName.spellings.lookup (spelling ++ '=' :: value) = none := by
    rw [List.lookup_eq_none_iff]
    intro entry listed
    have signed : '=' ∈ spelling ++ '=' :: value := by simp
    have different : spelling ++ '=' :: value ≠ entry.1 := by
      intro same
      rw [same] at signed
      exact noSign entry listed signed
    simpa using different
  obtain ⟨rest, rfl⟩ := List.isPrefixOf_iff_prefix.mp long
  have named : namedInFull? (['-', '-'] ++ rest ++ '=' :: value) =
      some (.option name (some (.equals value))) := by
    rw [namedInFull?, unnamed, cutAt_append (noSign _ spelled) value]
    simp only [found _ spelled]
    rfl
  rw [classify, named, if_neg (by simp)]

/-- What texts that stand before the divider are, one by one. -/
abbrev Classifies : List Text → List Argument → Prop :=
  List.Forall₂ fun text argument => classify text = .ok argument

theorem classifyAll_append {texts : List Text} {arguments : List Argument}
    (classified : Classifies texts arguments) (rest : List Text) :
    classifyAll (texts ++ rest) = (classifyAll rest).map (arguments ++ ·) := by
  induction classified with
  | nil =>
      cases rest : classifyAll rest <;> simp [rest, Except.map]
  | cons first _ induction =>
      rw [List.cons_append, classifyAll,
        if_neg (ne_dividerText_of_classify first), first, induction]
      cases classifyAll rest <;> rfl

theorem classifyAll_cons {text : Text} {rest : List Text}
    {arguments : List Argument}
    (classified : classifyAll (text :: rest) = .ok arguments) :
    ∃ first others, arguments = first :: others ∧
      (text = dividerText ∧ first = .divider ∨ classify text = .ok first) := by
  rw [classifyAll] at classified
  split at classified
  · rename_i divider
    cases classified
    exact ⟨_, _, rfl, .inl ⟨divider, rfl⟩⟩
  · obtain ⟨first, own, classified⟩ := bind_eq_ok_iff.mp classified
    obtain ⟨others, _, classified⟩ := bind_eq_ok_iff.mp classified
    cases classified
    exact ⟨_, _, rfl, .inr own⟩

/-- Whether releases of the option parser may read an argument differently: the
divider is attached to an option, or something stands behind a short call for
help. -/
def Disputed : Argument → Prop
  | .option _ (some (.equals text)) => text = dividerText
  | .option name (some (.adjacent _ _)) => name = .help
  | _ => False

end Argument

namespace CommandLine

namespace Reading

variable {reading given : Reading} {release : ParserRelease} {name : OptionName}
  {value : Text}

theorem giveAttached_of_kept
    (kept : release = .current ∨ value ≠ Argument.dividerText) :
    reading.giveAttached release name value = reading.give name value := by
  apply if_neg
  rintro ⟨rfl, divider⟩
  rcases kept with current | noDivider
  · cases current
  · exact noDivider divider

theorem numbered_of_give (numbered : reading.limit ≠ .unnumbered)
    (gives : reading.give name value = .ok given) :
    given.limit ≠ .unnumbered := by
  cases name with
  | levels =>
      obtain ⟨severities, _, given⟩ := bind_eq_ok_iff.mp gives
      cases given
      exact numbered
  | contains =>
      cases gives
      exact numbered
  | max =>
      simp only [give] at gives
      split at gives
      · cases gives
        exact MaxResults.noConfusion
      · cases gives
  | _ => cases gives

theorem numbered_set (numbered : reading.limit ≠ .unnumbered) :
    (reading.set name).limit ≠ .unnumbered := by
  cases name <;> exact numbered

end Reading

/-- A limit without a number is only read by an earlier release of the option
parser, however many arguments are used. -/
theorem numbered_of_use {reading used : Reading} {arguments : List Argument}
    (numbered : reading.limit ≠ .unnumbered)
    (uses : use .current reading arguments = .ok (some used)) :
    used.limit ≠ .unnumbered := by
  fun_induction use .current reading arguments with
  | case1 =>
      cases uses
      exact numbered
  | case2 _ _ _ induction => exact induction numbered uses
  | case3 _ _ _ _ induction =>
      obtain ⟨given, gives, uses⟩ := bind_eq_ok_iff.mp uses
      rw [Reading.giveAttached_of_kept (.inl rfl)] at gives
      exact induction given (Reading.numbered_of_give numbered gives) uses
  | case6 _ _ _ _ _ _ induction | case7 _ _ _ _ _ induction =>
      obtain ⟨given, gives, uses⟩ := bind_eq_ok_iff.mp uses
      exact induction given (Reading.numbered_of_give numbered gives) uses
  | case10 _ _ _ _ _ induction =>
      exact induction (Reading.numbered_set numbered) uses
  | case4 | case5 | case8 | case9 => cases uses
  | _ =>
      rename_i induction
      exact induction numbered uses

theorem numbered_of_read {arguments : List Text} {invocation : Invocation}
    (reads : read arguments .current = .ok (.run invocation)) :
    invocation.limit ≠ .unnumbered := by
  obtain ⟨classified, _, reads⟩ := bind_eq_ok_iff.mp reads
  obtain ⟨used, uses, finished⟩ := bind_eq_ok_iff.mp reads
  cases used with
  | none => cases finished
  | some used =>
      have numbered := numbered_of_use MaxResults.noConfusion uses
      change finish used = _ at finished
      unfold finish at finished
      split at finished
      · cases finished
      · split at finished
        · cases finished
          exact numbered
        · cases finished

section Releases

variable {release other : ParserRelease}

/-- Releases of the option parser only differ over arguments that are disputed. -/
theorem use_of_undisputed {reading : Reading} {arguments : List Argument}
    (undisputed : ∀ argument ∈ arguments, ¬argument.Disputed) :
    use release reading arguments = use other reading arguments := by
  fun_induction use release reading arguments with
  | case1 => rfl
  | case2 _ _ _ induction =>
      rw [use, induction (List.forall_mem_cons.mp undisputed).2]
  | case3 _ _ _ _ induction =>
      obtain ⟨kept, rest⟩ := List.forall_mem_cons.mp undisputed
      rw [use, Reading.giveAttached_of_kept (.inr kept),
        Reading.giveAttached_of_kept (.inr kept)]
      exact congrArg _ (funext fun given => induction given rest)
  | case4 | case5 =>
      exact absurd rfl (List.forall_mem_cons.mp undisputed).1
  | case6 _ _ _ _ _ proper induction =>
      rw [use]
      · exact congrArg _ (funext fun given =>
          induction given (List.forall_mem_cons.mp undisputed).2)
      · exact proper
  | case7 _ _ valued _ _ induction =>
      have rest := (List.forall_mem_cons.mp undisputed).2
      simp only [use, valued, if_true,
        induction _ (List.forall_mem_cons.mp rest).2]
  | case8 _ _ _ valued =>
      rw [use.eq_def]
      simp only [valued, if_true]
  | case9 _ _ flag =>
      rw [use.eq_def]
      simp only [flag, if_true]
      rfl
  | case10 reading _ _ flag proper induction =>
      have rest := (List.forall_mem_cons.mp undisputed).2
      rw [induction rest, use.eq_def other reading]
      simp only [flag, if_neg proper]
      rfl
  | case11 reading _ _ _ found induction =>
      have rest := (List.forall_mem_cons.mp undisputed).2
      rw [induction rest, use.eq_def other reading]
      simp only [found]
  | case12 _ _ noPath _ induction =>
      have rest := (List.forall_mem_cons.mp undisputed).2
      simp only [use, noPath, induction (List.forall_mem_cons.mp rest).2]
  | case13 _ _ noPath _ noDivider induction =>
      have rest := (List.forall_mem_cons.mp undisputed).2
      rw [use.eq_def other]
      simp only [noPath, induction rest]
  | case14 _ _ _ noPath induction =>
      have rest := (List.forall_mem_cons.mp undisputed).2
      simp only [use, noPath, induction (List.forall_mem_cons.mp rest).2]
  | case15 _ _ noValue induction =>
      have rest := (List.forall_mem_cons.mp undisputed).2
      rw [use.eq_def other]
      simp only [induction rest]

theorem read_of_undisputed {arguments : List Text}
    (undisputed : ∀ classified, Argument.classifyAll arguments = .ok classified →
      ∀ argument ∈ classified, ¬argument.Disputed) :
    read arguments release = read arguments other := by
  unfold read
  cases classifies : Argument.classifyAll arguments with
  | error fault => rfl
  | ok classified =>
      have same : use release {} classified = use other {} classified :=
        use_of_undisputed (undisputed classified classifies)
      simp only [bind, Except.bind, same]

end Releases

/-- What some arguments come to after those that are used already, if they are
accepted.  The fault is left open, because arguments are judged before the first
is used, so that it may be that of a later one. -/
def accepted? (release : ParserRelease) (reading : Reading)
    (texts : List Text) : Option Request :=
  Except.toOption do
    match ← use release reading (← Argument.classifyAll texts) with
    | none => return .showHelp
    | some reading => finish reading

/-- Whatever follows, some arguments change the reading so, or are refused. -/
def Changes (release : ParserRelease) (texts : List Text)
    (change : Reading → Option Reading) : Prop :=
  ∀ reading rest, accepted? release reading (texts ++ rest) =
    (change reading).bind fun changed => accepted? release changed rest

variable {release : ParserRelease}

theorem Changes.congr {texts : List Text} {change other : Reading → Option Reading}
    (changes : Changes release texts change)
    (same : ∀ reading, change reading = other reading) :
    Changes release texts other := by
  intro reading rest
  rw [changes, same]

theorem Changes.append {first others : List Text}
    {change next : Reading → Option Reading} (changes : Changes release first change)
    (follows : Changes release others next) :
    Changes release (first ++ others) fun reading => (change reading).bind next := by
  intro reading rest
  rw [List.append_assoc, changes, Option.bind_assoc]
  exact Option.bind_congr fun changed _ => follows changed rest

/-- Arguments change the reading as using them does. -/
theorem changes_of_use (change : Reading → Except UsageFault Reading)
    {texts : List Text} {arguments : List Argument}
    (classified : Argument.Classifies texts arguments)
    (uses : ∀ reading rest, use release reading (arguments ++ rest) = do
      use release (← change reading) rest) :
    Changes release texts fun reading => (change reading).toOption := by
  intro reading rest
  unfold accepted?
  rw [Argument.classifyAll_append classified]
  cases Argument.classifyAll rest with
  | error fault => exact (Option.bind_fun_none _).symm
  | ok others =>
      simp only [Except.map, bind, Except.bind, uses]
      cases change reading <;> rfl

section Options

variable {name : OptionName}

theorem changes_flag (flag : takesValue name = false) (proper : name ≠ .help) :
    Changes release [name.displayName] fun reading => some (reading.set name) := by
  have classified : Argument.Classifies [name.displayName]
      [.option name none] :=
    .cons (Argument.classify_spelling (OptionName.mem_spellings proper)) .nil
  apply changes_of_use (fun reading => .ok (reading.set name)) classified
  intro reading rest
  rw [List.singleton_append, use.eq_def]
  simp [flag, proper, bind, Except.bind]

variable (valued : takesValue name = true)

include valued

theorem ne_help_of_valued : name ≠ .help := by
  rintro rfl
  cases valued

theorem changes_apart {value : Text}
    (plain : Argument.classify value = .ok (.value value)) :
    Changes release [name.displayName, value] fun reading =>
      (reading.give name value).toOption := by
  have spelled := OptionName.mem_spellings (ne_help_of_valued valued)
  have classified : Argument.Classifies [name.displayName, value]
      [.option name none, .value value] :=
    .cons (Argument.classify_spelling spelled) (.cons plain .nil)
  apply changes_of_use (fun reading => reading.give name value) classified
  intro reading rest
  simp [use, valued]

/-- A value that is attached is taken as it is written, the divider too in the
current release of the option parser. -/
theorem changes_attached {value : Text}
    (kept : release = .current ∨ value ≠ Argument.dividerText) :
    Changes release [name.displayName ++ '=' :: value] fun reading =>
      (reading.give name value).toOption := by
  have proper := ne_help_of_valued valued
  have attached := Argument.classify_attached (OptionName.mem_spellings proper)
    (OptionName.isLong_displayName proper) value
  have classified : Argument.Classifies [name.displayName ++ '=' :: value]
      [.option name (some (.equals value))] :=
    .cons attached .nil
  apply changes_of_use (fun reading => reading.give name value) classified
  intro reading rest
  simp [use, Reading.giveAttached_of_kept kept]

/-- What follows an option that takes a value has to be one. -/
theorem refuses_apart {text : Text}
    (noValue : Argument.classify text ≠ .ok (.value text)) :
    Changes release [name.displayName, text] fun _ => none := by
  have spelled := OptionName.mem_spellings (ne_help_of_valued valued)
  have classified : Argument.Classifies [name.displayName]
      [.option name none] :=
    .cons (Argument.classify_spelling spelled) .nil
  intro reading rest
  change accepted? release reading ([name.displayName] ++ (text :: rest)) = none
  unfold accepted?
  rw [Argument.classifyAll_append classified]
  cases all : Argument.classifyAll (text :: rest) with
  | error fault => rfl
  | ok arguments =>
      obtain ⟨first, others, rfl, own⟩ := Argument.classifyAll_cons all
      have lacks : use release reading (.option name none :: first :: others) =
          .error (.lacksValue name) := by
        rw [use.eq_def]
        cases first with
        | value value =>
            have classified := own.resolve_left fun divider =>
              Argument.noConfusion divider.2
            rw [Argument.classify_value classified] at classified
            exact absurd classified noValue
        | _ => simp [valued]
      simp only [Except.map, bind, Except.bind, List.singleton_append, lacks]
      rfl

end Options

/-- The arguments of the command with a path and options: the path stands first,
if it is taken for a value there, or behind a divider. -/
inductive Composes (path : Text) (options : List Text) : List Text → Prop where
  | pathFirst (plain : Argument.classify path = .ok (.value path)) :
      Composes path options (path :: options)
  | pathLast : Composes path options (options ++ [Argument.dividerText, path])

theorem accepted?_pathFirst {path : Text}
    (plain : Argument.classify path = .ok (.value path)) {option : Text}
    (noDivider : option ≠ Argument.dividerText) (rest : List Text) :
    accepted? release {} (path :: option :: rest) =
      accepted? release { path := some path } (option :: rest) := by
  have classified : Argument.Classifies [path] [.value path] :=
    .cons plain .nil
  change accepted? release {} ([path] ++ (option :: rest)) = _
  unfold accepted?
  rw [Argument.classifyAll_append classified]
  cases all : Argument.classifyAll (option :: rest) with
  | error fault => rfl
  | ok arguments =>
      obtain ⟨first, others, rfl, own⟩ := Argument.classifyAll_cons all
      have used : use release {} (.value path :: first :: others) =
          use release { path := some path } (first :: others) := by
        rw [use.eq_def]
        cases first with
        | divider =>
            -- It would be passed over together with the path.
            have classified := own.resolve_left fun divider =>
              noDivider divider.1
            rcases Argument.classify_cases classified with ⟨_, _, same⟩ | same | same
            all_goals cases same
        | _ => rfl
      simp only [Except.map, bind, Except.bind, List.singleton_append, used]

theorem accepted?_pathLast {reading : Reading} (noPath : reading.path = none)
    (path : Text) :
    accepted? release reading [Argument.dividerText, path] =
      (finish { reading with path := some path }).toOption := by
  have classified : Argument.classifyAll [Argument.dividerText, path] =
      .ok [.divider, .value path] := rfl
  have used : use release reading [.divider, .value path] =
      .ok (some { reading with path := some path }) := by
    rw [use.eq_def]
    simp only [noPath]
    rfl
  simp only [accepted?, classified, used, bind, Except.bind]

/-- Where the path is does not matter to options that do not look at it. -/
theorem accepted?_of_composes {path option : Text} {options arguments : List Text}
    {change : Reading → Option Reading}
    (noDivider : option ≠ Argument.dividerText)
    (changes : Changes release (option :: options) change)
    (noPath : ∀ changed, change {} = some changed → changed.path = none)
    (same : change { path := some path } =
      (change {}).map fun changed => { changed with path := some path })
    (composes : Composes path (option :: options) arguments) :
    (read arguments release).toOption =
      (change {}).bind fun changed =>
        (finish { changed with path := some path }).toOption := by
  change accepted? release {} arguments = _
  cases composes with
  | pathFirst plain =>
      have used := changes { path := some path } []
      rw [List.append_nil] at used
      rw [accepted?_pathFirst plain noDivider, used, same, Option.bind_map]
      rfl
  | pathLast =>
      rw [changes]
      exact Option.bind_congr fun changed given =>
        accepted?_pathLast (noPath changed given) path

end CommandLine

end LogLens
