import LogLens.CommandLine.Argument
import LogLens.Text.Numeral

/-!
# Invocations

Arguments are used from left to right.  The first fault ends the reading;
whether a path is missing, and then whether arguments are left over, is only
asked at the end.  Where releases of the option parser read arguments differently,
the release is a parameter.
-/

namespace LogLens

/-- The releases of the option parser.  They differ in what they make of a value
that is attached to an option. -/
inductive ParserRelease where
  /-- A value is taken as it is written. -/
  | current
  /-- The divider in the place of a value stands for none, and an equals sign
  behind a short option is passed over. -/
  | earlier
  deriving DecidableEq, Repr

/-- The release that arguments are read with where none is named. -/
def ParserRelease.installed : ParserRelease := .earlier

inductive MaxResults where
  | unlimited
  | atMost (count : Int)
  /-- The option was given the divider for its value, which only an earlier
  release of the option parser lets pass. -/
  | unnumbered
  deriving DecidableEq, Repr

structure Invocation where
  path : Text
  entries : Bool
  errors : Bool
  tokens : Bool
  levels : Option (List Severity)
  contained : Option Text
  limit : MaxResults
  deriving DecidableEq, Repr

inductive Request where
  | showHelp
  | run (invocation : Invocation)
  deriving DecidableEq, Repr

namespace CommandLine

/-- The arguments used so far.  Those that cannot be used are kept newest
first. -/
structure Reading where
  path : Option Text := none
  entries : Bool := false
  errors : Bool := false
  tokens : Bool := false
  levels : Option (List Severity) := none
  contained : Option Text := none
  limit : MaxResults := .unlimited
  unused : List Text := []

def severitiesOf (option : OptionName) (text : Text) :
    Except UsageFault (List Severity) :=
  let names :=
    ((text.splitOn ',').map fun part => (Text.trim part).upper).filter (· ≠ [])
  match names.mapM Severity.ofName? with
  | none => .error (.unknownSeverity option)
  | some [] => .error (.noSeverity option)
  | some severities => .ok severities

def Reading.set (reading : Reading) : OptionName → Reading
  | .entries => { reading with entries := true }
  | .errors => { reading with errors := true }
  | .tokens => { reading with tokens := true }
  | .help | .levels | .contains | .max => reading

/-- Uses an option to which the divider is attached, as earlier releases of the
option parser do: the option counts as given, but without a value. -/
def Reading.giveDivider (reading : Reading) (option : OptionName) :
    Except UsageFault Reading :=
  match option with
  | .levels => return { reading with levels := some [] }
  | .contains => return { reading with contained := some [] }
  | .max => return { reading with limit := .unnumbered }
  | .help | .entries | .errors | .tokens =>
      .error (.ignoresValue option Argument.dividerText)

def Reading.give (reading : Reading) (option : OptionName) (value : Text) :
    Except UsageFault Reading :=
  match option with
  | .levels => do
      return { reading with levels := some (← severitiesOf option value) }
  | .contains => return { reading with contained := some value }
  | .max =>
      match integer? value with
      | some limit => return { reading with limit := .atMost limit }
      | none => .error (.notInteger option value)
  | .help | .entries | .errors | .tokens => .error (.ignoresValue option value)

/-- Uses an option with the value that follows an equals sign. -/
def Reading.giveAttached (reading : Reading) (release : ParserRelease)
    (option : OptionName) (value : Text) : Except UsageFault Reading :=
  if release = .earlier ∧ value = Argument.dividerText then
    reading.giveDivider option
  else reading.give option value

def takesValue : OptionName → Bool
  | .levels | .contains | .max => true
  | .help | .entries | .errors | .tokens => false

/-- The value that is refused where letters follow a short call for help.  Each
may be a further call, which takes no value.  The first that is no option is left
over with all behind it, and help has been called for before that is seen. -/
def refusedLetters? : Text → Option Text
  | [] => some []
  | ['h'] => none
  | 'h' :: '=' :: value => some value
  | 'h' :: letters => refusedLetters? letters
  | '-' :: letters => some ('-' :: letters)
  | _ => none

/-- The value that a short call for help is refused for, if it is. -/
def refusedByHelp? (signed : Bool) (value : Text) : ParserRelease → Option Text
  | .current => if signed then some value else refusedLetters? value
  | .earlier =>
      let others := value.dropWhile (· = 'h')
      if value = [] ∨ others ≠ [] then some others else none

/-- Uses arguments from left to right, `none` being a call for help. -/
def use (release : ParserRelease) (reading : Reading) :
    List Argument → Except UsageFault (Option Reading)
  | [] => .ok (some reading)
  | .unknownOption text :: rest =>
      use release { reading with unused := text :: reading.unused } rest
  | .option name (some (.equals value)) :: rest => do
      use release (← reading.giveAttached release name value) rest
  | .option .help (some (.adjacent signed value)) :: _ =>
      match refusedByHelp? signed value release with
      | some refused => .error (.ignoresValue .help refused)
      | none => .ok none
  | .option name (some (.adjacent _ value)) :: rest => do
      use release (← reading.give name value) rest
  | .option name none :: rest =>
      if takesValue name then
        match rest with
        | .value value :: rest => do
            use release (← reading.give name value) rest
        | _ => .error (.lacksValue name)
      else if name = .help then .ok none
      else use release (reading.set name) rest
  | .value text :: rest =>
      match reading.path with
      | some _ =>
          use release { reading with unused := text :: reading.unused } rest
      | none =>
          match rest with
          | .divider :: rest => use release { reading with path := some text } rest
          | rest => use release { reading with path := some text } rest
  | .divider :: rest =>
      match reading.path, rest with
      | none, .value text :: rest =>
          use release { reading with path := some text } rest
      | _, rest =>
          use release { reading with
            unused := Argument.dividerText :: reading.unused } rest

def finish (reading : Reading) : Except UsageFault Request :=
  match reading.path with
  | none => .error .lacksPath
  | some path =>
      if reading.unused = [] then
        .ok (.run {
          path := path
          entries := reading.entries
          errors := reading.errors
          tokens := reading.tokens
          levels := reading.levels
          contained := reading.contained
          limit := reading.limit })
      else .error (.unrecognised reading.unused.reverse)

def read (arguments : List Text) (release : ParserRelease := .installed) :
    Except UsageFault Request := do
  match ← use release {} (← Argument.classifyAll arguments) with
  | none => return .showHelp
  | some reading => finish reading

end CommandLine

end LogLens
