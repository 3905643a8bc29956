import LogLens.Failure
import LogLens.Text.Numeral

/-!
# Options and arguments

The options of the command have names, and what can be wrong with the arguments
that are given is listed with them.

Each argument is judged by itself: it is an option, which may be shortened as
far as it stays unique and may carry its value behind an equals sign, a plain
value, or the divider behind which everything is a value.
-/

namespace LogLens

inductive OptionName where
  | help
  | entries
  | errors
  | tokens
  | levels
  | contains
  | max
  deriving DecidableEq, Repr

namespace OptionName

/-- How options are written, in the order in which candidates are listed. -/
def spellings : List (Text × OptionName) :=
  [ ("-h", help), ("--help", help), ("--entries", entries), ("--errors", errors),
    ("--tokens", tokens), ("--levels", levels), ("--contains", contains),
    ("--max", max) ]

def displayName : OptionName → Text
  | help => "-h/--help"
  | entries => "--entries"
  | errors => "--errors"
  | tokens => "--tokens"
  | levels => "--levels"
  | contains => "--contains"
  | max => "--max"

end OptionName

inductive UsageFault where
  | ambiguous (written : Text) (candidates : List Text)
  | lacksValue (option : OptionName)
  | ignoresValue (option : OptionName) (value : Text)
  | notInteger (option : OptionName) (value : Text)
  | unknownSeverity (option : OptionName)
  | noSeverity (option : OptionName)
  | lacksPath
  | unrecognised (arguments : List Text)
  deriving DecidableEq, Repr

def OptionName.complaint (option : OptionName) (text : Text) : Text :=
  "argument " ++ option.displayName ++ ": " ++ text

def UsageFault.message : UsageFault → Text
  | ambiguous written candidates =>
      "ambiguous option: " ++ written ++ " could match " ++
        [',', ' '].intercalate candidates
  | lacksValue option => option.complaint "expected one argument"
  | ignoresValue option value =>
      option.complaint ("ignored explicit argument " ++ value.quoted)
  | notInteger option value =>
      option.complaint ("invalid int value: " ++ value.quoted)
  | unknownSeverity option =>
      option.complaint ("Invalid level. Allowed: " ++ Failure.severityList)
  | noSeverity option => option.complaint "At least one level must be provided"
  | lacksPath => "the following arguments are required: log_path"
  | unrecognised arguments =>
      "unrecognized arguments: " ++ [' '].intercalate arguments

inductive Attached where
  /-- The value follows a long option and an equals sign. -/
  | equals (value : Text)
  /-- The value follows a short option, and an equals sign if there is one. -/
  | adjacent (signed : Bool) (value : Text)
  deriving DecidableEq, Repr

inductive Argument where
  | value (text : Text)
  | divider
  | option (name : OptionName) (attached : Option Attached)
  | unknownOption (text : Text)
  deriving DecidableEq, Repr

namespace Argument

def dividerText : Text := "--"

def isDigits (text : Text) : Bool :=
  !text.isEmpty && text.all fun char => (decimalDigit? char).isSome

/-- Whether a text looks like a negative number: a dash and digits, of which
there may also be some before a point.  A line feed may follow. -/
def isNegativeNumber (text : Text) : Bool :=
  match text with
  | '-' :: rest =>
      let number := if rest.getLast? = some '\n' then rest.dropLast else rest
      isDigits number ||
        match cutAt ['.'] number with
        | some (whole, fraction) =>
            (whole.isEmpty || isDigits whole) && isDigits fraction
        | none => false
  | _ => false

def attach (spelling value : Text) : Attached :=
  match spelling with
  | '-' :: '-' :: _ => .equals value
  | _ => .adjacent true value

/-- What an argument stands for if it is taken as a possibly shortened option:
each option that it may be, as written in full, with the value it carries. -/
def candidates (text : Text) : List (Text × Argument) :=
  match text with
  | '-' :: '-' :: _ =>
      let (name, attached) :=
        match cutAt ['='] text with
        | some (before, after) => (before, some (Attached.equals after))
        | none => (text, none)
      (OptionName.spellings.filter fun (spelling, _) =>
          List.isPrefixOf name spelling).map
        fun (spelling, named) => (spelling, .option named attached)
  | '-' :: letter :: rest =>
      (OptionName.spellings.filter fun (spelling, _) =>
          spelling = ['-', letter]).map
        fun (spelling, named) =>
          (spelling, .option named (some (Attached.adjacent false rest)))
  | _ => []

/-- The option that an argument names in full, with the value behind an equals
sign if there is one. -/
def namedInFull? (text : Text) : Option Argument :=
  match OptionName.spellings.lookup text with
  | some named => some (.option named none)
  | none =>
      match cutAt ['='] text with
      | some (before, after) =>
          (OptionName.spellings.lookup before).map fun named =>
            .option named (some (attach before after))
      | none => none

/-- Tells what an argument before the divider is.  What looks like an option but
is none counts as a value if it is a negative number or holds a space. -/
def classify (text : Text) : Except UsageFault Argument :=
  if text.head? ≠ some '-' ∨ text = ['-'] then .ok (.value text)
  else match namedInFull? text with
    | some argument => .ok argument
    | none =>
        match candidates text with
        | [(_, argument)] => .ok argument
        | [] =>
            if isNegativeNumber text ∨ text.contains ' ' then .ok (.value text)
            else .ok (.unknownOption text)
        | several => .error (.ambiguous text (several.map Prod.fst))

def classifyAll : List Text → Except UsageFault (List Argument)
  | [] => .ok []
  | text :: rest =>
      if text = dividerText then .ok (.divider :: rest.map .value)
      else do
        let argument ← classify text
        return argument :: (← classifyAll rest)

end Argument

end LogLens
