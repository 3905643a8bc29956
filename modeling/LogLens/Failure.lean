import LogLens.Severity
import LogLens.Text.Basic
import LogLens.Text.Quoted

/-!
# Failures

Everything that can go wrong is told by its cause, and the wording of each
failure is given in one place.  A compressed file cannot be read because its
frame is wrong, the deflated data in it has a defect, or it ends too early.

A chain of steps succeeds if each of its steps does, and it fails as the first
of them that fails.  So what is known of a chain is taken apart into what is
known of its steps.
-/

namespace LogLens

inductive Defect where
  | blockKind
  /-- A stored block does not repeat its length correctly. -/
  | storedLength
  /-- A block announces more symbols than there are. -/
  | symbolCount
  | lengthCode
  /-- A run of word lengths repeats nothing or leads too far. -/
  | lengthRun
  | blockEnd
  | literalCode
  | distanceCode
  | literalWord
  | distanceWord
  /-- A repetition begins before the data does. -/
  | farDistance
  deriving DecidableEq, Repr

inductive ArchiveFailure where
  /-- A member begins with these bytes instead of the mark of the format. -/
  | wrongMark (found : Bytes)
  | unknownMethod
  | endsEarly
  | damaged (defect : Defect)
  | wrongChecksum (recorded actual : Nat)
  | wrongLength
  deriving DecidableEq, Repr

def Defect.message : Defect → Text
  | blockKind => "invalid block type"
  | storedLength => "invalid stored block lengths"
  | symbolCount => "too many length or distance symbols"
  | lengthCode => "invalid code lengths set"
  | lengthRun => "invalid bit length repeat"
  | blockEnd => "invalid code -- missing end-of-block"
  | literalCode => "invalid literal/lengths set"
  | distanceCode => "invalid distances set"
  | literalWord => "invalid literal/length code"
  | distanceWord => "invalid distance code"
  | farDistance => "invalid distance too far back"

def hexadecimal (value : Nat) : Text :=
  "0x" ++ Nat.toDigits 16 value

def ArchiveFailure.message : ArchiveFailure → Text
  | wrongMark found => "Not a gzipped file (" ++ found.quoted ++ ")"
  | unknownMethod => "Unknown compression method"
  | endsEarly =>
      "Compressed file ended before the end-of-stream marker was reached"
  | damaged defect =>
      "Error -3 while decompressing data: " ++ defect.message
  | wrongChecksum recorded actual =>
      "CRC check failed " ++ hexadecimal recorded ++ " != " ++ hexadecimal actual
  | wrongLength => "Incorrect length of data produced"

def parseCapVariable : Text := "LOG_INSPECTOR_PARSE_CAP"

def baseDirectoryVariable : Text := "LOG_INSPECTOR_BASE_DIR"

inductive LimitUse where
  | comparison
  | cut
  deriving DecidableEq, Repr

inductive Failure where
  | logNotFound (path : Text)
  | logEmpty (path : Text)
  | negativeReadLimit
  /-- The number of bytes to read is beyond any position in a file. -/
  | hugeReadLimit
  /-- The number of bytes to read is beyond the length of any byte string. -/
  | oversizedRead
  /-- There is no room for the number of bytes to read. -/
  | noRoom
  | nameTooLong (path : Text)
  | archive (cause : ArchiveFailure)
  | parseCapNotInteger
  | parseCapTooSmall
  | negativeOffset
  | limitNotPositive
  /-- The limit of a listing is not a number, which only an earlier release of the
  option parser lets pass. -/
  | limitNotNumber (use : LimitUse)
  | unknownSeverity (given : Text)
  | negativeCount
  | escapesBase
  /-- The path holds a character that no file name can hold. -/
  | forbiddenCharacter
  | unknownHome
  | resourceNotFound (path : Text)
  | resourceNotAllowed (allowed : Text)
  | unknownSample (given valid : Text)
  deriving DecidableEq, Repr

/-- What a caller can tell a failure by: a file that is missing, a value that is
refused, or anything else. -/
inductive FailureKind where
  | missing
  | refused
  | other
  deriving DecidableEq, Repr

def LimitUse.message : LimitUse → Text
  | comparison => "'<=' not supported between instances of 'list' and 'int'"
  | cut => "slice indices must be integers or None or have an __index__ method"

namespace Failure

def kind : Failure → FailureKind
  | logNotFound _ | resourceNotFound _ => .missing
  | logEmpty _ | negativeReadLimit | parseCapNotInteger | parseCapTooSmall
  | negativeOffset | limitNotPositive | unknownSeverity _ | negativeCount
  | escapesBase | forbiddenCharacter | resourceNotAllowed _
  | unknownSample _ _ => .refused
  | hugeReadLimit | oversizedRead | noRoom | nameTooLong _ | archive _
  | limitNotNumber _ | unknownHome => .other

def severityList : Text :=
  [',', ' '].intercalate (Severity.all.map Severity.name)

def message : Failure → Text
  | logNotFound path => "Log file not found: " ++ path
  | logEmpty path => "Log file is empty: " ++ path
  | negativeReadLimit => "limit must be >= 0"
  | hugeReadLimit => "cannot fit 'int' into an index-sized integer"
  | oversizedRead => "byte string is too large"
  | noRoom => []
  | nameTooLong path => "[Errno 36] File name too long: " ++ path.quoted
  | archive cause => cause.message
  | parseCapNotInteger => parseCapVariable ++ " must be an integer"
  | parseCapTooSmall => parseCapVariable ++ " must be >= 1"
  | negativeOffset => "offset must be >= 0"
  | limitNotPositive => "limit must be > 0"
  | limitNotNumber use => use.message
  | unknownSeverity given =>
      "Unknown log level '" ++ given ++ "'. Valid values: " ++ severityList ++
        ". Tip: levels is case-insensitive (e.g., 'error', 'WARNING')."
  | negativeCount => "counts must be >= 0"
  | escapesBase => "Path escapes base dir"
  | forbiddenCharacter => "embedded null byte"
  | unknownHome => "Could not determine home directory."
  | resourceNotFound path => "File not found: " ++ path
  | resourceNotAllowed allowed =>
      "File type not allowed. Allowed: " ++ allowed ++ " (optionally .gz)."
  | unknownSample given valid =>
      "Unknown sample '" ++ given ++ "'. Valid values: " ++ valid ++ "."

end Failure

section Chain

variable {ε α β : Type}

theorem bind_eq_ok_iff {first : Except ε α} {next : α → Except ε β} {result : β} :
    (first >>= next) = .ok result ↔
      ∃ value, first = .ok value ∧ next value = .ok result := by
  cases first with
  | error failure => simp [bind, Except.bind]
  | ok value => simp [bind, Except.bind]

theorem bind_eq_error_iff {first : Except ε α} {next : α → Except ε β}
    {failure : ε} :
    (first >>= next) = .error failure ↔
      first = .error failure ∨
        ∃ value, first = .ok value ∧ next value = .error failure := by
  cases first with
  | error own => simp [bind, Except.bind]
  | ok value => simp [bind, Except.bind]

theorem bind_ne_error {first : Except ε α} {next : α → Except ε β} {failure : ε}
    (sooner : first ≠ .error failure)
    (later : ∀ value, next value ≠ .error failure) :
    (first >>= next) ≠ .error failure := by
  intro failed
  rcases bind_eq_error_iff.mp failed with failed | ⟨value, _, failed⟩
  · exact sooner failed
  · exact later value failed

theorem eq_ok_of_toOption {result : Except ε α} {value : α}
    (accepted : result.toOption = some value) : result = .ok value := by
  cases result with
  | error failure => cases accepted
  | ok own =>
      cases accepted
      rfl

theorem exists_error_of_toOption {result : Except ε α}
    (refused : result.toOption = none) : ∃ failure, result = .error failure := by
  cases result with
  | error failure => exact ⟨failure, rfl⟩
  | ok value => cases refused

/-- Steps that are alike fail as one of them does. -/
theorem mapM_eq_error {step : α → Except ε β} {items : List α} {failure : ε}
    (fails : items.mapM step = .error failure) :
    ∃ item ∈ items, step item = .error failure := by
  induction items with
  | nil => cases fails
  | cons item rest induction =>
      rw [List.mapM_cons] at fails
      rcases bind_eq_error_iff.mp fails with fails | ⟨_, _, fails⟩
      · exact ⟨item, List.mem_cons_self, fails⟩
      · rcases bind_eq_error_iff.mp fails with fails | ⟨_, _, fails⟩
        · obtain ⟨other, member, fails⟩ := induction fails
          exact ⟨other, List.mem_cons_of_mem _ member, fails⟩
        · cases fails

end Chain

end LogLens
