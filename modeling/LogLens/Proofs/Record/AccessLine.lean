import Mathlib.Data.List.TakeWhile
import LogLens.Proofs.Record.Access
import LogLens.Proofs.Text.Decimal
import LogLens.Proofs.Text.Search
import LogLens.Record

/-!
# Access log lines that are written and read

A line of an access log is put together from its fields and read as these fields
again.  No field has to be free of everything that stands between fields, but
only of what is looked for in front of it or within it.

Where a line has a dash in place of the status, the status is still sought: it is
taken from the first digits that follow the request, and these can belong to the
size, to the referer or to the user agent.  Such a line is only read as one
without a status if no digit follows the request at all.
-/

namespace LogLens

namespace Access

/-- What a line of an access log states.  A response without a size has a dash in
its place, and the referer and the user agent may be left out together. -/
structure Fields where
  address : Text
  identity : Text
  user : Text
  time : Text
  method : Text
  url : Text
  protocol : Text
  status : Nat
  size : Option Nat
  visitor : Option (Text × Text)
  deriving DecidableEq, Repr

namespace Fields

/-- What stands in front of the time. -/
def client (fields : Fields) : Text :=
  fields.address ++ " " ++ fields.identity ++ " " ++ fields.user ++ " "

def request (fields : Fields) : Text :=
  fields.method ++ " " ++ fields.url ++ " " ++ fields.protocol

def sizeText (fields : Fields) : Text :=
  match fields.size with
  | some size => decimal size
  | none => "-"

def visitorText (fields : Fields) : Text :=
  match fields.visitor with
  | some (referer, agent) => " \"" ++ referer ++ "\" \"" ++ agent ++ "\""
  | none => []

/-- What stands behind the request. -/
def response (fields : Fields) : Text :=
  " " ++ decimal fields.status ++ " " ++ fields.sizeText ++ fields.visitorText

def line (fields : Fields) : Text :=
  fields.client ++ "[" ++ fields.time ++ "] \"" ++ fields.request ++ "\"" ++
    fields.response

def texts (fields : Fields) : List Text :=
  [fields.address, fields.identity, fields.user, fields.time, fields.method,
    fields.url, fields.protocol] ++
  match fields.visitor with
  | some (referer, agent) => [referer, agent]
  | none => []

/-- No field holds what it is told from its neighbours by, and the numbers have
no more digits than count. -/
structure Separable (fields : Fields) : Prop where
  unquoted : ∀ text ∈ fields.texts, '"' ∉ text
  unbracketed : ∀ text ∈ [fields.address, fields.identity, fields.user, fields.time],
    '[' ∉ text ∧ ']' ∉ text
  addressUndivided : ' ' ∉ fields.address
  methodUndivided : ' ' ∉ fields.method
  urlUndivided : ' ' ∉ fields.url
  statusFits : fields.status < 10 ^ 9
  sizeFits : ∀ size ∈ fields.size, size < 10 ^ 18

end Fields

theorem request?_append {front request : Text} (frontUnquoted : '"' ∉ front)
    (requestUnquoted : '"' ∉ request) (tail : Text) :
    request? (front ++ '"' :: (request ++ '"' :: tail)) =
      some (request, tail) := by
  rw [request?, cutAt_append frontUnquoted]
  exact cutAt_append requestUnquoted tail

theorem isDigit_eq (char : Char) : isDigit char = char.isDigit := rfl

theorem isDigit_decimal {value : Nat} :
    ∀ char ∈ decimal (value : Int), isDigit char = true := by
  intro char member
  rw [isDigit_eq]
  exact isDigit_of_mem_decimal member

theorem numberOf_decimal {value width : Nat} (positive : 0 < width)
    (fits : value < 10 ^ width) :
    numberOf ((decimal (value : Int)).take width) = value := by
  rw [List.take_of_length_le ((length_decimal_le_iff positive).mpr fits),
    decimal_natCast]
  simp only [numberOf, Nat.mul_comm _ 10]
  exact Nat.ofDigitChars_ten_toDigits

section Decimal

variable {value : Nat} {rest : Text}

theorem decimal_run (value : Nat) (ends : ∀ char ∈ rest.head?, isDigit char = false) :
    (decimal (value : Int) ++ rest).takeWhile isDigit = decimal (value : Int) ∧
      (decimal (value : Int) ++ rest).dropWhile isDigit = rest :=
  takeWhile_append_of_ends ends isDigit_decimal

theorem isDigit_of_first {char : Char}
    (first : char ∈ (decimal (value : Int) ++ rest).head?) :
    isDigit char = true := by
  have own : char ∈ (decimal (value : Int)).head? := by
    rw [List.head?_append, Option.mem_def] at first
    rcases Option.or_eq_some_iff.mp first with own | ⟨absent, _⟩
    · exact own
    · exact absurd (List.head?_eq_none_iff.mp absent) (decimal_ne_nil value)
  exact isDigit_decimal char (List.mem_of_mem_head? own)

theorem dropWhile_space {passed : Char → Bool} (space : passed ' ' = true)
    (number : ∀ char, isDigit char = true → passed char = false) :
    (' ' :: (decimal (value : Int) ++ rest)).dropWhile passed =
      decimal (value : Int) ++ rest := by
  have run : ∀ char ∈ [' '], passed char = true := by simpa using space
  have ends : ∀ char ∈ (decimal (value : Int) ++ rest).head?,
      passed char = false :=
    fun char first => number char (isDigit_of_first first)
  exact (takeWhile_append_of_ends ends run).2

end Decimal

theorem sizeAndRest_decimal {size : Nat} {rest : Text} (fits : size < 10 ^ 18)
    (ends : ∀ char ∈ rest.head?, isDigit char = false) :
    sizeAndRest (' ' :: (decimal (size : Int) ++ rest)) = (size, rest) := by
  obtain ⟨digits, behind⟩ := decimal_run size ends
  have opened : (' ' :: (decimal (size : Int) ++ rest)).dropWhile (· = ' ') =
      decimal (size : Int) ++ rest := by
    apply dropWhile_space (by rfl)
    intro char digit
    apply decide_eq_false
    rintro rfl
    cases digit
  have value : numberOf ((decimal (size : Int)).take maxSizeDigits) = size :=
    numberOf_decimal (by decide) fits
  simp only [sizeAndRest, opened, digits, behind, if_pos (decimal_ne_nil size),
    value]

section Line

variable {fields : Fields} (separable : fields.Separable)

include separable

theorem clientAddress_line : clientAddress fields.line = fields.address := by
  have shape : fields.line = fields.address ++ ' ' ::
      (fields.identity ++ " " ++ fields.user ++ " [" ++ fields.time ++ "] \"" ++
        fields.request ++ "\"" ++ fields.response) := by
    simp [Fields.line, Fields.client]
  rw [clientAddress, shape, cutAt_append separable.addressUndivided]

theorem client_unbracketed : '[' ∉ fields.client ∧ ']' ∉ fields.client := by
  have absent := separable.unbracketed
  simp only [List.mem_cons, List.not_mem_nil, or_false, forall_eq_or_imp,
    forall_eq] at absent
  simp [Fields.client, absent]

theorem timestamp_line : timestamp fields.line = fields.time := by
  have shape : fields.line = fields.client ++ '[' ::
      (fields.time ++ ']' :: (" \"" ++ fields.request ++ "\"" ++
        fields.response)) := by
    simp [Fields.line]
  obtain ⟨noOpening, noClosing⟩ := client_unbracketed separable
  have timeUnclosed : ']' ∉ fields.time :=
    (separable.unbracketed fields.time (by simp)).2
  rw [timestamp, shape, cutAt_append noOpening]
  simp [noClosing, cutAt_append timeUnclosed]

theorem request?_line :
    request? fields.line = some (fields.request, fields.response) := by
  have shape : fields.line =
      (fields.client ++ "[" ++ fields.time ++ "] ") ++ '"' ::
        (fields.request ++ '"' :: fields.response) := by
    simp [Fields.line]
  have absent := separable.unquoted
  simp only [Fields.texts, List.mem_append, List.mem_cons, List.not_mem_nil,
    or_false] at absent
  have frontUnquoted : '"' ∉ fields.client ++ "[" ++ fields.time ++ "] " := by
    simp [Fields.client, absent]
  have requestUnquoted : '"' ∉ fields.request := by
    simp [Fields.request, absent]
  rw [shape]
  exact request?_append frontUnquoted requestUnquoted fields.response

theorem methodAndUrl_request :
    methodAndUrl fields.request = (fields.method, fields.url) := by
  have shape : fields.request =
      fields.method ++ ' ' :: (fields.url ++ ' ' :: fields.protocol) := by
    simp [Fields.request]
  rw [methodAndUrl, shape, cutAt_append separable.methodUndivided]
  simp only [cutAt_append separable.urlUndivided]

theorem refererAndAgent_visitorText :
    refererAndAgent fields.visitorText = fields.visitor.getD ([], []) := by
  cases visitor : fields.visitor with
  | none =>
      simp only [Fields.visitorText, visitor]
      rfl
  | some pair =>
      obtain ⟨referer, agent⟩ := pair
      have absent := separable.unquoted
      simp only [Fields.texts, visitor, List.mem_append, List.mem_cons,
        List.not_mem_nil, or_false] at absent
      have refererUnquoted : '"' ∉ referer := absent referer (by simp)
      have agentUnquoted : '"' ∉ agent := absent agent (by simp)
      have shape : fields.visitorText =
          [' '] ++ '"' :: (referer ++ '"' :: ([' '] ++ '"' ::
            (agent ++ '"' :: []))) := by
        simp [Fields.visitorText, visitor]
      have blank : '"' ∉ [' '] := by decide
      have first : quoted? fields.visitorText =
          some (referer, [' '] ++ '"' :: (agent ++ '"' :: [])) := by
        rw [shape]
        exact request?_append blank refererUnquoted _
      have second : quoted? ([' '] ++ '"' :: (agent ++ '"' :: [])) =
          some (agent, []) :=
        request?_append blank agentUnquoted _
      rw [refererAndAgent, first]
      simp only [second]
      rfl

omit separable in
theorem visitorText_ends : ∀ char ∈ fields.visitorText.head?,
    isDigit char = false := by
  intro char first
  cases visitor : fields.visitor with
  | none => simp [Fields.visitorText, visitor] at first
  | some pair =>
      have blank : ' ' = char := by
        simpa [Fields.visitorText, visitor] using first
      rw [← blank]
      rfl

theorem sizeAndRest_sizeText :
    sizeAndRest (' ' :: (fields.sizeText ++ fields.visitorText)) =
      (fields.size.getD 0, fields.visitorText) := by
  cases size : fields.size with
  | none =>
      simp only [Fields.sizeText, size]
      rfl
  | some value =>
      simp only [Fields.sizeText, size]
      exact sizeAndRest_decimal (separable.sizeFits value size) visitorText_ends

theorem readResponse_response (request : WebRequest) :
    readResponse request fields.response =
      ({ request with
          status := (fields.status : Nat)
          responseSize := (fields.size.getD 0 : Nat)
          referer := (fields.visitor.getD ([], [])).1
          userAgent := (fields.visitor.getD ([], [])).2 },
        severityOfStatus fields.status) := by
  let behind := ' ' :: (fields.sizeText ++ fields.visitorText)
  have shape : fields.response = ' ' :: (decimal fields.status ++ behind) := by
    simp [Fields.response, behind]
  have ends : ∀ char ∈ behind.head?, isDigit char = false := by
    simp [behind, isDigit]
  obtain ⟨digits, rest⟩ := decimal_run fields.status ends
  have opened : (' ' :: (decimal (fields.status : Int) ++ behind)).dropWhile
      (!isDigit ·) = decimal (fields.status : Int) ++ behind := by
    apply dropWhile_space (by rfl)
    intro char digit
    rw [digit]
    rfl
  have status : numberOf ((decimal (fields.status : Int)).take maxStatusDigits) =
      fields.status :=
    numberOf_decimal (by decide) separable.statusFits
  have some : decimal (fields.status : Int) ++ behind ≠ [] :=
    List.append_ne_nil_of_left_ne_nil (decimal_ne_nil _) _
  simp only [readResponse, shape, opened, if_neg some, digits, rest, status]
  simp only [behind, sizeAndRest_sizeText separable,
    refererAndAgent_visitorText separable]

end Line

/-- A line that is put together from separable fields is read as exactly these
fields. -/
theorem webAccess_read_line {fields : Fields} (separable : fields.Separable) :
    LogFormat.webAccess.read fields.line =
      { message := fields.line
        timestamp := fields.time
        severity :=
          if 500 ≤ fields.status then .error
          else if 400 ≤ fields.status then .warning
          else .info
        source := []
        web :=
          { clientAddress := fields.address
            method := fields.method
            url := fields.url
            status := (fields.status : Nat)
            responseSize := (fields.size.getD 0 : Nat)
            referer := (fields.visitor.map Prod.fst).getD []
            userAgent := (fields.visitor.map Prod.snd).getD [] } } := by
  have severity : severityOfStatus (fields.status : Nat) =
      if 500 ≤ fields.status then .error
      else if 400 ≤ fields.status then .warning
      else .info := by
    have server : (500 : Int) ≤ (fields.status : Nat) ↔ 500 ≤ fields.status := by
      omega
    have client : (400 : Int) ≤ (fields.status : Nat) ↔ 400 ≤ fields.status := by
      omega
    simp only [severityOfStatus, server, client]
  have visitor : fields.visitor.getD ([], []) =
      ((fields.visitor.map Prod.fst).getD [],
        (fields.visitor.map Prod.snd).getD []) := by
    cases fields.visitor <;> rfl
  change read fields.line = _
  simp only [read, request?_line separable, methodAndUrl_request separable,
    readResponse_response separable, clientAddress_line separable,
    timestamp_line separable, severity, visitor]

theorem webAccess_read_line_odd :
    let fields : Fields :=
      { address := []
        identity := "- 1"
        user := ""
        time := "10 Oct \t"
        method := "GET"
        url := []
        protocol := "HTTP/1.1 404 -"
        status := 500000000
        size := some 999999999999999999
        visitor := some ("", "a [503] -") }
    fields.Separable ∧
      fields.line =
        (" - 1  [10 Oct \t] \"GET  HTTP/1.1 404 -\" 500000000 " ++
          "999999999999999999 \"\" \"a [503] -\"" : String) ∧
      LogFormat.webAccess.read fields.line =
        { message := fields.line
          timestamp := "10 Oct \t"
          severity := .error
          web :=
            { method := "GET"
              status := 500000000
              responseSize := 999999999999999999
              userAgent := "a [503] -" } } := by
  intro fields
  have separable : fields.Separable := by
    constructor <;> decide
  exact ⟨separable, by decide +kernel, webAccess_read_line separable⟩

end Access

namespace Access

/-- What a line of an access log states if it has a dash in place of the status.
The texts that follow the size between quotes are the referer and the user agent,
as far as they are given. -/
structure Statusless where
  address : Text
  time : Text
  request : Text
  size : Option Nat
  quoted : List Text
  deriving DecidableEq, Repr

namespace Statusless

def sizeText (stated : Statusless) : Text :=
  match stated.size with
  | some size => decimal size
  | none => "-"

def quotedText (stated : Statusless) : Text :=
  stated.quoted.flatMap fun text => " \"" ++ text ++ "\""

/-- What stands behind the request. -/
def response (stated : Statusless) : Text :=
  " - " ++ stated.sizeText ++ stated.quotedText

def line (stated : Statusless) : Text :=
  stated.address ++ " - - [" ++ stated.time ++ "] \"" ++ stated.request ++ "\"" ++
    stated.response

end Statusless

theorem status?_eq_none_iff {text request tail : Text}
    (found : request? text = some (request, tail)) :
    status? text = none ↔ tail.any isDigit = false := by
  have passed : tail.dropWhile (!isDigit ·) = [] ↔ tail.any isDigit = false := by
    rw [List.dropWhile_eq_nil_iff, List.any_eq_false]
    simp only [Bool.not_eq_true', Bool.not_eq_true]
  rw [← passed, status?, found]
  change (if tail.dropWhile (!isDigit ·) = [] then none else some _) = none ↔ _
  by_cases none : tail.dropWhile (!isDigit ·) = []
  · simp only [none, if_true]
  · simp only [none, if_false, reduceCtorEq]

theorem severityOf_eq_unknown_iff {status : Option Nat} :
    severityOf status = .unknown ↔ status = none := by
  cases status with
  | none => simp [severityOf]
  | some status =>
      simp only [severityOf, Option.elim_some, severityOfStatus]
      split_ifs <;> simp

section Line

variable {stated : Statusless}

theorem request?_statusless
    (unquoted : ∀ text ∈ [stated.address, stated.time, stated.request],
      '"' ∉ text) :
    request? stated.line = some (stated.request, stated.response) := by
  simp only [List.mem_cons, List.not_mem_nil, or_false, forall_eq_or_imp,
    forall_eq] at unquoted
  obtain ⟨address, time, request⟩ := unquoted
  have shape : stated.line =
      (stated.address ++ " - - [" ++ stated.time ++ "] ") ++ '"' ::
        (stated.request ++ '"' :: stated.response) := by
    simp [Statusless.line]
  have frontUnquoted : '"' ∉ stated.address ++ " - - [" ++ stated.time ++ "] " := by
    simp [address, time]
  rw [shape]
  exact request?_append frontUnquoted request stated.response

theorem sizeText_digitless :
    stated.sizeText.any isDigit = false ↔ stated.size = none := by
  cases size : stated.size with
  | none =>
      simp only [Statusless.sizeText, size]
      decide
  | some value =>
      obtain ⟨char, member⟩ := List.exists_mem_of_ne_nil _ (decimal_ne_nil value)
      have numeric : (decimal (value : Int)).any isDigit = true :=
        List.any_eq_true.mpr ⟨char, member, isDigit_decimal char member⟩
      simp only [Statusless.sizeText, size, numeric, reduceCtorEq]

theorem quotedText_digitless :
    stated.quotedText.any isDigit = false ↔
      ∀ text ∈ stated.quoted, text.any isDigit = false := by
  have opening : (" \"" : Text).any isDigit = false := by decide
  have closing : ("\"" : Text).any isDigit = false := by decide
  simp only [Statusless.quotedText, List.any_flatMap, List.any_append, opening,
    closing, Bool.false_or, Bool.or_false, List.any_eq_false, Bool.not_eq_true]

theorem response_digitless :
    stated.response.any isDigit = false ↔
      stated.size = none ∧ ∀ text ∈ stated.quoted, text.any isDigit = false := by
  have dash : (" - " : Text).any isDigit = false := by decide
  rw [Statusless.response, List.any_append, List.any_append, dash, Bool.false_or,
    Bool.or_eq_false_iff, sizeText_digitless, quotedText_digitless]

end Line

/-- A line with a dash in place of the status is read as one without a status
exactly if its size is a dash too and neither its referer nor its user agent has a
digit. -/
theorem webAccess_read_statusless_iff {stated : Statusless}
    (unquoted : ∀ text ∈ [stated.address, stated.time, stated.request],
      '"' ∉ text) :
    (LogFormat.webAccess.read stated.line).web.status = 0 ∧
        (LogFormat.webAccess.read stated.line).severity = .unknown ↔
      stated.size = none ∧ ∀ text ∈ stated.quoted, text.any isDigit = false := by
  have missing := status?_eq_none_iff (request?_statusless unquoted)
  rw [response_digitless] at missing
  obtain ⟨status, severity⟩ := read_status stated.line
  change (read stated.line).web.status = 0 ∧ (read stated.line).severity = _ ↔ _
  rw [status, severity, severityOf_eq_unknown_iff, missing]
  constructor
  · exact fun both => both.2
  · intro digitless
    rw [missing.mpr digitless]
    exact ⟨rfl, digitless⟩

theorem webAccess_read_statusless_iff_dashes :
    let stated : Statusless :=
      { address := "10.0.0.1"
        time := "10/Oct/2023"
        request := "GET /a[1]?b=200 HTTP/1.1"
        size := none
        quoted := ["-", "curl -"] }
    (∀ text ∈ [stated.address, stated.time, stated.request], '"' ∉ text) ∧
      stated.line =
        ("10.0.0.1 - - [10/Oct/2023] \"GET /a[1]?b=200 HTTP/1.1\" - - \"-\" " ++
          "\"curl -\"" : String) ∧
      (LogFormat.webAccess.read stated.line).web.status = 0 ∧
      (LogFormat.webAccess.read stated.line).severity = .unknown := by
  intro stated
  have unquoted :
      ∀ text ∈ [stated.address, stated.time, stated.request], '"' ∉ text := by
    decide +kernel
  have digitless : stated.size = none ∧
      ∀ text ∈ stated.quoted, text.any isDigit = false := by
    decide +kernel
  exact ⟨unquoted, by decide +kernel,
    (webAccess_read_statusless_iff unquoted).mpr digitless⟩

/-- Where a size follows the dash, or a digit stands in the user agent, this is
read as the status, and the line gets a severity. -/
theorem webAccess_read_takes_size_for_status :
    let sized : Statusless :=
      { address := "1.2.3.4"
        time := "x"
        request := "GET / HTTP/1.1"
        size := some 512
        quoted := [] }
    let visited : Statusless :=
      { sized with size := none, quoted := ["-", "curl/8.0"] }
    sized.line =
        ("1.2.3.4 - - [x] \"GET / HTTP/1.1\" - 512" : String) ∧
      (LogFormat.webAccess.read sized.line).web.status = 512 ∧
      (LogFormat.webAccess.read sized.line).severity = .error ∧
      visited.line =
        ("1.2.3.4 - - [x] \"GET / HTTP/1.1\" - - \"-\" \"curl/8.0\"" : String) ∧
      (LogFormat.webAccess.read visited.line).web.status = 8 ∧
      (LogFormat.webAccess.read visited.line).severity = .info := by
  decide +kernel

end Access

end LogLens
