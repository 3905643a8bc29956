import Mathlib.Algebra.Group.Int.Defs
import Mathlib.Algebra.Group.Nat.Defs
import LogLens.Proofs.Record.Access
import LogLens.Proofs.Text.Decimal
import LogLens.Proofs.Text.Search

/-!
# Where the fields of an entry come from

Whatever a line holds, its entry keeps the place of the line, and every text of the
entry is a part of the line.  The parts of a request lack the characters that they
are told apart by, and the numbers are bounded because only some of their digits
count.
-/

namespace LogLens

/-- A part of a text that is free of certain characters. -/
structure Excerpt (excluded text part : Text) : Prop where
  within : part <:+: text
  free : ∀ char ∈ excluded, char ∉ part

namespace Excerpt

variable {excluded text part : Text}

theorem nil (excluded text : Text) : Excerpt excluded text [] :=
  ⟨List.nil_infix, fun _ _ => List.not_mem_nil⟩

theorem widen {whole : Text} (excerpt : Excerpt excluded whole part)
    (within : whole <:+: text) : Excerpt excluded text part :=
  ⟨excerpt.within.trans within, excerpt.free⟩

theorem narrow {further whole : Text} (outer : Excerpt excluded text whole)
    (inner : Excerpt further whole part) :
    Excerpt (further ++ excluded) text part := by
  refine ⟨inner.within.trans outer.within, ?_⟩
  intro char member
  rcases List.mem_append.mp member with own | inherited
  · exact inner.free char own
  · exact fun inside => outer.free char inherited (inner.within.subset inside)

theorem of_cutAt {char : Char} {before after : Text}
    (cut : cutAt [char] text = some (before, after)) :
    Excerpt [char] text before := by
  refine ⟨(prefix_of_cutAt cut).isInfix, ?_⟩
  intro other member
  rw [List.mem_singleton.mp member]
  exact not_mem_of_cutAt cut

end Excerpt

/-- The texts of a request are parts of a text, without what they end at, and its
numbers have no more digits than count. -/
structure WebRequest.TakenFrom (text : Text) (request : WebRequest) : Prop where
  clientAddress : Excerpt [' '] text request.clientAddress
  method : Excerpt [' ', '"'] text request.method
  url : Excerpt [' ', '"'] text request.url
  referer : Excerpt ['"'] text request.referer
  userAgent : Excerpt ['"'] text request.userAgent
  status : 0 ≤ request.status ∧ request.status < 10 ^ 9
  responseSize : 0 ≤ request.responseSize ∧ request.responseSize < 10 ^ 18

theorem WebRequest.TakenFrom.blank (text : Text) :
    WebRequest.TakenFrom text {} where
  clientAddress := .nil _ _
  method := .nil _ _
  url := .nil _ _
  referer := .nil _ _
  userAgent := .nil _ _
  status := by decide
  responseSize := by decide

/-- A record says nothing that is not in its text, and its message reaches the end
of the text. -/
structure Record.TakenFrom (text : Text) (record : Record) : Prop where
  message : record.message <:+ text
  filled : record.message = [] ↔ text = []
  timestamp : record.timestamp <:+: text
  source : record.source <:+: text
  web : record.web.TakenFrom text

namespace Access

theorem numberOf_lt {digits : Text}
    (numeric : ∀ digit ∈ digits, isDigit digit = true) :
    numberOf digits < 10 ^ digits.length := by
  have bound : ∀ start : Nat,
      digits.foldl (fun value digit => value * 10 + (digit.toNat - '0'.toNat))
        start < (start + 1) * 10 ^ digits.length := by
    induction digits with
    | nil => simp
    | cons digit rest induction =>
        intro start
        have digitBound : digit.toNat - '0'.toNat ≤ 9 := by
          have high := toNat_of_isDigit (numeric digit (by simp))
          simp only [Char.reduceToNat]
          omega
        have restNumeric : ∀ digit ∈ rest, isDigit digit = true :=
          fun other member => numeric other (by simp [member])
        rw [List.foldl_cons, List.length_cons, Nat.pow_succ']
        apply Nat.lt_of_lt_of_le (induction restNumeric _)
        rw [← Nat.mul_assoc]
        apply Nat.mul_le_mul_right
        omega
  simpa [numberOf] using bound 0

theorem numberOf_run_lt (text : Text) (width : Nat) :
    numberOf ((text.takeWhile isDigit).take width) < 10 ^ width := by
  have numeric : ∀ digit ∈ (text.takeWhile isDigit).take width,
      isDigit digit = true :=
    fun digit member =>
      List.all_eq_true.mp List.all_takeWhile digit (List.mem_of_mem_take member)
  exact Nat.lt_of_lt_of_le (numberOf_lt numeric)
    (Nat.pow_le_pow_right (by decide) (List.length_take_le _ _))

section Parts

variable (text : Text)

theorem clientAddress_excerpt : Excerpt [' '] text (clientAddress text) := by
  unfold clientAddress
  split
  · rename_i cut
    exact .of_cutAt cut
  · exact .nil _ _

theorem timestamp_isInfix : timestamp text <:+: text := by
  unfold timestamp
  split
  · rename_i before after opened
    split
    · exact List.nil_infix
    · split
      · rename_i closed
        exact (prefix_of_cutAt closed).isInfix.trans
          (suffix_of_cutAt opened).isInfix
      · exact List.nil_infix
  · exact List.nil_infix

variable {text} in
theorem excerpt_of_request? {request tail : Text}
    (found : request? text = some (request, tail)) :
    Excerpt ['"'] text request ∧ tail <:+ text := by
  obtain ⟨⟨before, opened⟩, opens, closes⟩ := Option.bind_eq_some_iff.mp found
  have behind : opened <:+ text := suffix_of_cutAt opens
  exact ⟨(Excerpt.of_cutAt closes).widen behind.isInfix,
    (suffix_of_cutAt closes).trans behind⟩

theorem methodAndUrl_excerpt (request : Text) :
    Excerpt [' '] request (methodAndUrl request).1 ∧
      Excerpt [' '] request (methodAndUrl request).2 := by
  unfold methodAndUrl
  split
  · exact ⟨.nil _ _, .nil _ _⟩
  · rename_i method rest methodEnds
    split
    · exact ⟨.of_cutAt methodEnds, .nil _ _⟩
    · rename_i urlEnds
      exact ⟨.of_cutAt methodEnds,
        (Excerpt.of_cutAt urlEnds).widen (suffix_of_cutAt methodEnds).isInfix⟩

theorem refererAndAgent_excerpt :
    Excerpt ['"'] text (refererAndAgent text).1 ∧
      Excerpt ['"'] text (refererAndAgent text).2 := by
  unfold refererAndAgent
  split
  · exact ⟨.nil _ _, .nil _ _⟩
  · rename_i referer rest first
    obtain ⟨refererPart, behind⟩ := excerpt_of_request? first
    split
    · exact ⟨refererPart, .nil _ _⟩
    · rename_i second
      obtain ⟨agentPart, _⟩ := excerpt_of_request? second
      exact ⟨refererPart, agentPart.widen behind.isInfix⟩

theorem sizeAndRest_bounded :
    (sizeAndRest text).1 < 10 ^ 18 ∧ (sizeAndRest text).2 <:+ text := by
  have behind : text.dropWhile (· = ' ') <:+ text := List.dropWhile_suffix _
  simp only [sizeAndRest]
  split
  · exact ⟨numberOf_run_lt _ maxSizeDigits,
      (List.dropWhile_suffix _).trans behind⟩
  · split
    · rename_i rest dash
      rw [dash] at behind
      exact ⟨Nat.pow_pos (by decide), (List.suffix_cons '-' rest).trans behind⟩
    · exact ⟨Nat.pow_pos (by decide), List.suffix_rfl⟩

end Parts

theorem readResponse_takenFrom {text tail : Text} {request : WebRequest}
    (taken : request.TakenFrom text) (behind : tail <:+ text) :
    (readResponse request tail).1.TakenFrom text := by
  simp only [readResponse]
  split
  · exact taken
  · let opened := tail.dropWhile (!isDigit ·)
    let afterStatus := opened.dropWhile isDigit
    have within : afterStatus <:+ text :=
      (List.dropWhile_suffix _).trans ((List.dropWhile_suffix _).trans behind)
    have statusBound :
        (numberOf ((opened.takeWhile isDigit).take maxStatusDigits) : Int) <
          10 ^ 9 := by
      exact_mod_cast numberOf_run_lt opened maxStatusDigits
    obtain ⟨sizeFits, restBehind⟩ := sizeAndRest_bounded afterStatus
    have sizeBound : ((sizeAndRest afterStatus).1 : Int) < 10 ^ 18 := by
      exact_mod_cast sizeFits
    have visitorWithin : (sizeAndRest afterStatus).2 <:+: text :=
      (restBehind.trans within).isInfix
    obtain ⟨referer, agent⟩ := refererAndAgent_excerpt (sizeAndRest afterStatus).2
    exact
      { clientAddress := taken.clientAddress
        method := taken.method
        url := taken.url
        referer := referer.widen visitorWithin
        userAgent := agent.widen visitorWithin
        status := ⟨Int.natCast_nonneg _, statusBound⟩
        responseSize := ⟨Int.natCast_nonneg _, sizeBound⟩ }

theorem read_takenFrom (text : Text) : (read text).TakenFrom text := by
  have client : WebRequest.TakenFrom text { clientAddress := clientAddress text } :=
    { WebRequest.TakenFrom.blank text with
      clientAddress := clientAddress_excerpt text }
  have web : (read text).web.TakenFrom text := by
    unfold read
    split
    · exact client
    · rename_i request tail found
      obtain ⟨unquoted, behind⟩ := excerpt_of_request? found
      obtain ⟨method, url⟩ := methodAndUrl_excerpt request
      have asked : WebRequest.TakenFrom text
          { clientAddress := clientAddress text
            method := (methodAndUrl request).1
            url := (methodAndUrl request).2 } :=
        { client with
          method := unquoted.narrow method
          url := unquoted.narrow url }
      exact readResponse_takenFrom asked behind
  exact
    { message := List.suffix_rfl
      filled := Iff.rfl
      timestamp := timestamp_isInfix text
      source := List.nil_infix
      web := web }

end Access

section Parts

variable (text : Text)

theorem Generic.read_takenFrom : (Generic.read text).TakenFrom text := by
  have time : Generic.timestamp text <:+: text := by
    unfold Generic.timestamp
    split
    · split
      · rename_i rest _ _ closed
        exact (prefix_of_cutAt closed).isInfix.trans (List.suffix_cons _ _).isInfix
      · exact List.nil_infix
    · split
      · split
        · exact (List.take_prefix _ _).isInfix
        · exact (List.take_prefix _ _).isInfix
      · exact List.nil_infix
  exact
    { message := List.suffix_rfl
      filled := Iff.rfl
      timestamp := time
      source := List.nil_infix
      web := .blank text }

theorem message_of_suffix {text message : Text} (within : message <:+ text) :
    (if message = [] then text else message) <:+ text ∧
      ((if message = [] then text else message) = [] ↔ text = []) := by
  by_cases empty : message = []
  · rw [if_pos empty]
    exact ⟨List.suffix_rfl, Iff.rfl⟩
  · have filled : text ≠ [] := by
      rintro rfl
      exact empty (List.suffix_nil.mp within)
    rw [if_neg empty]
    exact ⟨within, iff_of_false empty filled⟩

namespace Syslog

theorem sourceAndBody_parts :
    (sourceAndBody text).1 <:+: text ∧ (sourceAndBody text).2 <:+ text := by
  unfold sourceAndBody
  split
  · rename_i before after cut
    split
    · refine ⟨?_, suffix_of_cutAt cut⟩
      have header : before.drop hostOffset <:+: text :=
        (List.drop_suffix _ _).isInfix.trans (prefix_of_cutAt cut).isInfix
      unfold processOf
      split
      · rename_i divided
        exact (suffix_of_cutAt divided).isInfix.trans header
      · exact List.nil_infix
    · exact ⟨List.nil_infix, List.suffix_rfl⟩
  · exact ⟨List.nil_infix, List.suffix_rfl⟩

theorem read_takenFrom : (read text).TakenFrom text := by
  obtain ⟨source, body⟩ := sourceAndBody_parts text
  obtain ⟨message, filled⟩ := message_of_suffix body
  have time : (read text).timestamp <:+: text := by
    simp only [read]
    split
    · exact (List.take_prefix _ _).isInfix
    · exact List.nil_infix
  exact
    { message := message
      filled := filled
      timestamp := time
      source := source
      web := .blank text }

end Syslog

namespace Structured

theorem timestamp_isPrefix : timestamp text <+: text := by
  unfold timestamp
  split
  · exact List.take_prefix _ _
  · exact List.nil_prefix

theorem trimSource_isInfix : trimSource text <:+: text := by
  let opened := text.dropWhile fun char => char = ' ' ∨ char = '['
  have closed : trimSource text <+: opened := by
    rw [← List.reverse_suffix, trimSource, List.reverse_reverse]
    exact List.dropWhile_suffix _
  exact closed.isInfix.trans (List.dropWhile_suffix _).isInfix

theorem sourceAndMessage_parts :
    (sourceAndMessage text).1 <:+: text ∧ (sourceAndMessage text).2 <:+ text := by
  unfold sourceAndMessage
  split
  · rename_i source message cut
    exact ⟨(trimSource_isInfix source).trans (prefix_of_cutAt cut).isInfix,
      suffix_of_cutAt cut⟩
  · exact ⟨List.nil_infix, List.suffix_rfl⟩

variable {text} in
theorem after_isSuffix_of_findSeverity? {found : FoundWord}
    (sought : findSeverity? text = some found) : found.after <:+ text := by
  obtain ⟨word, _, here⟩ := List.exists_of_findSome?_eq_some sought
  unfold findWord? at here
  split at here
  · rename_i before after cut
    split at here
    · cases here
      exact suffix_of_cutAt cut
    · cases here
  · cases here

theorem read_takenFrom : (read text).TakenFrom text := by
  have time := (timestamp_isPrefix text).isInfix
  simp only [read]
  split
  · exact
      { message := List.suffix_rfl
        filled := Iff.rfl
        timestamp := time
        source := List.nil_infix
        web := .blank text }
  · rename_i found sought
    have behind : found.after <:+ text :=
      (after_isSuffix_of_findSeverity? sought).trans (List.drop_suffix _ _)
    obtain ⟨source, rest⟩ := sourceAndMessage_parts found.after
    obtain ⟨message, filled⟩ := message_of_suffix (rest.trans behind)
    exact
      { message := message
        filled := filled
        timestamp := time
        source := source.trans behind.isInfix
        web := .blank text }

end Structured

theorem LogFormat.read_takenFrom (format : LogFormat) :
    (format.read text).TakenFrom text := by
  cases format with
  | webAccess => exact Access.read_takenFrom text
  | syslog => exact Syslog.read_takenFrom text
  | structured => exact Structured.read_takenFrom text
  | _ => exact Generic.read_takenFrom text

end Parts

/-- The severity of an access log line is that of its status, and it is only
unknown where the status is missing and noted as zero. -/
theorem Access.read_severity (text : Text) :
    ((read text).severity = .unknown → (read text).web.status = 0) ∧
      ((read text).severity ≠ .unknown →
        (read text).severity = severityOfStatus (read text).web.status) := by
  obtain ⟨status, severity⟩ := read_status text
  rw [status, severity]
  cases status? text with
  | none => exact ⟨fun _ => rfl, fun known => absurd rfl known⟩
  | some given =>
      refine ⟨?_, fun _ => rfl⟩
      intro unknown
      simp only [severityOf, Option.elim_some, severityOfStatus] at unknown
      split at unknown
      · cases unknown
      · split at unknown <;> cases unknown

/-- The entry of a line keeps the place of the line, and whatever it says is taken
from the text of the line.  A line of an access log has the severity of its status,
unless no status was found, and no other line says anything about a request. -/
theorem LogFormat.ofLine_provenance (format : LogFormat) (line : Line) :
    let entry := Entry.ofLine format.read line
    (entry.lineNumber = line.number ∧ entry.lineStart = line.start ∧
      entry.lineStop = line.stop) ∧
    entry.toRecord.TakenFrom line.text ∧
    (format = .webAccess →
      (entry.severity = .unknown → entry.web.status = 0) ∧
      (entry.severity ≠ .unknown →
        entry.severity = Access.severityOfStatus entry.web.status)) ∧
    (format ≠ .webAccess → entry.web = {}) := by
  intro entry
  refine ⟨⟨rfl, rfl, rfl⟩, format.read_takenFrom line.text, ?_, ?_⟩
  · rintro rfl
    exact Access.read_severity line.text
  · intro other
    exact format.read_web other line.text

theorem LogFormat.ofLine_provenance_overlapping :
    let line : Line :=
      { number := 7
        start := -1
        stop := 0
        text := "\"GET[ /a b\"-1234567890 -\"r\"" }
    let entry := Entry.ofLine LogFormat.webAccess.read line
    entry =
        { message := "\"GET[ /a b\"-1234567890 -\"r\""
          severity := .error
          web :=
            { clientAddress := "\"GET["
              method := "GET["
              url := "/a"
              status := 123456789
              referer := "r" }
          lineNumber := 7
          lineStart := -1
          lineStop := 0 } ∧
      entry.toRecord.TakenFrom line.text ∧
      entry.severity = Access.severityOfStatus entry.web.status := by
  intro line entry
  have provenance := LogFormat.ofLine_provenance .webAccess line
  have known : entry.severity ≠ .unknown := by decide +kernel
  exact ⟨by decide +kernel, provenance.2.1, (provenance.2.2.1 rfl).2 known⟩

end LogLens
