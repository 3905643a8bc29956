import Mathlib.Data.List.Infix
import Mathlib.Data.List.Nodup
import LogLens.Proofs.Record.Access
import LogLens.Proofs.Text.Search
import LogLens.Report.Request

/-!
# What the structured value of an entry keeps

The structured value of an entry shows all that its line says, except for what it says
about a request: this is left out together where there is neither a status nor a client.
Lines of access logs can give a method, an address or more without either, and then the
value is the same as that of a line that says nothing about a request.
-/

namespace LogLens

theorem Json.ofFilled_inj {text other : Text} :
    Json.ofFilled text = Json.ofFilled other ↔ text = other := by
  unfold Json.ofFilled
  split <;> split <;> simp_all [eq_comm]

theorem Severity.lower_name_inj {severity other : Severity} :
    severity.name.lower = other.name.lower ↔ severity = other := by
  have distinct : (all.map fun severity => severity.name.lower).Nodup := by decide +kernel
  constructor
  · exact List.inj_on_of_nodup_map distinct (mem_all severity) (mem_all other)
  · rintro rfl
    rfl

namespace Access

theorem clientAddress_eq_nil_iff {text : Text} :
    clientAddress text = [] ↔ ' ' ∉ text ∨ text.head? = some ' ' := by
  unfold clientAddress
  cases cut : cutAt [' '] text with
  | none =>
      have absent : ' ' ∉ text := by
        have nowhere := cutAt_eq_none_iff.mp cut
        rwa [← Bool.not_eq_true, occursIn_iff, List.singleton_infix_iff] at nowhere
      simp [absent]
  | some parts =>
      obtain ⟨address, rest⟩ := parts
      have whole := cutAt_eq cut
      have before := not_mem_of_cutAt cut
      have present : ' ' ∈ text := by simp [whole]
      cases address with
      | nil => simp [whole]
      | cons char address =>
          have different : char ≠ ' ' := (List.ne_of_not_mem_cons before).symm
          simp [whole, different]

theorem read_clientAddress (text : Text) :
    (read text).web.clientAddress = clientAddress text := by
  cases found : request? text with
  | none => simp only [read, found]
  | some parts =>
      simp only [read, found, readResponse]
      split <;> rfl

end Access

/-- A line is read as one of an access log, and it says something about a request but
names neither a client nor a status other than zero. -/
def ConcealsRequest (format : LogFormat) (text : Text) : Prop :=
  let web := (format.read text).web
  format = .webAccess ∧ (' ' ∉ text ∨ text.head? = some ' ') ∧
    (Access.status? text).getD 0 = 0 ∧
    (web.method ≠ [] ∨ web.url ≠ [] ∨ web.responseSize ≠ 0 ∨ web.referer ≠ [] ∨
      web.userAgent ≠ [])

theorem WebRequest.ne_blank_iff {web : WebRequest} (status : web.status = 0)
    (client : web.clientAddress = []) :
    web ≠ {} ↔ web.method ≠ [] ∨ web.url ≠ [] ∨ web.responseSize ≠ 0 ∨ web.referer ≠ [] ∨
      web.userAgent ≠ [] := by
  cases web
  subst status client
  simp only [ne_eq, WebRequest.mk.injEq, true_and, ← not_and_or]

namespace Report

variable {entry other : Entry}

/-- A request is told by the members of its value. -/
theorem webJson_ext {web request : WebRequest}
    (same : ∀ name value, (webJson web).member? name = some value →
      (webJson request).member? name = some value) : web = request := by
  have address : some (Json.text request.clientAddress) = some (.text web.clientAddress) :=
    same "ip_address" _ rfl
  have method : some (Json.text request.method) = some (.text web.method) :=
    same "http_method" _ rfl
  have url : some (Json.text request.url) = some (.text web.url) := same "url" _ rfl
  have status : some (Json.number request.status) = some (.number web.status) :=
    same "http_status" _ rfl
  have size : some (Json.number request.responseSize) = some (.number web.responseSize) :=
    same "response_size" _ rfl
  have referer : some (Json.text request.referer) = some (.text web.referer) :=
    same "referer" _ rfl
  have agent : some (Json.text request.userAgent) = some (.text web.userAgent) :=
    same "user_agent" _ rfl
  simp only [Option.some.injEq, Json.text.injEq, Json.number.injEq] at *
  cases web
  cases request
  simp_all

theorem showsWeb_eq_false_iff :
    showsWeb entry = false ↔ entry.web.status = 0 ∧ entry.web.clientAddress = [] := by
  simp [showsWeb]

theorem member?_web :
    (entryJson entry).member? "web" =
      if showsWeb entry then some (webJson entry.web) else none := by
  have fields : (entryFields entry).lookup ("web" : String).toList = none := rfl
  rw [entryJson, Json.member?, List.lookup_append, fields, webFields]
  cases showsWeb entry <;> rfl

theorem entryFields_inj :
    entryFields entry = entryFields other ↔
      { entry with web := {} } = { other with web := {} } := by
  simp only [entryFields, List.cons.injEq, Prod.mk.injEq, true_and, and_true,
    Json.number.injEq, Json.text.injEq, Json.ofFilled_inj, Severity.lower_name_inj]
  obtain ⟨record, _, _, _⟩ := entry
  obtain ⟨otherRecord, _, _, _⟩ := other
  cases record
  cases otherRecord
  constructor
  · rintro ⟨rfl, rfl, rfl, rfl, rfl, rfl, rfl⟩
    rfl
  · intro same
    cases same
    simp

/-- Equal values are those of entries that differ at most in what they say about a
request, and only where this is left out. -/
theorem entryJson_eq_iff :
    entryJson entry = entryJson other ↔
      { entry with web := {} } = { other with web := {} } ∧
        showsWeb entry = showsWeb other ∧
        (showsWeb entry = true → entry.web = other.web) := by
  have sameLength : (entryFields entry).length = (entryFields other).length := rfl
  have webs : webFields entry = webFields other ↔ showsWeb entry = showsWeb other ∧
      (showsWeb entry = true → entry.web = other.web) := by
    have values : webJson entry.web = webJson other.web ↔ entry.web = other.web := by
      constructor
      · intro same
        exact webJson_ext fun name value found => same ▸ found
      · intro same
        rw [same]
    unfold webFields
    cases showsWeb entry <;> cases showsWeb other <;> simp [values]
  rw [← entryFields_inj, ← webs, entryJson, entryJson, Json.object.injEq]
  constructor
  · exact fun same => List.append_inj same sameLength
  · rintro ⟨fields, web⟩
    rw [fields, web]

theorem entry_ext (rest : { entry with web := {} } = { other with web := {} })
    (web : entry.web = other.web) : entry = other := by
  obtain ⟨record, _, _, _⟩ := entry
  obtain ⟨otherRecord, _, _, _⟩ := other
  cases record
  cases otherRecord
  cases rest
  cases web
  rfl

/-- Everything that an entry says about a request is shown exactly if it shows its
request or has none. -/
theorem shows_iff :
    (∀ name value, (webJson entry.web).member? name = some value →
      (webJson {}).member? name ≠ some value →
      ((entryJson entry).member? "web").bind (Json.member? name) = some value) ↔
      showsWeb entry = true ∨ entry.web = {} := by
  rw [member?_web]
  cases showsWeb entry with
  | true =>
      simp only [if_true, Option.bind_some, true_or, iff_true]
      exact fun name value found _ => found
  | false =>
      simp only [Bool.false_eq_true, if_false, Option.bind_none, false_or]
      constructor
      · intro hidden
        apply webJson_ext
        intro name value found
        by_contra differs
        exact Option.some_ne_none value (hidden name value found differs).symm
      · intro blank name value found differs
        rw [blank] at found
        exact absurd found differs

/-- A request is left out exactly where its line says something about it and names
neither its client nor a status. -/
theorem concealsRequest_iff {format : LogFormat} {line : Line} :
    ConcealsRequest format line.text ↔
      ¬(showsWeb (Entry.ofLine format.read line) = true ∨
        (Entry.ofLine format.read line).web = {}) := by
  rw [not_or, Bool.not_eq_true, showsWeb_eq_false_iff]
  change ConcealsRequest format line.text ↔
    ((format.read line.text).web.status = 0 ∧
      (format.read line.text).web.clientAddress = []) ∧ ¬(format.read line.text).web = {}
  by_cases access : format = .webAccess
  · have status : (format.read line.text).web.status = 0 ↔
        (Access.status? line.text).getD 0 = 0 := by
      subst access
      exact (Access.read_status line.text).1 ▸ Int.natCast_eq_zero
    have client : (format.read line.text).web.clientAddress = [] ↔
        ' ' ∉ line.text ∨ line.text.head? = some ' ' := by
      subst access
      rw [← Access.clientAddress_eq_nil_iff, ← Access.read_clientAddress]
      rfl
    rw [ConcealsRequest, ← status, ← client]
    constructor
    · rintro ⟨_, unnamed, zero, something⟩
      exact ⟨⟨zero, unnamed⟩, (WebRequest.ne_blank_iff zero unnamed).mpr something⟩
    · rintro ⟨⟨zero, unnamed⟩, something⟩
      exact ⟨access, unnamed, zero, (WebRequest.ne_blank_iff zero unnamed).mp something⟩
  · have blank := LogFormat.read_web access line.text
    simp [ConcealsRequest, access, blank]

section Pair

variable {format reader : LogFormat} {line further : Line}

theorem web_eq_of_conceals (conceals : ConcealsRequest format line.text)
    (too : ConcealsRequest reader further.text)
    (same : { Entry.ofLine format.read line with web := {} } =
      { Entry.ofLine reader.read further with web := {} }) :
    (Entry.ofLine format.read line).web = (Entry.ofLine reader.read further).web := by
  obtain ⟨rfl, _⟩ := conceals
  obtain ⟨rfl, _⟩ := too
  have messages : line.text = further.text := congrArg (fun entry => entry.message) same
  exact congrArg (fun text => (Access.read text).web) messages

/-- Entries with equal values are equal unless just one of them conceals a request. -/
theorem ofLine_eq_iff
    (same : entryJson (Entry.ofLine format.read line) =
      entryJson (Entry.ofLine reader.read further)) :
    Entry.ofLine format.read line = Entry.ofLine reader.read further ↔
      (ConcealsRequest format line.text ↔ ConcealsRequest reader further.text) := by
  constructor
  · intro equal
    rw [concealsRequest_iff, concealsRequest_iff, equal]
  · intro alike
    obtain ⟨rest, shown, shows⟩ := entryJson_eq_iff.mp same
    apply entry_ext rest
    by_cases conceals : ConcealsRequest format line.text
    · exact web_eq_of_conceals conceals (alike.mp conceals) rest
    · have visible := not_not.mp (mt concealsRequest_iff.mpr conceals)
      have visibleToo := not_not.mp (mt concealsRequest_iff.mpr (mt alike.mpr conceals))
      rw [← shown] at visibleToo
      rcases visible, visibleToo with ⟨showing | blank, showing | blankToo⟩
      · exact shows showing
      · exact shows showing
      · exact shows showing
      · rw [blank, blankToo]

end Pair

/-- The value of an entry shows everything that its line says about a request exactly if
the line conceals no request.  Equal values belong to equal entries unless just one of
the two conceals a request, which never is so if both are read as lines of access logs
or neither is. -/
theorem entryJson_determines_iff (format reader : LogFormat) (line further : Line) :
    let entry := Entry.ofLine format.read line
    let second := Entry.ofLine reader.read further
    ((∀ name value, (webJson entry.web).member? name = some value →
        (webJson {}).member? name ≠ some value →
        ((entryJson entry).member? "web").bind (Json.member? name) = some value) ↔
      ¬ConcealsRequest format line.text) ∧
    (entryJson entry = entryJson second →
      (entry = second ↔
        (ConcealsRequest format line.text ↔ ConcealsRequest reader further.text))) ∧
    (entryJson entry = entryJson second → (format = .webAccess ↔ reader = .webAccess) →
      entry = second) := by
  intro entry second
  refine ⟨?_, ofLine_eq_iff, ?_⟩
  · rw [shows_iff, concealsRequest_iff, not_not]
  · intro same readers
    rw [ofLine_eq_iff same]
    by_cases access : format = .webAccess
    · have accessToo := readers.mp access
      have messages : line.text = further.text := by
        subst access accessToo
        exact congrArg (fun entry => entry.message) (entryJson_eq_iff.mp same).1
      rw [access, accessToo, messages]
    · have accessToo := mt readers.mpr access
      simp [ConcealsRequest, access, accessToo]

theorem entryJson_determines_iff_alike :
    let line : Line := ⟨1, 0, 4, ("[x]y" : String).toList⟩
    let host : Line := ⟨1, 0, 36, ("Jan 15 10:30:00 web01 sshd[1]: hello" : String).toList⟩
    let otherHost : Line :=
      ⟨1, 0, 36, ("Jan 15 10:30:00 web02 sshd[1]: hello" : String).toList⟩
    (entryJson (Entry.ofLine LogFormat.webAccess.read line) =
        entryJson (Entry.ofLine LogFormat.custom.read line) ∧
      Entry.ofLine LogFormat.webAccess.read line =
        Entry.ofLine LogFormat.custom.read line) ∧
    (host ≠ otherHost ∧ entryJson (Entry.ofLine LogFormat.syslog.read host) =
        entryJson (Entry.ofLine LogFormat.syslog.read otherHost) ∧
      Entry.ofLine LogFormat.syslog.read host =
        Entry.ofLine LogFormat.syslog.read otherHost) := by
  intro line host otherHost
  have alike : entryJson (Entry.ofLine LogFormat.webAccess.read line) =
      entryJson (Entry.ofLine LogFormat.custom.read line) :=
    entryJson_eq_iff.mpr (by decide +kernel)
  have hostless : entryJson (Entry.ofLine LogFormat.syslog.read host) =
      entryJson (Entry.ofLine LogFormat.syslog.read otherHost) :=
    entryJson_eq_iff.mpr (by decide +kernel)
  have visible : ¬ConcealsRequest .webAccess line.text := by
    unfold ConcealsRequest
    decide +kernel
  have visibleToo : ¬ConcealsRequest .custom line.text := fun conceals => by
    have access := conceals.1
    contradiction
  exact ⟨⟨alike, ((entryJson_determines_iff .webAccess .custom line line).2.1 alike).mpr
      (iff_of_false visible visibleToo)⟩,
    by decide, hostless,
    (entryJson_determines_iff .syslog .syslog host otherHost).2.2 hostless Iff.rfl⟩

/-- A line that begins with a space and ends behind its request: the method and the
address are read, but the value is the one of a line that says nothing about a request. -/
theorem entryJson_conceals_request :
    let line : Line := ⟨1, 0, 11, (" \"GET /a x\"" : String).toList⟩
    let entry := Entry.ofLine LogFormat.webAccess.read line
    let second := Entry.ofLine LogFormat.custom.read line
    entry.web.method = "GET" ∧ entry.web.url = "/a" ∧
      ((entryJson entry).member? "web").isNone = true ∧
      entryJson entry = entryJson second ∧ entry ≠ second := by
  intro line entry second
  have hidden : entry.web.method = "GET" ∧ entry.web.url = "/a" ∧
      showsWeb entry = false ∧ entry ≠ second := by
    decide +kernel
  obtain ⟨method, url, shown, different⟩ := hidden
  refine ⟨method, url, ?_, entryJson_eq_iff.mpr (by decide +kernel), different⟩
  rw [member?_web, shown]
  rfl

end Report

end LogLens
