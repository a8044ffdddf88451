import RelayReputation.Proofs.AnswerTexts
import RelayReputation.Proofs.Listing

/-!
# What a look-up reports

The outcome of a look-up decides all of its result. `Reports` says how: by the first answer that the
list accepts, by the first answer at all if there is none, or by the failure. Only an unexpected
fault gives no result.
-/

namespace RelayReputation

/-! ### The first accepted answer -/

def BlockList.FirstAccepted (b : BlockList) (answers : List Address) (a : Address) : Prop :=
  b.accepts a = true ∧
    ∃ before after, answers = before ++ a :: after ∧ ∀ x ∈ before, b.accepts x = false

theorem BlockList.firstAccepted_iff (b : BlockList) (answers : List Address) (a : Address) :
    b.FirstAccepted answers a ↔ answers.find? b.accepts = some a := by
  rw [List.find?_eq_some_iff_append, FirstAccepted]
  simp

theorem BlockList.exists_firstAccepted_iff (b : BlockList) (answers : List Address) :
    (∃ a, b.FirstAccepted answers a) ↔ ∃ a ∈ answers, b.accepts a = true := by
  simp only [firstAccepted_iff]
  rw [← Option.isSome_iff_exists, List.find?_isSome]

/-! ### Results -/

/-- What a result says of the outcome of a look-up. -/
structure LookupResult.Reports (b : BlockList) (query : String)
    (outcome : Except Failure (List Address)) (result : LookupResult) : Prop where
  query_eq : result.query = query
  list_eq : result.list = b.name
  blocked_iff : result.status = .blocked ↔
    ∃ answers, outcome = .ok answers ∧ ∃ a ∈ answers, b.accepts a = true
  code_of_listed : ∀ answers a, outcome = .ok answers → b.FirstAccepted answers a →
    result.returnCode = a.text
  reason_of_listed : ∀ answers a, outcome = .ok answers → b.FirstAccepted answers a →
    b.reasons.get? a.text = some result.reason ∨
      b.reasons.get? a.text = none ∧ result.reason = "Listed (" ++ a.text ++ ")"
  failed_iff : ∀ text, result.status = .lookupFailed ∧ result.reason = text ↔
    outcome = .error (.failed text)
  notBlocked_iff : result.status = .notBlocked ↔
    (∃ name, outcome = .error (.notFound name)) ∨
      ∃ answers, outcome = .ok answers ∧ ∀ a ∈ answers, b.accepts a = false
  code_of_notBlocked : result.status = .notBlocked →
    (∃ a rest, outcome = .ok (a :: rest) ∧ result.returnCode = a.text) ∨
      (∀ a rest, outcome ≠ .ok (a :: rest)) ∧ result.returnCode = ""

namespace LookupResult

variable {b : BlockList} {query : String} {answers : List Address} {a : Address}

theorem reason_cases (b : BlockList) (code : String) :
    b.reasons.get? code = some (b.reason code) ∨
      b.reasons.get? code = none ∧ b.reason code = "Listed (" ++ code ++ ")" := by
  unfold BlockList.reason
  cases b.reasons.get? code with
  | none => exact .inr ⟨rfl, rfl⟩
  | some reason => exact .inl rfl

theorem ofAnswers_of_firstAccepted (h : b.FirstAccepted answers a) :
    ofAnswers b query answers = ⟨query, b.name, .blocked, a.text, b.reason a.text⟩ := by
  simp only [ofAnswers, (b.firstAccepted_iff answers a).mp h]

theorem ofAnswers_of_none (h : ∀ a ∈ answers, b.accepts a = false) :
    ofAnswers b query answers =
      ⟨query, b.name, .notBlocked, (answers.head?.map Address.text).getD "",
        "Unlisted return code"⟩ := by
  have hnone : answers.find? b.accepts = none := by simpa using h
  simp only [ofAnswers, hnone]

theorem reports_of_firstAccepted (h : b.FirstAccepted answers a) :
    Reports b query (.ok answers) (ofAnswers b query answers) := by
  have hlisted : ∃ x ∈ answers, b.accepts x = true :=
    (b.exists_firstAccepted_iff answers).mp ⟨a, h⟩
  have hunique {x : Address} (hx : b.FirstAccepted answers x) : x = a := by
    rw [BlockList.firstAccepted_iff] at h hx
    exact Option.some.inj (hx.symm.trans h)
  rw [ofAnswers_of_firstAccepted h]
  constructor
  case query_eq => rfl
  case list_eq => rfl
  case blocked_iff => simpa using hlisted
  case code_of_listed =>
    rintro _ x ⟨⟩ hx
    rw [hunique hx]
  case reason_of_listed =>
    rintro _ x ⟨⟩ hx
    rw [hunique hx]
    exact reason_cases b a.text
  case failed_iff => simp
  case notBlocked_iff =>
    obtain ⟨x, hmem, hacc⟩ := hlisted
    simpa using ⟨x, hmem, hacc⟩
  case code_of_notBlocked => simp

theorem reports_of_none (h : ∀ a ∈ answers, b.accepts a = false) :
    Reports b query (.ok answers) (ofAnswers b query answers) := by
  have hnot : ¬∃ a ∈ answers, b.accepts a = true := by
    rintro ⟨a, hmem, hacc⟩
    rw [h a hmem] at hacc
    cases hacc
  have hfirst (a : Address) : ¬b.FirstAccepted answers a :=
    fun ha => hnot ((b.exists_firstAccepted_iff answers).mp ⟨a, ha⟩)
  rw [ofAnswers_of_none h]
  constructor
  case query_eq => rfl
  case list_eq => rfl
  case blocked_iff => simpa using h
  case code_of_listed =>
    rintro _ a ⟨⟩ ha
    exact absurd ha (hfirst a)
  case reason_of_listed =>
    rintro _ a ⟨⟩ ha
    exact absurd ha (hfirst a)
  case failed_iff => simp
  case notBlocked_iff => simpa using h
  case code_of_notBlocked =>
    intro _
    cases answers with
    | nil => exact .inr ⟨by simp, rfl⟩
    | cons a rest => exact .inl ⟨a, rest, rfl, rfl⟩

theorem reports_ofAnswers (b : BlockList) (query : String) (answers : List Address) :
    Reports b query (.ok answers) (ofAnswers b query answers) := by
  by_cases h : ∃ a, b.FirstAccepted answers a
  · obtain ⟨a, ha⟩ := h
    exact reports_of_firstAccepted ha
  · rw [b.exists_firstAccepted_iff] at h
    exact reports_of_none (by simpa using h)

theorem reports_notFound (b : BlockList) (query name : String) :
    Reports b query (.error (.notFound name)) ⟨query, b.name, .notBlocked, "", ""⟩ := by
  constructor <;> simp

theorem reports_failed (b : BlockList) (query text : String) :
    Reports b query (.error (.failed text)) ⟨query, b.name, .lookupFailed, "", text⟩ := by
  constructor <;> simp

theorem ofOutcome_eq_error_iff {outcome : Except Failure (List Address)} {f : Fault} :
    ofOutcome b query outcome = .error f ↔ outcome = .error (.unexpected f) := by
  cases outcome with
  | ok answers => simp [ofOutcome]
  | error e => cases e <;> simp [ofOutcome]

theorem reports_of_ofOutcome {outcome : Except Failure (List Address)} {result : LookupResult}
    (h : ofOutcome b query outcome = .ok result) : Reports b query outcome result := by
  cases outcome with
  | ok answers =>
    obtain rfl := Except.ok.inj h
    exact reports_ofAnswers b query answers
  | error e =>
    cases e with
    | notFound name =>
      obtain rfl := Except.ok.inj h
      exact reports_notFound b query name
    | failed text =>
      obtain rfl := Except.ok.inj h
      exact reports_failed b query text
    | unexpected f => cases h

end LookupResult

/-! ### Look-ups -/

theorem BlockList.lookUp_snd (b : BlockList) (r : Resolver) (query : String) :
    (b.lookUp r query).2 = LookupResult.ofOutcome b query (r.lookup query).outcome := by
  simp only [lookUp]
  cases LookupResult.ofOutcome b query (r.lookup query).outcome <;> rfl

/-- A look-up fails if and only if it meets an unexpected fault, and then with this fault. Every
other outcome has a result, which reports it. -/
theorem BlockList.lookUp_by_outcome (b : BlockList) (r : Resolver) (query : String) :
    (∀ f, (b.lookUp r query).2 = .error f ↔ (r.lookup query).outcome = .error (.unexpected f)) ∧
    ((∀ f, (r.lookup query).outcome ≠ .error (.unexpected f)) →
      ∃ result, (b.lookUp r query).2 = .ok result ∧
        result.Reports b query (r.lookup query).outcome) := by
  simp only [lookUp_snd]
  refine ⟨fun f => LookupResult.ofOutcome_eq_error_iff, ?_⟩
  intro hexpected
  cases h : LookupResult.ofOutcome b query (r.lookup query).outcome with
  | error f => exact absurd (LookupResult.ofOutcome_eq_error_iff.mp h) (hexpected f)
  | ok result => exact ⟨result, rfl, LookupResult.reports_of_ofOutcome h⟩

/-- A list with two responses, of which one has a reason. -/
def twoResponses : BlockList where
  id := 1
  name := "Spamhaus/zen"
  zone := "zen.spamhaus.org"
  kind := .reverseIp
  defaultEnabled := true
  responses := [.v4 0x7F000002, .v4 0x7F000004]
  reasons := [("127.0.0.4", "XBL (exploits/proxies)")]

/-- A network in which a name has three answers, of which the last two are responses of the list. -/
def mixedAnswers : Network :=
  Network.silent.answering ⟨.listings, "1.2.0.192.zen.spamhaus.org"⟩
    (.addresses ["127.255.255.254", "127.0.0.4", "127.0.0.2"])

theorem BlockList.lookUp_by_outcome_mixedAnswers :
    (∀ f, ((Plain.resolver mixedAnswers).lookup "1.2.0.192.zen.spamhaus.org").outcome ≠
      .error (.unexpected f)) ∧
    ∃ result, (twoResponses.lookUp (Plain.resolver mixedAnswers)
        "1.2.0.192.zen.spamhaus.org").2 = .ok result ∧ result.status = .blocked ∧
      result.returnCode = "127.0.0.4" ∧ result.reason = "XBL (exploits/proxies)" := by
  have hread : ReadAs ["127.255.255.254", "127.0.0.4", "127.0.0.2"]
      [.v4 0x7FFFFFFE, .v4 0x7F000004, .v4 0x7F000002] := by
    unfold ReadAs
    decide +kernel
  have houtcome : ((Plain.resolver mixedAnswers).lookup "1.2.0.192.zen.spamhaus.org").outcome =
      .ok [.v4 0x7FFFFFFE, .v4 0x7F000004, .v4 0x7F000002] :=
    readAnswers_of_readAs hread
  have hexpected (f : Fault) : ((Plain.resolver mixedAnswers).lookup
      "1.2.0.192.zen.spamhaus.org").outcome ≠ .error (.unexpected f) := by
    simp [houtcome]
  have hfirst : twoResponses.FirstAccepted [.v4 0x7FFFFFFE, .v4 0x7F000004, .v4 0x7F000002]
      (.v4 0x7F000004) := by
    rw [firstAccepted_iff]
    decide
  have hcode : (Address.v4 0x7F000004).text = "127.0.0.4" := by decide +kernel
  obtain ⟨result, hresult, h⟩ := (lookUp_by_outcome twoResponses (Plain.resolver mixedAnswers)
    "1.2.0.192.zen.spamhaus.org").2 hexpected
  have hreason := h.reason_of_listed _ _ houtcome hfirst
  rw [hcode] at hreason
  refine ⟨hexpected, result, hresult, ?_, ?_, ?_⟩
  · exact h.blocked_iff.mpr ⟨_, houtcome, (twoResponses.exists_firstAccepted_iff _).mp ⟨_, hfirst⟩⟩
  · rw [h.code_of_listed _ _ houtcome hfirst, hcode]
  · rcases hreason with hgiven | ⟨hnone, -⟩
    · exact (Option.some.inj hgiven).symm
    · cases hnone

end RelayReputation
