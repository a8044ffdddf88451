import RelayReputation.Proofs.AnswerTexts
import RelayReputation.Proofs.FaultTolerance

/-!
# Addresses by records

The addresses of a host are its records of two types, asked for one after the other. A reply gives
addresses, which may be none, or is a failure that ends the resolution (`gives_or_fails`). What the
two replies are decides what is asked and what comes out: `resolve_by_replies`.
-/

namespace RelayReputation

/-- Whether a reply says that a name has no records of a type. -/
def Reply.isAbsence : Reply → Bool
  | .absent => true
  | .fault .noSuchDomain => true
  | .fault (.noRecords _) => true
  | .fault (.unknownName _) => true
  | _ => false

/-- Whether a fault is reported by the name service. -/
def Fault.isOfNameService : Fault → Bool
  | .noSuchDomain => true
  | .noRecords _ => true
  | .nameService _ => true
  | .noNameServers _ => true
  | .nameServiceTimeout => true
  | _ => false

namespace Records

/-! ### One type of record -/

/-- Whether a reply gives certain addresses, which are none if there are no records. -/
inductive Gives : Reply → List Address → Prop
  | answers {texts : List String} {addresses : List Address} (h : ReadAs texts addresses) :
    Gives (.addresses texts) addresses
  | absence {reply : Reply} (h : reply.isAbsence = true) : Gives reply []

/-- Whether a reply fails in a certain way: a fault of the name service as a failed resolution, any
other as what it is, and an answer that is no address as a bad value. -/
inductive Fails (type : RecordType) (name : String) : Reply → Failure → Prop
  | nameService {f : Fault} (hf : f.isOfNameService = true)
    (ha : (Reply.fault f).isAbsence = false) :
    Fails type name (.fault f)
      (.failed (type.text ++ " lookup for " ++ name ++ " failed: " ++ f.text))
  | passed {f : Fault} (hf : f.isOfNameService = false) (ha : (Reply.fault f).isAbsence = false) :
    Fails type name (.fault f) (.ofFault f)
  | badAnswer {texts : List String} {bad : String} (h : firstBad? texts = some bad) :
    Fails type name (.addresses texts) (.unexpected (.notAnAddress bad))

theorem gives_or_fails (type : RecordType) (name : String) (reply : Reply) :
    (∃ addresses, Gives reply addresses) ∨ ∃ e, Fails type name reply e := by
  cases reply with
  | addresses texts =>
    rcases readAs_or_firstBad? texts with ⟨addresses, h⟩ | ⟨bad, h⟩
    · exact Or.inl ⟨addresses, .answers h⟩
    · exact Or.inr ⟨_, .badAnswer h⟩
  | absent => exact Or.inl ⟨[], .absence rfl⟩
  | fault f =>
    cases ha : (Reply.fault f).isAbsence with
    | true => exact Or.inl ⟨[], .absence ha⟩
    | false =>
      cases hf : f.isOfNameService with
      | true => exact Or.inr ⟨_, .nameService hf ha⟩
      | false => exact Or.inr ⟨_, .passed hf ha⟩

theorem isFault_ofFault {f : Fault} (h : (Reply.fault f).isAbsence = false) :
    (Failure.ofFault f).IsFault := by
  unfold Failure.ofFault
  split
  · cases h
  · trivial
  · trivial

theorem Fails.isFault {type : RecordType} {name : String} {reply : Reply} {e : Failure}
    (h : Fails type name reply e) : e.IsFault := by
  cases h with
  | nameService hf ha => trivial
  | passed hf ha => exact isFault_ofFault ha
  | badAnswer h => trivial

/-! ### What is asked -/

theorem failure_of_nameService {f : Fault} (hf : f.isOfNameService = true)
    (ha : (Reply.fault f).isAbsence = false) (type : RecordType) (name : String) :
    failure type name f =
      .failed (type.text ++ " lookup for " ++ name ++ " failed: " ++ f.text) := by
  unfold Fault.isOfNameService at hf
  split at hf
  · cases ha
  · cases ha
  · rfl
  · rfl
  · rfl
  · cases hf

theorem failure_of_other {f : Fault} (hf : f.isOfNameService = false) (type : RecordType)
    (name : String) : failure type name f = .ofFault f := by
  unfold failure
  split
  · cases hf
  · cases hf
  · cases hf
  · cases hf
  · cases hf
  · rfl

theorem settled_error {e : Failure} (h : e.IsFault) : settled (.error e) = .error e := by
  cases e with
  | notFound name => exact h.elim
  | failed text => rfl
  | unexpected f => rfl

section

variable {net : Network} {type : RecordType} {name : String}

theorem settled_of_gives {addresses : List Address}
    (h : Gives (net ⟨type.service, name⟩) addresses) :
    settled (ask net type name).outcome = .ok addresses := by
  unfold ask
  generalize net ⟨type.service, name⟩ = reply at h
  cases h with
  | answers h => simp only [readAnswers_of_readAs h, settled]
  | absence h =>
    unfold Reply.isAbsence at h
    split at h
    · rfl
    · rfl
    · rfl
    · rfl
    · cases h

theorem settled_of_fails {e : Failure} (h : Fails type name (net ⟨type.service, name⟩) e) :
    settled (ask net type name).outcome = .error e := by
  have hfault := h.isFault
  unfold ask
  generalize net ⟨type.service, name⟩ = reply at h
  cases h with
  | nameService hf ha => simp only [failure_of_nameService hf ha, settled]
  | passed hf ha => simp only [failure_of_other hf, settled_error hfault]
  | badAnswer h => simp only [readAnswers_of_firstBad? h, settled]

theorem settled_eq_ok_iff {addresses : List Address} :
    settled (ask net type name).outcome = .ok addresses ↔
      Gives (net ⟨type.service, name⟩) addresses := by
  constructor
  · intro h
    rcases gives_or_fails type name (net ⟨type.service, name⟩) with ⟨given, hgives⟩ | ⟨e, hfails⟩
    · rw [settled_of_gives hgives] at h
      exact Except.ok.inj h ▸ hgives
    · rw [settled_of_fails hfails] at h
      cases h
  · exact settled_of_gives

theorem settled_eq_error_iff {e : Failure} :
    settled (ask net type name).outcome = .error e ↔
      Fails type name (net ⟨type.service, name⟩) e := by
  constructor
  · intro h
    rcases gives_or_fails type name (net ⟨type.service, name⟩) with ⟨given, hgives⟩ | ⟨e', hfails⟩
    · rw [settled_of_gives hgives] at h
      cases h
    · rw [settled_of_fails hfails] at h
      exact Except.error.inj h ▸ hfails
  · exact settled_of_fails

end

/-! ### Both types -/

theorem questions_orIfNotFound {α : Type} (x : Asked α) (a : α) :
    (x.orIfNotFound a).questions = x.questions := by
  unfold Asked.orIfNotFound
  split <;> rfl

theorem questions_bind_of_ok {α β : Type} {x : Asked α} {a : α} (h : x.outcome = .ok a)
    (f : α → Asked β) : (x.bind f).questions = x.questions ++ (f a).questions := by
  simp only [Asked.bind, h]

theorem questions_bind_of_error {α β : Type} {x : Asked α} {e : Failure} (h : x.outcome = .error e)
    (f : α → Asked β) : (x.bind f).questions = x.questions := by
  simp only [Asked.bind, h]

section

variable {net : Network} {host : String}

theorem questions_resolve_of_gives (h : Address.parse? host = none) {four : List Address}
    (hfour : Gives (net ⟨.recordsA, host⟩) four) :
    (resolve net host).questions = [⟨.recordsA, host⟩, ⟨.recordsAAAA, host⟩] := by
  have ha : ((ask net .a host).orIfNotFound []).outcome = .ok four :=
    (outcome_orIfNotFound _).trans (settled_of_gives hfour)
  simp only [resolve, h]
  rw [questions_bind_of_ok ha, questions_orIfNotFound]
  cases haaaa : ((ask net .aaaa host).orIfNotFound []).outcome with
  | ok six =>
    rw [questions_bind_of_ok haaaa, questions_orIfNotFound]
    rfl
  | error e =>
    rw [questions_bind_of_error haaaa, questions_orIfNotFound]
    rfl

theorem questions_resolve_of_fails (h : Address.parse? host = none) {e : Failure}
    (hfails : Fails .a host (net ⟨.recordsA, host⟩) e) :
    (resolve net host).questions = [⟨.recordsA, host⟩] := by
  have ha : ((ask net .a host).orIfNotFound []).outcome = .error e :=
    (outcome_orIfNotFound _).trans (settled_of_fails hfails)
  simp only [resolve, h]
  rw [questions_bind_of_error ha, questions_orIfNotFound]
  rfl

theorem outcome_resolve_eq_ok_iff (h : Address.parse? host = none) {found : List Address} :
    (resolve net host).outcome = .ok found ↔
      found ≠ [] ∧ ∃ four six, Gives (net ⟨.recordsA, host⟩) four ∧
        Gives (net ⟨.recordsAAAA, host⟩) six ∧ found = four ++ six := by
  simp only [outcome_resolve_of_name h, bind_eq_ok_iff, settled_eq_ok_iff, someAnswers_eq_ok_iff]
  constructor
  · rintro ⟨four, hfour, six, hsix, hne, rfl⟩
    exact ⟨hne, four, six, hfour, hsix, rfl⟩
  · rintro ⟨hne, four, six, hfour, hsix, rfl⟩
    exact ⟨four, hfour, six, hsix, hne, rfl⟩

theorem outcome_resolve_eq_error_iff (h : Address.parse? host = none) {e : Failure} :
    (resolve net host).outcome = .error e ↔
      Fails .a host (net ⟨.recordsA, host⟩) e ∨
        (∃ four, Gives (net ⟨.recordsA, host⟩) four) ∧
          Fails .aaaa host (net ⟨.recordsAAAA, host⟩) e ∨
        e = .notFound host ∧ Gives (net ⟨.recordsA, host⟩) [] ∧
          Gives (net ⟨.recordsAAAA, host⟩) [] := by
  simp only [outcome_resolve_of_name h, bind_eq_error_iff, settled_eq_ok_iff, settled_eq_error_iff,
    someAnswers_eq_error_iff, List.append_eq_nil_iff]
  constructor
  · rintro (hfails | ⟨four, hfour, hfails | ⟨six, hsix, ⟨rfl, rfl⟩, rfl⟩⟩)
    · exact Or.inl hfails
    · exact Or.inr (Or.inl ⟨⟨four, hfour⟩, hfails⟩)
    · exact Or.inr (Or.inr ⟨rfl, hfour, hsix⟩)
  · rintro (hfails | ⟨⟨four, hfour⟩, hfails⟩ | ⟨rfl, hfour, hsix⟩)
    · exact Or.inl hfails
    · exact Or.inr ⟨four, hfour, Or.inl hfails⟩
    · exact Or.inr ⟨[], hfour, Or.inr ⟨[], hsix, ⟨rfl, rfl⟩, rfl⟩⟩

theorem outcome_resolve_eq_notFound_iff (h : Address.parse? host = none) {name : String} :
    (resolve net host).outcome = .error (.notFound name) ↔
      name = host ∧ Gives (net ⟨.recordsA, host⟩) [] ∧ Gives (net ⟨.recordsAAAA, host⟩) [] := by
  rw [outcome_resolve_eq_error_iff h, Failure.notFound.injEq]
  constructor
  · rintro (hfails | ⟨-, hfails⟩ | hnone)
    · exact hfails.isFault.elim
    · exact hfails.isFault.elim
    · exact hnone
  · intro hnone
    exact Or.inr (Or.inr hnone)

end

/-- A host that is an address resolves to itself, and nothing is asked. For any other host the
records of the second type are asked for exactly if those of the first are given, be they none. The
addresses are those of both types in this order, and there is at least one; the host is not found
exactly if neither reply fails and there is none; and else the first failure is that of the
resolution. -/
theorem resolve_by_replies (net : Network) (host : String) :
    (∀ a, Address.parse? host = some a → resolve net host = .pure [a]) ∧
    (Address.parse? host = none →
      ((∃ four, Gives (net ⟨.recordsA, host⟩) four) →
        (resolve net host).questions = [⟨.recordsA, host⟩, ⟨.recordsAAAA, host⟩]) ∧
      ((¬∃ four, Gives (net ⟨.recordsA, host⟩) four) →
        (resolve net host).questions = [⟨.recordsA, host⟩]) ∧
      (∀ found, (resolve net host).outcome = .ok found ↔
        found ≠ [] ∧ ∃ four six, Gives (net ⟨.recordsA, host⟩) four ∧
          Gives (net ⟨.recordsAAAA, host⟩) six ∧ found = four ++ six) ∧
      (∀ name, (resolve net host).outcome = .error (.notFound name) ↔
        name = host ∧ Gives (net ⟨.recordsA, host⟩) [] ∧ Gives (net ⟨.recordsAAAA, host⟩) []) ∧
      ∀ e, (resolve net host).outcome = .error e ↔
        Fails .a host (net ⟨.recordsA, host⟩) e ∨
          (∃ four, Gives (net ⟨.recordsA, host⟩) four) ∧
            Fails .aaaa host (net ⟨.recordsAAAA, host⟩) e ∨
          e = .notFound host ∧ Gives (net ⟨.recordsA, host⟩) [] ∧
            Gives (net ⟨.recordsAAAA, host⟩) []) ∧
    (∀ type name reply e, Fails type name reply e → ∀ n, e ≠ .notFound n) ∧
    ∀ found, (resolve net host).outcome = .ok found → found ≠ [] := by
  have hself (a : Address) (h : Address.parse? host = some a) : resolve net host = .pure [a] := by
    simp only [resolve, h]
  refine ⟨hself, ?_, ?_, ?_⟩
  · intro h
    refine ⟨?_, ?_, fun found => outcome_resolve_eq_ok_iff h,
      fun name => outcome_resolve_eq_notFound_iff h, fun e => outcome_resolve_eq_error_iff h⟩
    · rintro ⟨four, hfour⟩
      exact questions_resolve_of_gives h hfour
    · intro hnone
      rcases gives_or_fails .a host (net ⟨.recordsA, host⟩) with hgives | ⟨e, hfails⟩
      · exact absurd hgives hnone
      · exact questions_resolve_of_fails h hfails
  · rintro type name reply e hfails n rfl
    exact hfails.isFault
  · intro found hfound
    cases h : Address.parse? host with
    | some a =>
      rw [hself a h] at hfound
      obtain rfl := Except.ok.inj hfound
      exact List.cons_ne_nil a []
    | none => exact ((outcome_resolve_eq_ok_iff h).mp hfound).1

/-- A network with a host that has a record of the first type; the second is not answered. -/
def halfAnswered : Network :=
  (Network.silent.answering ⟨.recordsA, "mail.example.com"⟩ (.addresses ["192.0.2.1"])
    ).answering ⟨.recordsAAAA, "mail.example.com"⟩ (.fault .nameServiceTimeout)

theorem resolve_by_replies_halfAnswered :
    resolve halfAnswered "fe80::1%eth0" = .pure [.v6 (0xFE80 <<< 112 + 1) (some "eth0")] ∧
    (resolve halfAnswered "mail.example.com").questions =
      [⟨.recordsA, "mail.example.com"⟩, ⟨.recordsAAAA, "mail.example.com"⟩] ∧
    (resolve halfAnswered "mail.example.com").outcome =
      .error (.failed "AAAA lookup for mail.example.com failed: The DNS operation timed out.") ∧
    (resolve halfAnswered "mail.example.net").outcome = .error (.notFound "mail.example.net") := by
  have haddress : Address.parse? "fe80::1%eth0" =
      some (.v6 (0xFE80 <<< 112 + 1) (some "eth0")) := by
    decide +kernel
  have hname : Address.parse? "mail.example.com" = none := by decide +kernel
  have hother : Address.parse? "mail.example.net" = none := by decide +kernel
  have hgiven : ReadAs ["192.0.2.1"] [.v4 0xC0000201] := by unfold ReadAs; decide +kernel
  have hfour : ∃ four, Gives (halfAnswered ⟨.recordsA, "mail.example.com"⟩) four :=
    ⟨_, .answers hgiven⟩
  have hsix : Fails .aaaa "mail.example.com" (halfAnswered ⟨.recordsAAAA, "mail.example.com"⟩)
      (.failed "AAAA lookup for mail.example.com failed: The DNS operation timed out.") :=
    .nameService rfl rfl
  obtain ⟨hasked, -, -, -, hfailed⟩ :=
    (resolve_by_replies halfAnswered "mail.example.com").2.1 hname
  obtain ⟨-, -, -, hmissing, -⟩ := (resolve_by_replies halfAnswered "mail.example.net").2.1 hother
  exact ⟨(resolve_by_replies halfAnswered "fe80::1%eth0").1 _ haddress, hasked hfour,
    (hfailed _).mpr (Or.inr (Or.inl ⟨hfour, hsix⟩)),
    (hmissing _).mpr ⟨rfl, .absence rfl, .absence rfl⟩⟩

end Records

end RelayReputation
