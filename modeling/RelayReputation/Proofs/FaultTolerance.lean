import RelayReputation.Proofs.Listing

/-!
# Faults never make a host junk

Two networks are compared, the second of which answers every question as the first does or not
at all. Whatever the second lets a resolver find, the first lets it find as well, so a host that
is junk over the second is junk over the first: `junk_of_junk_with_faults`. A fault is a reply
that the backend takes neither for answers nor for the absence of the name.
-/

namespace RelayReputation

open RelayReputation.Text

/-! ### Faults -/

/-- What a backend makes of a reply to a question: the outcome over a network with this reply. -/
def Backend.reading (b : Backend) (q : Question) (reply : Reply) : Except Failure (List Address) :=
  match b, q.service with
  | plain, service => (Plain.ask (fun _ => reply) service q.name).outcome
  | records, .recordsAAAA => (Records.ask (fun _ => reply) .aaaa q.name).outcome
  | records, _ => (Records.ask (fun _ => reply) .a q.name).outcome
  | library, .libraryHosts => (Library.resolve (fun _ => reply) q.name).outcome
  | library, _ => (Library.lookup (fun _ => reply) q.name).outcome

def Failure.IsFault : Failure → Prop
  | notFound _ => False
  | _ => True

def Backend.IsFault (b : Backend) (q : Question) (reply : Reply) : Prop :=
  ∃ e, b.reading q reply = .error e ∧ e.IsFault

/-- Whether a network differs from another by faults alone. -/
def Backend.FaultsOnly (b : Backend) (net faulty : Network) : Prop :=
  ∀ q, faulty q = net q ∨ b.IsFault q (faulty q)

def Degraded (outcome degraded : Except Failure (List Address)) : Prop :=
  degraded = outcome ∨ ∃ e, degraded = .error e ∧ e.IsFault

theorem Degraded.eq_of_ok {outcome degraded : Except Failure (List Address)} {found : List Address}
    (h : Degraded outcome degraded) (hf : degraded = .ok found) : outcome = .ok found := by
  rcases h with h | ⟨e, he, -⟩
  · exact h.symm.trans hf
  · rw [he] at hf
    cases hf

theorem Backend.FaultsOnly.degraded {b : Backend} {net faulty : Network}
    (h : b.FaultsOnly net faulty) (q : Question) :
    Degraded (b.reading q (net q)) (b.reading q (faulty q)) := by
  rcases h q with h | h
  · exact Or.inl (congrArg (b.reading q) h)
  · exact Or.inr h

theorem Backend.FaultsOnly.answering {b : Backend} {q : Question} {reply : Reply}
    (h : b.IsFault q reply) (net : Network) : b.FaultsOnly net (net.answering q reply) := by
  intro p
  by_cases hp : p = q
  · subst hp
    rw [Network.answering_self]
    exact Or.inr h
  · exact Or.inl (Network.answering_of_ne hp)

/-! ### Resolvers -/

structure Resolver.Extends (r less : Resolver) : Prop where
  lookup : ∀ name found,
    (less.lookup name).outcome = .ok found → (r.lookup name).outcome = .ok found
  resolve : ∀ host found,
    (less.resolve host).outcome = .ok found → (r.resolve host).outcome = .ok found

theorem Plain.extends_of_faultsOnly {net faulty : Network}
    (h : Backend.plain.FaultsOnly net faulty) : (resolver net).Extends (resolver faulty) where
  lookup name _ hf := (h.degraded ⟨.listings, name⟩).eq_of_ok hf
  resolve host _ hf := (h.degraded ⟨.hosts, host⟩).eq_of_ok hf

theorem Library.extends_of_faultsOnly {net faulty : Network}
    (h : Backend.library.FaultsOnly net faulty) : (resolver net).Extends (resolver faulty) where
  lookup name _ hf := (h.degraded ⟨.libraryNames, name⟩).eq_of_ok hf
  resolve host _ hf := (h.degraded ⟨.libraryHosts, host⟩).eq_of_ok hf

namespace Records

/-- The outcome of a question of which an absence gives no addresses. -/
def settled : Except Failure (List Address) → Except Failure (List Address)
  | .error (.notFound _) => .ok []
  | outcome => outcome

theorem outcome_orIfNotFound (x : Asked (List Address)) :
    (x.orIfNotFound []).outcome = settled x.outcome := by
  unfold Asked.orIfNotFound settled
  split
  · next h => simp [h]
  · next h =>
    split
    · next name h' => exact absurd h' (h name)
    · rfl

theorem outcome_bind {α β : Type} (x : Asked α) (f : α → Asked β) :
    (x.bind f).outcome = x.outcome.bind fun a => (f a).outcome := by
  unfold Asked.bind
  cases x.outcome <;> rfl

theorem outcome_resolve_of_name {net : Network} {host : String} (h : Address.parse? host = none) :
    (resolve net host).outcome =
      (settled (ask net .a host).outcome).bind fun four =>
        (settled (ask net .aaaa host).outcome).bind fun six =>
          someAnswers host (four ++ six) := by
  simp only [resolve, h, outcome_bind, outcome_orIfNotFound]

theorem eq_of_settled_ok {outcome degraded : Except Failure (List Address)}
    {found : List Address} (h : Degraded outcome degraded) (hs : settled degraded = .ok found) :
    outcome = degraded := by
  rcases h with h | ⟨e, he, hfault⟩
  · exact h.symm
  · rw [he] at hs
    cases e with
    | notFound name => exact hfault.elim
    | failed text => cases hs
    | unexpected f => cases hs

theorem bind_eq_ok_iff {α β : Type} {x : Except Failure α} {f : α → Except Failure β} {b : β} :
    x.bind f = .ok b ↔ ∃ a, x = .ok a ∧ f a = .ok b := by
  cases x <;> simp [Except.bind]

theorem bind_eq_error_iff {α β : Type} {x : Except Failure α} {f : α → Except Failure β}
    {e : Failure} : x.bind f = .error e ↔ x = .error e ∨ ∃ a, x = .ok a ∧ f a = .error e := by
  cases x <;> simp [Except.bind]

/-- If the addresses of a host are found in spite of faults, then neither of the two questions
about it met one. -/
theorem outcome_resolve_of_faults {net faulty : Network} {host : String} {found : List Address}
    (h : Backend.records.FaultsOnly net faulty)
    (hf : (resolve faulty host).outcome = .ok found) :
    (resolve net host).outcome = .ok found := by
  cases hp : Address.parse? host with
  | some a =>
    simp only [resolve, hp] at hf ⊢
    exact hf
  | none =>
    rw [outcome_resolve_of_name hp] at hf ⊢
    -- A fault in either question would have ended the resolution, so both replies are the same.
    obtain ⟨four, hfour, hrest⟩ := bind_eq_ok_iff.mp hf
    obtain ⟨six, hsix, -⟩ := bind_eq_ok_iff.mp hrest
    have ha : (ask net .a host).outcome = (ask faulty .a host).outcome :=
      eq_of_settled_ok (h.degraded ⟨.recordsA, host⟩) hfour
    have haaaa : (ask net .aaaa host).outcome = (ask faulty .aaaa host).outcome :=
      eq_of_settled_ok (h.degraded ⟨.recordsAAAA, host⟩) hsix
    rw [ha, haaaa]
    exact hf

theorem extends_of_faultsOnly {net faulty : Network}
    (h : Backend.records.FaultsOnly net faulty) : (resolver net).Extends (resolver faulty) where
  lookup name _ hf := (h.degraded ⟨.recordsA, name⟩).eq_of_ok hf
  resolve _ _ hf := outcome_resolve_of_faults h hf

end Records

theorem Backend.extends_of_faultsOnly {b : Backend} {net faulty : Network}
    (h : b.FaultsOnly net faulty) : (b.resolver net).Extends (b.resolver faulty) := by
  cases b with
  | plain => exact Plain.extends_of_faultsOnly h
  | records => exact Records.extends_of_faultsOnly h
  | library => exact Library.extends_of_faultsOnly h

/-! ### Verdicts -/

section Extends

variable {r less : Resolver} (h : r.Extends less)

include h

theorem RelayHost.HasAddress.of_extends {host : RelayHost} {a : Address}
    (ha : host.HasAddress less a) : host.HasAddress r a := by
  cases ha with
  | literal hp => exact .literal hp
  | resolved hf hm => exact .resolved (h.resolve _ _ hf) hm

theorem BlockList.HasQuery.of_extends {b : BlockList} {host : RelayHost} {name : String}
    (hq : b.HasQuery less host name) : b.HasQuery r host name := by
  cases hq with
  | reversed hk ha he => exact .reversed hk (ha.of_extends h) he
  | domain hk hn => exact .domain hk hn

theorem BlockList.Listed.of_extends {b : BlockList} {host : RelayHost}
    (hl : b.Listed less host) : b.Listed r host := by
  obtain ⟨name, hq, answers, ho, hacc⟩ := hl
  exact ⟨name, hq.of_extends h, answers, h.lookup name answers ho, hacc⟩

end Extends

/-- A fresh check over a network in which faults have taken the place of replies finds junk only
where a fresh check over the network itself does. -/
theorem Checker.junk_of_junk_with_faults (b : Backend) (net faulty : Network)
    (hnet : b.FaultsOnly net faulty) (c : Checker) (now : Float) (host : String)
    (hc : (c.cache.get now host).2 = none)
    (hjunk : (c.checkHost (b.resolver faulty) now host none).2.2 = true) :
    (c.checkHost (b.resolver net) now host none).2.2 = true := by
  rw [checkHost_of_fresh hc, evaluateHost_eq_true_iff] at hjunk ⊢
  obtain ⟨list, hmem, hon, hlisted⟩ := hjunk
  exact ⟨list, hmem, hon, hlisted.of_extends (Backend.extends_of_faultsOnly hnet)⟩

/-- A network with a host that is listed by one of two lists and unknown to the other. -/
def listedOnce : Network :=
  (Network.silent.answering ⟨.recordsA, "mail.example.com"⟩ (.addresses ["192.0.2.1"])
    ).answering ⟨.recordsA, "1.2.0.192.bl.spamcop.net"⟩ (.addresses ["127.0.0.2"])

theorem Checker.junk_of_junk_with_timeout :
    Backend.records.FaultsOnly listedOnce
        (listedOnce.answering ⟨.recordsA, "1.2.0.192.zen.spamhaus.org"⟩
          (.fault .nameServiceTimeout)) ∧
      (initial.checkHost (Backend.records.resolver listedOnce) 1000 "mail.example.com" none).2.2 =
        true := by
  have hfault : Backend.records.IsFault ⟨.recordsA, "1.2.0.192.zen.spamhaus.org"⟩
      (.fault .nameServiceTimeout) :=
    ⟨.failed _, rfl, trivial⟩
  have hnet := Backend.FaultsOnly.answering hfault listedOnce
  exact ⟨hnet, junk_of_junk_with_faults .records listedOnce _ hnet initial 1000
    "mail.example.com" rfl (by decide +kernel)⟩

end RelayReputation
