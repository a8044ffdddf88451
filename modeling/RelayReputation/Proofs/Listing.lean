import RelayReputation.Proofs.LowerCase
import RelayReputation.BlockList.Service
import RelayReputation.Session.Run

/-!
# What makes a host junk

A host is junk if one of its query names for an enabled list has an answer that the list accepts.
Whatever else the network does, be it an absence or a fault of any kind, takes nothing away from
the other names and lists. `evaluate_eq_true_iff` says this of an evaluation and
`checkHost_fresh_iff` of a check that finds no verdict in the cache.
-/

namespace RelayReputation

open RelayReputation.Text

/-! ### The rule -/

/-- The addresses that a relay host has: that of a literal, or those that its name resolves to. -/
inductive RelayHost.HasAddress (r : Resolver) : RelayHost → Address → Prop
  | literal {text : String} {a : Address} (h : Address.parse? text = some a) :
    HasAddress r (.literal text) a
  | resolved {text : String} {found : List Address} {a : Address}
    (h : (r.resolve text).outcome = .ok found) (ha : a ∈ found) : HasAddress r (.name text) a

inductive BlockList.HasQuery (b : BlockList) (r : Resolver) (host : RelayHost) : String → Prop
  | reversed {a : Address} (hk : b.kind = .reverseIp) (ha : host.HasAddress r a)
    (he : a.isExempt = false) : HasQuery b r host (a.reverseName ++ "." ++ b.zone)
  | domain {text : String} (hk : b.kind = .domain) (hn : host = .name text) :
    HasQuery b r host (text ++ "." ++ b.zone)

def BlockList.Accepted (b : BlockList) (r : Resolver) (name : String) : Prop :=
  ∃ answers, (r.lookup name).outcome = .ok answers ∧ ∃ a ∈ answers, b.accepts a = true

def BlockList.Listed (b : BlockList) (r : Resolver) (host : RelayHost) : Prop :=
  ∃ name, b.HasQuery r host name ∧ b.Accepted r name

/-! ### One name -/

theorem LookupResult.isBlocked_ofAnswers (b : BlockList) (name : String)
    (answers : List Address) :
    (LookupResult.ofAnswers b name answers).isBlocked = true ↔
      ∃ a ∈ answers, b.accepts a = true := by
  unfold ofAnswers
  split
  · next a h =>
    have hmem := List.mem_of_find?_eq_some h
    have hacc := List.find?_some h
    simp only [isBlocked, decide_true, true_iff]
    exact ⟨a, hmem, hacc⟩
  · next h =>
    rw [List.find?_eq_none] at h
    simp only [isBlocked, reduceCtorEq, decide_false, Bool.false_eq_true, false_iff]
    rintro ⟨a, ha, hacc⟩
    exact h a ha hacc

theorem LookupResult.ofOutcome_blocked_iff (b : BlockList) (name : String)
    (outcome : Except Failure (List Address)) :
    (∃ result, ofOutcome b name outcome = .ok result ∧ result.isBlocked = true) ↔
      ∃ answers, outcome = .ok answers ∧ ∃ a ∈ answers, b.accepts a = true := by
  cases outcome with
  | ok answers => simp [ofOutcome, isBlocked_ofAnswers]
  | error e => cases e <;> simp [ofOutcome, isBlocked]

theorem BlockList.lookUp_blocked_iff (b : BlockList) (r : Resolver) (name : String) :
    (∃ result, (b.lookUp r name).2 = .ok result ∧ result.isBlocked = true) ↔
      b.Accepted r name := by
  have h := LookupResult.ofOutcome_blocked_iff b name (r.lookup name).outcome
  unfold Accepted
  rw [← h]
  simp only [lookUp]
  cases LookupResult.ofOutcome b name (r.lookup name).outcome <;> simp

/-! ### One list -/

/-- A scan finds a listing exactly if one of its names has an accepted answer: neither an answer
that is no listing nor a fault ends it. -/
theorem BlockList.scan_eq_true_iff (b : BlockList) (r : Resolver) (steps : List QueryStep) :
    (b.scan r steps).2 = true ↔ ∃ name, .query name ∈ steps ∧ b.Accepted r name := by
  induction steps with
  | nil => simp [scan]
  | cons step rest ih =>
    cases step with
    | event e => simp [scan, ih]
    | query name =>
      have hl := b.lookUp_blocked_iff r name
      have hcons : (∃ n, .query n ∈ QueryStep.query name :: rest ∧ b.Accepted r n) ↔
          b.Accepted r name ∨ ∃ n, .query n ∈ rest ∧ b.Accepted r n := by
        simp [or_and_right, exists_or]
      rw [hcons, ← hl, ← ih, scan]
      rcases b.lookUp r name with ⟨t, f | result⟩
      · simp
      · cases hb : result.isBlocked <;> simp [hb]

theorem RelayHost.mem_addresses_iff (r : Resolver) (host : RelayHost) (a : Address) :
    (∃ found, (host.addresses r).outcome = .ok found ∧ a ∈ found) ↔ host.HasAddress r a := by
  cases host with
  | name text =>
    constructor
    · rintro ⟨found, h, ha⟩
      exact .resolved h ha
    · intro h
      cases h with
      | resolved h ha => exact ⟨_, h, ha⟩
  | literal text =>
    cases hp : Address.parse? text with
    | none =>
      have hout : ∃ f, ((RelayHost.literal text).addresses r).outcome = .error f := by
        simp only [addresses, hp]
        exact ⟨_, rfl⟩
      obtain ⟨f, hf⟩ := hout
      constructor
      · rintro ⟨found, h, -⟩
        rw [hf] at h
        cases h
      · intro h
        cases h with
        | literal hp' =>
          rw [hp] at hp'
          cases hp'
    | some a' =>
      have hout : ((RelayHost.literal text).addresses r).outcome = .ok [a'] := by
        simp only [addresses, hp]
        rfl
      constructor
      · rintro ⟨found, h, ha⟩
        obtain rfl := Except.ok.inj (hout.symm.trans h)
        rw [List.mem_singleton.mp ha]
        exact .literal hp
      · intro h
        cases h with
        | literal hp' =>
          obtain rfl := Option.some.inj (hp.symm.trans hp')
          exact ⟨[a'], hout, List.mem_singleton_self a'⟩

theorem BlockList.reverseCourse_of_ok {b : BlockList} {r : Resolver} {host : RelayHost}
    {found : List Address} (h : (host.addresses r).outcome = .ok found) :
    b.reverseCourse r host =
      ⟨(host.addresses r).questions.map (fun q => .event (.asked q)) ++
        found.map (b.addressStep host), none⟩ := by
  unfold reverseCourse
  simp only [h]

theorem BlockList.reverseCourse_of_error {b : BlockList} {r : Resolver} {host : RelayHost}
    {f : Failure} (h : (host.addresses r).outcome = .error f) :
    b.reverseCourse r host =
      ⟨(host.addresses r).questions.map (fun q => .event (.asked q)), some f⟩ := by
  unfold reverseCourse
  simp only [h]

theorem BlockList.query_mem_reverseCourse (b : BlockList) (r : Resolver) (host : RelayHost)
    (name : String) :
    .query name ∈ (b.reverseCourse r host).steps ↔
      ∃ a, host.HasAddress r a ∧ a.isExempt = false ∧ name = a.reverseName ++ "." ++ b.zone := by
  have hstep (a : Address) : b.addressStep host a = .query name ↔
      a.isExempt = false ∧ name = a.reverseName ++ "." ++ b.zone := by
    unfold addressStep
    cases a.isExempt <;> simp [queryName, eq_comm]
  simp only [← RelayHost.mem_addresses_iff]
  cases ho : (host.addresses r).outcome with
  | error f => simp [reverseCourse_of_error ho]
  | ok found => simp [reverseCourse_of_ok ho, hstep]

/-- The names that a course hands out are the query names of the host. -/
theorem BlockList.query_mem_course (b : BlockList) (r : Resolver) (host : RelayHost)
    (name : String) : .query name ∈ (b.course r host).steps ↔ b.HasQuery r host name := by
  cases hk : b.kind with
  | reverseIp =>
    have hc : b.course r host = b.reverseCourse r host := by simp only [course, hk]
    rw [hc, query_mem_reverseCourse]
    constructor
    · rintro ⟨a, ha, he, rfl⟩
      exact .reversed hk ha he
    · intro h
      cases h with
      | reversed _ ha he => exact ⟨_, ha, he, rfl⟩
      | domain hk' _ => cases hk.symm.trans hk'
  | domain =>
    have hc : b.course r host = b.domainCourse host := by simp only [course, hk]
    rw [hc]
    constructor
    · intro h
      cases host with
      | literal text => simp [domainCourse] at h
      | name text =>
        simp only [domainCourse, List.mem_singleton, QueryStep.query.injEq] at h
        subst h
        exact .domain hk rfl
    · intro h
      cases h with
      | reversed hk' _ _ => cases hk.symm.trans hk'
      | domain _ hn => simp [hn, domainCourse, queryName]

/-- A check of one list passes no fault on but one met after its last name, so it is right about
every name that was handed out. -/
theorem BlockList.check_eq_true_iff (b : BlockList) (r : Resolver) (host : RelayHost) :
    (b.check r host).2 = .ok true ↔ b.Listed r host := by
  have hs := b.scan_eq_true_iff r (b.course r host).steps
  simp only [query_mem_course] at hs
  unfold Listed
  rw [← hs]
  simp only [check]
  cases (b.scan r (b.course r host).steps).2 with
  | true => simp
  | false =>
    cases (b.course r host).failure with
    | none => simp
    | some e => cases e <;> simp

/-! ### All lists -/

theorem evaluate_eq_true_iff (r : Resolver) (shown : String) (host : RelayHost)
    (lists : List BlockList) :
    (evaluate r shown host lists).2 = true ↔ ∃ b ∈ lists, b.Listed r host := by
  induction lists with
  | nil => simp [evaluate]
  | cons b rest ih =>
    have hb := b.check_eq_true_iff r host
    simp only [List.mem_cons, exists_eq_or_imp]
    rw [← hb, ← ih, evaluate]
    rcases b.check r host with ⟨t, f | _ | _⟩ <;> simp

theorem Checker.evaluateHost_eq_true_iff (c : Checker) (r : Resolver) (host : String)
    (lists : List BlockList) :
    (c.evaluateHost r host lists).2 = true ↔
      ∃ b ∈ lists, c.registry.isEnabled b = true ∧ b.Listed r (RelayHost.parse host) := by
  rw [evaluateHost, evaluate_eq_true_iff]
  simp [and_assoc]

/-! ### Checks -/

theorem VerdictCache.get_lower (c : VerdictCache) (now : Float) (host : String) :
    c.get now (lower host) = c.get now host := by
  simp only [get, lower_lower]

theorem VerdictCache.put_lower (c : VerdictCache) (now : Float) (host : String) (junk : Bool) :
    c.put now (lower host) junk = c.put now host junk := by
  simp only [put, lower_lower]

namespace Checker

variable {c : Checker} {r : Resolver} {now : Float} {host : String}

theorem checkHost_of_found {lists : Option (List BlockList)} {junk : Bool}
    (h : (c.cache.get now host).2 = some junk) :
    c.checkHost r now host lists =
      (c.withCache (c.cache.get now host).1, [.noticed (.cacheHit (lower host) junk)], junk) := by
  have hg : c.cache.get now (lower host) = ((c.cache.get now host).1, some junk) := by
    rw [VerdictCache.get_lower, ← h]
  simp only [checkHost, hg]

/-- A check that finds no verdict evaluates the lists and stores what comes out. -/
theorem checkHost_of_fresh {lists : Option (List BlockList)}
    (h : (c.cache.get now host).2 = none) :
    c.checkHost r now host lists =
      (c.withCache ((c.cache.get now host).1.put now host
          (c.evaluateHost r (lower host) (lists.getD c.registry.lists)).2),
        c.evaluateHost r (lower host) (lists.getD c.registry.lists)) := by
  have hg : c.cache.get now (lower host) = ((c.cache.get now host).1, none) := by
    rw [VerdictCache.get_lower, ← h]
  simp only [checkHost, hg, VerdictCache.put_lower]

/-- A check that finds no verdict gives one, whatever the network does, and the host is junk
exactly if an enabled list lists it; this verdict is then stored. -/
theorem checkHost_fresh_iff (c : Checker) (r : Resolver) (now : Float) (host : String)
    (h : (c.cache.get now host).2 = none) :
    ((c.checkHost r now host none).2.2 = true ↔
      ∃ b ∈ c.registry.lists, c.registry.isEnabled b = true ∧
        b.Listed r (RelayHost.parse (lower host))) ∧
    (c.checkHost r now host none).1.cache.entries.get? (lower host) =
      some ⟨(c.checkHost r now host none).2.2, now⟩ ∧
    ∀ s : Session, s.checker = c → s.resolver = r → s.now = now →
      (s.step (.checkHost host none)).2.2 =
        .ok (.truth (c.checkHost r now host none).2.2) := by
  refine ⟨?_, ?_, ?_⟩
  · rw [checkHost_of_fresh h]
    exact evaluateHost_eq_true_iff c r (lower host) c.registry.lists
  · rw [checkHost_of_fresh h]
    simp [VerdictCache.put, Keyed.get?_set]
  · rintro s rfl rfl rfl
    rfl

/-- A checker over the known services, with no overrides and nothing stored. -/
def initial : Checker where
  registry := {
    lists := numberedBlockLists 1 knownServices
    store := .memory []
    cache := { expiry := VerdictCache.usualExpiry } }
  workers := usualWorkers

/-- A network with a host of two addresses. What is asked about the first breaks down, and the
second is listed by one of the lists. -/
def brokenAnswers : Network :=
  ((Network.silent.answering ⟨.hosts, "mail.example.com"⟩ (.addresses ["192.0.2.1", "192.0.2.2"])
    ).answering ⟨.listings, "1.2.0.192.zen.spamhaus.org"⟩ (.fault (.breakdown "boom"))
    ).answering ⟨.listings, "2.2.0.192.bl.spamcop.net"⟩ (.addresses ["127.0.0.2"])

theorem checkHost_fresh_brokenAnswers :
    (initial.cache.get 1000 "Mail.Example.com").2 = none ∧
      (initial.checkHost (Plain.resolver brokenAnswers) 1000 "Mail.Example.com" none).2.2 = true ∧
      ∃ b ∈ initial.registry.lists, initial.registry.isEnabled b = true ∧
        b.Listed (Plain.resolver brokenAnswers) (RelayHost.parse (lower "Mail.Example.com")) := by
  have hfresh : (initial.cache.get 1000 "Mail.Example.com").2 = none := rfl
  have hjunk : (initial.checkHost (Plain.resolver brokenAnswers) 1000 "Mail.Example.com" none).2.2 =
      true := by
    decide +kernel
  exact ⟨hfresh, hjunk, (checkHost_fresh_iff initial (Plain.resolver brokenAnswers) 1000
    "Mail.Example.com" hfresh).1.mp hjunk⟩

end Checker

end RelayReputation
