import RelayReputation.Proofs.CacheHistory
import RelayReputation.Proofs.Listing

/-!
# Visits

A visit is one check of a host, kept with the checker before it and all that the check was given.
Every visit is answered from the cache or evaluates its lists (`evaluates_iff_not_fromCache`), and
what it leaves of the checker is told by what it looks up and stores in the cache
(`outcome_checker`, `outcome_cache`).
-/

namespace RelayReputation

open RelayReputation.Text

/-! ### One check -/

/-- A check of a host, with the checker before it and all that the check is given. -/
structure Visit where
  checker : Checker
  resolver : Resolver
  now : Float
  host : String
  lists : Option (List BlockList)

namespace Visit

def key (v : Visit) : String := lower v.host

def outcome (v : Visit) : Checker × Trace × Bool :=
  v.checker.checkHost v.resolver v.now v.host v.lists

def trace (v : Visit) : Trace := v.outcome.2.1

def junk (v : Visit) : Bool := v.outcome.2.2

/-- An evaluation of the host, at this visit, against given lists or those of the registry. -/
def evaluation (v : Visit) (lists : Option (List BlockList)) : Trace × Bool :=
  v.checker.evaluateHost v.resolver v.key (lists.getD v.checker.registry.lists)

/-- Whether the check is answered from the cache: it tells of a verdict found there, and there is
nothing else to tell of, no question and no list. -/
def FromCache (v : Visit) : Prop := v.trace = [.noticed (.cacheHit v.key v.junk)]

/-- Whether the check evaluates its lists. -/
def Evaluates (v : Visit) : Prop := (v.trace, v.junk) = v.evaluation v.lists

def found (v : Visit) : Option Bool := (v.checker.cache.get v.now v.host).2

/-- What the check does to the cache. -/
def events (v : Visit) : List CacheEvent :=
  ⟨v.now, .get v.host⟩ :: if v.found.isNone then [⟨v.now, .put v.host v.junk⟩] else []

end Visit

/-! ### Telling hits from evaluations -/

section NoHit

variable (host : String) (junk : Bool)

theorem LookupResult.notice_ne_cacheHit (result : LookupResult) :
    result.notice ≠ .cacheHit host junk := by
  unfold notice
  cases result.status <;> simp

theorem BlockList.cacheHit_not_mem_lookUp (b : BlockList) (r : Resolver) (name : String) :
    .noticed (.cacheHit host junk) ∉ (b.lookUp r name).1 := by
  simp only [lookUp]
  cases LookupResult.ofOutcome b name (r.lookup name).outcome with
  | error f => simp [Trace.ofQuestions]
  | ok result =>
    have hn := (result.notice_ne_cacheHit host junk).symm
    simp [Trace.ofQuestions, hn]

theorem BlockList.cacheHit_not_mem_course (b : BlockList) (r : Resolver) (relay : RelayHost) :
    .event (.noticed (.cacheHit host junk)) ∉ (b.course r relay).steps := by
  have hstep (a : Address) : b.addressStep relay a ≠ .event (.noticed (.cacheHit host junk)) := by
    unfold addressStep
    cases a.isExempt <;> simp
  unfold course
  cases b.kind with
  | reverseIp =>
    cases ho : (relay.addresses r).outcome with
    | error f => simp [reverseCourse_of_error ho]
    | ok found => simp [reverseCourse_of_ok ho, hstep]
  | domain => cases relay <;> simp [domainCourse]

theorem BlockList.cacheHit_not_mem_scan (b : BlockList) (r : Resolver) {steps : List QueryStep}
    (h : .event (.noticed (.cacheHit host junk)) ∉ steps) :
    .noticed (.cacheHit host junk) ∉ (b.scan r steps).1 := by
  induction steps with
  | nil => simp [scan]
  | cons step rest ih =>
    have hrest := ih fun hm => h (List.mem_cons_of_mem _ hm)
    cases step with
    | event e =>
      have he : Event.noticed (.cacheHit host junk) ≠ e := by
        rintro rfl
        exact h (List.mem_cons_self ..)
      simp [scan, he, hrest]
    | query name =>
      have hl := b.cacheHit_not_mem_lookUp host junk r name
      rw [scan]
      generalize b.lookUp r name = looked at hl
      rcases looked with ⟨t, f | result⟩
      · simp [hl, hrest]
      · cases hb : result.isBlocked <;> simp [hb, hl, hrest]

theorem BlockList.cacheHit_not_mem_check (b : BlockList) (r : Resolver) (relay : RelayHost) :
    .noticed (.cacheHit host junk) ∉ (b.check r relay).1 := by
  have hs := b.cacheHit_not_mem_scan host junk r (b.cacheHit_not_mem_course host junk r relay)
  simp only [check]
  cases (b.scan r (b.course r relay).steps).2 with
  | true => simp [hs]
  | false =>
    cases (b.course r relay).failure with
    | none => simp [hs]
    | some e => cases e <;> simp [hs]

theorem cacheHit_not_mem_evaluate (r : Resolver) (shown : String) (relay : RelayHost)
    (lists : List BlockList) :
    .noticed (.cacheHit host junk) ∉ (evaluate r shown relay lists).1 := by
  induction lists with
  | nil => simp [evaluate]
  | cons b rest ih =>
    have hc := b.cacheHit_not_mem_check host junk r relay
    rw [evaluate]
    generalize b.check r relay = checked at hc
    rcases checked with ⟨t, f | _ | _⟩ <;> simp [hc, ih]

end NoHit

namespace Visit

theorem outcome_of_found {v : Visit} {junk : Bool} (h : v.found = some junk) :
    v.outcome = (v.checker.withCache (v.checker.cache.get v.now v.host).1,
      [.noticed (.cacheHit v.key junk)], junk) :=
  Checker.checkHost_of_found h

theorem outcome_of_fresh {v : Visit} (h : v.found = none) :
    v.outcome = (v.checker.withCache ((v.checker.cache.get v.now v.host).1.put v.now v.host
      (v.evaluation v.lists).2), v.evaluation v.lists) :=
  Checker.checkHost_of_fresh h

theorem fromCache_of_found {v : Visit} {junk : Bool} (h : v.found = some junk) :
    v.FromCache ∧ v.junk = junk := by
  unfold FromCache trace Visit.junk
  rw [outcome_of_found h]
  exact ⟨rfl, rfl⟩

theorem evaluates_of_found_eq_none {v : Visit} (h : v.found = none) : v.Evaluates := by
  unfold Evaluates trace junk
  rw [outcome_of_fresh h]

theorem not_evaluates_of_fromCache {v : Visit} (h : v.FromCache) : ¬v.Evaluates := by
  intro he
  -- An evaluation tells of questions and lists, never of a verdict found in the cache.
  have ht : v.trace = (v.evaluation v.lists).1 := congrArg Prod.fst he
  have hmem : .noticed (.cacheHit v.key v.junk) ∈ (v.evaluation v.lists).1 := by
    rw [← ht, h]
    exact List.mem_singleton_self _
  exact cacheHit_not_mem_evaluate _ _ _ _ _ _ hmem

theorem fromCache_iff_found (v : Visit) : v.FromCache ↔ ∃ junk, v.found = some junk := by
  constructor
  · intro h
    cases hf : v.found with
    | none => exact absurd (evaluates_of_found_eq_none hf) (not_evaluates_of_fromCache h)
    | some junk => exact ⟨junk, rfl⟩
  · rintro ⟨junk, hf⟩
    exact (fromCache_of_found hf).1

/-- A check is answered from the cache or it evaluates its lists, and not both. -/
theorem evaluates_iff_not_fromCache (v : Visit) : v.Evaluates ↔ ¬v.FromCache := by
  constructor
  · intro he hf
    exact not_evaluates_of_fromCache hf he
  · intro hf
    cases h : v.found with
    | none => exact evaluates_of_found_eq_none h
    | some junk => exact absurd (fromCache_of_found h).1 hf

theorem outcome_cache (v : Visit) : v.outcome.1.cache = v.checker.cache.after v.events := by
  unfold events
  cases h : v.found with
  | none =>
    have hj : v.junk = v.outcome.2.2 := rfl
    rw [hj, outcome_of_fresh h]
    rfl
  | some junk =>
    rw [outcome_of_found h]
    rfl

/-- A check changes nothing but the cache. -/
theorem outcome_checker (v : Visit) : v.outcome.1 = v.checker.withCache v.outcome.1.cache := by
  cases h : v.found with
  | none =>
    rw [outcome_of_fresh h]
    rfl
  | some junk =>
    rw [outcome_of_found h]
    rfl

end Visit

end RelayReputation
