import RelayReputation.Proofs.SessionHistory

/-!
# Which checks the cache answers

A check is answered from the cache exactly if its host was evaluated before, nothing has cleared
the cache since, and the verdict is not too old; it then gives the verdict of the latest such
evaluation. `fromCache_iff_storedBy` says this for every clock, `Session.fresh_in_run` for clocks
that let nothing be found again once it was too old. Hosts are the same if their lower-case forms
are. That what is enabled is then what was enabled at the evaluation comes from clearing the cache
with every change.
-/

namespace RelayReputation

open RelayReputation.Text

/-! ### Where a verdict comes from -/

def Visit.verdict (v : Visit) : Verdict := ⟨v.junk, v.now⟩

def Happening.Keeps (expiry : Float) (key : String) (verdict : Verdict) (a : Happening) : Prop :=
  ∀ e ∈ a.events, e.drops expiry key verdict = false

/-- A visit that evaluated a host, nothing since having dropped what it stored. -/
def StoredBy (expiry : Float) (key : String) (hs : List Happening) (u : Visit) : Prop :=
  ∃ before after, hs = before ++ .visit u :: after ∧ u.key = key ∧ u.Evaluates ∧
    ∀ a ∈ after, a.Keeps expiry key u.verdict

/-- The latest visit that evaluated a host, if the cache has not been cleared since. -/
def LatestEvaluation (key : String) (hs : List Happening) (u : Visit) : Prop :=
  ∃ before after, hs = before ++ .visit u :: after ∧ u.key = key ∧ u.Evaluates ∧
    ∀ a ∈ after, ¬a.Clears ∧ ∀ w, a = .visit w → w.key = key → ¬w.Evaluates

/-- Whether no verdict is put into the cache but by a check. -/
def Happening.IsOrdinary : Happening → Prop
  | visit _ => True
  | event e => ∀ host junk, e.step ≠ .put host junk

theorem Visit.found_eq_none_iff (v : Visit) : v.found = none ↔ v.Evaluates := by
  rw [evaluates_iff_not_fromCache, fromCache_iff_found]
  cases v.found <;> simp

theorem Visit.stands_events_iff (v : Visit) (expiry : Float) (key : String) (verdict : Verdict) :
    Stands expiry key v.events verdict ↔
      v.Evaluates ∧ v.key = key ∧ v.verdict = verdict := by
  have hget : ¬Stands expiry key [⟨v.now, .get v.host⟩] verdict := by
    rw [stands_singleton]
    simp [CacheEvent.stores?]
  rw [← v.found_eq_none_iff, events]
  cases v.found with
  | some junk => simpa using hget
  | none =>
    have happ := stands_append expiry key [⟨v.now, .get v.host⟩] [⟨v.now, .put v.host v.junk⟩]
      verdict
    simp only [hget, false_and, false_or, stands_singleton, List.singleton_append] at happ
    simp only [Option.isNone_none, if_true, true_and]
    rw [happ]
    simp [CacheEvent.stores?, Visit.key, Visit.verdict]

theorem Happening.stands_events_iff {a : Happening} (h : a.IsOrdinary) (expiry : Float)
    (key : String) (verdict : Verdict) :
    Stands expiry key a.events verdict ↔
      ∃ u, a = .visit u ∧ u.Evaluates ∧ u.key = key ∧ u.verdict = verdict := by
  cases a with
  | visit v =>
    rw [events, v.stands_events_iff]
    simp
  | event e =>
    rw [events, stands_singleton]
    have hn : e.stores? key = none := by
      unfold CacheEvent.stores?
      cases hs : e.step with
      | put host junk => exact absurd hs (h host junk)
      | _ => rfl
    simp [hn]

theorem stands_iff_storedBy {hs : List Happening} (h : ∀ a ∈ hs, a.IsOrdinary) (expiry : Float)
    (key : String) (verdict : Verdict) :
    Stands expiry key (hs.flatMap Happening.events) verdict ↔
      ∃ u, StoredBy expiry key hs u ∧ u.verdict = verdict := by
  rw [stands_flatMap]
  constructor
  · rintro ⟨before, a, after, hsplit, hs', hl⟩
    have ha : a ∈ hs := by simp [hsplit]
    obtain ⟨u, rfl, he, hk, rfl⟩ := (Happening.stands_events_iff (h a ha) _ _ _).mp hs'
    exact ⟨u, ⟨before, after, hsplit, hk, he, hl⟩, rfl⟩
  · rintro ⟨u, ⟨before, after, hsplit, hk, he, hl⟩, rfl⟩
    exact ⟨before, .visit u, after, hsplit,
      (u.stands_events_iff _ _ _).mpr ⟨he, hk, rfl⟩, hl⟩

/-! ### Visits of a course -/

section Course

variable {x z : View} {before after : List Happening} {v : Visit}

/-- What a visit of a course finds was stored by a visit before it and is not too old. -/
theorem Course.found_eq_some_iff (h : Course x (before ++ .visit v :: after) z)
    (hempty : x.cache.entries = []) (hord : ∀ a ∈ before, a.IsOrdinary) (junk : Bool) :
    v.found = some junk ↔
      ∃ u, StoredBy x.cache.expiry v.key before u ∧ ¬v.now - u.now > x.cache.expiry ∧
        u.junk = junk := by
  have hcache : v.checker.cache = x.cache.after (before.flatMap Happening.events) :=
    h.before_visit.cache_eq
  have hget := VerdictCache.get_eq_some_iff v.checker.cache v.now v.host junk
  rw [hcache, VerdictCache.expiry_after] at hget
  simp only [VerdictCache.get?_after_iff hempty, stands_iff_storedBy hord,
    Verdict.isExpired_eq_false_iff] at hget
  unfold Visit.found
  rw [hcache, hget]
  constructor
  · rintro ⟨verdict, ⟨u, hu, rfl⟩, hage, hj⟩
    exact ⟨u, hu, hage, hj⟩
  · rintro ⟨u, hu, hage, hj⟩
    exact ⟨u.verdict, ⟨u, hu, rfl⟩, hage, hj⟩

/-- With any clock, a visit is answered from the cache exactly if a visit before it stored a
verdict that is still there and is not too old. -/
theorem Course.fromCache_iff_storedBy (h : Course x (before ++ .visit v :: after) z)
    (hempty : x.cache.entries = []) (hord : ∀ a ∈ before, a.IsOrdinary) :
    v.FromCache ↔
      ∃ u, StoredBy x.cache.expiry v.key before u ∧ ¬v.now - u.now > x.cache.expiry := by
  rw [v.fromCache_iff_found]
  simp only [h.found_eq_some_iff hempty hord]
  constructor
  · rintro ⟨junk, u, hu, hage, -⟩
    exact ⟨u, hu, hage⟩
  · rintro ⟨u, hu, hage⟩
    exact ⟨u.junk, u, hu, hage, rfl⟩

end Course

/-! ### The latest evaluation -/

theorem Visit.not_evaluates_of_keeps {v : Visit} {expiry : Float} {key : String}
    {verdict : Verdict} (h : (Happening.visit v).Keeps expiry key verdict) (hk : v.key = key) :
    ¬v.Evaluates := by
  intro he
  have hput : (⟨v.now, .put v.host v.junk⟩ : CacheEvent) ∈ v.events := by
    simp [events, v.found_eq_none_iff.mpr he]
  have hd := h _ hput
  have hk' : lower v.host = key := hk
  simp [CacheEvent.drops, hk'] at hd

theorem StoredBy.latest {expiry : Float} {key : String} {hs : List Happening} {u : Visit}
    (h : StoredBy expiry key hs u) : LatestEvaluation key hs u := by
  obtain ⟨before, after, hsplit, hk, he, hl⟩ := h
  refine ⟨before, after, hsplit, hk, he, ?_⟩
  intro a ha
  constructor
  · intro hc
    cases a with
    | visit w => exact hc
    | event e =>
      have hd := hl _ ha e (List.mem_singleton_self e)
      have hc' : e.step = .clear := hc
      simp [CacheEvent.drops, hc'] at hd
  · rintro w rfl hwk
    exact Visit.not_evaluates_of_keeps (hl _ ha) hwk

theorem LatestEvaluation.unique {key : String} {hs : List Happening} {u w : Visit}
    (hu : LatestEvaluation key hs u) (hw : LatestEvaluation key hs w) : u = w := by
  obtain ⟨before, after, hsplit, hk, he, hl⟩ := hu
  obtain ⟨before', after', hsplit', hk', he', hl'⟩ := hw
  rw [hsplit] at hsplit'
  -- If one of the two came before the other, it would not be the latest.
  rcases List.append_eq_append_iff.mp hsplit' with ⟨mid, -, hrest⟩ | ⟨mid, -, hrest⟩
  · cases mid with
    | nil =>
      obtain ⟨hvisit, -⟩ := List.cons.inj hrest
      exact Happening.visit.inj hvisit
    | cons a mid =>
      obtain ⟨-, rfl⟩ := List.cons.inj hrest
      exact absurd he' ((hl (.visit w) (by simp)).2 w rfl hk')
  · cases mid with
    | nil =>
      obtain ⟨hvisit, -⟩ := List.cons.inj hrest
      exact (Happening.visit.inj hvisit).symm
    | cons a mid =>
      obtain ⟨-, rfl⟩ := List.cons.inj hrest
      exact absurd he ((hl' (.visit u) (by simp)).2 u rfl hk)

/-- From the latest evaluation to a visit the lists and what is on of them stay the same. -/
theorem LatestEvaluation.keeps_lists {x z : View} {before after : List Happening} {u v : Visit}
    {key : String} (h : LatestEvaluation key before u)
    (hcourse : Course x (before ++ .visit v :: after) z) :
    v.checker.registry.lists = u.checker.registry.lists ∧
      v.checker.registry.isEnabled = u.checker.registry.isEnabled := by
  obtain ⟨first, second, rfl, -, -, hl⟩ := h
  have hbefore := hcourse.before_visit
  obtain ⟨y, -, hrest⟩ := hbefore.split
  cases hrest with
  | visit hrest =>
    have hkeep := hrest.keeps_lists fun a ha => (hl a ha).1
    rw [u.outcome_checker] at hkeep
    exact hkeep

theorem LatestEvaluation.enabled_eq {x z : View} {before after : List Happening} {u v : Visit}
    {key : String} (h : LatestEvaluation key before u)
    (hcourse : Course x (before ++ .visit v :: after) z) :
    v.checker.registry.enabled = u.checker.registry.enabled := by
  obtain ⟨hlists, hon⟩ := h.keeps_lists hcourse
  rw [Registry.enabled, Registry.enabled, hlists, hon]

theorem Visit.keeps_of_key_ne {w : Visit} {key : String} (hk : w.key ≠ key) (expiry : Float)
    (verdict : Verdict) : (Happening.visit w).Keeps expiry key verdict := by
  intro e he
  have hk' : ¬lower w.host = key := hk
  simp only [Happening.events, events, List.mem_cons] at he
  rcases he with rfl | he
  · simp [CacheEvent.drops, hk']
  · split at he
    · rw [List.mem_singleton.mp he]
      simp [CacheEvent.drops, hk']
    · cases he

/-- An ordinary happening keeps a verdict if it does not clear the cache, does not evaluate the
host anew, and does not find the verdict too old. -/
theorem Happening.keeps_of_not_expired {a : Happening} (hord : a.IsOrdinary) {expiry : Float}
    {key : String} {verdict : Verdict} (hclear : ¬a.Clears)
    (heval : ∀ w, a = .visit w → w.key = key → ¬w.Evaluates)
    (hage : verdict.isExpired a.now expiry = false) : a.Keeps expiry key verdict := by
  cases a with
  | event e =>
    intro e' he
    obtain rfl : e' = e := List.mem_singleton.mp he
    have hage' : verdict.isExpired e'.now expiry = false := hage
    unfold CacheEvent.drops
    cases hs : e'.step with
    | get host => simp [hage']
    | put host junk => exact absurd hs (hord host junk)
    | clear => exact absurd hs hclear
    | purge => exact hage'
    | contains host => cases host <;> simp [hage']
    | size => rfl
  | visit w =>
    by_cases hk : w.key = key
    · intro e he
      have hage' : verdict.isExpired w.now expiry = false := hage
      have hfound : w.found ≠ none := fun h => heval w rfl hk (w.found_eq_none_iff.mp h)
      have hne : w.found.isNone = false :=
        Option.isNone_eq_false_iff.mpr (Option.isSome_iff_ne_none.mpr hfound)
      simp only [events, Visit.events, hne, Bool.false_eq_true, if_false,
        List.mem_singleton] at he
      rw [he]
      simp [CacheEvent.drops, hage']
    · exact Visit.keeps_of_key_ne hk expiry verdict

/-- If the cache holds the latest evaluation of a visit's host as long as it is not too old, the
visit is answered from the cache exactly if there is one that is not too old, and with the
verdict of that. -/
theorem Course.fromCache_iff_latest {x z : View} {before after : List Happening} {v : Visit}
    (h : Course x (before ++ .visit v :: after) z) (hempty : x.cache.entries = [])
    (hord : ∀ a ∈ before, a.IsOrdinary)
    (hstored : ∀ u, LatestEvaluation v.key before u → ¬v.now - u.now > x.cache.expiry →
      StoredBy x.cache.expiry v.key before u) :
    (v.FromCache ↔
      ∃ u, LatestEvaluation v.key before u ∧ ¬v.now - u.now > x.cache.expiry) ∧
    (∀ u, LatestEvaluation v.key before u → ¬v.now - u.now > x.cache.expiry →
      v.junk = u.junk) := by
  refine ⟨⟨?_, ?_⟩, ?_⟩
  · intro hf
    obtain ⟨u, hu, hage⟩ := (h.fromCache_iff_storedBy hempty hord).mp hf
    exact ⟨u, hu.latest, hage⟩
  · rintro ⟨u, hu, hage⟩
    exact (h.fromCache_iff_storedBy hempty hord).mpr ⟨u, hstored u hu hage, hage⟩
  · intro u hu hage
    have hf : v.found = some u.junk :=
      (h.found_eq_some_iff hempty hord u.junk).mpr ⟨u, hstored u hu hage, hage, rfl⟩
    exact (Visit.fromCache_of_found hf).2

/-! ### Clocks that do not bring verdicts back -/

/-- Whether a verdict that was too old once is too old ever after, as with any clock that never
moves back. -/
def Steady (expiry : Float) : List Happening → Prop
  | [] => True
  | .visit u :: rest =>
    (u.Evaluates → rest.Pairwise fun a b => a.now - u.now > expiry → b.now - u.now > expiry) ∧
      Steady expiry rest
  | .event _ :: rest => Steady expiry rest

theorem Steady.pairwise_after {expiry : Float} {before after : List Happening} {u : Visit}
    (h : Steady expiry (before ++ .visit u :: after)) (he : u.Evaluates) :
    after.Pairwise fun a b => a.now - u.now > expiry → b.now - u.now > expiry := by
  induction before with
  | nil => exact h.1 he
  | cons a before ih =>
    cases a with
    | visit w => exact ih h.2
    | event e => exact ih h

/-- With such a clock the latest evaluation is what the cache holds, as long as it is not too
old. -/
theorem LatestEvaluation.storedBy {expiry : Float} {key : String} {hs after : List Happening}
    {u v : Visit} (h : LatestEvaluation key hs u) (hord : ∀ a ∈ hs, a.IsOrdinary)
    (hclock : Steady expiry (hs ++ .visit v :: after)) (hage : ¬v.now - u.now > expiry) :
    StoredBy expiry key hs u := by
  obtain ⟨first, second, rfl, hk, he, hl⟩ := h
  refine ⟨first, second, rfl, hk, he, ?_⟩
  intro a ha
  have hpair : (second ++ .visit v :: after).Pairwise
      fun a b => a.now - u.now > expiry → b.now - u.now > expiry := by
    rw [List.append_assoc] at hclock
    exact hclock.pairwise_after he
  have hlater : a.now - u.now > expiry → v.now - u.now > expiry :=
    (List.pairwise_append.mp hpair).2.2 a ha (.visit v) (List.mem_cons_self ..)
  have hfresh : u.verdict.isExpired a.now expiry = false :=
    (Verdict.isExpired_eq_false_iff _ _ _).mpr fun hold => hage (hlater hold)
  exact Happening.keeps_of_not_expired (hord a (by simp [ha])) (hl a ha).1 (hl a ha).2 hfresh

/-! ### Runs -/

/-- Whether a step leaves the overrides to the registry and the verdicts to the checks. -/
def Step.isOrdinary : Step → Bool
  | .cache (.put _ _) => false
  | step => step.sparesStore

theorem Step.sparesStore_of_isOrdinary {step : Step} (h : step.isOrdinary = true) :
    step.sparesStore = true := by
  cases step with
  | cache step => rfl
  | _ => exact h

theorem Session.ordinary_happeningsIn (s : Session) {step : Step} (h : step.isOrdinary = true) :
    ∀ a ∈ s.happeningsIn step, a.IsOrdinary := by
  have hvisits (vs : List Visit) : ∀ a ∈ vs.map Happening.visit, a.IsOrdinary := by
    intro a ha
    obtain ⟨v, -, rfl⟩ := List.mem_map.mp ha
    trivial
  have hevent (e : CacheEvent) (hn : ∀ host junk, e.step ≠ .put host junk) :
      ∀ a ∈ [Happening.event e], a.IsOrdinary := by
    intro a ha
    rw [List.mem_singleton.mp ha]
    exact hn
  cases step with
  | cache step =>
    refine hevent ⟨s.now, step⟩ ?_
    rintro host junk rfl
    cases h
  | setEnabled list switch => exact hevent ⟨s.now, .clear⟩ (by simp)
  | reset => exact hevent ⟨s.now, .clear⟩ (by simp)
  | _ => exact hvisits _

theorem Session.ordinary_happenings (s : Session) {steps : List Step}
    (h : ∀ step ∈ steps, step.isOrdinary = true) : ∀ a ∈ s.happenings steps, a.IsOrdinary := by
  induction steps generalizing s with
  | nil => intro a ha; cases ha
  | cons step rest ih =>
    intro a ha
    rcases List.mem_append.mp ha with ha | ha
    · exact s.ordinary_happeningsIn (h step (List.mem_cons_self ..)) a ha
    · exact ih _ (fun p hp => h p (List.mem_cons_of_mem _ hp)) a ha

/-- A check in a run from an empty cache is answered from the cache exactly if its host was
evaluated before with no clearing since, and the time since the latest such evaluation is not
more than the expiry. It then gives the verdict of that evaluation, at which the same lists were
enabled. Otherwise it evaluates the lists. The step in which it is made asks the questions of its
checks and gives their verdicts. -/
theorem Session.fresh_in_run (s : Session) (steps : List Step)
    (hempty : s.checker.cache.entries = [])
    (hsteps : ∀ step ∈ steps, step.isOrdinary = true)
    (hclock : Steady s.checker.cache.expiry (s.happenings steps))
    (before after : List Happening) (v : Visit)
    (hrun : s.happenings steps = before ++ .visit v :: after) :
    (v.FromCache ↔ ∃ u, LatestEvaluation v.key before u ∧
      ¬v.now - u.now > s.checker.cache.expiry) ∧
    (∀ u, LatestEvaluation v.key before u → ¬v.now - u.now > s.checker.cache.expiry →
      v.junk = u.junk ∧ v.checker.registry.enabled = u.checker.registry.enabled) ∧
    (¬v.FromCache → v.Evaluates) ∧
    ∃ first step rest, steps = first ++ step :: rest ∧ v ∈ (s.run first).1.visits step ∧
      (s.run first).1.ShowsVisits step := by
  have hmade : .visit v ∈ s.happenings steps := by
    rw [hrun]
    exact List.mem_append_right _ (List.mem_cons_self ..)
  have hcourse := s.course_happenings fun p hp => Step.sparesStore_of_isOrdinary (hsteps p hp)
  have hord : ∀ a ∈ before, a.IsOrdinary := by
    intro a ha
    refine s.ordinary_happenings hsteps a ?_
    rw [hrun]
    exact List.mem_append_left _ ha
  rw [hrun] at hcourse hclock
  have hstored (u : Visit) (hu : LatestEvaluation v.key before u)
      (hage : ¬v.now - u.now > s.checker.cache.expiry) :
      StoredBy s.checker.cache.expiry v.key before u := hu.storedBy hord hclock hage
  obtain ⟨hcache, hsame⟩ := hcourse.fromCache_iff_latest hempty hord hstored
  refine ⟨hcache, ?_, v.evaluates_iff_not_fromCache.mpr, s.exists_step_of_visit hmade⟩
  intro u hu hage
  exact ⟨hsame u hu hage, hu.enabled_eq hcourse⟩

/-- A session over the known services, with nothing stored. -/
def Session.initial : Session := ⟨.initial, .plain, Checker.brokenAnswers, 1000⟩

/-- A host is checked twice, in two spellings, with a purge in between. -/
def Session.repeatedSteps : List Step :=
  [.checkHost "Mail.Example.com" none, .advance 1800, .cache .purge, .advance 1800,
    .checkHost "mail.example.COM" none]

theorem Session.fresh_in_repeated :
    initial.checker.cache.entries = [] ∧
      (∀ step ∈ repeatedSteps, step.isOrdinary = true) ∧
      Steady initial.checker.cache.expiry (initial.happenings repeatedSteps) ∧
      ∃ u purge v, initial.happenings repeatedSteps = [.visit u, purge] ++ .visit v :: [] ∧
        u.Evaluates ∧ v.FromCache ∧ v.junk = u.junk := by
  have hsteps : ∀ step ∈ repeatedSteps, step.isOrdinary = true := by decide
  have happenings_eq (s : Session) : s.happenings repeatedSteps =
      [.visit ⟨s.checker, s.resolver, s.now, "Mail.Example.com", none⟩,
        .event ⟨s.now + 1800, .purge⟩,
        .visit ⟨(s.run (repeatedSteps.take 4)).1.checker, s.resolver, s.now + 1800 + 1800,
          "mail.example.COM", none⟩] := rfl
  have hrun := happenings_eq initial
  set u : Visit := ⟨initial.checker, initial.resolver, initial.now, "Mail.Example.com", none⟩
  set v : Visit := ⟨(initial.run (repeatedSteps.take 4)).1.checker, initial.resolver,
    initial.now + 1800 + 1800, "mail.example.COM", none⟩
  have heval : u.Evaluates := u.found_eq_none_iff.mp rfl
  have hkey : u.key = v.key := by decide +kernel
  have hage : ¬v.now - u.now > initial.checker.cache.expiry := by decide +kernel
  have hclock : Steady initial.checker.cache.expiry (initial.happenings repeatedSteps) := by
    have hpurge : ¬initial.now + 1800 - initial.now > initial.checker.cache.expiry := by
      decide +kernel
    rw [hrun]
    refine ⟨fun _ => ?_, fun _ => .nil, trivial⟩
    refine .cons ?_ (.cons (by simp) .nil)
    intro a _ hold
    exact absurd hold hpurge
  have hlatest : LatestEvaluation v.key [.visit u, .event ⟨initial.now + 1800, .purge⟩] u := by
    refine ⟨[], [.event ⟨initial.now + 1800, .purge⟩], rfl, hkey, heval, ?_⟩
    intro a ha
    rw [List.mem_singleton.mp ha]
    exact ⟨CacheStep.noConfusion, by simp⟩
  obtain ⟨hcache, hsame, -⟩ := fresh_in_run initial repeatedSteps rfl hsteps hclock
    [.visit u, .event ⟨initial.now + 1800, .purge⟩] [] v hrun
  exact ⟨rfl, hsteps, hclock, u, _, v, hrun, heval, hcache.mpr ⟨u, hlatest, hage⟩,
    (hsame u hlatest hage).1⟩

end RelayReputation
