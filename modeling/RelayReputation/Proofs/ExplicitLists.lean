import RelayReputation.Proofs.Freshness

/-!
# Checks against given lists

Verdicts are kept by host alone, also those of checks against given lists. A check of a host that
has a verdict therefore answers for the lists of the check that evaluated it, whatever its own
are. For runs of checks over one network, `Session.own_verdict_iff` says what every check answers,
and when this is what the enabled ones of its own lists say. It always is if all checks of a host
are given the same lists (`Session.own_verdict_of_same_lists`).
-/

namespace RelayReputation

open RelayReputation.Text

/-! ### Evaluations of one host -/

/-- An evaluation depends on the host, the network, the lists and which of them are on. -/
theorem Visit.evaluation_congr {u v : Visit} (hkey : u.key = v.key)
    (hresolver : u.resolver = v.resolver)
    (hlists : u.checker.registry.lists = v.checker.registry.lists)
    (hon : u.checker.registry.isEnabled = v.checker.registry.isEnabled)
    (lists : Option (List BlockList)) : u.evaluation lists = v.evaluation lists := by
  unfold evaluation Checker.evaluateHost
  rw [hkey, hresolver, hlists, hon]

/-- Whether a happening is a check over a given network, or clears the cache. -/
def Happening.IsOver (r : Resolver) : Happening → Prop
  | visit v => v.resolver = r
  | event e => e.step = .clear

theorem Happening.IsOver.isOrdinary {a : Happening} {r : Resolver} (h : a.IsOver r) :
    a.IsOrdinary := by
  cases a with
  | visit v => trivial
  | event e =>
    intro host junk hput
    have hclear : e.step = .clear := h
    rw [hclear] at hput
    cases hput

section Course

variable {x y z : View} {r : Resolver}

/-- If there are only checks and clearings, the cache holds the latest evaluation of a host, with
any clock: a check of the host that found it too old would have evaluated the host anew. -/
theorem LatestEvaluation.storedBy_of_isOver {key : String} {hs : List Happening} {u : Visit}
    (h : LatestEvaluation key hs u) (hcourse : Course x hs y) (hempty : x.cache.entries = [])
    (hover : ∀ a ∈ hs, a.IsOver r) : StoredBy x.cache.expiry key hs u := by
  obtain ⟨first, second, rfl, hk, he, hl⟩ := h
  refine ⟨first, second, rfl, hk, he, ?_⟩
  intro a ha
  cases a with
  | event e =>
    have hclear : (Happening.event e).IsOver r := hover _ (by simp [ha])
    exact absurd hclear (hl _ ha).1
  | visit w =>
    by_cases hwk : w.key = key
    · obtain ⟨mid, rest, rfl⟩ := List.append_of_mem ha
      have hw : Course x ((first ++ .visit u :: mid) ++ .visit w :: rest) y := by
        simpa using hcourse
      have hord : ∀ b ∈ first ++ .visit u :: mid, b.IsOrdinary := by
        intro b hb
        refine (hover b ?_).isOrdinary
        simp only [List.mem_append, List.mem_cons] at hb ⊢
        tauto
      -- Between the latest evaluation and here nothing evaluated the host, so `w` found a
      -- verdict, and that can only be the one of the latest evaluation before `w`.
      have hcache : w.FromCache := by
        by_contra hn
        exact (hl _ ha).2 w rfl hwk (w.evaluates_iff_not_fromCache.mpr hn)
      obtain ⟨u', hu', hage⟩ := (hw.fromCache_iff_storedBy hempty hord).mp hcache
      have hu : LatestEvaluation w.key (first ++ .visit u :: mid) u := by
        refine ⟨first, mid, rfl, hk.trans hwk.symm, he, ?_⟩
        intro b hb
        rw [hwk]
        exact hl b (List.mem_append_left _ hb)
      obtain rfl := hu'.latest.unique hu
      have hvisit : (Happening.visit w).IsOrdinary := trivial
      have hfresh : u'.verdict.isExpired w.now x.cache.expiry = false :=
        (Verdict.isExpired_eq_false_iff _ _ _).mpr hage
      exact Happening.keeps_of_not_expired hvisit (hl _ ha).1 (hl _ ha).2 hfresh
    · exact Visit.keeps_of_key_ne hwk _ _

/-- Over one network, the latest evaluation of a host is still what its lists say. -/
theorem LatestEvaluation.junk_eq {before after : List Happening} {u v : Visit}
    (h : LatestEvaluation v.key before u) (hcourse : Course x (before ++ .visit v :: after) z)
    (hover : ∀ a ∈ before, a.IsOver v.resolver) : u.junk = (v.evaluation u.lists).2 := by
  obtain ⟨hlists, hon⟩ := h.keeps_lists hcourse
  obtain ⟨first, second, rfl, hk, he, -⟩ := h
  have hresolver : u.resolver = v.resolver := hover (.visit u) (by simp)
  have hown : u.junk = (u.evaluation u.lists).2 := congrArg Prod.snd he
  rw [hown, Visit.evaluation_congr hk hresolver hlists.symm hon.symm]

end Course

/-! ### Runs over one network -/

/-- Whether a step checks a host, changes what is enabled, or lets time go by. -/
def Step.checksOrSwitches : Step → Bool
  | .checkHost _ _ => true
  | .setEnabled _ _ => true
  | .reset => true
  | .advance _ => true
  | _ => false

theorem Step.sparesStore_of_checksOrSwitches {step : Step} (h : step.checksOrSwitches = true) :
    step.sparesStore = true := by
  cases step with
  | store step => cases h
  | _ => rfl

namespace Session

theorem resolver_step (s : Session) {step : Step} (h : step.checksOrSwitches = true) :
    (s.step step).1.resolver = s.resolver := by
  cases step with
  | answer question reply => cases h
  | _ => rfl

theorem isOver_happeningsIn (s : Session) {step : Step} (h : step.checksOrSwitches = true) :
    ∀ a ∈ s.happeningsIn step, a.IsOver s.resolver := by
  intro a ha
  cases step with
  | checkHost host lists =>
    rw [List.mem_singleton.mp ha]
    rfl
  | setEnabled list switch =>
    rw [List.mem_singleton.mp ha]
    rfl
  | reset =>
    rw [List.mem_singleton.mp ha]
    rfl
  | advance seconds => cases ha
  | _ => cases h

theorem isOver_happenings (s : Session) {steps : List Step}
    (h : ∀ step ∈ steps, step.checksOrSwitches = true) :
    ∀ a ∈ s.happenings steps, a.IsOver s.resolver := by
  induction steps generalizing s with
  | nil => intro a ha; cases ha
  | cons step rest ih =>
    have hstep := h step (List.mem_cons_self ..)
    have hrest := ih (s.step step).1 fun p hp => h p (List.mem_cons_of_mem _ hp)
    rw [s.resolver_step hstep] at hrest
    intro a ha
    rcases List.mem_append.mp ha with ha | ha
    · exact s.isOver_happeningsIn hstep a ha
    · exact hrest a ha

/-- What a check in a run over one network answers: what the lists of the latest evaluation of
its host say, or what its own say. -/
theorem junk_in_run (s : Session) {steps : List Step} (hempty : s.checker.cache.entries = [])
    (hsteps : ∀ step ∈ steps, step.checksOrSwitches = true) {before after : List Happening}
    {v : Visit} (hrun : s.happenings steps = before ++ .visit v :: after) :
    (v.FromCache ↔
      ∃ u, LatestEvaluation v.key before u ∧ ¬v.now - u.now > s.checker.cache.expiry) ∧
    (∀ u, LatestEvaluation v.key before u → ¬v.now - u.now > s.checker.cache.expiry →
      v.junk = (v.evaluation u.lists).2) := by
  have hcourse := s.course_happenings
    fun p hp => Step.sparesStore_of_checksOrSwitches (hsteps p hp)
  have hall := s.isOver_happenings hsteps
  rw [hrun] at hcourse hall
  have hv : v.resolver = s.resolver := hall (.visit v) (by simp)
  have hover : ∀ a ∈ before, a.IsOver v.resolver := by
    intro a ha
    rw [hv]
    exact hall a (List.mem_append_left _ ha)
  obtain ⟨hcache, hsame⟩ := hcourse.fromCache_iff_latest hempty
    (fun a ha => (hover a ha).isOrdinary)
    (fun u hu _ => hu.storedBy_of_isOver hcourse.before_visit hempty hover)
  refine ⟨hcache, ?_⟩
  intro u hu hage
  rw [hsame u hu hage]
  exact hu.junk_eq hcourse hover

/-- In a run over one network from an empty cache, a check whose host has an evaluation that is
not too old, with no clearing since, answers what the lists of the latest such evaluation say;
every other check answers what its own lists say. So a check answers what its own lists say
exactly if the lists of that evaluation, where there is one, say the same. -/
theorem own_verdict_iff (s : Session) (steps : List Step)
    (hempty : s.checker.cache.entries = [])
    (hsteps : ∀ step ∈ steps, step.checksOrSwitches = true)
    (before after : List Happening) (v : Visit)
    (hrun : s.happenings steps = before ++ .visit v :: after) :
    (∀ u, LatestEvaluation v.key before u → ¬v.now - u.now > s.checker.cache.expiry →
      v.junk = (v.evaluation u.lists).2) ∧
    ((∀ u, LatestEvaluation v.key before u → v.now - u.now > s.checker.cache.expiry) →
      v.junk = (v.evaluation v.lists).2) ∧
    (v.junk = (v.evaluation v.lists).2 ↔
      ∀ u, LatestEvaluation v.key before u → ¬v.now - u.now > s.checker.cache.expiry →
        (v.evaluation u.lists).2 = (v.evaluation v.lists).2) := by
  obtain ⟨hcache, hjunk⟩ := s.junk_in_run hempty hsteps hrun
  have hown (hn : ¬v.FromCache) : v.junk = (v.evaluation v.lists).2 :=
    congrArg Prod.snd (v.evaluates_iff_not_fromCache.mpr hn)
  refine ⟨hjunk, ?_, ?_, ?_⟩
  · intro hold
    refine hown fun hf => ?_
    obtain ⟨u, hu, hage⟩ := hcache.mp hf
    exact hage (hold u hu)
  · intro h u hu hage
    rw [← hjunk u hu hage, h]
  · intro hsame
    by_cases hf : v.FromCache
    · obtain ⟨u, hu, hage⟩ := hcache.mp hf
      rw [hjunk u hu hage, hsame u hu hage]
    · exact hown hf

/-- If all checks of a host are given the same lists, each answers what these say. -/
theorem own_verdict_of_same_lists (s : Session) {steps : List Step}
    (hempty : s.checker.cache.entries = [])
    (hsteps : ∀ step ∈ steps, step.checksOrSwitches = true) {before after : List Happening}
    {v : Visit} (hrun : s.happenings steps = before ++ .visit v :: after)
    (hsame : ∀ u, .visit u ∈ before → u.key = v.key → u.lists = v.lists) :
    v.junk = (v.evaluation v.lists).2 := by
  obtain ⟨hcache, hjunk⟩ := s.junk_in_run hempty hsteps hrun
  by_cases hf : v.FromCache
  · obtain ⟨u, hu, hage⟩ := hcache.mp hf
    have hlists : u.lists = v.lists := by
      obtain ⟨first, second, rfl, hk, -, -⟩ := hu
      exact hsame u (by simp) hk
    rw [hjunk u hu hage, hlists]
  · exact congrArg Prod.snd (v.evaluates_iff_not_fromCache.mpr hf)

/-! ### A check that answers for the lists of another -/

/-- The first of the known services alone. -/
def firstAlone : Option (List BlockList) := some (Checker.initial.registry.lists.take 1)

/-- A host is checked against one list, and then against all those of the registry, of which
another lists it. -/
def mixedSteps : List Step :=
  [.checkHost "mail.example.com" firstAlone, .checkHost "mail.example.com" none]

theorem happenings_mixedSteps (s : Session) :
    s.happenings mixedSteps =
      [.visit ⟨s.checker, s.resolver, s.now, "mail.example.com", firstAlone⟩] ++
        .visit ⟨(s.step (.checkHost "mail.example.com" firstAlone)).1.checker, s.resolver, s.now,
          "mail.example.com", none⟩ :: [] := rfl

theorem checksOrSwitches_mixedSteps : ∀ step ∈ mixedSteps, step.checksOrSwitches = true := by
  simp [mixedSteps, Step.checksOrSwitches]

/-- Not every check answers what its own lists say. -/
theorem not_forall_own_verdict :
    ¬∀ (s : Session) (steps : List Step), s.checker.cache.entries = [] →
      (∀ step ∈ steps, step.checksOrSwitches = true) →
      ∀ (before after : List Happening) (v : Visit),
        s.happenings steps = before ++ .visit v :: after →
        v.junk = (v.evaluation v.lists).2 := by
  intro h
  have hown := h initial mixedSteps rfl checksOrSwitches_mixedSteps _ _ _
    (happenings_mixedSteps initial)
  revert hown
  decide +kernel

theorem verdict_of_mixedSteps :
    ∃ u v, initial.checker.cache.entries = [] ∧
      (∀ step ∈ mixedSteps, step.checksOrSwitches = true) ∧
      initial.happenings mixedSteps = [.visit u] ++ .visit v :: [] ∧
      LatestEvaluation v.key [.visit u] u ∧ ¬v.now - u.now > initial.checker.cache.expiry ∧
      v.junk = (v.evaluation firstAlone).2 ∧ v.junk ≠ (v.evaluation v.lists).2 := by
  have hrun := happenings_mixedSteps initial
  set u : Visit := ⟨initial.checker, initial.resolver, initial.now, "mail.example.com", firstAlone⟩
  set v : Visit := ⟨(initial.step (.checkHost "mail.example.com" firstAlone)).1.checker,
    initial.resolver, initial.now, "mail.example.com", none⟩
  have hlatest : LatestEvaluation v.key [.visit u] u :=
    ⟨[], [], rfl, rfl, u.found_eq_none_iff.mp rfl, by simp⟩
  have hage : ¬v.now - u.now > initial.checker.cache.expiry := by decide +kernel
  have hne : ¬(v.evaluation firstAlone).2 = (v.evaluation v.lists).2 := by decide +kernel
  obtain ⟨hjunk, -, hiff⟩ := own_verdict_iff initial mixedSteps rfl checksOrSwitches_mixedSteps
    [.visit u] [] v hrun
  exact ⟨u, v, rfl, checksOrSwitches_mixedSteps, hrun, hlatest, hage, hjunk u hlatest hage,
    fun hown => hne (hiff.mp hown u hlatest hage)⟩

end Session

end RelayReputation
