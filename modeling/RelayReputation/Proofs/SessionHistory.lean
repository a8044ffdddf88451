import RelayReputation.Proofs.Visit

/-!
# The history of a session

What happens in a run of a session, as far as the cache and the block lists that are on are
concerned: the checks of hosts, made by themselves, for a message or in a batch, and the steps on
the cache, of which turning a list on or off is one that clears it. `course_happenings` says that
a run is a course through these happenings: each visit starts from what the ones before it left,
and which lists are on changes only when the cache is cleared. Each visit is made in a step of the
run (`exists_step_of_visit`), and such a step asks the questions of its visits and gives their
verdicts (`step_visits`).
-/

namespace RelayReputation

open RelayReputation.Text

/-! ### Happenings -/

/-- A check of a host, or a step on the cache. -/
inductive Happening
  | visit (v : Visit)
  | event (e : CacheEvent)

namespace Happening

def now : Happening → Float
  | visit v => v.now
  | event e => e.now

def events : Happening → List CacheEvent
  | visit v => v.events
  | event e => [e]

def Clears : Happening → Prop
  | visit _ => False
  | event e => e.step = .clear

end Happening

/-! ### Courses -/

/-- What is seen of a registry: its cache, its lists, and which lists are on. -/
structure View where
  cache : VerdictCache
  lists : List BlockList
  isOn : BlockList → Bool

def Registry.view (r : Registry) : View := ⟨r.cache, r.lists, r.isEnabled⟩

/-- A course from one view to another: a visit starts from the view of its checker, and a step on
the cache that does not clear it leaves all else as it is. -/
inductive Course : View → List Happening → View → Prop
  | nil (x : View) : Course x [] x
  | visit {v : Visit} {hs : List Happening} {y : View}
    (rest : Course v.outcome.1.registry.view hs y) :
    Course v.checker.registry.view (.visit v :: hs) y
  | event {x mid y : View} {e : CacheEvent} {hs : List Happening}
    (hcache : mid.cache = x.cache.next e)
    (hkeep : e.step = .clear ∨ (mid.lists = x.lists ∧ mid.isOn = x.isOn))
    (rest : Course mid hs y) : Course x (.event e :: hs) y

namespace Course

variable {x y z : View} {hs hs' : List Happening}

theorem append (h : Course x hs y) (h' : Course y hs' z) : Course x (hs ++ hs') z := by
  induction h with
  | nil x => exact h'
  | visit _ ih => exact .visit (ih h')
  | event hcache hkeep _ ih => exact .event hcache hkeep (ih h')

theorem split (h : Course x (hs ++ hs') z) : ∃ y, Course x hs y ∧ Course y hs' z := by
  induction hs generalizing x with
  | nil => exact ⟨x, .nil x, h⟩
  | cons a hs ih =>
    cases h with
    | visit rest =>
      obtain ⟨y, hy, hz⟩ := ih rest
      exact ⟨y, .visit hy, hz⟩
    | event hcache hkeep rest =>
      obtain ⟨y, hy, hz⟩ := ih rest
      exact ⟨y, .event hcache hkeep hy, hz⟩

/-- The course up to a visit ends in the view of its checker. -/
theorem before_visit {before after : List Happening} {v : Visit}
    (h : Course x (before ++ .visit v :: after) z) :
    Course x before v.checker.registry.view := by
  obtain ⟨y, hy, hz⟩ := h.split
  cases hz with
  | visit _ => exact hy

theorem cache_eq (h : Course x hs y) : y.cache = x.cache.after (hs.flatMap Happening.events) := by
  induction h with
  | nil x => rfl
  | visit _ ih =>
    rw [ih, List.flatMap_cons, VerdictCache.after_append]
    exact congrArg (VerdictCache.after · _) (Visit.outcome_cache _)
  | event hcache _ _ ih =>
    rw [ih, hcache, List.flatMap_cons, VerdictCache.after_append]
    rfl

/-- As long as the cache is not cleared the lists stay, and so does which of them are on. -/
theorem keeps_lists (h : Course x hs y) (hn : ∀ a ∈ hs, ¬a.Clears) :
    y.lists = x.lists ∧ y.isOn = x.isOn := by
  induction h with
  | nil x => exact ⟨rfl, rfl⟩
  | @visit v hs y _ ih =>
    obtain ⟨hl, ho⟩ := ih fun a ha => hn a (List.mem_cons_of_mem _ ha)
    rw [v.outcome_checker] at hl ho
    exact ⟨hl, ho⟩
  | event _ hkeep _ ih =>
    obtain ⟨hl, ho⟩ := ih fun a ha => hn a (List.mem_cons_of_mem _ ha)
    rcases hkeep with hc | ⟨hl', ho'⟩
    · exact absurd hc (hn _ (List.mem_cons_self ..))
    · exact ⟨hl.trans hl', ho.trans ho'⟩

end Course

/-! ### What happens in a run -/

def Checker.messageVisits (c : Checker) (r : Resolver) (now : Float)
    (received : List HeaderValue) : List Visit :=
  match relayHostOf received with
  | .ok (some host) => [⟨c, r, now, host, none⟩]
  | _ => []

/-- The checks made for the messages of a batch, each with the checker that the ones before it
leave. -/
def Checker.batchVisits (c : Checker) (r : Resolver) (now : Float) :
    List (String × List HeaderValue) → List Visit
  | [] => []
  | (key, received) :: rest =>
    c.messageVisits r now received ++ (c.checkMessage r now key received).1.batchVisits r now rest

namespace Session

def visits (s : Session) : Step → List Visit
  | .checkHost host lists => [⟨s.checker, s.resolver, s.now, host, lists⟩]
  | .isJunk received => s.checker.messageVisits s.resolver s.now received
  | .checkAll messages =>
    if s.checker.workers ≤ 0 then [] else s.checker.batchVisits s.resolver s.now messages
  | _ => []

def happeningsIn (s : Session) (step : Step) : List Happening :=
  match step with
  | .cache step => [.event ⟨s.now, step⟩]
  | .setEnabled _ _ => [.event ⟨s.now, .clear⟩]
  | .reset => [.event ⟨s.now, .clear⟩]
  | step => (s.visits step).map .visit

/-- What happens in a run, in order. -/
def happenings (s : Session) : List Step → List Happening
  | [] => []
  | step :: rest => s.happeningsIn step ++ (s.step step).1.happenings rest

end Session

/-! ### Runs are courses -/

/-- Whether a step leaves the overrides to the registry. -/
def Step.sparesStore : Step → Bool
  | .store (.set _ _) => false
  | .store (.remove _) => false
  | _ => true

theorem Store.get?_withDisk (s : Store) (disk : Disk) (key : CodePoints) :
    (s.withDisk disk).get? key = s.get? key := by
  cases s <;> rfl

theorem Store.get?_of_changeDisk {s t : Store} {change : Disk → Except StoreFault Disk}
    (h : s.changeDisk change = .ok t) (key : CodePoints) : t.get? key = s.get? key := by
  unfold changeDisk at h
  cases hd : s.disk? with
  | none =>
    rw [hd] at h
    obtain rfl := Except.ok.inj h
    rfl
  | some disk =>
    rw [hd] at h
    obtain ⟨new, -, rfl⟩ := map_eq_ok_iff.mp h
    exact s.get?_withDisk new key

theorem StoreStep.get?_apply {step : StoreStep} (h : (Step.store step).sparesStore = true)
    (s : Store) (key : CodePoints) : (step.apply s).1.get? key = s.get? key := by
  cases step with
  | set key' value => cases h
  | remove key' => cases h
  | overwrite text =>
    simp only [apply]
    cases hc : s.changeDisk (Disk.overwrite text) with
    | error f => rfl
    | ok t => exact Store.get?_of_changeDisk hc key
  | toDirectory =>
    simp only [apply]
    cases hc : s.changeDisk Disk.toDirectory with
    | error f => rfl
    | ok t => exact Store.get?_of_changeDisk hc key
  | _ => rfl

theorem Course.messageVisits (c : Checker) (r : Resolver) (now : Float)
    (received : List HeaderValue) :
    Course c.registry.view ((c.messageVisits r now received).map .visit)
      (c.isJunk r now received).1.registry.view := by
  unfold Checker.messageVisits Checker.isJunk
  split
  · next host h =>
    simp only [h]
    exact Course.visit (v := ⟨c, r, now, host, none⟩) (.nil _)
  · next h =>
    cases hr : relayHostOf received with
    | error e => exact .nil _
    | ok host =>
      cases host with
      | none => exact .nil _
      | some host => exact absurd hr (h host)

theorem Checker.checkMessage_fst (c : Checker) (r : Resolver) (now : Float) (key : String)
    (received : List HeaderValue) :
    (c.checkMessage r now key received).1 = (c.isJunk r now received).1 := by
  unfold checkMessage
  rcases c.isJunk r now received with ⟨c', t, e | verdict⟩ <;> rfl

theorem Course.batchVisits (c : Checker) (r : Resolver) (now : Float)
    (messages : List (String × List HeaderValue)) :
    Course c.registry.view ((c.batchVisits r now messages).map .visit)
      (c.checkEach r now messages).1.registry.view := by
  induction messages generalizing c with
  | nil => exact .nil _
  | cons message rest ih =>
    obtain ⟨key, received⟩ := message
    have hm := Course.messageVisits c r now received
    rw [← c.checkMessage_fst r now key received] at hm
    rw [Checker.batchVisits, List.map_append]
    exact hm.append (ih _)

namespace Session

theorem course_happeningsIn (s : Session) {step : Step} (h : step.sparesStore = true) :
    Course s.checker.registry.view (s.happeningsIn step)
      (s.step step).1.checker.registry.view := by
  cases step with
  | cache step =>
    have hcache : (s.step (.cache step)).1.checker.registry.cache =
        s.checker.registry.cache.next ⟨s.now, step⟩ := rfl
    have hkeep : (s.step (.cache step)).1.checker.registry.view.lists =
          s.checker.registry.view.lists ∧
        (s.step (.cache step)).1.checker.registry.view.isOn =
          s.checker.registry.view.isOn := ⟨rfl, rfl⟩
    exact .event hcache (.inr hkeep) (.nil _)
  | store step =>
    have hview : (s.step (.store step)).1.checker.registry.view = s.checker.registry.view := by
      have hon : (s.step (.store step)).1.checker.registry.isEnabled =
          s.checker.registry.isEnabled := by
        funext b
        exact congrArg (Option.getD · b.defaultEnabled) (StoreStep.get?_apply h _ _)
      simp only [Registry.view, hon]
      rfl
    rw [hview]
    exact .nil _
  | isJunk received => exact .messageVisits s.checker s.resolver s.now received
  | checkHost host lists =>
    exact Course.visit (v := ⟨s.checker, s.resolver, s.now, host, lists⟩) (.nil _)
  | checkAll messages =>
    simp only [happeningsIn, visits, Session.step, Checker.checkAll]
    by_cases hw : s.checker.workers ≤ 0
    · simp only [hw, if_true, List.map_nil]
      cases messages.isEmpty <;> exact .nil _
    · simp only [hw, if_false]
      cases messages with
      | nil => exact .nil _
      | cons message rest => exact .batchVisits s.checker s.resolver s.now (message :: rest)
  | setEnabled list switch =>
    -- The cache is cleared whether or not the store takes the override.
    exact .event (s.checker.registry.cache_setEnabled list switch) (.inl rfl) (.nil _)
  | reset => exact .event s.checker.registry.cache_reset (.inl rfl) (.nil _)
  | _ => exact .nil _

/-- A run that leaves the overrides to the registry is a course through what happens in it. -/
theorem course_happenings (s : Session) {steps : List Step}
    (h : ∀ step ∈ steps, step.sparesStore = true) :
    Course s.checker.registry.view (s.happenings steps)
      (s.run steps).1.checker.registry.view := by
  induction steps generalizing s with
  | nil => exact .nil _
  | cons step rest ih =>
    have hstep := s.course_happeningsIn (h step (List.mem_cons_self ..))
    exact hstep.append (ih _ fun p hp => h p (List.mem_cons_of_mem _ hp))

end Session

/-! ### What the steps of a run give -/

def Answer.verdictsGiven : Answer → List Bool
  | .truth b => [b]
  | .verdict b => b.toList
  | .verdicts bs => bs.filterMap (·.2)
  | _ => []

def Step.checks : Step → Bool
  | .checkHost _ _ => true
  | .isJunk _ => true
  | .checkAll _ => true
  | _ => false

theorem Checker.isJunk_visits (c : Checker) (r : Resolver) (now : Float)
    (received : List HeaderValue) :
    (c.isJunk r now received).2.1.questions =
        (c.messageVisits r now received).flatMap (·.trace.questions) ∧
      ∀ verdict, (c.isJunk r now received).2.2 = .ok verdict →
        verdict.toList = (c.messageVisits r now received).map (·.junk) := by
  unfold messageVisits isJunk
  cases relayHostOf received with
  | error e => exact ⟨rfl, by simp⟩
  | ok host =>
    cases host with
    | none => exact ⟨rfl, by rintro verdict ⟨⟩; rfl⟩
    | some host =>
      refine ⟨(List.append_nil _).symm, ?_⟩
      rintro verdict ⟨⟩
      rfl

theorem Checker.checkMessage_visits (c : Checker) (r : Resolver) (now : Float) (key : String)
    (received : List HeaderValue) :
    (c.checkMessage r now key received).2.1.questions =
        (c.messageVisits r now received).flatMap (·.trace.questions) ∧
      (c.checkMessage r now key received).2.2.toList =
        (c.messageVisits r now received).map (·.junk) := by
  have hq := (c.isJunk_visits r now received).1
  have hv := (c.isJunk_visits r now received).2
  have he : ∀ e, (c.isJunk r now received).2.2 = .error e →
      c.messageVisits r now received = [] := by
    intro e h
    unfold isJunk at h
    unfold messageVisits
    cases hr : relayHostOf received with
    | error f => rfl
    | ok host =>
      cases host with
      | none => rfl
      | some host => simp [hr] at h
  unfold checkMessage
  generalize c.isJunk r now received = done at hq hv he
  rcases done with ⟨c', t, e | verdict⟩
  · rw [he e rfl] at hq ⊢
    exact ⟨by simpa using hq, rfl⟩
  · exact ⟨hq, hv verdict rfl⟩

theorem Checker.checkEach_visits (c : Checker) (r : Resolver) (now : Float)
    (messages : List (String × List HeaderValue)) :
    (c.checkEach r now messages).2.1.questions =
        (c.batchVisits r now messages).flatMap (·.trace.questions) ∧
      (c.checkEach r now messages).2.2.filterMap (·.2) =
        (c.batchVisits r now messages).map (·.junk) := by
  induction messages generalizing c with
  | nil => exact ⟨rfl, rfl⟩
  | cons message rest ih =>
    obtain ⟨key, received⟩ := message
    obtain ⟨hq, hv⟩ := c.checkMessage_visits r now key received
    obtain ⟨hqs, hvs⟩ := ih (c.checkMessage r now key received).1
    rw [batchVisits, List.flatMap_append, List.map_append, ← hq, ← hv, ← hqs, ← hvs]
    refine ⟨Trace.questions_append _ _, ?_⟩
    simp only [checkEach]
    cases (c.checkMessage r now key received).2.2 <;> rfl

theorem Checker.checkAll_visits (c : Checker) (r : Resolver) (now : Float)
    (messages : List (String × List HeaderValue)) :
    (c.checkAll r now messages).2.1.questions =
        (if c.workers ≤ 0 then [] else c.batchVisits r now messages).flatMap
          (·.trace.questions) ∧
      ∀ verdicts, (c.checkAll r now messages).2.2 = .ok verdicts →
        verdicts.filterMap (·.2) =
          (if c.workers ≤ 0 then [] else c.batchVisits r now messages).map (·.junk) := by
  by_cases hw : c.workers ≤ 0
  · simp only [checkAll, hw, if_true]
    -- An empty batch needs no workers, and any other one fails without a question.
    cases messages.isEmpty with
    | true => exact ⟨rfl, by rintro verdicts ⟨⟩; rfl⟩
    | false => exact ⟨rfl, by rintro verdicts ⟨⟩⟩
  · simp only [checkAll, hw, if_false]
    cases messages with
    | nil => exact ⟨rfl, by rintro verdicts ⟨⟩; rfl⟩
    | cons message rest =>
      obtain ⟨hq, hv⟩ := c.checkEach_visits r now (message :: rest)
      refine ⟨hq, ?_⟩
      rintro verdicts ⟨⟩
      exact hv

namespace Session

/-- Whether a step asks the questions of its visits, in their order, and gives their verdicts. -/
structure ShowsVisits (s : Session) (step : Step) : Prop where
  questions : (s.step step).2.1.questions = (s.visits step).flatMap (·.trace.questions)
  verdicts : ∀ answer, (s.step step).2.2 = .ok answer →
    answer.verdictsGiven = (s.visits step).map (·.junk)

theorem step_visits (s : Session) {step : Step} (h : step.checks = true) : s.ShowsVisits step := by
  cases step with
  | checkHost host lists =>
    refine ⟨(List.append_nil _).symm, ?_⟩
    rintro answer ⟨⟩
    rfl
  | isJunk received =>
    obtain ⟨hq, hv⟩ := s.checker.isJunk_visits s.resolver s.now received
    refine ⟨hq, ?_⟩
    intro answer ha
    obtain ⟨verdict, hverdict, rfl⟩ := map_eq_ok_iff.mp (mapError_eq_ok_iff.mp ha)
    exact hv verdict hverdict
  | checkAll messages =>
    obtain ⟨hq, hv⟩ := s.checker.checkAll_visits s.resolver s.now messages
    refine ⟨hq, ?_⟩
    intro answer ha
    obtain ⟨verdicts, hverdicts, rfl⟩ := map_eq_ok_iff.mp (mapError_eq_ok_iff.mp ha)
    exact hv verdicts hverdicts
  | _ => cases h

theorem checks_of_mem_visits {s : Session} {step : Step} {v : Visit} (h : v ∈ s.visits step) :
    step.checks = true := by
  cases step with
  | checkHost host lists => rfl
  | isJunk received => rfl
  | checkAll messages => rfl
  | _ => cases h

theorem mem_visits_of_mem_happeningsIn {s : Session} {step : Step} {v : Visit}
    (h : .visit v ∈ s.happeningsIn step) : v ∈ s.visits step := by
  have hvisits (vs : List Visit) (hv : .visit v ∈ vs.map Happening.visit) : v ∈ vs := by
    obtain ⟨w, hw, heq⟩ := List.mem_map.mp hv
    exact Happening.visit.inj heq ▸ hw
  cases step with
  | cache step => cases List.mem_singleton.mp h
  | setEnabled list switch => cases List.mem_singleton.mp h
  | reset => cases List.mem_singleton.mp h
  | _ => exact hvisits _ h

/-- A visit of a run is made in one of its steps, and the step shows it. -/
theorem exists_step_of_visit (s : Session) {steps : List Step} {v : Visit}
    (h : .visit v ∈ s.happenings steps) :
    ∃ first step rest, steps = first ++ step :: rest ∧ v ∈ (s.run first).1.visits step ∧
      (s.run first).1.ShowsVisits step := by
  induction steps generalizing s with
  | nil => cases h
  | cons step rest ih =>
    rcases List.mem_append.mp h with h | h
    · have hv := mem_visits_of_mem_happeningsIn h
      exact ⟨[], step, rest, rfl, hv, s.step_visits (checks_of_mem_visits hv)⟩
    · obtain ⟨first, later, last, rfl, hv⟩ := ih (s.step step).1 h
      exact ⟨step :: first, later, last, rfl, hv⟩

end Session

end RelayReputation
