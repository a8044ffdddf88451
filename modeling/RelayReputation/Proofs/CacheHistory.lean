import RelayReputation.Proofs.KeyedEntries
import RelayReputation.Proofs.LowerCase
import RelayReputation.Session.Step
import Mathlib.Data.List.Induction

/-!
# What a cache holds after a history

A cache is driven by steps, each at a reading of the clock, which may be any. A verdict stands for
a key if it is the last one stored for it and nothing since has dropped it: no clearing, and no
look at it that found it too old. `get?_after_iff` says that after every history an empty cache
holds the verdicts that stand and no others.
-/

namespace RelayReputation

open RelayReputation.Text

/-! ### Histories -/

/-- A step on a cache at a reading of the clock. -/
structure CacheEvent where
  now : Float
  step : CacheStep

def CacheEvent.stores? (key : String) (e : CacheEvent) : Option Verdict :=
  match e.step with
  | .put host junk => if lower host = key then some ⟨junk, e.now⟩ else none
  | _ => none

/-- Whether an event drops a verdict that stands for a key. -/
def CacheEvent.drops (expiry : Float) (key : String) (v : Verdict) (e : CacheEvent) : Bool :=
  match e.step with
  | .put host _ => lower host = key
  | .clear => true
  | .purge => v.isExpired e.now expiry
  | .get host => lower host = key && v.isExpired e.now expiry
  | .contains (some host) => lower host = key && v.isExpired e.now expiry
  | .contains none => false
  | .size => false

/-- A verdict stands for a key after some events if one of them stored it and none since has
dropped it. -/
def Stands (expiry : Float) (key : String) (events : List CacheEvent) (v : Verdict) : Prop :=
  ∃ before e after, events = before ++ e :: after ∧ e.stores? key = some v ∧
    ∀ later ∈ after, later.drops expiry key v = false

theorem not_stands_nil (expiry : Float) (key : String) (v : Verdict) :
    ¬Stands expiry key [] v := by
  rintro ⟨before, e, after, h, -, -⟩
  simp at h

/-- What stands after two histories was stored in the first and not dropped in the second, or
it was stored in the second. -/
theorem stands_append (expiry : Float) (key : String) (first second : List CacheEvent)
    (v : Verdict) :
    Stands expiry key (first ++ second) v ↔
      (Stands expiry key first v ∧ ∀ later ∈ second, later.drops expiry key v = false) ∨
        Stands expiry key second v := by
  constructor
  · rintro ⟨before, e, after, h, hs, hl⟩
    rcases List.append_eq_append_iff.mp h with ⟨mid, -, hsecond⟩ | ⟨mid, hfirst, hrest⟩
    · exact Or.inr ⟨mid, e, after, hsecond, hs, hl⟩
    · cases mid with
      | nil => exact Or.inr ⟨[], e, after, hrest.symm, hs, hl⟩
      | cons e' mid =>
        obtain ⟨rfl, rfl⟩ := List.cons.inj hrest
        refine Or.inl ⟨⟨before, e, mid, hfirst, hs, ?_⟩, ?_⟩
        · intro later hm
          exact hl later (List.mem_append_left _ hm)
        · intro later hm
          exact hl later (List.mem_append_right _ hm)
  · rintro (⟨⟨before, e, after, rfl, hs, hl⟩, hsecond⟩ | ⟨before, e, after, rfl, hs, hl⟩)
    · refine ⟨before, e, after ++ second, by simp, hs, ?_⟩
      intro later hm
      rcases List.mem_append.mp hm with hm | hm
      · exact hl later hm
      · exact hsecond later hm
    · exact ⟨first ++ before, e, after, by simp, hs, hl⟩

theorem stands_singleton (expiry : Float) (key : String) (e : CacheEvent) (v : Verdict) :
    Stands expiry key [e] v ↔ e.stores? key = some v := by
  constructor
  · rintro ⟨before, e', after, h, hs, -⟩
    have he : e' = e := by
      have hm : e' ∈ [e] := by simp [h]
      exact List.mem_singleton.mp hm
    rwa [← he]
  · intro hs
    exact ⟨[], e, [], rfl, hs, by simp⟩

theorem stands_flatMap {α : Type} (expiry : Float) (key : String) (f : α → List CacheEvent)
    (as : List α) (v : Verdict) :
    Stands expiry key (as.flatMap f) v ↔
      ∃ before a after, as = before ++ a :: after ∧ Stands expiry key (f a) v ∧
        ∀ later ∈ after, ∀ e ∈ f later, e.drops expiry key v = false := by
  induction as with
  | nil =>
    constructor
    · intro hs
      exact absurd hs (not_stands_nil _ _ _)
    · rintro ⟨before, a, after, h, -, -⟩
      simp at h
  | cons a as ih =>
    rw [List.flatMap_cons, stands_append, ih]
    simp only [List.mem_flatMap, forall_exists_index, and_imp]
    constructor
    · rintro (⟨hs, hl⟩ | ⟨before, a', after, rfl, hs, hl⟩)
      · exact ⟨[], a, as, rfl, hs, fun later hm e he => hl e later hm he⟩
      · exact ⟨a :: before, a', after, rfl, hs, hl⟩
    · rintro ⟨before, a', after, h, hs, hl⟩
      cases before with
      | nil =>
        obtain ⟨rfl, rfl⟩ := List.cons.inj h
        exact Or.inl ⟨hs, fun e later hm he => hl later hm e he⟩
      | cons a'' before =>
        obtain ⟨-, rfl⟩ := List.cons.inj h
        exact Or.inr ⟨before, a', after, rfl, hs, hl⟩

/-! ### One step -/

theorem Verdict.isExpired_eq_false_iff (v : Verdict) (now expiry : Float) :
    v.isExpired now expiry = false ↔ ¬now - v.created > expiry := by
  simp [isExpired]

namespace VerdictCache

def next (c : VerdictCache) (e : CacheEvent) : VerdictCache := (e.step.apply c e.now).1

def after (c : VerdictCache) (events : List CacheEvent) : VerdictCache := events.foldl next c

theorem after_append (c : VerdictCache) (first second : List CacheEvent) :
    c.after (first ++ second) = (c.after first).after second := List.foldl_append

theorem after_append_singleton (c : VerdictCache) (events : List CacheEvent) (e : CacheEvent) :
    c.after (events ++ [e]) = (c.after events).next e := after_append c events [e]

theorem get_eq_some_iff (c : VerdictCache) (now : Float) (host : String) (junk : Bool) :
    (c.get now host).2 = some junk ↔
      ∃ v, c.entries.get? (lower host) = some v ∧ v.isExpired now c.expiry = false ∧
        v.junk = junk := by
  simp only [get]
  cases c.entries.get? (lower host) with
  | none => simp
  | some v => cases hv : v.isExpired now c.expiry <;> simp [hv]

/-- A look changes nothing, or it takes the entry out that it finds too old. -/
theorem get_fst_cases (c : VerdictCache) (now : Float) (host : String) :
    ((c.get now host).1 = c ∧ ∀ v, c.entries.get? (lower host) = some v →
        v.isExpired now c.expiry = false) ∨
      ((c.get now host).1 = { c with entries := c.entries.erase (lower host) } ∧
        ∃ v, c.entries.get? (lower host) = some v ∧ v.isExpired now c.expiry = true) := by
  simp only [get]
  cases c.entries.get? (lower host) with
  | none => exact Or.inl ⟨rfl, by simp⟩
  | some v =>
    cases hv : v.isExpired now c.expiry with
    | true => exact Or.inr ⟨by simp [hv], v, rfl, hv⟩
    | false => exact Or.inl ⟨by simp [hv], by simp [hv]⟩

/-- What a look leaves: every entry but the one looked for, if that is too old. -/
theorem get?_get_eq_some_iff (c : VerdictCache) (now : Float) (host key : String) (v : Verdict) :
    (c.get now host).1.entries.get? key = some v ↔
      c.entries.get? key = some v ∧ (lower host = key && v.isExpired now c.expiry) = false := by
  rcases c.get_fst_cases now host with ⟨he, hfresh⟩ | ⟨he, w, hw, hold⟩
  · rw [he]
    constructor
    · intro hg
      by_cases hk : lower host = key
      · subst hk
        exact ⟨hg, by simp [hfresh v hg]⟩
      · exact ⟨hg, by simp [hk]⟩
    · exact fun h => h.1
  · rw [he]
    simp only [Keyed.get?_erase]
    by_cases hk : lower host = key
    · subst hk
      rw [hw]
      simp only [if_true, reduceCtorEq, false_iff, Option.some.injEq]
      rintro ⟨rfl, hv⟩
      simp [hold] at hv
    · simp [hk]

theorem nodup_keys_get {c : VerdictCache} (h : (Keyed.keys c.entries).Nodup) (now : Float)
    (host : String) : (Keyed.keys (c.get now host).1.entries).Nodup := by
  rcases c.get_fst_cases now host with ⟨he, -⟩ | ⟨he, -⟩
  · rw [he]
    exact h
  · rw [he]
    exact Keyed.nodup_keys_erase h _

theorem expiry_next (c : VerdictCache) (e : CacheEvent) : (c.next e).expiry = c.expiry := by
  obtain ⟨now, step⟩ := e
  cases step with
  | get host => exact expiry_get c now host
  | contains host =>
    cases host with
    | none => rfl
    | some host => exact expiry_get c now host
  | _ => rfl

theorem nodup_keys_next {c : VerdictCache} (h : (Keyed.keys c.entries).Nodup) (e : CacheEvent) :
    (Keyed.keys (c.next e).entries).Nodup := by
  obtain ⟨now, step⟩ := e
  cases step with
  | get host => exact nodup_keys_get h now host
  | put host junk => exact Keyed.nodup_keys_set h _ _
  | clear => exact List.nodup_nil
  | purge => exact h.sublist ((List.filter_sublist (l := c.entries)).map _)
  | contains host =>
    cases host with
    | none => exact h
    | some host => exact nodup_keys_get h now host
  | size => exact h

/-- The entry of a key after an event: what the event stores for it, or else what was there, if
the event does not drop it. -/
theorem get?_next_eq_some_iff {c : VerdictCache} (h : (Keyed.keys c.entries).Nodup)
    (e : CacheEvent) (key : String) (v : Verdict) :
    (c.next e).entries.get? key = some v ↔
      e.stores? key = some v ∨
        (c.entries.get? key = some v ∧ e.drops c.expiry key v = false) := by
  obtain ⟨now, step⟩ := e
  cases step with
  | get host =>
    have hg := c.get?_get_eq_some_iff now host key v
    simpa [next, CacheStep.apply, CacheEvent.stores?, CacheEvent.drops] using hg
  | put host junk =>
    simp only [next, CacheStep.apply, put, Keyed.get?_set, CacheEvent.stores?, CacheEvent.drops]
    by_cases hk : lower host = key <;> simp [hk]
  | clear => simp [next, CacheStep.apply, clear, CacheEvent.stores?, CacheEvent.drops]
  | purge =>
    have hf := Keyed.get?_filter_eq_some_iff h (fun v => !v.isExpired now c.expiry) key v
    simpa [next, CacheStep.apply, purge, CacheEvent.stores?, CacheEvent.drops] using hf
  | contains host =>
    cases host with
    | none => simp [next, CacheStep.apply, CacheEvent.stores?, CacheEvent.drops]
    | some host =>
      have hg := c.get?_get_eq_some_iff now host key v
      simpa [next, CacheStep.apply, contains, CacheEvent.stores?, CacheEvent.drops] using hg
  | size => simp [next, CacheStep.apply, CacheEvent.stores?, CacheEvent.drops]

/-! ### Whole histories -/

theorem expiry_after (c : VerdictCache) (events : List CacheEvent) :
    (c.after events).expiry = c.expiry := by
  induction events generalizing c with
  | nil => rfl
  | cons e rest ih => exact (ih (c.next e)).trans (expiry_next c e)

theorem nodup_keys_after {c : VerdictCache} (h : (Keyed.keys c.entries).Nodup)
    (events : List CacheEvent) : (Keyed.keys (c.after events).entries).Nodup := by
  induction events generalizing c with
  | nil => exact h
  | cons e rest ih => exact ih (nodup_keys_next h e)

/-- After every history an empty cache holds exactly the verdicts that stand. -/
theorem get?_after_iff {c : VerdictCache} (h : c.entries = []) (events : List CacheEvent)
    (key : String) (v : Verdict) :
    (c.after events).entries.get? key = some v ↔ Stands c.expiry key events v := by
  have hd : (Keyed.keys c.entries).Nodup := by
    rw [h]
    exact List.nodup_nil
  -- From the end: the last event stores the verdict, or it leaves one that stood before it.
  induction events using List.reverseRecOn with
  | nil =>
    constructor
    · intro hg
      rw [after, List.foldl_nil, h] at hg
      cases hg
    · intro hs
      exact absurd hs (not_stands_nil _ _ _)
  | append_singleton events e ih =>
    rw [after_append_singleton, get?_next_eq_some_iff (nodup_keys_after hd events), expiry_after,
      stands_append, stands_singleton, or_comm]
    simp only [List.forall_mem_singleton]
    exact or_congr (and_congr ih Iff.rfl) Iff.rfl

end VerdictCache

end RelayReputation
