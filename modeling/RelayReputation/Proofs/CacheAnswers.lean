import RelayReputation.Proofs.CacheHistory
import Mathlib.Data.Set.Card

/-!
# What a cache answers

After any history, with a clock that may go anywhere, a cache answers for a host with the last
verdict stored for it since the last clearing, unless a look at the host or a purge has found that
verdict too old, the present look included. Its size is the number of hosts of which nothing of
the kind has been found. Hosts count by their lower-case forms.
-/

namespace RelayReputation

open RelayReputation.Text

/-! ### Looks and storings -/

def CacheEvent.answer (c : VerdictCache) (e : CacheEvent) : Answer := (e.step.apply c e.now).2.2

/-- Whether an event finds out whether the verdict of a key is too old. -/
def CacheEvent.looksAt (key : String) (e : CacheEvent) : Bool :=
  match e.step with
  | .get host => lower host = key
  | .contains (some host) => lower host = key
  | .purge => true
  | _ => false

/-- The last verdict stored for a key since the last clearing, and the events since then. -/
def LastStored (key : String) (events : List CacheEvent) (v : Verdict)
    (since : List CacheEvent) : Prop :=
  ∃ before e, events = before ++ e :: since ∧ e.stores? key = some v ∧
    ∀ later ∈ since, later.step ≠ .clear ∧ later.stores? key = none

/-- Whether none of some events finds a verdict of a key too old. -/
def NeverTooOld (expiry : Float) (key : String) (v : Verdict) (events : List CacheEvent) : Prop :=
  ∀ look ∈ events, look.looksAt key = true → ¬look.now - v.created > expiry

theorem CacheEvent.drops_eq_false_iff (expiry : Float) (key : String) (v : Verdict)
    (e : CacheEvent) :
    e.drops expiry key v = false ↔ (e.step ≠ .clear ∧ e.stores? key = none) ∧
      (e.looksAt key = true → ¬e.now - v.created > expiry) := by
  rw [← Verdict.isExpired_eq_false_iff]
  obtain ⟨now, step⟩ := e
  cases step with
  | get host => simp [drops, stores?, looksAt]
  | put host junk => simp [drops, stores?, looksAt]
  | clear => simp [drops]
  | purge => simp [drops, stores?, looksAt]
  | contains host => cases host <;> simp [drops, stores?, looksAt]
  | size => simp [drops, stores?, looksAt]

/-- What stands for a key is its last verdict, if that has not been found too old. -/
theorem stands_iff_lastStored (expiry : Float) (key : String) (events : List CacheEvent)
    (v : Verdict) :
    Stands expiry key events v ↔
      ∃ since, LastStored key events v since ∧ NeverTooOld expiry key v since := by
  simp only [Stands, LastStored, NeverTooOld, CacheEvent.drops_eq_false_iff]
  constructor
  · rintro ⟨before, e, since, h, hs, hl⟩
    exact ⟨since, ⟨before, e, h, hs, fun later hm => (hl later hm).1⟩,
      fun look hm => (hl look hm).2⟩
  · rintro ⟨since, ⟨before, e, h, hs, hkept⟩, hfresh⟩
    exact ⟨before, e, since, h, hs, fun later hm => ⟨hkept later hm, hfresh later hm⟩⟩

theorem CacheEvent.stores?_eq_some_iff (key : String) (v : Verdict) (e : CacheEvent) :
    e.stores? key = some v ↔
      ∃ host junk, e.step = .put host junk ∧ lower host = key ∧ v = ⟨junk, e.now⟩ := by
  obtain ⟨now, step⟩ := e
  constructor
  · intro hs
    cases step with
    | put host junk =>
      have hs' : (if lower host = key then some (Verdict.mk junk now) else none) = some v := hs
      obtain ⟨hk, hv⟩ := Option.ite_none_right_eq_some.mp hs'
      exact ⟨host, junk, rfl, hk, (Option.some.inj hv).symm⟩
    | _ => cases hs
  · rintro ⟨host, junk, hput, hk, rfl⟩
    obtain rfl : step = .put host junk := hput
    exact if_pos hk

theorem lastStored_append_singleton (key : String) (events : List CacheEvent) (e : CacheEvent)
    (v : Verdict) :
    (∃ since, LastStored key (events ++ [e]) v since) ↔
      e.stores? key = some v ∨
        ((e.step ≠ .clear ∧ e.stores? key = none) ∧ ∃ since, LastStored key events v since) := by
  constructor
  · rintro ⟨since, before, e', h, hs, hl⟩
    rcases List.eq_nil_or_concat since with rfl | ⟨since, last, rfl⟩
    · obtain ⟨-, he⟩ := List.append_inj' h rfl
      obtain rfl : e = e' := List.singleton_inj.mp he
      exact Or.inl hs
    · have hsplit : events ++ [e] = (before ++ e' :: since) ++ [last] := by simpa using h
      obtain ⟨rfl, he⟩ := List.append_inj' hsplit rfl
      obtain rfl : e = last := List.singleton_inj.mp he
      refine Or.inr ⟨hl e (by simp), since, before, e', rfl, hs, ?_⟩
      intro later hm
      exact hl later (by simp [hm])
  · rintro (hs | ⟨hkept, since, before, e', rfl, hs, hl⟩)
    · exact ⟨[], events, e, rfl, hs, by simp⟩
    · refine ⟨since ++ [e], before, e', by simp, hs, ?_⟩
      intro later hm
      rcases List.mem_append.mp hm with hm | hm
      · exact hl later hm
      · rw [List.mem_singleton.mp hm]
        exact hkept

theorem LastStored.lower_eq {key : String} {events since : List CacheEvent} {v : Verdict}
    (h : LastStored key events v since) : lower key = key := by
  obtain ⟨before, e, -, hs, -⟩ := h
  obtain ⟨host, junk, -, rfl, -⟩ := (CacheEvent.stores?_eq_some_iff _ _ _).mp hs
  exact lower_lower host

/-! ### Keys and size -/

namespace VerdictCache

theorem nodup_keys_after_empty (expiry : Float) (events : List CacheEvent) :
    (Keyed.keys ((VerdictCache.mk expiry []).after events).entries).Nodup :=
  nodup_keys_after (c := VerdictCache.mk expiry []) List.nodup_nil events

theorem mem_keys_after_iff (expiry : Float) (events : List CacheEvent) (key : String) :
    key ∈ Keyed.keys ((VerdictCache.mk expiry []).after events).entries ↔
      ∃ v since, LastStored key events v since ∧ NeverTooOld expiry key v since := by
  rw [Keyed.mem_keys_iff (nodup_keys_after_empty expiry events)]
  simp only [get?_after_iff (c := VerdictCache.mk expiry []) rfl, stands_iff_lastStored]

theorem lower_of_mem_keys_after {expiry : Float} {events : List CacheEvent} {key : String}
    (h : key ∈ Keyed.keys ((VerdictCache.mk expiry []).after events).entries) :
    lower key = key := by
  obtain ⟨v, since, hlast, -⟩ := (mem_keys_after_iff expiry events key).mp h
  exact hlast.lower_eq

theorem encard_keys (c : VerdictCache) (h : (Keyed.keys c.entries).Nodup) :
    {key | key ∈ Keyed.keys c.entries}.encard = c.size := by
  have hset : {key | key ∈ Keyed.keys c.entries} =
      ((Keyed.keys c.entries).toFinset : Set String) := by
    ext key
    simp
  rw [hset, Set.encard_coe_eq_coe_finsetCard, List.toFinset_card_of_nodup h]
  simp [Keyed.keys, size]

/-! ### Answers -/

theorem neverTooOld_append_get (expiry : Float) (host : String) (v : Verdict)
    (since : List CacheEvent) (now : Float) :
    NeverTooOld expiry (lower host) v (since ++ [⟨now, .get host⟩]) ↔
      NeverTooOld expiry (lower host) v since ∧ ¬now - v.created > expiry := by
  simp [NeverTooOld, CacheEvent.looksAt, or_imp, forall_and]

theorem get_after_eq_some_iff (expiry : Float) (events : List CacheEvent) (now : Float)
    (host : String) (junk : Bool) :
    (((VerdictCache.mk expiry []).after events).get now host).2 = some junk ↔
      ∃ t since, LastStored (lower host) events ⟨junk, t⟩ since ∧
        NeverTooOld expiry (lower host) ⟨junk, t⟩ (since ++ [⟨now, .get host⟩]) := by
  have hstands := get?_after_iff (c := VerdictCache.mk expiry []) rfl events (lower host)
  rw [get_eq_some_iff, expiry_after]
  simp only [hstands, stands_iff_lastStored, neverTooOld_append_get,
    Verdict.isExpired_eq_false_iff]
  constructor
  · rintro ⟨v, ⟨since, hlast, hfresh⟩, hage, rfl⟩
    exact ⟨v.created, since, hlast, hfresh, hage⟩
  · rintro ⟨t, since, hlast, hfresh, hage⟩
    exact ⟨⟨junk, t⟩, ⟨since, hlast, hfresh⟩, hage, rfl⟩

/-- What a cache that was empty answers after any events, at any readings of the clock, and what it
then holds. -/
theorem answers_after (expiry : Float) (events : List CacheEvent) :
    let c := (VerdictCache.mk expiry []).after events
    (∀ now host junk, CacheEvent.answer c ⟨now, .get host⟩ = .verdict (some junk) ↔
      ∃ t since, LastStored (lower host) events ⟨junk, t⟩ since ∧
        NeverTooOld expiry (lower host) ⟨junk, t⟩ (since ++ [⟨now, .get host⟩])) ∧
    (∀ now host, CacheEvent.answer c ⟨now, .contains (some host)⟩ = .truth true ↔
      ∃ junk, CacheEvent.answer c ⟨now, .get host⟩ = .verdict (some junk)) ∧
    (∀ now, CacheEvent.answer c ⟨now, .contains none⟩ = .truth false) ∧
    (∀ key ∈ Keyed.keys c.entries, lower key = key) ∧ (Keyed.keys c.entries).Nodup ∧
    c.size = {key | ∃ v since, LastStored key events v since ∧
      NeverTooOld expiry key v since}.encard := by
  intro c
  refine ⟨?_, ?_, fun now => rfl, fun key => lower_of_mem_keys_after, ?_, ?_⟩
  · intro now host junk
    rw [← get_after_eq_some_iff]
    simp [CacheEvent.answer, CacheStep.apply, c]
  · intro now host
    have hfound := Option.isSome_iff_exists (x := (c.get now host).2)
    simpa [CacheEvent.answer, CacheStep.apply, contains] using hfound
  · exact nodup_keys_after_empty expiry events
  · rw [← c.encard_keys (nodup_keys_after_empty expiry events)]
    congr 1
    ext key
    exact mem_keys_after_iff expiry events key

-- A verdict that was found too old stays lost, wherever the clock goes after that.
example : (((VerdictCache.mk 3600 []).after
    [⟨1000, .put "Relay.example" true⟩, ⟨5000, .purge⟩]).get 1000 "relay.example").2 = none := by
  decide +kernel

end VerdictCache

end RelayReputation
