import RelayReputation.Proofs.CacheAnswers

/-!
# Looks at a cache

A look at a cache may take entries out of it, but only such as no later look could have answered
with, as long as the clock keeps old verdicts old. So looks can be put into a run anywhere without
any answer to the others being another one. A purge leaves exactly the entries that a look at the
same moment answers with.
-/

namespace RelayReputation

open RelayReputation.Text

/-! ### Clocks that keep old verdicts old -/

/-- Whether a verdict that is too old at one event is too old at every later one, as with any clock
that never moves back. -/
def KeepsOld (expiry : Float) : List CacheEvent → Prop
  | [] => True
  | e :: rest =>
    (∀ host junk, e.step = .put host junk →
      rest.Pairwise fun a b => a.now - e.now > expiry → b.now - e.now > expiry) ∧
    KeepsOld expiry rest

theorem KeepsOld.sublist {expiry : Float} {events events' : List CacheEvent}
    (hsub : events'.Sublist events) (h : KeepsOld expiry events) : KeepsOld expiry events' := by
  induction hsub with
  | slnil => exact h
  | cons e _ ih => exact ih h.2
  | cons_cons e hsub ih =>
    refine ⟨?_, ih h.2⟩
    intro host junk hput
    exact (h.1 host junk hput).sublist hsub

theorem KeepsOld.pairwise_after {expiry : Float} {before after : List CacheEvent}
    {e : CacheEvent} (h : KeepsOld expiry (before ++ e :: after)) {host : String} {junk : Bool}
    (hput : e.step = .put host junk) :
    after.Pairwise fun a b => a.now - e.now > expiry → b.now - e.now > expiry := by
  induction before with
  | nil => exact h.1 host junk hput
  | cons e' before ih => exact ih h.2

/-- With such a clock a verdict that is not too old at the end has never been. -/
theorem LastStored.neverTooOld {expiry : Float} {key : String} {events since : List CacheEvent}
    {v : Verdict} {last : CacheEvent} (h : LastStored key events v since)
    (hclock : KeepsOld expiry (events ++ [last])) (hage : ¬last.now - v.created > expiry) :
    NeverTooOld expiry key v since := by
  obtain ⟨before, e, rfl, hs, -⟩ := h
  obtain ⟨host, junk, hput, -, rfl⟩ := (CacheEvent.stores?_eq_some_iff _ _ _).mp hs
  have hpair : (since ++ [last]).Pairwise
      fun a b => a.now - e.now > expiry → b.now - e.now > expiry := by
    rw [List.append_assoc] at hclock
    exact hclock.pairwise_after hput
  intro look hm _ hold
  have hlater : look.now - e.now > expiry → last.now - e.now > expiry :=
    (List.pairwise_append.mp hpair).2.2 look hm last (List.mem_singleton_self last)
  exact hage (hlater hold)

theorem VerdictCache.get_after_iff_of_keepsOld {expiry : Float} {events : List CacheEvent}
    {last : CacheEvent} (hclock : KeepsOld expiry (events ++ [last])) (host : String)
    (junk : Bool) :
    (((VerdictCache.mk expiry []).after events).get last.now host).2 = some junk ↔
      ∃ t, (∃ since, LastStored (lower host) events ⟨junk, t⟩ since) ∧
        ¬last.now - t > expiry := by
  rw [get_after_eq_some_iff]
  simp only [neverTooOld_append_get]
  constructor
  · rintro ⟨t, since, hlast, -, hage⟩
    exact ⟨t, ⟨since, hlast⟩, hage⟩
  · rintro ⟨t, ⟨since, hlast⟩, hage⟩
    exact ⟨t, since, hlast, hlast.neverTooOld hclock hage, hage⟩

/-! ### Runs with extra looks -/

/-- Whether an event only looks at the cache. -/
def CacheEvent.isLook (e : CacheEvent) : Bool :=
  match e.step with
  | .put _ _ => false
  | .clear => false
  | _ => true

/-- Whether an event asks for the verdict of a host, or whether there is one. -/
def CacheEvent.asks (e : CacheEvent) : Bool :=
  match e.step with
  | .get _ => true
  | .contains _ => true
  | _ => false

/-- A call in a run. One that is put in besides the others may only look. -/
structure Call where
  event : CacheEvent
  extra : Bool := false
  isLook : extra = true → event.isLook = true := by decide

/-- A run without the calls put in. -/
def ownCalls (calls : List Call) : List Call := calls.filter (!·.extra)

theorem ownCalls_append_singleton (calls : List Call) (call : Call) :
    ownCalls (calls ++ [call]) = ownCalls calls ++ if call.extra then [] else [call] := by
  cases h : call.extra <;> simp [ownCalls, h]

/-- The answers to the calls of a run that ask for verdicts, but for those put in. -/
def VerdictCache.ownAnswers (c : VerdictCache) : List Call → List Answer
  | [] => []
  | call :: rest =>
    if call.event.asks && !call.extra then
      call.event.answer c :: (c.next call.event).ownAnswers rest
    else (c.next call.event).ownAnswers rest

theorem CacheEvent.stores?_of_isLook {e : CacheEvent} (h : e.isLook = true) (key : String) :
    e.step ≠ .clear ∧ e.stores? key = none := by
  obtain ⟨now, step⟩ := e
  cases step with
  | put host junk => cases h
  | clear => cases h
  | _ => exact ⟨CacheStep.noConfusion, rfl⟩

/-- What was stored last is the same without the calls put in. -/
theorem lastStored_ownCalls_iff (key : String) (calls : List Call) (v : Verdict) :
    (∃ since, LastStored key ((ownCalls calls).map (·.event)) v since) ↔
      ∃ since, LastStored key (calls.map (·.event)) v since := by
  induction calls using List.reverseRecOn with
  | nil => rfl
  | append_singleton calls call ih =>
    rw [List.map_append, List.map_singleton, lastStored_append_singleton, ← ih,
      ownCalls_append_singleton]
    cases hextra : call.extra with
    | true =>
      have hkept := CacheEvent.stores?_of_isLook (call.isLook hextra) key
      simp [hkept.1, hkept.2]
    | false =>
      simp only [Bool.false_eq_true, if_false, List.map_append, List.map_singleton]
      rw [lastStored_append_singleton]

namespace VerdictCache

theorem ownAnswers_append_singleton (c : VerdictCache) (calls : List Call) (call : Call) :
    c.ownAnswers (calls ++ [call]) = c.ownAnswers calls ++
      if call.event.asks && !call.extra then
        [call.event.answer (c.after (calls.map (·.event)))] else [] := by
  induction calls generalizing c with
  | nil => cases h : call.event.asks && !call.extra <;> simp [ownAnswers, after, h]
  | cons first rest ih =>
    have hafter : c.after ((first :: rest).map (·.event)) =
        (c.next first.event).after (rest.map (·.event)) := rfl
    rw [hafter, List.cons_append, ownAnswers, ownAnswers, ih]
    cases first.event.asks && !first.extra <;> simp

/-- An event that asks is answered from what the cache has for the hosts. -/
theorem answer_congr {c d : VerdictCache} {e : CacheEvent} (hasks : e.asks = true)
    (h : ∀ host, (c.get e.now host).2 = (d.get e.now host).2) : e.answer c = e.answer d := by
  obtain ⟨now, step⟩ := e
  cases step with
  | get host => exact congrArg Answer.verdict (h host)
  | contains host =>
    cases host with
    | none => rfl
    | some host => exact congrArg (fun found => Answer.truth found.isSome) (h host)
  | _ => cases hasks

theorem get_after_ownCalls {expiry : Float} {calls : List Call} {last : CacheEvent}
    (hclock : KeepsOld expiry (calls.map (·.event) ++ [last])) (host : String) :
    (((VerdictCache.mk expiry []).after ((ownCalls calls).map (·.event))).get last.now host).2 =
      (((VerdictCache.mk expiry []).after (calls.map (·.event))).get last.now host).2 := by
  have hsub : ((ownCalls calls).map (·.event)).Sublist (calls.map (·.event)) :=
    List.filter_sublist.map _
  have hown := hclock.sublist (hsub.append (List.Sublist.refl [last]))
  apply Option.ext
  intro junk
  rw [get_after_iff_of_keepsOld hown, get_after_iff_of_keepsOld hclock]
  simp only [lastStored_ownCalls_iff]

theorem ownAnswers_ownCalls {expiry : Float} {calls : List Call}
    (hclock : KeepsOld expiry (calls.map (·.event))) :
    (VerdictCache.mk expiry []).ownAnswers (ownCalls calls) =
      (VerdictCache.mk expiry []).ownAnswers calls := by
  -- From the end: the last call, if it counts, is answered alike after either run.
  induction calls using List.reverseRecOn with
  | nil => rfl
  | append_singleton calls call ih =>
    rw [List.map_append, List.map_singleton] at hclock
    have hbefore := ih (hclock.sublist (List.sublist_append_left _ _))
    rw [ownAnswers_append_singleton, ownCalls_append_singleton, ← hbefore]
    cases hextra : call.extra with
    | true => simp
    | false =>
      simp only [Bool.false_eq_true, if_false]
      rw [ownAnswers_append_singleton]
      cases hasks : call.event.asks with
      | false => simp
      | true =>
        have hsame := answer_congr hasks (get_after_ownCalls hclock)
        simp [hextra, hsame]

/-! ### Purges -/

theorem purge_counts (c : VerdictCache) (now : Float) :
    (c.purge now).2 = c.entries.countP (·.2.isExpired now c.expiry) ∧
      (c.purge now).1.size + (c.purge now).2 = c.size := by
  have hlength := List.length_eq_countP_add_countP (fun e : String × Verdict =>
    e.2.isExpired now c.expiry) (l := c.entries)
  have hkept : (c.entries.filter fun e => !e.2.isExpired now c.expiry).length =
      c.entries.countP fun e => !e.2.isExpired now c.expiry := List.countP_eq_length_filter.symm
  simp only [purge, size, hkept]
  simp only [Bool.not_eq_true, Bool.decide_eq_false] at hlength
  omega

/-- After a purge a look at the same moment answers for every entry. -/
theorem get_purge_isSome_iff {c : VerdictCache} (h : (Keyed.keys c.entries).Nodup) (now : Float)
    (host : String) :
    (∃ junk, ((c.purge now).1.get now host).2 = some junk) ↔
      lower host ∈ Keyed.keys (c.purge now).1.entries := by
  have hkept : (Keyed.keys (c.purge now).1.entries).Nodup :=
    h.sublist ((List.filter_sublist (l := c.entries)).map _)
  have hfresh (v : Verdict) : (c.purge now).1.entries.get? (lower host) = some v →
      v.isExpired now c.expiry = false := by
    intro hv
    have hboth := (Keyed.get?_filter_eq_some_iff h
      (fun v => !v.isExpired now c.expiry) (lower host) v).mp hv
    simpa using hboth.2
  rw [Keyed.mem_keys_iff hkept]
  simp only [get_eq_some_iff]
  constructor
  · rintro ⟨junk, v, hv, -, -⟩
    exact ⟨v, hv⟩
  · rintro ⟨v, hv⟩
    exact ⟨v.junk, v, hv, hfresh v hv, rfl⟩

theorem size_purge_after (expiry : Float) (events : List CacheEvent) (now : Float) :
    let p := ((VerdictCache.mk expiry []).after events).next ⟨now, .purge⟩
    p.size = (lower '' {host | ∃ junk,
      CacheEvent.answer p ⟨now, .get host⟩ = .verdict (some junk)}).encard := by
  intro p
  have hp : p = (VerdictCache.mk expiry []).after (events ++ [⟨now, .purge⟩]) :=
    (after_append_singleton _ _ _).symm
  have hkeys : (Keyed.keys p.entries).Nodup := by
    rw [hp]
    exact nodup_keys_after_empty expiry _
  have hlower (key : String) (hm : key ∈ Keyed.keys p.entries) : lower key = key := by
    rw [hp] at hm
    exact lower_of_mem_keys_after hm
  have hfound (host : String) :
      (∃ junk, CacheEvent.answer p ⟨now, .get host⟩ = .verdict (some junk)) ↔
        lower host ∈ Keyed.keys p.entries := by
    have hget : (∃ junk, (p.get now host).2 = some junk) ↔ lower host ∈ Keyed.keys p.entries :=
      get_purge_isSome_iff (nodup_keys_after_empty expiry events) now host
    simpa [CacheEvent.answer, CacheStep.apply] using hget
  have himage : lower '' {host | lower host ∈ Keyed.keys p.entries} =
      {key | key ∈ Keyed.keys p.entries} := by
    ext key
    constructor
    · rintro ⟨host, hm, rfl⟩
      exact hm
    · intro hm
      refine ⟨key, ?_, hlower key hm⟩
      show lower key ∈ Keyed.keys p.entries
      rw [hlower key hm]
      exact hm
  simp only [hfound]
  rw [himage, p.encard_keys hkeys]

/-- Looks put into a run change no answer of the others. A purge at any point says by how many
entries it makes the cache smaller, which are those too old then, and what it leaves is what is
still found. -/
theorem looks_change_no_answer (expiry : Float) (calls : List Call)
    (hclock : KeepsOld expiry (calls.map (·.event))) :
    (VerdictCache.mk expiry []).ownAnswers (ownCalls calls) =
      (VerdictCache.mk expiry []).ownAnswers calls ∧
    ∀ events now,
      let c := (VerdictCache.mk expiry []).after events
      let p := c.next ⟨now, .purge⟩
      (∃ n, CacheEvent.answer c ⟨now, .purge⟩ = .count n ∧ p.size + n = c.size ∧
        n = c.entries.countP fun e => e.2.isExpired now expiry) ∧
      p.size = (lower '' {host | ∃ junk,
        CacheEvent.answer p ⟨now, .get host⟩ = .verdict (some junk)}).encard := by
  refine ⟨ownAnswers_ownCalls hclock, ?_⟩
  intro events now c p
  refine ⟨?_, size_purge_after expiry events now⟩
  obtain ⟨hcount, hsize⟩ := c.purge_counts now
  have hexpiry : c.expiry = expiry := expiry_after _ events
  exact ⟨(c.purge now).2, rfl, hsize, hexpiry ▸ hcount⟩

/-- A run in which a purge put in takes an entry out that would else still be there, too old, when
it is asked for. -/
def lookedAt : List Call := [
  { event := ⟨1000, .put "A.example" true⟩ },
  { event := ⟨2800, .get "a.example"⟩, extra := true },
  { event := ⟨2900, .contains (some "B.example")⟩ },
  { event := ⟨4700, .purge⟩, extra := true },
  { event := ⟨4800, .get "a.EXAMPLE"⟩ },
  { event := ⟨4800, .put "a.example" false⟩ },
  { event := ⟨4900, .size⟩, extra := true },
  { event := ⟨5000, .get "A.example"⟩ }]

theorem keepsOld_lookedAt : KeepsOld 3600 (lookedAt.map (·.event)) := by
  refine ⟨fun _ _ _ => ?_, fun _ _ h => ?_, fun _ _ h => ?_, fun _ _ h => ?_, fun _ _ h => ?_,
    fun _ _ _ => ?_, fun _ _ h => ?_, fun _ _ h => ?_, trivial⟩
  all_goals first | cases h | decide +kernel

theorem looks_change_no_answer_lookedAt :
    KeepsOld 3600 (lookedAt.map (·.event)) ∧
      (VerdictCache.mk 3600 []).ownAnswers (ownCalls lookedAt) =
        [.truth false, .verdict none, .verdict (some false)] ∧
      (VerdictCache.mk 3600 []).ownAnswers lookedAt =
        [.truth false, .verdict none, .verdict (some false)] := by
  have hown : (VerdictCache.mk 3600 []).ownAnswers (ownCalls lookedAt) =
      [.truth false, .verdict none, .verdict (some false)] := by decide +kernel
  have hsame := (looks_change_no_answer 3600 lookedAt keepsOld_lookedAt).1
  exact ⟨keepsOld_lookedAt, hown, hsame ▸ hown⟩

end VerdictCache

end RelayReputation
