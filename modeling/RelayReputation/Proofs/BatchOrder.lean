import RelayReputation.Proofs.FaultTolerance
import RelayReputation.Proofs.SessionHistory

/-!
# Batches in any order

The messages of a batch share one cache. Whatever has been checked before it in the batch, a
message gets the verdict that it gets alone, since what the others leave in the cache for its host
is what it would have found out itself (`Settled`). So the order of the messages does not matter,
neither for the verdicts nor for what is in the cache at the end: `checkAll_in_any_order`.
-/

namespace RelayReputation

open RelayReputation.Text

/-! ### Entries by key -/

namespace Keyed

variable {κ α : Type} [DecidableEq κ]

def valuesAt (m : Keyed κ α) (key : κ) : List α := (m.filter (·.1 = key)).map (·.2)

theorem mem_iff_mem_valuesAt (m : Keyed κ α) (e : κ × α) : e ∈ m ↔ e.2 ∈ m.valuesAt e.1 := by
  obtain ⟨k, v⟩ := e
  simp [valuesAt]

theorem get?_eq_head?_valuesAt (m : Keyed κ α) (key : κ) :
    m.get? key = (m.valuesAt key).head? := by
  induction m with
  | nil => rfl
  | cons e rest ih =>
    obtain ⟨k, v⟩ := e
    by_cases hk : k = key
    · simp [get?, valuesAt, hk]
    · simpa [get?, valuesAt, hk] using ih

theorem valuesAt_erase (m : Keyed κ α) (key k : κ) :
    (erase m key).valuesAt k = if key = k then [] else m.valuesAt k := by
  unfold erase valuesAt
  rw [List.filter_filter]
  by_cases hk : key = k
  · subst hk
    simp
  · have hsame : (m.filter fun e => decide (e.1 = k) && decide (e.1 ≠ key)) =
        m.filter fun e => decide (e.1 = k) := by
      refine List.filter_congr fun e _ => ?_
      by_cases he : e.1 = k
      · simp [he, Ne.symm hk]
      · simp [he]
    rw [hsame, if_neg hk]

theorem valuesAt_set_of_ne (m : Keyed κ α) {key k : κ} (h : key ≠ k) (v : α) :
    (set m key v).valuesAt k = m.valuesAt k := by
  induction m with
  | nil => simp [set, valuesAt, h]
  | cons e rest ih =>
    obtain ⟨k', w⟩ := e
    by_cases hk : k' = key
    · subst hk
      simp [set, valuesAt, h]
    · have hset : set ((k', w) :: rest) key v = (k', w) :: set rest key v := by simp [set, hk]
      rw [hset]
      by_cases hk' : k' = k
      · simpa [valuesAt, hk'] using ih
      · simpa [valuesAt, hk'] using ih

theorem valuesAt_set_of_valuesAt_eq_nil {m : Keyed κ α} {key : κ} (h : m.valuesAt key = [])
    (v : α) : (set m key v).valuesAt key = [v] := by
  induction m with
  | nil => simp [set, valuesAt]
  | cons e rest ih =>
    obtain ⟨k, w⟩ := e
    by_cases hk : k = key
    · simp [valuesAt, hk] at h
    · have hrest : valuesAt rest key = [] := by simpa [valuesAt, hk] using h
      simpa [set, valuesAt, hk] using ih hrest

theorem get?_map {β : Type} (m : Keyed κ α) (f : α → β) (key : κ) :
    get? (m.map fun e => (e.1, f e.2)) key = (m.get? key).map f := by
  induction m with
  | nil => rfl
  | cons e rest ih =>
    obtain ⟨k, v⟩ := e
    by_cases hk : k = key
    · simp [get?, hk]
    · simpa [get?, hk] using ih

end Keyed

namespace VerdictCache

/-- Whether a look under a key finds no verdict: there is none, or it is too old. -/
def Lacks (c : VerdictCache) (now : Float) (key : String) : Prop :=
  ∀ v, c.entries.get? key = some v → v.isExpired now c.expiry = true

theorem get_eq_none_iff (c : VerdictCache) (now : Float) (host : String) :
    (c.get now host).2 = none ↔ c.Lacks now (lower host) := by
  simp only [get, Lacks]
  cases c.entries.get? (lower host) with
  | none => simp
  | some v => cases hv : v.isExpired now c.expiry <;> simp [hv]

theorem get_snd_congr {c d : VerdictCache} {now : Float} {host : String}
    (hexpiry : d.expiry = c.expiry)
    (h : d.entries.valuesAt (lower host) = c.entries.valuesAt (lower host)) :
    (d.get now host).2 = (c.get now host).2 := by
  have hget : d.entries.get? (lower host) = c.entries.get? (lower host) := by
    rw [Keyed.get?_eq_head?_valuesAt, Keyed.get?_eq_head?_valuesAt, h]
  simp only [get, hget, hexpiry]
  cases c.entries.get? (lower host) with
  | none => rfl
  | some v => cases hv : v.isExpired now c.expiry <;> simp [hv]

theorem get_fst_of_some {c : VerdictCache} {now : Float} {host : String} {junk : Bool}
    (h : (c.get now host).2 = some junk) : (c.get now host).1 = c := by
  obtain ⟨v, hv, hfresh, -⟩ := (c.get_eq_some_iff now host junk).mp h
  simp [get, hv, hfresh]

theorem valuesAt_get_of_none {c : VerdictCache} {now : Float} {host : String}
    (h : (c.get now host).2 = none) (key : String) :
    (c.get now host).1.entries.valuesAt key =
      if lower host = key then [] else c.entries.valuesAt key := by
  have hlacks := (c.get_eq_none_iff now host).mp h
  rcases c.get_fst_cases now host with ⟨he, hall⟩ | ⟨he, -⟩
  · -- Nothing was dropped, so there was nothing to find.
    have hnot : c.entries.get? (lower host) = none := by
      cases hv : c.entries.get? (lower host) with
      | none => rfl
      | some v => cases (hlacks v hv).symm.trans (hall v hv)
    rw [he]
    split
    · next hk =>
      rw [Keyed.get?_eq_head?_valuesAt, List.head?_eq_none_iff, hk] at hnot
      exact hnot
    · rfl
  · rw [he]
    exact Keyed.valuesAt_erase c.entries (lower host) key

end VerdictCache

namespace Checker

variable {c c' : Checker} {r : Resolver} {now : Float}

/-! ### One host -/

/-- The verdict of the lists of the registry on a host. -/
def hostVerdict (c : Checker) (r : Resolver) (host : String) : Bool :=
  (c.evaluateHost r (lower host) c.registry.lists).2

theorem hostVerdict_lower (c : Checker) (r : Resolver) (host : String) :
    c.hostVerdict r (lower host) = c.hostVerdict r host := by
  simp only [hostVerdict, lower_lower]

theorem checkHost_verdict (c : Checker) (r : Resolver) (now : Float) (host : String) :
    (c.checkHost r now host none).2.2 =
      (c.cache.get now host).2.getD (c.hostVerdict r host) := by
  cases h : (c.cache.get now host).2 with
  | none =>
    rw [checkHost_of_fresh h]
    rfl
  | some junk =>
    rw [checkHost_of_found h]
    rfl

theorem checkHost_fst_of_found {host : String} {junk : Bool}
    (h : (c.cache.get now host).2 = some junk) : (c.checkHost r now host none).1 = c := by
  rw [checkHost_of_found h, VerdictCache.get_fst_of_some h]
  rfl

theorem checkHost_fst_of_fresh {host : String} (h : (c.cache.get now host).2 = none) :
    (c.checkHost r now host none).1 =
      c.withCache ((c.cache.get now host).1.put now host (c.hostVerdict r host)) := by
  rw [checkHost_of_fresh h]
  rfl

theorem valuesAt_checkHost_of_fresh {host : String} (h : (c.cache.get now host).2 = none)
    (key : String) :
    (c.checkHost r now host none).1.cache.entries.valuesAt key =
      if lower host = key then [⟨c.hostVerdict r host, now⟩]
      else c.cache.entries.valuesAt key := by
  rw [checkHost_fst_of_fresh h, cache_withCache, VerdictCache.put]
  have hleft := VerdictCache.valuesAt_get_of_none h
  by_cases hk : lower host = key
  · subst hk
    have hnil := hleft (lower host)
    rw [if_pos rfl] at hnil ⊢
    exact Keyed.valuesAt_set_of_valuesAt_eq_nil hnil _
  · have hkeep := hleft key
    rw [if_neg hk] at hkeep ⊢
    rw [Keyed.valuesAt_set_of_ne _ hk, hkeep]

/-! ### What the checks of hosts leave -/

/-- Where a checker stands after the hosts with the given keys were checked at one reading of the
clock, in whatever order and however often: of those keys, the ones without a verdict at the start
have the one that their host gets from the lists. -/
structure Settled (c : Checker) (r : Resolver) (now : Float) (keys : List String)
    (c' : Checker) : Prop where
  rest : c' = c.withCache c'.cache
  expiry : c'.cache.expiry = c.cache.expiry
  stored : ∀ key ∈ keys, c.cache.Lacks now key →
    c'.cache.entries.valuesAt key = [⟨c.hostVerdict r key, now⟩]
  kept : ∀ key, (key ∈ keys → ¬c.cache.Lacks now key) →
    c'.cache.entries.valuesAt key = c.cache.entries.valuesAt key

namespace Settled

variable {keys keys' : List String}

theorem nil (c : Checker) (r : Resolver) (now : Float) : c.Settled r now [] c where
  rest := rfl
  expiry := rfl
  stored := by simp
  kept _ _ := rfl

theorem valuesAt_eq {c₁ c₂ : Checker} (h₁ : c.Settled r now keys c₁)
    (h₂ : c.Settled r now keys' c₂) (hkeys : ∀ key, key ∈ keys ↔ key ∈ keys') (key : String) :
    c₁.cache.entries.valuesAt key = c₂.cache.entries.valuesAt key := by
  by_cases hnew : key ∈ keys ∧ c.cache.Lacks now key
  · rw [h₁.stored key hnew.1 hnew.2, h₂.stored key ((hkeys key).mp hnew.1) hnew.2]
  · have hold : key ∈ keys → ¬c.cache.Lacks now key := fun hm hl => hnew ⟨hm, hl⟩
    rw [h₁.kept key hold, h₂.kept key fun hm => hold ((hkeys key).mpr hm)]

theorem hostVerdict_eq (h : c.Settled r now keys c') (host : String) :
    c'.hostVerdict r host = c.hostVerdict r host := by
  rw [h.rest]
  rfl

theorem get_eq_of_not_lacks (h : c.Settled r now keys c') {host : String}
    (hhas : ¬c.cache.Lacks now (lower host)) :
    (c'.cache.get now host).2 = (c.cache.get now host).2 :=
  VerdictCache.get_snd_congr h.expiry (h.kept (lower host) fun _ => hhas)

theorem mem_of_found (h : c.Settled r now keys c') {host : String} {junk : Bool}
    (hlacks : c.cache.Lacks now (lower host)) (hfound : (c'.cache.get now host).2 = some junk) :
    lower host ∈ keys := by
  by_contra hm
  have hsame := h.kept (lower host) fun hm' => absurd hm' hm
  rw [VerdictCache.get_snd_congr h.expiry hsame,
    (c.cache.get_eq_none_iff now host).mpr hlacks] at hfound
  cases hfound

theorem eq_of_found (h : c.Settled r now keys c') {host : String} {junk : Bool}
    (hlacks : c.cache.Lacks now (lower host)) (hfound : (c'.cache.get now host).2 = some junk) :
    junk = c.hostVerdict r host := by
  obtain ⟨v, hv, -, hjunk⟩ := (c'.cache.get_eq_some_iff now host junk).mp hfound
  rw [Keyed.get?_eq_head?_valuesAt, h.stored _ (h.mem_of_found hlacks hfound) hlacks] at hv
  obtain rfl := Option.some.inj hv
  rw [← hjunk, hostVerdict_lower]

theorem verdict_checkHost (h : c.Settled r now keys c') (host : String) :
    (c'.checkHost r now host none).2.2 = (c.checkHost r now host none).2.2 := by
  rw [checkHost_verdict, checkHost_verdict, h.hostVerdict_eq]
  by_cases hlacks : c.cache.Lacks now (lower host)
  · rw [(c.cache.get_eq_none_iff now host).mpr hlacks]
    cases hfound : (c'.cache.get now host).2 with
    | none => rfl
    | some junk => exact h.eq_of_found hlacks hfound
  · rw [h.get_eq_of_not_lacks hlacks]

theorem checkHost (h : c.Settled r now keys c') (host : String) :
    c.Settled r now (keys ++ [lower host]) (c'.checkHost r now host none).1 := by
  cases hfound : (c'.cache.get now host).2 with
  | some junk =>
    -- Nothing changes, so the host must have been checked before or had a verdict at the start.
    rw [checkHost_fst_of_found hfound]
    refine ⟨h.rest, h.expiry, ?_, ?_⟩
    · intro key hm hlacks
      rcases List.mem_append.mp hm with hm | hm
      · exact h.stored key hm hlacks
      · obtain rfl := List.mem_singleton.mp hm
        exact h.stored _ (h.mem_of_found hlacks hfound) hlacks
    · intro key hold
      exact h.kept key fun hm => hold (List.mem_append_left _ hm)
  | none =>
    have hentries := valuesAt_checkHost_of_fresh (r := r) hfound
    -- A host that had a verdict at the start would have it still.
    have hlacks : c.cache.Lacks now (lower host) := by
      by_contra hhas
      rw [h.get_eq_of_not_lacks hhas, c.cache.get_eq_none_iff] at hfound
      exact hhas hfound
    refine ⟨?_, ?_, ?_, ?_⟩
    · rw [checkHost_fst_of_fresh hfound, cache_withCache, h.rest]
      rfl
    · rw [checkHost_fst_of_fresh hfound, cache_withCache, VerdictCache.expiry_put,
        VerdictCache.expiry_get, h.expiry]
    · intro key hm hlacks'
      rw [hentries key]
      split
      · next hk => rw [← hk, h.hostVerdict_eq, hostVerdict_lower]
      · next hk =>
        have hm' : key ∈ keys := by simpa [Ne.symm hk] using hm
        exact h.stored key hm' hlacks'
    · intro key hold
      have hk : lower host ≠ key := by
        rintro rfl
        exact hold (by simp) hlacks
      rw [hentries key, if_neg hk]
      exact h.kept key fun hm => hold (List.mem_append_left _ hm)

end Settled

/-! ### Messages -/

/-- The keys of the host that a message names. -/
def messageKeys (received : List HeaderValue) : List String :=
  match relayHostOf received with
  | .ok (some host) => [lower host]
  | _ => []

/-- The verdict that a message gets by itself; there is none if it cannot be checked. -/
def verdictAlone (c : Checker) (r : Resolver) (now : Float) (received : List HeaderValue) :
    Option Bool :=
  match (c.isJunk r now received).2.2 with
  | .ok verdict => verdict
  | .error _ => none

namespace Settled

variable {keys : List String}

theorem isJunk (h : c.Settled r now keys c') (received : List HeaderValue) :
    (c'.isJunk r now received).2.2 = (c.isJunk r now received).2.2 ∧
      c.Settled r now (keys ++ messageKeys received) (c'.isJunk r now received).1 := by
  unfold Checker.isJunk messageKeys
  cases relayHostOf received with
  | error e => simpa using h
  | ok named =>
    cases named with
    | none => simpa using h
    | some host =>
      have hverdict := h.verdict_checkHost host
      exact ⟨congrArg (fun junk => Except.ok (some junk)) hverdict, h.checkHost host⟩

theorem checkMessage (h : c.Settled r now keys c') (key : String)
    (received : List HeaderValue) :
    (c'.checkMessage r now key received).2.2 = c.verdictAlone r now received ∧
      c.Settled r now (keys ++ messageKeys received) (c'.checkMessage r now key received).1 := by
  obtain ⟨hverdict, hsettled⟩ := h.isJunk received
  refine ⟨?_, ?_⟩
  · unfold verdictAlone Checker.checkMessage
    rw [← hverdict]
    rcases c'.isJunk r now received with ⟨d, t, e | verdict⟩ <;> rfl
  · rw [checkMessage_fst]
    exact hsettled

theorem checkEach (h : c.Settled r now keys c')
    (messages : List (String × List HeaderValue)) :
    (c'.checkEach r now messages).2.2 =
        messages.map (fun m => (m.1, c.verdictAlone r now m.2)) ∧
      c.Settled r now (keys ++ messages.flatMap fun m => messageKeys m.2)
        (c'.checkEach r now messages).1 := by
  -- The checker that each message meets is settled for the keys of those before it.
  induction messages generalizing c' keys with
  | nil => simpa [Checker.checkEach] using h
  | cons message rest ih =>
    obtain ⟨key, received⟩ := message
    obtain ⟨hverdict, hsettled⟩ := h.checkMessage key received
    obtain ⟨hverdicts, hend⟩ := ih hsettled
    refine ⟨?_, ?_⟩
    · simp only [Checker.checkEach, List.map_cons, hverdict, hverdicts]
    · rw [List.flatMap_cons, ← List.append_assoc]
      exact hend

end Settled

/-! ### Batches -/

theorem checkAll_eq_checkEach (hworkers : 0 < c.workers) (r : Resolver) (now : Float)
    (messages : Keyed String (List HeaderValue)) :
    (c.checkAll r now messages).2.2 = .ok (c.checkEach r now messages).2.2 ∧
      (c.checkAll r now messages).1 = (c.checkEach r now messages).1 := by
  cases messages with
  | nil => exact ⟨rfl, rfl⟩
  | cons message rest =>
    have hw : ¬c.workers ≤ 0 := by omega
    simp [checkAll, hw]

/-- Whatever the order in which the messages of a batch are handled, every key gets the verdict
that its message gets by itself, and the cache holds the same entries in the end. -/
theorem checkAll_in_any_order (c : Checker) (r : Resolver) (now : Float)
    (messages order : Keyed String (List HeaderValue)) (hworkers : 0 < c.workers)
    (hkeys : (Keyed.keys messages).Nodup) (horder : order.Perm messages) :
    (∃ results, (c.checkAll r now order).2.2 = .ok results ∧
      (Keyed.keys results).Perm (Keyed.keys messages) ∧
      ∀ key, results.get? key = (messages.get? key).map (c.verdictAlone r now)) ∧
    ∀ entry, entry ∈ (c.checkAll r now order).1.cache.entries ↔
      entry ∈ (c.checkAll r now messages).1.cache.entries := by
  obtain ⟨hresults, hlast⟩ := c.checkAll_eq_checkEach hworkers r now order
  obtain ⟨hverdicts, hsettled⟩ := (Settled.nil c r now).checkEach order
  refine ⟨⟨_, hresults, ?_, ?_⟩, ?_⟩
  · rw [hverdicts]
    have hnames : Keyed.keys (order.map fun m => (m.1, c.verdictAlone r now m.2)) =
        Keyed.keys order := by simp [Keyed.keys]
    rw [hnames]
    exact horder.map Prod.fst
  · intro key
    rw [hverdicts, Keyed.get?_map, Keyed.get?_eq_of_perm hkeys horder]
  · intro entry
    have hsettled' := ((Settled.nil c r now).checkEach messages).2
    have hsame := hsettled.valuesAt_eq hsettled' (fun key => by simp [horder.mem_iff]) entry.1
    have hlast' := (c.checkAll_eq_checkEach hworkers r now messages).2
    rw [hlast, hlast', Keyed.mem_iff_mem_valuesAt, Keyed.mem_iff_mem_valuesAt, hsame]

/-- A batch with two spellings of one host, a message without headers and one that cannot be
checked. -/
def mixedBatch : Keyed String (List HeaderValue) :=
  [("first", [.text "from a.example.net", .text "from Mail.Example.com by mx"]),
    ("empty", []), ("broken", [.other "NoneType"]), ("second", [.text "from mail.example.COM"])]

theorem checkAll_in_any_order_mixedBatch :
    (Keyed.keys mixedBatch).Nodup ∧ mixedBatch.reverse.Perm mixedBatch ∧
      ∃ results, (initial.checkAll (Backend.records.resolver listedOnce) 1000
          mixedBatch.reverse).2.2 = .ok results ∧
        results.get? "first" = some (some true) ∧ results.get? "second" = some (some true) ∧
        results.get? "empty" = some none ∧ results.get? "broken" = some none := by
  have hkeys : (Keyed.keys mixedBatch).Nodup := by decide
  have horder : mixedBatch.reverse.Perm mixedBatch := mixedBatch.reverse_perm
  obtain ⟨⟨results, hresults, -, hget⟩, -⟩ := checkAll_in_any_order initial
    (Backend.records.resolver listedOnce) 1000 mixedBatch mixedBatch.reverse (by decide) hkeys
    horder
  refine ⟨hkeys, horder, results, hresults, ?_, ?_, ?_, ?_⟩
  · exact (hget "first").trans (by decide +kernel)
  · exact (hget "second").trans (by decide +kernel)
  · exact (hget "empty").trans (by decide +kernel)
  · exact (hget "broken").trans (by decide +kernel)

end Checker

end RelayReputation
