import RelayReputation.Proofs.AnswerTexts
import RelayReputation.Resolution.Backend
import Mathlib.Data.List.Basic
import Mathlib.Data.List.TakeWhile

/-!
# Addresses by the system library

The library gives the addresses of a host as socket addresses, which may have scopes and may come
several times. Each is read without its scope and kept where it first occurs (`FirstOccurrences`),
so a host has as many addresses as there are different ones. Socket addresses for an address that is
there already change nothing, however they are written: `resolve_by_socketAddresses`.
-/

namespace RelayReputation

/-! ### Scopes -/

theorem Address.scope_eq_none_of_parse? {text : String} {a : Address} (h : parse? text = some a)
    (hpercent : '%' ∉ text.toList) : a.scope = none := by
  have hafter : afterScope? text.toList = none := by
    have hall : text.toList.dropWhile (· ≠ '%') = [] := by
      refine List.dropWhile_eq_nil_iff.mpr fun c hc => ?_
      have hne : c ≠ '%' := fun he => hpercent (he ▸ hc)
      simpa using hne
    simp only [afterScope?, hall]
  unfold parse? ofChars? at h
  rw [hafter] at h
  split at h
  · obtain rfl := Option.some.inj h
    rfl
  · obtain ⟨n, -, rfl⟩ := Option.map_eq_some_iff.mp h
    rfl

namespace Library

theorem percent_not_mem_unscoped (text : String) : '%' ∉ (unscoped text).toList := by
  intro h
  rw [unscoped, String.toList_ofList] at h
  simpa using List.mem_takeWhile_imp h

theorem scope_eq_none_of_readAs {texts : List String} {all : List Address}
    (h : ReadAs (texts.map unscoped) all)
    {a : Address} (ha : a ∈ all) : a.scope = none := by
  obtain ⟨part, hpart, hparse⟩ := h.mem_iff.mp ha
  obtain ⟨text, -, rfl⟩ := List.mem_map.mp hpart
  exact Address.scope_eq_none_of_parse? hparse (percent_not_mem_unscoped text)

/-! ### First occurrences -/

/-- Whether a list has the members of another one, each once, in the order in which they first
occur there. -/
structure FirstOccurrences (all firsts : List Address) : Prop where
  nodup : firsts.Nodup
  mem_iff : ∀ a, a ∈ firsts ↔ a ∈ all
  order : firsts.Pairwise fun a b => all.idxOf a < all.idxOf b

theorem mem_distinct {all : List Address} {a : Address} : a ∈ distinct all ↔ a ∈ all := by
  induction all with
  | nil => rfl
  | cons b rest ih =>
    by_cases hab : a = b
    · simp [distinct, hab]
    · simp [distinct, hab, ih]

theorem firstOccurrences_distinct (all : List Address) : FirstOccurrences all (distinct all) := by
  refine ⟨?_, fun a => mem_distinct, ?_⟩
  · induction all with
    | nil => exact List.nodup_nil
    | cons a rest ih =>
      have hnot : a ∉ (distinct rest).filter (· ≠ a) := by simp
      exact List.nodup_cons.mpr ⟨hnot, ih.filter _⟩
  · induction all with
    | nil => exact List.Pairwise.nil
    | cons a rest ih =>
      have hshift {b : Address} (hb : b ∈ (distinct rest).filter (· ≠ a)) :
          (a :: rest).idxOf b = rest.idxOf b + 1 := by
        have hne : a ≠ b := by
          rintro rfl
          simp at hb
        exact List.idxOf_cons_ne rest hne
      refine List.pairwise_cons.mpr ⟨?_, ?_⟩
      · intro b hb
        rw [hshift hb, List.idxOf_cons_self]
        omega
      · refine (ih.filter _).imp_of_mem ?_
        intro b c hb hc hlt
        rw [hshift hb, hshift hc]
        omega

theorem distinct_eq_nil_iff {all : List Address} : distinct all = [] ↔ all = [] := by
  cases all <;> simp [distinct]

/-! ### Repeats -/

/-- Whether one list of socket addresses is another one with some put in. Each of these is for the
address of an entry before it; `seen` has the addresses before the whole list. -/
inductive Repeats : List Address → List String → List String → Prop
  | nil {seen : List Address} : Repeats seen [] []
  | entry {seen : List Address} {text : String} {texts repeated : List String}
    (h : Repeats ((Address.parse? (unscoped text)).toList ++ seen) texts repeated) :
    Repeats seen (text :: texts) (text :: repeated)
  | again {seen : List Address} {a : Address} {text : String} {texts repeated : List String}
    (ha : a ∈ seen) (htext : Address.parse? (unscoped text) = some a)
    (h : Repeats seen texts repeated) : Repeats seen texts (text :: repeated)

/-- The first occurrences in a list of what is not yet seen. -/
def unseen (seen all : List Address) : List Address := (distinct all).filter (· ∉ seen)

theorem unseen_nil (all : List Address) : unseen [] all = distinct all := by
  simp [unseen]

theorem unseen_congr {seen seen' : List Address} (h : ∀ b, b ∈ seen ↔ b ∈ seen')
    (all : List Address) : unseen seen all = unseen seen' all := by
  unfold unseen
  refine List.filter_congr fun b _ => ?_
  simp only [h b]

theorem unseen_cons (seen : List Address) (a : Address) (all : List Address) :
    unseen seen (a :: all) = (if a ∈ seen then [] else [a]) ++ unseen (a :: seen) all := by
  have hrest : ((distinct all).filter (· ≠ a)).filter (· ∉ seen) = unseen (a :: seen) all := by
    unfold unseen
    rw [List.filter_filter]
    refine List.filter_congr fun b _ => ?_
    by_cases hb : b = a <;> simp [hb]
  unfold unseen at hrest ⊢
  by_cases ha : a ∈ seen
  · rw [distinct, List.filter_cons_of_neg (by simpa using ha), hrest, if_pos ha, List.nil_append]
  · rw [distinct, List.filter_cons_of_pos (by simpa using ha), hrest, if_neg ha]
    rfl

theorem unseen_cons_of_mem {seen : List Address} {a : Address} (ha : a ∈ seen)
    (all : List Address) : unseen seen (a :: all) = unseen seen all := by
  have hsame : ∀ b, b ∈ a :: seen ↔ b ∈ seen := by
    intro b
    rw [List.mem_cons, or_iff_right_of_imp]
    rintro rfl
    exact ha
  rw [unseen_cons, if_pos ha, List.nil_append, unseen_congr hsame]

theorem map_unseen_cons (seen : List Address) (a : Address)
    (found : Except Failure (List Address)) :
    (found.map (a :: ·)).map (unseen seen) =
      (found.map (unseen (a :: seen))).map ((if a ∈ seen then [] else [a]) ++ ·) := by
  cases found with
  | error e => rfl
  | ok all => exact congrArg Except.ok (unseen_cons seen a all)

/-- Repeats leave a failure to read as it is, and what is read as it is but for what was seen. -/
theorem readAnswers_of_repeats {seen : List Address} {texts repeated : List String}
    (h : Repeats seen texts repeated) :
    (readAnswers (repeated.map unscoped)).map (unseen seen) =
      (readAnswers (texts.map unscoped)).map (unseen seen) := by
  induction h with
  | nil => rfl
  | @entry seen text texts repeated _ ih =>
    rw [List.map_cons, List.map_cons]
    cases hparse : Address.parse? (unscoped text) with
    | none => rw [readAnswers_cons_of_none hparse, readAnswers_cons_of_none hparse]
    | some a =>
      rw [hparse] at ih
      have hrest : (readAnswers (repeated.map unscoped)).map (unseen (a :: seen)) =
          (readAnswers (texts.map unscoped)).map (unseen (a :: seen)) := ih
      rw [readAnswers_cons_of_some hparse, readAnswers_cons_of_some hparse, map_unseen_cons,
        map_unseen_cons, hrest]
  | @again seen a text texts repeated ha htext _ ih =>
    rw [List.map_cons, readAnswers_cons_of_some htext, ← ih]
    cases readAnswers (repeated.map unscoped) with
    | error e => rfl
    | ok all => exact congrArg Except.ok (unseen_cons_of_mem ha all)

/-! ### Resolution -/

section

variable {net : Network} {host : String} {texts : List String}
  (hreply : net ⟨.libraryHosts, host⟩ = .addresses texts)

include hreply

theorem resolve_of_texts : resolve net host =
    ⟨[⟨.libraryHosts, host⟩], ((readAnswers (texts.map unscoped)).map (unseen [])).bind
      (someAnswers host)⟩ := by
  have hdistinct : unseen [] = distinct := funext unseen_nil
  simp only [resolve, ask, hreply, hdistinct]
  cases readAnswers (texts.map unscoped) <;> rfl

theorem resolve_of_readAs {all : List Address} (h : ReadAs (texts.map unscoped) all) :
    (resolve net host).outcome = someAnswers host (distinct all) := by
  rw [resolve_of_texts hreply, readAnswers_of_readAs h, ← unseen_nil]
  rfl

theorem resolve_of_firstBad? {bad : String} (h : firstBad? (texts.map unscoped) = some bad) :
    (resolve net host).outcome = .error (.unexpected (.notAnAddress bad)) := by
  rw [resolve_of_texts hreply, readAnswers_of_firstBad? h]
  rfl

end

/-- Of socket addresses that can all be read without their scopes the first occurrences are found,
and none of them has a scope; the host is not found exactly if there are none. Of others the first
that cannot be read decides. Repeats change nothing. -/
theorem resolve_by_socketAddresses (net : Network) (host : String) (texts : List String)
    (hreply : net ⟨.libraryHosts, host⟩ = .addresses texts) :
    (∀ all, ReadAs (texts.map unscoped) all →
      (texts = [] → (resolve net host).outcome = .error (.notFound host)) ∧
      (texts ≠ [] → ∃ found, (resolve net host).outcome = .ok found ∧
        FirstOccurrences all found ∧ ∀ a ∈ found, a.scope = none)) ∧
    (∀ bad, firstBad? (texts.map unscoped) = some bad →
      (resolve net host).outcome = .error (.unexpected (.notAnAddress bad))) ∧
    ∀ other repeated, other ⟨.libraryHosts, host⟩ = .addresses repeated →
      Repeats [] texts repeated → resolve other host = resolve net host := by
  refine ⟨?_, fun bad => resolve_of_firstBad? hreply, ?_⟩
  · intro all h
    have hnone : distinct all = [] ↔ texts = [] := by
      rw [distinct_eq_nil_iff, h.eq_nil_iff, List.map_eq_nil_iff]
    have hfirsts := firstOccurrences_distinct all
    rw [resolve_of_readAs hreply h]
    constructor
    · intro htexts
      exact someAnswers_eq_error_iff.mpr ⟨hnone.mpr htexts, rfl⟩
    · intro htexts
      refine ⟨distinct all, someAnswers_eq_ok_iff.mpr ⟨fun he => htexts (hnone.mp he), rfl⟩,
        hfirsts, ?_⟩
      intro a ha
      exact scope_eq_none_of_readAs h ((hfirsts.mem_iff a).mp ha)
  · intro other repeated hother hrepeats
    rw [resolve_of_texts hreply, resolve_of_texts hother, readAnswers_of_repeats hrepeats]

/-- A network with a host of two addresses, one of them with a scope. -/
def scopedAnswers : Network :=
  Network.silent.answering ⟨.libraryHosts, "mail.example.com"⟩
    (.addresses ["192.0.2.1", "fe80::1%eth0"])

/-- The same network with each address once more, in another form and scope. -/
def repeatedAnswers : Network :=
  Network.silent.answering ⟨.libraryHosts, "mail.example.com"⟩
    (.addresses ["192.0.2.1", "fe80::1%eth0", "192.0.2.1%lo", "FE80:0::0.0.0.1%2"])

theorem resolve_by_socketAddresses_repeatedAnswers :
    Repeats [] ["192.0.2.1", "fe80::1%eth0"]
      ["192.0.2.1", "fe80::1%eth0", "192.0.2.1%lo", "FE80:0::0.0.0.1%2"] ∧
    resolve repeatedAnswers "mail.example.com" = resolve scopedAnswers "mail.example.com" ∧
    ∃ found, (resolve scopedAnswers "mail.example.com").outcome = .ok found ∧
      FirstOccurrences [.v4 0xC0000201, .v6 (0xFE80 <<< 112 + 1) none] found ∧
      ∀ a ∈ found, a.scope = none := by
  have hall : ReadAs (["192.0.2.1", "fe80::1%eth0"].map unscoped)
      [.v4 0xC0000201, .v6 (0xFE80 <<< 112 + 1) none] := by
    unfold ReadAs
    decide +kernel
  have hfour : Address.parse? (unscoped "192.0.2.1%lo") = some (.v4 0xC0000201) := by
    decide +kernel
  have hsix : Address.parse? (unscoped "FE80:0::0.0.0.1%2") =
      some (.v6 (0xFE80 <<< 112 + 1) none) := by
    decide +kernel
  have hrepeats : Repeats [] ["192.0.2.1", "fe80::1%eth0"]
      ["192.0.2.1", "fe80::1%eth0", "192.0.2.1%lo", "FE80:0::0.0.0.1%2"] :=
    .entry (.entry (.again (by decide +kernel) hfour (.again (by decide +kernel) hsix .nil)))
  obtain ⟨hread, -, hsame⟩ := resolve_by_socketAddresses scopedAnswers "mail.example.com" _ rfl
  exact ⟨hrepeats, hsame repeatedAnswers _ rfl hrepeats, (hread _ hall).2 (by decide)⟩

end Library

end RelayReputation
