import RelayReputation.Proofs.AddressLiterals
import RelayReputation.Proofs.ExemptRanges
import RelayReputation.Proofs.Inquiries
import RelayReputation.Proofs.ReverseNames

/-!
# Exempt addresses are never sent out

What a reverse-IP list is asked for in a check can be read back as an address of the host, and that
address is in no exempt range, however the address of the host was written. For the literal of an
exempt address nothing is asked at all, and it is not junk: `exempt_never_asked`.
-/

namespace RelayReputation

open RelayReputation.Text

theorem Address.inExemptRange_unscoped (a : Address) :
    a.unscoped.InExemptRange ↔ a.InExemptRange := by
  cases a <;> rfl

theorem BlockList.inquiries_of_exempt_literal {b : BlockList} {r : Resolver} {text : String}
    {a : Address} (ha : Address.parse? text = some a) (he : a.isExempt = true) :
    b.inquiries r (.literal text) = [] := by
  cases hk : b.kind with
  | reverseIp => simp [inquiries, hk, ha, addressInquiries, he]
  | domain => simp [inquiries, hk]

namespace Checker

/-- What a check of a host puts to its resolver: nothing if there is a verdict in the cache. -/
def asked (c : Checker) (r : Resolver) (now : Float) (host : String)
    (lists : Option (List BlockList)) : List Inquiry :=
  match (c.cache.get now host).2 with
  | some _ => []
  | none =>
    throughFirst (Inquiry.isListing r) (c.inquiries r host (lists.getD c.registry.lists))

theorem inquiries_of_exempt_literal (c : Checker) (r : Resolver) {host : String} {a : Address}
    (hlit : RelayHost.IsAddressLiteral host a) (he : a.isExempt = true)
    (lists : List BlockList) : c.inquiries r host lists = [] := by
  obtain ⟨text, hparse, ha⟩ := hlit.parse_lower
  rw [inquiries, hparse, List.flatMap_eq_nil_iff]
  intro b _
  exact BlockList.inquiries_of_exempt_literal ha he

variable (c : Checker) (r : Resolver) (now : Float) (host : String)
  (lists : Option (List BlockList))

theorem questions_checkHost :
    (c.checkHost r now host lists).2.1.questions =
      (c.asked r now host lists).flatMap (Inquiry.questions r) := by
  unfold asked
  cases hfound : (c.cache.get now host).2 with
  | some junk =>
    rw [checkHost_of_found hfound]
    rfl
  | none =>
    rw [checkHost_of_fresh hfound]
    exact c.questions_evaluateHost r host (lists.getD c.registry.lists)

theorem hasQuery_of_listing_mem_asked {b : BlockList} {name : String}
    (h : .listing b name ∈ c.asked r now host lists) :
    b.HasQuery r (RelayHost.parse (lower host)) name := by
  unfold asked at h
  cases hfound : (c.cache.get now host).2 with
  | some junk => simp [hfound] at h
  | none =>
    rw [hfound] at h
    obtain ⟨list, -, hmem⟩ := List.mem_flatMap.mp (mem_of_mem_throughFirst h)
    obtain ⟨rfl, hquery⟩ := (list.listing_mem_inquiries_iff r _ b name).mp hmem
    exact hquery

/-- Each name that a check looks up for a reverse-IP list is made from an address of the host, and
what is read from the labels in front of the zone is in no exempt range. A check of the literal of
an exempt address asks nothing and finds no junk, unless there is a verdict in the cache. -/
theorem exempt_never_asked :
    (c.checkHost r now host lists).2.1.questions =
      (c.asked r now host lists).flatMap (Inquiry.questions r) ∧
    (∀ b name, .listing b name ∈ c.asked r now host lists → b.kind = .reverseIp →
      ∃ a, (RelayHost.parse (lower host)).HasAddress r a ∧
        name = a.reverseName ++ "." ++ b.zone ∧
        ∃ read, Address.ofReverseName? a.reverseName = some read ∧ ¬read.InExemptRange) ∧
    ∀ a, RelayHost.IsAddressLiteral host a → a.unmap.InExemptRange →
      (c.cache.get now host).2 = none →
      (c.checkHost r now host lists).2.1.questions = [] ∧
        (c.checkHost r now host lists).2.2 = false := by
  refine ⟨c.questions_checkHost r now host lists, ?_, ?_⟩
  · intro b name hasked hkind
    cases c.hasQuery_of_listing_mem_asked r now host lists hasked with
    | reversed _ ha he =>
      refine ⟨_, ha, rfl, _, Address.ofReverseName?_reverseName _, ?_⟩
      rw [Address.inExemptRange_unscoped, ← Address.isExempt_iff, he]
      exact Bool.false_ne_true
    | domain hdomain _ => cases hkind.symm.trans hdomain
  · intro a hlit hrange hfresh
    have he : a.isExempt = true := a.isExempt_iff.mpr hrange
    have hnone := c.inquiries_of_exempt_literal r hlit he (lists.getD c.registry.lists)
    have hq := c.questions_evaluateHost r host (lists.getD c.registry.lists)
    have hv := c.evaluateHost_eq_any_isListing r host (lists.getD c.registry.lists)
    rw [hnone] at hq hv
    rw [checkHost_of_fresh hfresh]
    exact ⟨hq, hv⟩

/-- A network that calls every name listed, and gives a host four addresses, of which only the last
may be sent out. -/
def eagerListings : Network := fun q =>
  match q.service with
  | .hosts => .addresses ["10.0.0.1", "::ffff:192.168.0.9", "fe80::1%eth0", "192.0.2.1"]
  | _ => .addresses ["127.0.0.2"]

theorem exempt_never_asked_eagerListings :
    (∃ b ∈ initial.registry.lists, b.kind = .reverseIp ∧
      .listing b "1.2.0.192.zen.spamhaus.org" ∈
        initial.asked (Plain.resolver eagerListings) 1000 "mail.example.com" none ∧
      ∃ a : Address, "1.2.0.192.zen.spamhaus.org" = a.reverseName ++ "." ++ b.zone ∧
        ∃ read, Address.ofReverseName? a.reverseName = some read ∧ ¬read.InExemptRange) ∧
    ∃ a, RelayHost.IsAddressLiteral ("[" ++ "IPv6:" ++ "::FFFF:10.1.2.3" ++ "]") a ∧
      a.unmap.InExemptRange ∧
      (initial.checkHost (Plain.resolver eagerListings) 1000
        ("[" ++ "IPv6:" ++ "::FFFF:10.1.2.3" ++ "]") none).2.1.questions = [] := by
  constructor
  · have hasked : ∃ b ∈ initial.registry.lists, b.kind = .reverseIp ∧
        .listing b "1.2.0.192.zen.spamhaus.org" ∈
          initial.asked (Plain.resolver eagerListings) 1000 "mail.example.com" none := by
      decide +kernel
    obtain ⟨b, hb, hkind, hmem⟩ := hasked
    obtain ⟨a, -, hname, hread⟩ := (exempt_never_asked initial (Plain.resolver eagerListings) 1000
      "mail.example.com" none).2.1 b _ hmem hkind
    exact ⟨b, hb, hkind, hmem, a, hname, hread⟩
  · have hlit : RelayHost.IsAddressLiteral ("[" ++ "IPv6:" ++ "::FFFF:10.1.2.3" ++ "]")
        (.v6 0xFFFF0A010203 none) := .tagged (by decide +kernel) (by decide +kernel)
    have hrange : (Address.v6 0xFFFF0A010203 none).unmap.InExemptRange :=
      (Address.isExempt_iff _).mp (by decide +kernel)
    exact ⟨_, hlit, hrange, ((exempt_never_asked initial (Plain.resolver eagerListings) 1000 _
      none).2.2 _ hlit hrange rfl).1⟩

end Checker

end RelayReputation
