import RelayReputation.Proofs.AddressLiterals
import RelayReputation.Proofs.FaultTolerance
import RelayReputation.Proofs.Inquiries
import RelayReputation.Proofs.ReverseNames

/-!
# Spellings of an address

Two addresses that stand for the same one are exempt together and have one reversed name, so a list
is asked the same about both. A literal is taken for its address without a question, and so is an
address without brackets where the records of hosts are looked up; `check_of_alike` says that checks
of two such hosts ask the same and give the same verdict, however the address is spelled in each.
-/

namespace RelayReputation

open RelayReputation.Text

/-! ### Addresses that stand for the same one -/

theorem Address.Alike.isExempt_eq {a b : Address} (h : a.Alike b) : a.isExempt = b.isExempt := by
  rcases h.unmap_cases with ⟨bits, ha, hb⟩ | ⟨bits, s, t, ha, hb⟩
  · simp only [isExempt, ha, hb]
  · simp only [isExempt, ha, hb]

theorem BlockList.addressInquiries_of_alike {a b : Address} (h : a.Alike b) (list : BlockList) :
    list.addressInquiries [a] = list.addressInquiries [b] := by
  have hexempt := h.isExempt_eq
  have hname := h.reverseName_eq
  cases hb : b.isExempt with
  | true => simp [addressInquiries, hexempt, hb]
  | false => simp [addressInquiries, hexempt, hb, hname]

/-! ### Addresses without brackets -/

namespace RelayHost

theorem bracketed?_of_address {cs : List Char} {a : Address} (h : Address.ofChars? cs = some a) :
    bracketed? cs = none := by
  unfold bracketed?
  split
  · rw [Address.ofChars?_bracket] at h
    cases h
  · rfl

/-- Whether a host is written as an address without brackets, and without blanks. -/
structure IsBareAddress (host : String) (a : Address) : Prop where
  address : Address.parse? (lower host) = some a
  unbroken : ∀ c ∈ host.toList, isBlank c = false

theorem IsBareAddress.parse_lower {host : String} {a : Address} (h : IsBareAddress host a) :
    parse (lower host) = .name (lower host) := by
  have haddress := Address.ofChars?_lowerChars h.address
  have htrim := trim_of_not_blank (not_blank_of_mem_lowerChars h.unbroken)
  rw [parse, toList_lower, ofChars, htrim]
  simp only [lowerChars_lowerChars, bracketed?_of_address haddress]
  rfl

/-- Whether a host is taken for an address without any question. -/
def Denotes (r : Resolver) (host : RelayHost) (a : Address) : Prop := host.addresses r = .pure [a]

theorem denotes_literal {text : String} {a : Address} (h : Address.parse? text = some a)
    (r : Resolver) : (RelayHost.literal text).Denotes r a := by
  simp only [Denotes, addresses, h]

theorem denotes_name {text : String} {a : Address} (h : Address.parse? text = some a)
    (net : Network) : (RelayHost.name text).Denotes (Backend.records.resolver net) a := by
  show Records.resolve net text = .pure [a]
  simp only [Records.resolve, h]

end RelayHost

/-! ### Checks that agree -/

/-- Whether two runs ask the same questions and come to the same result. -/
def Trace.Agree {α : Type} (x y : Trace × α) : Prop :=
  x.1.questions = y.1.questions ∧ x.2 = y.2

namespace BlockList

variable {list : BlockList} {r : Resolver} {host other : RelayHost}

theorem check_of_no_failure (h : (list.course r host).failure = none) :
    (list.check r host).2 = .ok (list.scan r (list.course r host).steps).2 := by
  simp only [check, h]
  cases (list.scan r (list.course r host).steps).2 <;> rfl

theorem check_eq_any_isListing (h : (list.course r host).failure = none) :
    (list.check r host).2 = .ok ((list.inquiries r host).any (Inquiry.isListing r)) := by
  have hlisted :=
    (list.check_eq_true_iff r host).trans (list.any_isListing_inquiries_iff r host).symm
  rw [check_of_no_failure h] at hlisted ⊢
  simp only [Except.ok.injEq] at hlisted ⊢
  exact Bool.eq_iff_iff.mpr hlisted

theorem check_of_denotes {a : Address} (hk : list.kind = .reverseIp) (ha : host.Denotes r a) :
    (list.check r host).1.questions =
        (throughFirst (Inquiry.isListing r) (list.addressInquiries [a])).flatMap
          (Inquiry.questions r) ∧
      (list.check r host).2 = .ok ((list.addressInquiries [a]).any (Inquiry.isListing r)) := by
  have hfound : (host.addresses r).outcome = .ok [a] := by rw [ha]; rfl
  have hquiet : (host.addresses r).questions = [] := by rw [ha]; rfl
  have hfree := list.any_isListing_resolution r host
  have hinquiries := list.inquiries_of_ok r hk hfound
  have hcourse : (list.course r host).failure = none := by
    simp only [course, hk, reverseCourse_of_ok hfound]
  constructor
  · rw [questions_check, hinquiries, throughFirst_append_of_any_eq_false hfree,
      List.flatMap_append, questions_resolution, hquiet, List.nil_append]
  · rw [check_eq_any_isListing hcourse, hinquiries, List.any_append, hfree, Bool.false_or]

theorem check_agree_of_alike {a b : Address} (h : a.Alike b) (hk : list.kind = .reverseIp)
    (ha : host.Denotes r a) (hb : other.Denotes r b) :
    Trace.Agree (list.check r host) (list.check r other) := by
  obtain ⟨hasked, hfound⟩ := check_of_denotes hk ha
  obtain ⟨hasked', hfound'⟩ := check_of_denotes hk hb
  constructor
  · rw [hasked, hasked', addressInquiries_of_alike h]
  · rw [hfound, hfound', addressInquiries_of_alike h]

theorem check_agree_of_domain (hk : list.kind = .domain) (text text' : String) :
    Trace.Agree (list.check r (.literal text)) (list.check r (.literal text')) := by
  have hnone (text : String) : list.inquiries r (.literal text) = [] := by
    simp only [inquiries, hk]
  have hcourse (text : String) : (list.course r (.literal text)).failure = none := by
    simp only [course, hk, domainCourse]
  constructor
  · rw [questions_check, questions_check, hnone, hnone]
  · rw [check_eq_any_isListing (hcourse text), check_eq_any_isListing (hcourse text'), hnone, hnone]

end BlockList

theorem evaluate_agree {r : Resolver} {host other : RelayHost} {lists : List BlockList}
    (h : ∀ b ∈ lists, Trace.Agree (b.check r host) (b.check r other)) (shown shown' : String) :
    Trace.Agree (evaluate r shown host lists) (evaluate r shown' other lists) := by
  induction lists with
  | nil => exact ⟨rfl, rfl⟩
  | cons b rest ih =>
    obtain ⟨hasked, hresult⟩ := h b (List.mem_cons_self ..)
    obtain ⟨ihAsked, ihResult⟩ := ih fun list hlist => h list (List.mem_cons_of_mem _ hlist)
    rw [evaluate, evaluate]
    generalize b.check r host = checked at hasked hresult ⊢
    generalize b.check r other = checked' at hasked hresult ⊢
    obtain ⟨t, outcome⟩ := checked
    obtain ⟨t', outcome'⟩ := checked'
    obtain rfl : outcome = outcome' := hresult
    have hasked : t.questions = t'.questions := hasked
    rcases outcome with f | _ | _
    · simp [Trace.Agree, hasked, ihAsked, ihResult]
    · simp [Trace.Agree, hasked, ihAsked, ihResult]
    · exact ⟨hasked, rfl⟩

namespace Checker

variable (c : Checker)

theorem evaluateHost_agree {r : Resolver} {host other : String} {lists : List BlockList}
    (h : ∀ b ∈ lists, c.registry.isEnabled b = true →
      Trace.Agree (b.check r (RelayHost.parse host)) (b.check r (RelayHost.parse other))) :
    Trace.Agree (c.evaluateHost r host lists) (c.evaluateHost r other lists) := by
  refine evaluate_agree ?_ host other
  intro b hb
  obtain ⟨hmem, hon⟩ := List.mem_filter.mp hb
  exact h b hmem hon

/-- Fresh checks of the literals of two addresses that stand for the same one ask the same questions
and give the same verdict. So do those of the addresses without brackets, if hosts are resolved by
records and only reverse-IP lists are on. -/
theorem check_of_alike (cache : VerdictCache) (r : Resolver) (now later : Float)
    (host other : String) (lists : Option (List BlockList)) {a b : Address} (h : a.Alike b)
    (hhost : (c.cache.get now host).2 = none) (hother : (cache.get later other).2 = none) :
    (RelayHost.IsAddressLiteral host a → RelayHost.IsAddressLiteral other b →
      Trace.Agree (c.checkHost r now host lists).2
        ((c.withCache cache).checkHost r later other lists).2) ∧
    ∀ net, r = Backend.records.resolver net →
      (∀ list ∈ lists.getD c.registry.lists, c.registry.isEnabled list = true →
        list.kind = .reverseIp) →
      RelayHost.IsBareAddress host a →
      RelayHost.IsAddressLiteral other b ∨ RelayHost.IsBareAddress other b →
      Trace.Agree (c.checkHost r now host lists).2
        ((c.withCache cache).checkHost r later other lists).2 := by
  have hfirst : (c.checkHost r now host lists).2 =
      c.evaluateHost r (lower host) (lists.getD c.registry.lists) :=
    congrArg Prod.snd (checkHost_of_fresh hhost)
  have hsecond : ((c.withCache cache).checkHost r later other lists).2 =
      c.evaluateHost r (lower other) (lists.getD c.registry.lists) :=
    congrArg Prod.snd (checkHost_of_fresh (c := c.withCache cache) hother)
  rw [hfirst, hsecond]
  constructor
  · intro hlit hlit'
    obtain ⟨text, hparse, ha⟩ := hlit.parse_lower
    obtain ⟨text', hparse', hb⟩ := hlit'.parse_lower
    refine c.evaluateHost_agree fun list _ _ => ?_
    rw [hparse, hparse']
    cases hk : list.kind with
    | reverseIp =>
      exact BlockList.check_agree_of_alike h hk (RelayHost.denotes_literal ha r)
        (RelayHost.denotes_literal hb r)
    | domain => exact BlockList.check_agree_of_domain hk text text'
  · rintro net rfl hkinds hbare hform
    have hdenotes : (RelayHost.parse (lower host)).Denotes (Backend.records.resolver net) a := by
      rw [hbare.parse_lower]
      exact RelayHost.denotes_name hbare.address net
    have hdenotes' : (RelayHost.parse (lower other)).Denotes (Backend.records.resolver net) b := by
      rcases hform with hlit | hbare'
      · obtain ⟨text, hparse, hb⟩ := hlit.parse_lower
        rw [hparse]
        exact RelayHost.denotes_literal hb _
      · rw [hbare'.parse_lower]
        exact RelayHost.denotes_name hbare'.address net
    refine c.evaluateHost_agree fun list hlist hon => ?_
    exact BlockList.check_agree_of_alike h (hkinds list hlist hon) hdenotes hdenotes'

/-- An address that is listed, in three spellings: with a tag and a scope, in brackets, and bare. -/
theorem check_of_alike_listedOnce :
    let r := Backend.records.resolver listedOnce
    let tagged := "[" ++ "iPv6:" ++ "::FFFF:192.0.2.1%eth0" ++ "]"
    let plain := "[" ++ "192.0.2.1" ++ "]"
    let bare := "::ffff:C000:201"
    (Address.v6 0xFFFFC0000201 (some "eth0")).Alike (.v4 0xC0000201) ∧
    RelayHost.IsAddressLiteral tagged (.v6 0xFFFFC0000201 (some "eth0")) ∧
    RelayHost.IsAddressLiteral plain (.v4 0xC0000201) ∧
    RelayHost.IsBareAddress bare (.v6 0xFFFFC0000201 none) ∧
    (initial.checkHost r 2000 plain none).2.2 = true ∧
    Trace.Agree (initial.checkHost r 1000 tagged none).2 (initial.checkHost r 2000 plain none).2 ∧
    Trace.Agree (initial.checkHost r 1000 bare none).2 (initial.checkHost r 2000 plain none).2 := by
  intro r tagged plain bare
  have htagged : RelayHost.IsAddressLiteral tagged (.v6 0xFFFFC0000201 (some "eth0")) :=
    .tagged (by decide +kernel) (by decide +kernel)
  have hplain : RelayHost.IsAddressLiteral plain (.v4 0xC0000201) := .bare (by decide +kernel)
  have hunbroken : (bare.toList.all fun c => !isBlank c) = true := by decide +kernel
  have hbare : RelayHost.IsBareAddress bare (.v6 0xFFFFC0000201 none) :=
    ⟨by decide +kernel, fun c hc => by simpa using List.all_eq_true.mp hunbroken c hc⟩
  have hkinds : ∀ list ∈ initial.registry.lists, initial.registry.isEnabled list = true →
      list.kind = .reverseIp := by
    decide +kernel
  have hscoped : (Address.v6 0xFFFFC0000201 (some "eth0")).Alike (.v4 0xC0000201) := ⟨rfl, rfl⟩
  have hmapped : (Address.v6 0xFFFFC0000201 none).Alike (.v4 0xC0000201) := ⟨rfl, rfl⟩
  refine ⟨hscoped, htagged, hplain, hbare, by decide +kernel, ?_, ?_⟩
  · exact (initial.check_of_alike initial.cache r 1000 2000 tagged plain none hscoped rfl rfl).1
      htagged hplain
  · exact (initial.check_of_alike initial.cache r 1000 2000 bare plain none hmapped rfl rfl).2
      listedOnce rfl hkinds hbare (Or.inl hplain)

end Checker

end RelayReputation
