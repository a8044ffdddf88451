import RelayReputation.Proofs.Listing

/-!
# What a check asks

For each list that is on, in the order of the lists, a check puts inquiries to its resolver: the
addresses of the host, if the list needs them, and then a name for each address that may be sent
out, or the name of the host itself. The first inquiry that is answered with a listing is the last
one. `questions_of_fresh_check` says that a check without a verdict in the cache asks exactly
this, whatever fails on the way.
-/

namespace RelayReputation

open RelayReputation.Text

/-! ### Inquiries -/

/-- What is put to a resolver on behalf of a list. -/
inductive Inquiry
  | addresses (list : BlockList) (host : String)
  | listing (list : BlockList) (name : String)
deriving DecidableEq, Repr

namespace Inquiry

def questions (r : Resolver) : Inquiry → List Question
  | addresses _ host => (r.resolve host).questions
  | listing _ name => (r.lookup name).questions

/-- Whether the answer to an inquiry is a listing for its list. -/
def isListing (r : Resolver) : Inquiry → Bool
  | addresses _ _ => false
  | listing b name =>
    match (r.lookup name).outcome with
    | .ok answers => answers.any b.accepts
    | .error _ => false

theorem isListing_listing_iff (r : Resolver) (b : BlockList) (name : String) :
    (listing b name).isListing r = true ↔ b.Accepted r name := by
  simp only [isListing, BlockList.Accepted]
  cases (r.lookup name).outcome with
  | ok answers => simp
  | error f => simp

end Inquiry

def BlockList.addressInquiries (b : BlockList) (found : List Address) : List Inquiry :=
  (found.filter (!·.isExempt)).map fun a => .listing b (a.reverseName ++ "." ++ b.zone)

/-- All that is asked about a host for a list, as long as no answer is a listing. -/
def BlockList.inquiries (b : BlockList) (r : Resolver) (host : RelayHost) : List Inquiry :=
  match b.kind, host with
  | .reverseIp, .literal text => b.addressInquiries (Address.parse? text).toList
  | .reverseIp, .name text =>
    .addresses b text ::
      match (r.resolve text).outcome with
      | .ok found => b.addressInquiries found
      | .error _ => []
  | .domain, .literal _ => []
  | .domain, .name text => [.listing b (text ++ "." ++ b.zone)]

/-- The items of a list up to the first one that passes a test, this one included. -/
def throughFirst {α : Type} (p : α → Bool) : List α → List α
  | [] => []
  | a :: as => if p a then [a] else a :: throughFirst p as

section ThroughFirst

variable {α : Type} {p : α → Bool}

theorem throughFirst_of_any_eq_false {as : List α} (h : as.any p = false) :
    throughFirst p as = as := by
  induction as with
  | nil => rfl
  | cons a as ih =>
    rw [List.any_cons, Bool.or_eq_false_iff] at h
    have ha := h.1
    have hrest := ih h.2
    simp [throughFirst, ha, hrest]

theorem throughFirst_append_of_any {as : List α} (h : as.any p = true) (bs : List α) :
    throughFirst p (as ++ bs) = throughFirst p as := by
  induction as with
  | nil => cases h
  | cons a as ih =>
    cases ha : p a with
    | true => simp [throughFirst, ha]
    | false =>
      have hrest : as.any p = true := by simpa [ha] using h
      simp [throughFirst, ha, ih hrest]

theorem throughFirst_append_of_any_eq_false {as : List α} (h : as.any p = false)
    (bs : List α) : throughFirst p (as ++ bs) = as ++ throughFirst p bs := by
  induction as with
  | nil => rfl
  | cons a as ih =>
    rw [List.any_cons, Bool.or_eq_false_iff] at h
    have ha := h.1
    have hrest := ih h.2
    simp [throughFirst, ha, hrest]

theorem mem_of_mem_throughFirst {a : α} {as : List α} (h : a ∈ throughFirst p as) : a ∈ as := by
  induction as with
  | nil => exact h
  | cons b as ih =>
    cases hb : p b with
    | true =>
      have ha : a = b := by simpa [throughFirst, hb] using h
      rw [ha]
      exact List.mem_cons_self ..
    | false =>
      have ha : a = b ∨ a ∈ throughFirst p as := by simpa [throughFirst, hb] using h
      rcases ha with rfl | ha
      · exact List.mem_cons_self ..
      · exact List.mem_cons_of_mem _ (ih ha)

end ThroughFirst

/-! ### One list -/

namespace BlockList

variable (b : BlockList) (r : Resolver)

theorem questions_lookUp (name : String) :
    (b.lookUp r name).1.questions = (r.lookup name).questions := by
  simp only [lookUp]
  cases LookupResult.ofOutcome b name (r.lookup name).outcome with
  | ok result => simp
  | error f => simp

theorem questions_scan_query (name : String) (rest : List QueryStep) :
    (b.scan r (.query name :: rest)).1.questions =
      (r.lookup name).questions ++
        if (Inquiry.listing b name).isListing r then [] else (b.scan r rest).1.questions := by
  have hq := b.questions_lookUp r name
  have hl := (b.lookUp_blocked_iff r name).trans (Inquiry.isListing_listing_iff r b name).symm
  rw [scan]
  rcases hlook : b.lookUp r name with ⟨t, f | result⟩
  · have hfree : (Inquiry.listing b name).isListing r = false := by simpa [hlook] using hl
    simp [hlook] at hq
    simp [hq, hfree]
  · simp [hlook] at hq
    cases hb : result.isBlocked with
    | true =>
      have hlisting : (Inquiry.listing b name).isListing r = true :=
        hl.mp ⟨result, by simp [hlook], hb⟩
      simp [hq, hlisting, hb]
    | false =>
      have hfree : (Inquiry.listing b name).isListing r = false := by simpa [hlook, hb] using hl
      simp [hq, hfree, hb]

theorem questions_scan_events (qs : List Question) (rest : List QueryStep) :
    (b.scan r (qs.map (fun q => .event (.asked q)) ++ rest)).1.questions =
      qs ++ (b.scan r rest).1.questions := by
  induction qs with
  | nil => rfl
  | cons q qs ih => simp [scan, ih]

theorem questions_scan_addresses (host : RelayHost) (found : List Address) :
    (b.scan r (found.map (b.addressStep host))).1.questions =
      (throughFirst (Inquiry.isListing r) (b.addressInquiries found)).flatMap
        (Inquiry.questions r) := by
  induction found with
  | nil => rfl
  | cons a found ih =>
    cases he : a.isExempt with
    | true =>
      have hstep : b.addressStep host a = .event (.noticed (.skipped a host b.name)) := by
        simp [addressStep, he]
      have hskip : b.addressInquiries (a :: found) = b.addressInquiries found := by
        simp [addressInquiries, he]
      rw [List.map_cons, hstep, hskip, ← ih]
      rfl
    | false =>
      have hstep : b.addressStep host a = .query (b.queryName a.reverseName) := by
        simp [addressStep, he]
      have hask : b.addressInquiries (a :: found) =
          .listing b (b.queryName a.reverseName) :: b.addressInquiries found := by
        simp [addressInquiries, he, queryName]
      rw [List.map_cons, hstep, hask, questions_scan_query, ih]
      cases hl : (Inquiry.listing b (b.queryName a.reverseName)).isListing r <;>
        simp [throughFirst, hl, Inquiry.questions]

def resolution (host : RelayHost) : List Inquiry :=
  match host with
  | .literal _ => []
  | .name text => [.addresses b text]

theorem any_isListing_resolution (host : RelayHost) :
    (b.resolution host).any (Inquiry.isListing r) = false := by
  cases host <;> rfl

theorem questions_resolution (host : RelayHost) :
    (b.resolution host).flatMap (Inquiry.questions r) = (host.addresses r).questions := by
  cases host with
  | literal text =>
    cases hp : Address.parse? text with
    | none => simp [resolution, RelayHost.addresses, hp, Asked.fail]
    | some a => simp [resolution, RelayHost.addresses, hp, Asked.pure]
  | name text => simp [resolution, Inquiry.questions, RelayHost.addresses]

theorem inquiries_of_ok {host : RelayHost} {found : List Address} (hk : b.kind = .reverseIp)
    (ho : (host.addresses r).outcome = .ok found) :
    b.inquiries r host = b.resolution host ++ b.addressInquiries found := by
  cases host with
  | literal text =>
    cases hp : Address.parse? text with
    | none => simp [RelayHost.addresses, hp, Asked.fail] at ho
    | some a =>
      have hfound : found = [a] := by
        simpa [RelayHost.addresses, hp, Asked.pure, eq_comm] using ho
      simp [inquiries, resolution, hk, hp, hfound]
  | name text =>
    have hr : (r.resolve text).outcome = .ok found := ho
    simp [inquiries, resolution, hk, hr]

theorem inquiries_of_error {host : RelayHost} {f : Failure} (hk : b.kind = .reverseIp)
    (ho : (host.addresses r).outcome = .error f) :
    b.inquiries r host = b.resolution host := by
  cases host with
  | literal text =>
    cases hp : Address.parse? text with
    | none => simp [inquiries, resolution, hk, hp, addressInquiries]
    | some a => simp [RelayHost.addresses, hp, Asked.pure] at ho
  | name text =>
    have hr : (r.resolve text).outcome = .error f := ho
    simp [inquiries, resolution, hk, hr]

theorem questions_scan_reverseCourse (host : RelayHost) (hk : b.kind = .reverseIp) :
    (b.scan r (b.reverseCourse r host).steps).1.questions =
      (throughFirst (Inquiry.isListing r) (b.inquiries r host)).flatMap (Inquiry.questions r) := by
  have hfree := b.any_isListing_resolution r host
  cases ho : (host.addresses r).outcome with
  | ok found =>
    rw [reverseCourse_of_ok ho, questions_scan_events, questions_scan_addresses,
      b.inquiries_of_ok r hk ho, throughFirst_append_of_any_eq_false hfree, List.flatMap_append,
      questions_resolution]
  | error f =>
    have hscan := b.questions_scan_events r (host.addresses r).questions []
    rw [List.append_nil] at hscan
    rw [reverseCourse_of_error ho, hscan, b.inquiries_of_error r hk ho,
      throughFirst_of_any_eq_false hfree, questions_resolution]
    exact List.append_nil _

theorem questions_scan_domainCourse (host : RelayHost) (hk : b.kind = .domain) :
    (b.scan r (b.domainCourse host).steps).1.questions =
      (throughFirst (Inquiry.isListing r) (b.inquiries r host)).flatMap (Inquiry.questions r) := by
  cases host with
  | literal text => simp [domainCourse, inquiries, hk, scan, throughFirst]
  | name text =>
    have hi : b.inquiries r (.name text) = [.listing b (b.queryName text)] := by
      simp [inquiries, hk, queryName]
    rw [hi, domainCourse, questions_scan_query]
    cases hl : (Inquiry.listing b (b.queryName text)).isListing r <;>
      simp [throughFirst, hl, Inquiry.questions, scan]

theorem questions_scan_course (host : RelayHost) :
    (b.scan r (b.course r host).steps).1.questions =
      (throughFirst (Inquiry.isListing r) (b.inquiries r host)).flatMap (Inquiry.questions r) := by
  unfold course
  cases hk : b.kind with
  | reverseIp => exact b.questions_scan_reverseCourse r host hk
  | domain => exact b.questions_scan_domainCourse r host hk

theorem questions_check (host : RelayHost) :
    (b.check r host).1.questions =
      (throughFirst (Inquiry.isListing r) (b.inquiries r host)).flatMap (Inquiry.questions r) := by
  rw [← questions_scan_course]
  simp only [check]
  cases (b.scan r (b.course r host).steps).2 with
  | true => simp
  | false =>
    cases (b.course r host).failure with
    | none => simp
    | some e => cases e <;> simp

theorem listing_mem_addressInquiries_iff (found : List Address) (list : BlockList)
    (name : String) :
    .listing list name ∈ b.addressInquiries found ↔
      list = b ∧ ∃ a ∈ found, a.isExempt = false ∧ name = a.reverseName ++ "." ++ b.zone := by
  simp only [addressInquiries, List.mem_map, List.mem_filter, Bool.not_eq_true',
    Inquiry.listing.injEq]
  constructor
  · rintro ⟨a, ⟨ha, he⟩, rfl, rfl⟩
    exact ⟨rfl, a, ha, he, rfl⟩
  · rintro ⟨rfl, a, ha, he, rfl⟩
    exact ⟨a, ⟨ha, he⟩, rfl, rfl⟩

theorem listing_not_mem_resolution (host : RelayHost) (list : BlockList) (name : String) :
    .listing list name ∉ b.resolution host := by
  cases host <;> simp [resolution]

theorem listing_mem_inquiries_iff (host : RelayHost) (list : BlockList) (name : String) :
    .listing list name ∈ b.inquiries r host ↔ list = b ∧ b.HasQuery r host name := by
  rw [← query_mem_course]
  unfold course
  cases hk : b.kind with
  | reverseIp =>
    have hnot := b.listing_not_mem_resolution host list name
    rw [query_mem_reverseCourse]
    simp only [← RelayHost.mem_addresses_iff]
    cases ho : (host.addresses r).outcome with
    | ok found =>
      rw [b.inquiries_of_ok r hk ho, List.mem_append, listing_mem_addressInquiries_iff]
      simp [hnot]
    | error f => simp [b.inquiries_of_error r hk ho, hnot]
  | domain =>
    cases host with
    | literal text => simp [domainCourse, inquiries, hk]
    | name text => simp [domainCourse, inquiries, hk, queryName]

theorem any_isListing_inquiries_iff (host : RelayHost) :
    (b.inquiries r host).any (Inquiry.isListing r) = true ↔ b.Listed r host := by
  rw [List.any_eq_true]
  constructor
  · rintro ⟨i, hi, hl⟩
    cases i with
    | addresses list name => cases hl
    | listing list name =>
      obtain ⟨rfl, hq⟩ := (b.listing_mem_inquiries_iff r host list name).mp hi
      exact ⟨name, hq, (Inquiry.isListing_listing_iff r list name).mp hl⟩
  · rintro ⟨name, hq, ha⟩
    exact ⟨.listing b name, (b.listing_mem_inquiries_iff r host b name).mpr ⟨rfl, hq⟩,
      (Inquiry.isListing_listing_iff r b name).mpr ha⟩

end BlockList

/-! ### All lists -/

/-- An evaluation asks the inquiries of its lists one after the other, up to the first that is
answered with a listing, whatever the replies to the others are. -/
theorem questions_evaluate (r : Resolver) (shown : String) (host : RelayHost)
    (lists : List BlockList) :
    (evaluate r shown host lists).1.questions =
      (throughFirst (Inquiry.isListing r) (lists.flatMap (·.inquiries r host))).flatMap
        (Inquiry.questions r) := by
  induction lists with
  | nil => rfl
  | cons b rest ih =>
    have hq := b.questions_check r host
    have hl := (b.check_eq_true_iff r host).trans (b.any_isListing_inquiries_iff r host).symm
    rw [List.flatMap_cons, evaluate]
    cases ha : (b.inquiries r host).any (Inquiry.isListing r) with
    | true =>
      have hjunk := hl.mpr ha
      rw [throughFirst_append_of_any ha, ← hq]
      generalize b.check r host = checked at hjunk
      obtain ⟨t, outcome⟩ := checked
      rw [show outcome = .ok true from hjunk]
    | false =>
      -- Neither a check that finds nothing nor one that breaks off keeps the rest from being asked.
      have hjunk : (b.check r host).2 ≠ .ok true := fun h => by simp [hl.mp h] at ha
      rw [throughFirst_append_of_any_eq_false ha, List.flatMap_append, ← ih]
      rw [throughFirst_of_any_eq_false ha] at hq
      rw [← hq]
      generalize b.check r host = checked at hjunk
      rcases checked with ⟨t, f | _ | _⟩
      · simp
      · simp
      · exact absurd rfl hjunk

/-! ### Checks -/

/-- The service that a backend asks for the answers to a query name. -/
def Backend.listings : Backend → Service
  | plain => .listings
  | records => .recordsA
  | library => .libraryNames

theorem Backend.questions_listing (backend : Backend) (net : Network) (b : BlockList)
    (name : String) :
    (Inquiry.listing b name).questions (backend.resolver net) = [⟨backend.listings, name⟩] := by
  cases backend <;> rfl

namespace Checker

def inquiries (c : Checker) (r : Resolver) (host : String) (lists : List BlockList) :
    List Inquiry :=
  (lists.filter c.registry.isEnabled).flatMap (·.inquiries r (RelayHost.parse (lower host)))

variable (c : Checker) (r : Resolver) (host : String) (lists : List BlockList)

theorem questions_evaluateHost :
    (c.evaluateHost r (lower host) lists).1.questions =
      (throughFirst (Inquiry.isListing r) (c.inquiries r host lists)).flatMap
        (Inquiry.questions r) := by
  unfold evaluateHost inquiries
  rw [questions_evaluate]

theorem evaluateHost_eq_any_isListing :
    (c.evaluateHost r (lower host) lists).2 =
      (c.inquiries r host lists).any (Inquiry.isListing r) := by
  rw [Bool.eq_iff_iff, evaluateHost, evaluate_eq_true_iff, inquiries, List.any_flatMap,
    List.any_eq_true]
  simp only [BlockList.any_isListing_inquiries_iff]

/-- A check without a verdict in the cache asks the inquiries of the lists that are on, in their
order, up to the first that is answered with a listing, and all of them if it finds none. Each
name is one question to the backend. -/
theorem questions_of_fresh_check (now : Float) (h : (c.cache.get now host).2 = none) :
    (c.checkHost r now host none).2.1.questions =
      (throughFirst (Inquiry.isListing r) (c.inquiries r host c.registry.lists)).flatMap
        (Inquiry.questions r) ∧
    ((c.checkHost r now host none).2.2 = false →
      (c.checkHost r now host none).2.1.questions =
        (c.inquiries r host c.registry.lists).flatMap (Inquiry.questions r)) ∧
    ∀ (backend : Backend) (net : Network), r = backend.resolver net → ∀ b name,
      (Inquiry.listing b name).questions r = [⟨backend.listings, name⟩] := by
  have hcheck : (c.checkHost r now host none).2 =
      c.evaluateHost r (lower host) c.registry.lists := congrArg Prod.snd (checkHost_of_fresh h)
  have hq := c.questions_evaluateHost r host c.registry.lists
  have hv := c.evaluateHost_eq_any_isListing r host c.registry.lists
  rw [hcheck]
  refine ⟨hq, ?_, ?_⟩
  · intro hjunk
    rw [hq, throughFirst_of_any_eq_false (hv.symm.trans hjunk)]
  · rintro backend net rfl b name
    exact backend.questions_listing net b name

/-- A network with a host of three addresses, of which the first breaks the look-up of a list and
the second is listed by it. -/
def listedSecond : Network :=
  ((Network.silent.answering ⟨.hosts, "mail.example.com"⟩
      (.addresses ["192.0.2.1", "192.0.2.2", "192.0.2.3"])
    ).answering ⟨.listings, "1.2.0.192.zen.spamhaus.org"⟩ (.fault (.breakdown "boom"))
    ).answering ⟨.listings, "2.2.0.192.zen.spamhaus.org"⟩ (.addresses ["127.0.0.2"])

theorem questions_listedSecond :
    (initial.cache.get 1000 "Mail.Example.com").2 = none ∧
      (initial.checkHost (Plain.resolver listedSecond) 1000 "Mail.Example.com" none).2.1.questions =
        [⟨.hosts, "mail.example.com"⟩, ⟨.listings, "1.2.0.192.zen.spamhaus.org"⟩,
          ⟨.listings, "2.2.0.192.zen.spamhaus.org"⟩] :=
  ⟨rfl, (questions_of_fresh_check initial (Plain.resolver listedSecond) "Mail.Example.com" 1000
    rfl).1.trans (by decide +kernel)⟩

end Checker

end RelayReputation
