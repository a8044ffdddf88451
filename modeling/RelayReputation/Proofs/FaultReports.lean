import RelayReputation.Proofs.Inquiries

/-!
# Reports of faults

For each list that is on, a check tries to obtain the addresses of the host, if the list needs them,
and to look names up, until one of these is a listing. A trial may meet a fault. `account` is what
has to be told of a trial: what is asked, and then the report of its fault. A check tells exactly
this of its trials, apart from notices that report no fault: `faults_reported_once`.
-/

namespace RelayReputation

open RelayReputation.Text

/-! ### Trials and their faults -/

/-- What is tried on behalf of a list. -/
inductive Trial
  | addresses (list : BlockList) (host : RelayHost)
  | listing (list : BlockList) (name : String)
deriving DecidableEq, Repr

/-- A fault that a trial meets. -/
inductive TrialFault
  /-- The addresses of the host were not obtained for a list. -/
  | addresses (list : BlockList) (host : RelayHost) (failure : Failure)
  /-- The look-up of a name failed. -/
  | listing (name : String) (failure : Failure)
deriving DecidableEq, Repr

namespace TrialFault

/-- Only what the resolver does not account for, where the addresses of the host are wanted, is an
error. -/
def level : TrialFault → Level
  | addresses _ _ (.unexpected _) => .error
  | _ => .warning

/-- The report of a fault in a check of a host that is shown as `shown`. -/
def notice (shown : String) : TrialFault → Notice
  | addresses b _ (.unexpected f) => .checkFailed shown b.name f.text
  | addresses b host e => .unresolved host b.name e.text
  | listing name e => .lookupFailed name e.text

theorem level_notice (shown : String) (fault : TrialFault) :
    (fault.notice shown).level = fault.level := by
  cases fault with
  | addresses b host e => cases e <;> rfl
  | listing name e => rfl

end TrialFault

namespace Trial

variable (r : Resolver)

def questions : Trial → List Question
  | addresses _ host => (host.addresses r).questions
  | listing _ name => (r.lookup name).questions

/-- Whether a trial ends the check: a name is looked up and its answer is a listing. -/
def isListing : Trial → Bool
  | addresses _ _ => false
  | listing b name => (Inquiry.listing b name).isListing r

/-- The fault of a trial. That a name is not found is a fault only where the addresses of the host
are wanted. -/
def fault? : Trial → Option TrialFault
  | addresses b host =>
    match (host.addresses r).outcome with
    | .ok _ => none
    | .error e => some (.addresses b host e)
  | listing _ name =>
    match (r.lookup name).outcome with
    | .ok _ => none
    | .error (.notFound _) => none
    | .error e => some (.listing name e)

def account (shown : String) (t : Trial) : Trace :=
  Trace.ofQuestions (t.questions r) ++
    .ofNotices ((t.fault? r).map (TrialFault.notice shown)).toList

end Trial

def BlockList.listings (b : BlockList) (found : List Address) : List Trial :=
  (found.filter (!·.isExempt)).map fun a => .listing b (a.reverseName ++ "." ++ b.zone)

/-- All that is tried for a list, as long as no answer is a listing. -/
def BlockList.trials (b : BlockList) (r : Resolver) (host : RelayHost) : List Trial :=
  match b.kind, host with
  | .reverseIp, host =>
    .addresses b host ::
      match (host.addresses r).outcome with
      | .ok found => b.listings found
      | .error _ => []
  | .domain, .literal _ => []
  | .domain, .name text => [.listing b (text ++ "." ++ b.zone)]

/-! ### Alarms -/

/-- Whether a notice is a warning or an error. -/
def Notice.isAlarm (n : Notice) : Bool := n.level = .warning || n.level = .error

namespace Trace

def alarms (t : Trace) : List Notice := t.notices.filter (·.isAlarm)

/-- A trace without the notices that are no alarms. -/
def essence (t : Trace) : Trace :=
  t.filter fun
    | .asked _ => true
    | .noticed n => n.isAlarm

@[simp] theorem essence_nil : essence [] = [] := rfl

theorem essence_append (s t : Trace) : essence (s ++ t) = essence s ++ essence t :=
  List.filter_append ..

@[simp] theorem essence_asked (q : Question) (t : Trace) :
    essence (.asked q :: t) = .asked q :: essence t := rfl

theorem essence_alarm {n : Notice} (h : n.isAlarm = true) (t : Trace) :
    essence (.noticed n :: t) = .noticed n :: essence t :=
  List.filter_cons_of_pos h

theorem essence_of_not_alarm {n : Notice} (h : n.isAlarm = false) (t : Trace) :
    essence (.noticed n :: t) = essence t :=
  List.filter_cons_of_neg (by simp [h])

@[simp] theorem essence_ofQuestions (qs : List Question) :
    essence (ofQuestions qs) = ofQuestions qs := by
  simp [essence, ofQuestions]

@[simp] theorem notices_ofNotices (ns : List Notice) : notices (ofNotices ns) = ns := by
  induction ns with
  | nil => rfl
  | cons n ns ih => simpa [ofNotices] using ih

theorem notices_essence (t : Trace) : notices (essence t) = alarms t := by
  induction t with
  | nil => rfl
  | cons e t ih =>
    cases e with
    | asked q => simpa [alarms] using ih
    | noticed n =>
      cases hn : n.isAlarm with
      | true =>
        rw [essence_alarm hn, notices_noticed, ih]
        simp [alarms, hn]
      | false =>
        rw [essence_of_not_alarm hn, ih]
        simp [alarms, hn]

end Trace

/-! ### One list -/

theorem Trial.notices_accounts (r : Resolver) (shown : String) (ts : List Trial) :
    Trace.notices (ts.flatMap (Trial.account r shown)) =
      (ts.filterMap (Trial.fault? r)).map (TrialFault.notice shown) := by
  induction ts with
  | nil => rfl
  | cons t ts ih =>
    rw [List.flatMap_cons, Trace.notices_append, ih, account, Trace.notices_append,
      Trace.notices_ofQuestions, Trace.notices_ofNotices, List.nil_append]
    cases hf : t.fault? r <;> simp [hf]

theorem LookupResult.isAlarm_notice_ofAnswers (b : BlockList) (name : String)
    (answers : List Address) : (ofAnswers b name answers).notice.isAlarm = false := by
  unfold ofAnswers
  split <;> rfl

theorem Trial.isListing_of_ok {r : Resolver} {b : BlockList} {name : String}
    {answers : List Address} (h : (r.lookup name).outcome = .ok answers) :
    (Trial.listing b name).isListing r = (LookupResult.ofAnswers b name answers).isBlocked := by
  have hlisting : (Trial.listing b name).isListing r = answers.any b.accepts := by
    simp only [isListing, Inquiry.isListing, h]
  rw [hlisting, Bool.eq_iff_iff, LookupResult.isBlocked_ofAnswers, List.any_eq_true]

theorem Trial.isListing_of_error {r : Resolver} {b : BlockList} {name : String} {e : Failure}
    (h : (r.lookup name).outcome = .error e) : (Trial.listing b name).isListing r = false := by
  simp only [isListing, Inquiry.isListing, h]

namespace BlockList

variable (b : BlockList) (r : Resolver) (shown : String)

/-- The one notice of a look-up, given by the look-up itself or, of an unexpected fault, by the
scan. -/
def lookupNotice (name : String) : Except Failure (List Address) → Notice
  | .ok answers => (LookupResult.ofAnswers b name answers).notice
  | .error (.notFound _) => .lookedUp name "" false
  | .error e => .lookupFailed name e.text

theorem scan_query (name : String) (rest : List QueryStep) :
    (b.scan r (.query name :: rest)).1 =
      Trace.ofQuestions (r.lookup name).questions ++
        .noticed (b.lookupNotice name (r.lookup name).outcome) ::
          if (Trial.listing b name).isListing r then [] else (b.scan r rest).1 := by
  rw [scan]
  cases ho : (r.lookup name).outcome with
  | ok answers =>
    rw [Trial.isListing_of_ok ho]
    simp only [lookUp, ho, LookupResult.ofOutcome]
    cases (LookupResult.ofAnswers b name answers).isBlocked <;> simp [lookupNotice]
  | error e =>
    rw [Trial.isListing_of_error ho]
    cases e <;>
      simp [lookUp, ho, LookupResult.ofOutcome, LookupResult.isBlocked, LookupResult.notice,
        lookupNotice, Failure.text]

theorem essence_lookupNotice (name : String) (rest : Trace) :
    Trace.essence (.noticed (b.lookupNotice name (r.lookup name).outcome) :: rest) =
      .ofNotices (((Trial.listing b name).fault? r).map (TrialFault.notice shown)).toList ++
        rest.essence := by
  simp only [Trial.fault?]
  cases (r.lookup name).outcome with
  | ok answers =>
    exact Trace.essence_of_not_alarm (LookupResult.isAlarm_notice_ofAnswers b name answers) rest
  | error e => cases e <;> rfl

theorem essence_scan_query (name : String) (rest : List QueryStep) :
    (b.scan r (.query name :: rest)).1.essence =
      (Trial.listing b name).account r shown ++
        if (Trial.listing b name).isListing r then [] else (b.scan r rest).1.essence := by
  rw [scan_query, Trace.essence_append, Trace.essence_ofQuestions,
    b.essence_lookupNotice r shown, Trial.account, List.append_assoc]
  cases (Trial.listing b name).isListing r <;> rfl

theorem scan_asked (qs : List Question) (rest : List QueryStep) :
    b.scan r (qs.map (fun q => .event (.asked q)) ++ rest) =
      (.ofQuestions qs ++ (b.scan r rest).1, (b.scan r rest).2) := by
  induction qs with
  | nil => rfl
  | cons q qs ih => simp [scan, ih, Trace.ofQuestions]

theorem essence_scan_addresses (host : RelayHost) (found : List Address) :
    (b.scan r (found.map (b.addressStep host))).1.essence =
      (throughFirst (Trial.isListing r) (b.listings found)).flatMap (Trial.account r shown) := by
  induction found with
  | nil => rfl
  | cons a found ih =>
    cases he : a.isExempt with
    | true =>
      have hstep : b.addressStep host a = .event (.noticed (.skipped a host b.name)) := by
        simp [addressStep, he]
      have hskip : b.listings (a :: found) = b.listings found := by
        simp [listings, he]
      rw [List.map_cons, hstep, hskip, ← ih]
      rfl
    | false =>
      have hstep : b.addressStep host a = .query (b.queryName a.reverseName) := by
        simp [addressStep, he]
      have htry : b.listings (a :: found) =
          .listing b (b.queryName a.reverseName) :: b.listings found := by
        simp [listings, he, queryName]
      rw [List.map_cons, hstep, htry, b.essence_scan_query r shown, ih]
      cases hl : (Trial.listing b (b.queryName a.reverseName)).isListing r <;>
        simp [throughFirst, hl]

/-- What is told of a check of one list by those who go through all of them. -/
def afterCheck : Except Fault Bool → Trace
  | .ok _ => []
  | .error f => [.noticed (.checkFailed shown b.name f.text)]

theorem essence_check_of_no_failure {host : RelayHost}
    (h : (b.course r host).failure = none) :
    (b.check r host).1.essence ++ b.afterCheck shown (b.check r host).2 =
      (b.scan r (b.course r host).steps).1.essence := by
  simp only [check, h]
  have hdone : Trace.essence [.noticed (.checked host b.name)] = [] := rfl
  cases (b.scan r (b.course r host).steps).2 <;>
    simp [Trace.essence_append, afterCheck, hdone]

/-- The addresses of the host are accounted for as one trial, whether the check of the list reports
their fault or those who asked for it. -/
theorem essence_check_of_addresses_failed {host : RelayHost} {e : Failure}
    (hk : b.kind = .reverseIp) (ho : (host.addresses r).outcome = .error e) :
    (b.check r host).1.essence ++ b.afterCheck shown (b.check r host).2 =
      (Trial.addresses b host).account r shown := by
  have hcourse : b.course r host =
      ⟨(host.addresses r).questions.map (fun q => .event (.asked q)), some e⟩ := by
    simp only [course, hk, reverseCourse_of_error ho]
  have hfault : (Trial.addresses b host).fault? r = some (.addresses b host e) := by
    simp only [Trial.fault?, ho]
  have hessence (told : Trace) : Trace.essence (.ofQuestions (host.addresses r).questions ++ told) =
      .ofQuestions (host.addresses r).questions ++ told.essence := by
    rw [Trace.essence_append, Trace.essence_ofQuestions]
  have hscan : b.scan r ((host.addresses r).questions.map fun q => .event (.asked q)) =
      (.ofQuestions (host.addresses r).questions, false) := by
    have hasked := b.scan_asked r (host.addresses r).questions []
    rwa [List.append_nil, scan, List.append_nil] at hasked
  simp only [check, hcourse, hscan, Trial.account, hfault, Trial.questions]
  cases e <;> simp only [Bool.false_eq_true, if_false, hessence, List.append_assoc] <;> rfl

theorem essence_check (host : RelayHost) :
    (b.check r host).1.essence ++ b.afterCheck shown (b.check r host).2 =
      (throughFirst (Trial.isListing r) (b.trials r host)).flatMap (Trial.account r shown) := by
  cases hk : b.kind with
  | reverseIp =>
    cases ho : (host.addresses r).outcome with
    | ok found =>
      have hcourse : b.course r host =
          ⟨(host.addresses r).questions.map (fun q => .event (.asked q)) ++
            found.map (b.addressStep host), none⟩ := by
        simp only [course, hk, reverseCourse_of_ok ho]
      have haccount : (Trial.addresses b host).account r shown =
          .ofQuestions (host.addresses r).questions := by
        simp [Trial.account, Trial.fault?, ho, Trial.questions, Trace.ofNotices]
      have htrials : b.trials r host = .addresses b host :: b.listings found := by
        simp only [trials, hk, ho]
      rw [b.essence_check_of_no_failure r shown (by rw [hcourse]), hcourse, scan_asked,
        Trace.essence_append, Trace.essence_ofQuestions, essence_scan_addresses, htrials,
        ← haccount]
      rfl
    | error e =>
      have htrials : b.trials r host = [.addresses b host] := by
        simp only [trials, hk, ho]
      rw [b.essence_check_of_addresses_failed r shown hk ho, htrials]
      exact (List.append_nil _).symm
  | domain =>
    have hcourse : b.course r host = b.domainCourse host := by simp only [course, hk]
    cases host with
    | literal text =>
      rw [b.essence_check_of_no_failure r shown (by rw [hcourse]; rfl), hcourse]
      simp only [trials, hk]
      rfl
    | name text =>
      have htrials : b.trials r (.name text) = [.listing b (b.queryName text)] := by
        simp [trials, hk, queryName]
      rw [b.essence_check_of_no_failure r shown (by rw [hcourse]; rfl), hcourse, domainCourse,
        b.essence_scan_query r shown, htrials]
      cases hl : (Trial.listing b (b.queryName text)).isListing r <;>
        simp [throughFirst, hl, scan]

theorem any_isListing_trials (host : RelayHost) :
    (b.trials r host).any (Trial.isListing r) =
      (b.inquiries r host).any (Inquiry.isListing r) := by
  have hsame (found : List Address) : (b.listings found).any (Trial.isListing r) =
      (b.addressInquiries found).any (Inquiry.isListing r) := by
    simp only [listings, addressInquiries, List.any_map]
    rfl
  have hsilent := b.any_isListing_resolution r host
  cases hk : b.kind with
  | reverseIp =>
    cases ho : (host.addresses r).outcome with
    | ok found =>
      rw [b.inquiries_of_ok r hk ho, List.any_append, hsilent, ← hsame]
      simp only [trials, hk, ho]
      rfl
    | error e =>
      rw [b.inquiries_of_error r hk ho, hsilent]
      simp only [trials, hk, ho]
      rfl
  | domain => cases host <;> simp only [trials, inquiries, hk] <;> rfl

theorem check_eq_true_iff_any (host : RelayHost) :
    (b.check r host).2 = .ok true ↔ (b.trials r host).any (Trial.isListing r) = true := by
  rw [any_isListing_trials, any_isListing_inquiries_iff, check_eq_true_iff]

end BlockList

/-! ### All lists -/

/-- An evaluation accounts for the trials of its lists one after the other, up to the first that is
a listing. -/
theorem essence_evaluate (r : Resolver) (shown : String) (host : RelayHost)
    (lists : List BlockList) :
    (evaluate r shown host lists).1.essence =
      (throughFirst (Trial.isListing r) (lists.flatMap (·.trials r host))).flatMap
        (Trial.account r shown) := by
  induction lists with
  | nil => rfl
  | cons b rest ih =>
    have htold := b.essence_check r shown host
    have hl := b.check_eq_true_iff_any r host
    rw [List.flatMap_cons, evaluate]
    cases ha : (b.trials r host).any (Trial.isListing r) with
    | true =>
      have hjunk := hl.mpr ha
      rw [throughFirst_append_of_any ha, ← htold]
      generalize b.check r host = checked at hjunk
      obtain ⟨t, outcome⟩ := checked
      obtain rfl : outcome = .ok true := hjunk
      exact (List.append_nil _).symm
    | false =>
      have hjunk : (b.check r host).2 ≠ .ok true := fun h => by simp [hl.mp h] at ha
      rw [throughFirst_append_of_any_eq_false ha, List.flatMap_append, ← ih]
      rw [throughFirst_of_any_eq_false ha] at htold
      rw [← htold]
      generalize b.check r host = checked at hjunk
      rcases checked with ⟨t, f | _ | _⟩
      · have halarm : (Notice.checkFailed shown b.name f.text).isAlarm = true := rfl
        simp [Trace.essence_append, BlockList.afterCheck, Trace.essence_alarm halarm]
      · simp [Trace.essence_append, BlockList.afterCheck]
      · exact absurd rfl hjunk

/-! ### Checks -/

theorem Backend.questions_trial (backend : Backend) (net : Network) (b : BlockList)
    (name : String) :
    (Trial.listing b name).questions (backend.resolver net) = [⟨backend.listings, name⟩] :=
  backend.questions_listing net b name

namespace Checker

/-- What a check of a host tries for those of some lists that are on, up to the first listing. -/
def trials (c : Checker) (r : Resolver) (host : String) (lists : List BlockList) : List Trial :=
  throughFirst (Trial.isListing r)
    ((lists.filter c.registry.isEnabled).flatMap (·.trials r (RelayHost.parse (lower host))))

def faults (c : Checker) (r : Resolver) (host : String) (lists : List BlockList) :
    List TrialFault :=
  (c.trials r host lists).filterMap (Trial.fault? r)

theorem essence_evaluateHost (c : Checker) (r : Resolver) (host : String)
    (lists : List BlockList) :
    (c.evaluateHost r (lower host) lists).1.essence =
      (c.trials r host lists).flatMap (Trial.account r (lower host)) := by
  unfold evaluateHost trials
  rw [essence_evaluate]

/-- The warnings and errors of a check without a verdict in the cache are the reports of the faults
it meets, one for each fault and in their order. Each comes right after what is asked in its trial,
and this is one question where a name is looked up. A check that finds a verdict gives none. -/
theorem faults_reported_once (c : Checker) (r : Resolver) (now : Float) (host : String)
    (lists : Option (List BlockList)) :
    ((c.cache.get now host).2 = none →
      (c.checkHost r now host lists).2.1.alarms =
        (c.faults r host (lists.getD c.registry.lists)).map (TrialFault.notice (lower host)) ∧
      (c.checkHost r now host lists).2.1.essence =
        (c.trials r host (lists.getD c.registry.lists)).flatMap
          (Trial.account r (lower host))) ∧
    (∀ junk, (c.cache.get now host).2 = some junk →
      (c.checkHost r now host lists).2.1.alarms = []) ∧
    (∀ fault : TrialFault, (fault.notice (lower host)).level = fault.level) ∧
    ∀ (backend : Backend) (net : Network), r = backend.resolver net → ∀ b name,
      (Trial.listing b name).questions r = [⟨backend.listings, name⟩] := by
  refine ⟨?_, ?_, TrialFault.level_notice (lower host), ?_⟩
  · intro hfresh
    have hcheck : (c.checkHost r now host lists).2 =
        c.evaluateHost r (lower host) (lists.getD c.registry.lists) :=
      congrArg Prod.snd (checkHost_of_fresh hfresh)
    have htold := c.essence_evaluateHost r host (lists.getD c.registry.lists)
    rw [hcheck]
    refine ⟨?_, htold⟩
    rw [← Trace.notices_essence, htold, Trial.notices_accounts, faults]
  · intro junk hfound
    rw [checkHost_of_found hfound]
    rfl
  · rintro backend net rfl b name
    exact backend.questions_trial net b name

/-- A checker over the known services with their domain list on. -/
def withDomains : Checker :=
  initial.withRegistry { initial.registry with
    store := .memory [(.ofString "blocklist.Spamhaus/DBL", true)] }

/-- A network with a host whose resolution breaks down and whose name cannot be looked up. -/
def unansweredHost : Network :=
  (Network.silent.answering ⟨.hosts, "mail.example.com"⟩ (.fault (.breakdown "boom"))
    ).answering ⟨.listings, "mail.example.com.dbl.spamhaus.org"⟩
      (.fault (.failedLookup "timed out"))

theorem faults_reported_once_unansweredHost :
    (withDomains.cache.get 1000 "Mail.Example.com").2 = none ∧
    (withDomains.checkHost (Plain.resolver unansweredHost) 1000
        "Mail.Example.com" none).2.1.alarms =
      [.checkFailed "mail.example.com" "Spamhaus/zen" "boom",
        .lookupFailed "mail.example.com.dbl.spamhaus.org" "timed out",
        .checkFailed "mail.example.com" "Spamcop" "boom"] ∧
    ∃ after : Checker, (after.cache.get 1001 "mail.example.COM").2 = some false ∧
      (after.checkHost (Plain.resolver unansweredHost) 1001 "mail.example.COM" none).2.1.alarms =
        [] := by
  have hfresh : (withDomains.cache.get 1000 "Mail.Example.com").2 = none := rfl
  have hfaults : withDomains.faults (Plain.resolver unansweredHost) "Mail.Example.com"
      withDomains.registry.lists = [
        .addresses (knownServices[0].blockList 1) (.name "mail.example.com")
          (.unexpected (.breakdown "boom")),
        .listing "mail.example.com.dbl.spamhaus.org" (.failed "timed out"),
        .addresses (knownServices[2].blockList 3) (.name "mail.example.com")
          (.unexpected (.breakdown "boom"))] := by
    decide +kernel
  have hfound : ((withDomains.withCache (withDomains.cache.put 1000 "mail.example.com" false)
      ).cache.get 1001 "mail.example.COM").2 = some false := by
    decide +kernel
  have hlower : lower "Mail.Example.com" = "mail.example.com" := by decide +kernel
  have halarms := ((faults_reported_once withDomains (Plain.resolver unansweredHost) 1000
    "Mail.Example.com" none).1 hfresh).1
  rw [Option.getD_none, hfaults, hlower] at halarms
  exact ⟨hfresh, halarms, _, hfound, (faults_reported_once _ (Plain.resolver unansweredHost) 1001
    "mail.example.COM" none).2.1 false hfound⟩

end Checker

end RelayReputation
