/-
CloudflareIpSync/Convergence.lean

When one refresh converges.  Cloudflare is modelled as it works when it works
(`cloudStep`): reads return the current list, a replacement takes effect, and
its bulk operation is reported complete in time; only a bounded number of
attempts may end in an error.  The retry loop then succeeds whenever it has
more attempts than Cloudflare has failures left.

A retry limit of 0, which the options form accepts, means no attempt at all.
The refresh converges exactly if the limit is at least 1 or the list matched
from the start (`converges_iff`).
-/
import CloudflareIpSync.ConfigFlow
import CloudflareIpSync.Refresh
import CloudflareIpSync.WriteSafety

namespace CloudflareIpSync

open Interact Ipaddress

variable {c : Coordinator} {source localIp : String}

/-! ### Cloudflare -/

/-- Cloudflare as one refresh sees it. -/
structure Cloud where
  /-- The texts of the list's entries. -/
  content : List String
  /-- How many attempts may still fail. -/
  failures : ℕ
  /-- Seconds since the last replacement, polls and the sleeps between them. -/
  elapsed : ℚ≥0
  /-- Whether an attempt is under way. -/
  attempting : Bool

/-- The texts a list of items holds. -/
abbrev texts (items : List CloudflareListItem) : List String := items.map (·.ip)

/-- A call of an attempt fails, with any error but a refused token. -/
def Cloud.Fails (cloud : Cloud) (err : CloudflareError) (cloud' : Cloud) : Prop :=
  cloud.attempting = true ∧ err.isAuth = false ∧ 0 < cloud.failures ∧
    cloud' = { cloud with failures := cloud.failures - 1 }

/-- One action against Cloudflare and the source entity. -/
def cloudStep (source : String) (cloud : Cloud) (e : Ev) (cloud' : Cloud) : Prop :=
  match e with
  | ⟨.statesGet _, answer⟩ => answer = some source ∧ cloud' = cloud
  | ⟨.getListItems _ _, .ok items⟩ => texts items = cloud.content ∧ cloud' = cloud
  | ⟨.getListItems _ _, .error err⟩ => cloud.Fails err cloud'
  | ⟨.replaceListItems _ _ items, .ok _⟩ =>
      cloud' = ⟨texts items, cloud.failures, 0, true⟩
  | ⟨.replaceListItems _ _ items, .error err⟩ =>
      -- with or without effect
      { cloud with attempting := true }.Fails err cloud' ∨
        { cloud with content := texts items, attempting := true }.Fails err cloud'
  | ⟨.getBulkOperation _ _, (took, .ok operation)⟩ =>
      -- in time, if the operation has been in time so far
      (operation.isComplete = true ∧ cloud' = cloud ∧
        (cloud.elapsed < bulkOperationTimeout → cloud.elapsed + took < bulkOperationTimeout)) ∨
      (operation.isComplete = false ∧ operation.isFailed = false ∧
        cloud.elapsed + took + bulkOperationPollInterval < bulkOperationTimeout ∧
        cloud' = { cloud with elapsed := cloud.elapsed + took + bulkOperationPollInterval })
  | ⟨.getBulkOperation _ _, (_, .error err)⟩ => cloud.Fails err cloud'
  | _ => cloud' = cloud

/-- Cloudflare always has an answer. -/
theorem cloudStep_total (cloud : Cloud) (o : Action) :
    ∃ answer cloud', cloudStep source cloud ⟨o, answer⟩ cloud' := by
  cases o with
  | statesGet => exact ⟨some source, cloud, rfl, rfl⟩
  | getListItems =>
      refine ⟨.ok (cloud.content.map fun ip => ⟨ip, none, none⟩), cloud, ?_, rfl⟩
      rw [texts, List.map_map]
      exact List.map_id' _
  | replaceListItems _ _ items => exact ⟨.ok "", ⟨texts items, cloud.failures, 0, true⟩, rfl⟩
  | getBulkOperation =>
      refine ⟨(0, .ok ⟨"", "completed", none⟩), cloud, .inl ⟨by decide, rfl, ?_⟩⟩
      rw [add_zero]
      exact id
  | getRuleLists => exact ⟨.ok [], cloud, rfl⟩
  | getDnsRecords => exact ⟨.ok [], cloud, rfl⟩
  | createDnsRecord => exact ⟨.error (.connection ""), cloud, rfl⟩
  | updateDnsRecord => exact ⟨.error (.connection ""), cloud, rfl⟩
  | stampLastSynced => exact ⟨(0 : ℕ), cloud, rfl⟩
  | getLastSynced => exact ⟨none, cloud, rfl⟩
  | sleep | createNotification | dismissNotification | createIssue | deleteIssue | setupListeners
  | forwardEntrySetups | addUpdateListener => exact ⟨(), cloud, rfl⟩

/-! ### One attempt -/

/-- A failing call uses up one failure. -/
theorem Cloud.Fails.failures_eq {cloud cloud' : Cloud} {err : CloudflareError}
    (h : cloud.Fails err cloud') : cloud.failures = cloud'.failures + 1 := by
  obtain ⟨-, -, hpos, rfl⟩ := h
  show cloud.failures = cloud.failures - 1 + 1
  omega

/-- What an attempt, or its wait, may come to: it is done, with no failure used
up, or it raised an error that is retried, with one used up. -/
inductive Outcome {α : Type} (cloud cloud' : Cloud) (done : α → Prop) :
    Except SyncError α → Prop
  | done {value} : done value → cloud'.failures = cloud.failures →
      Outcome cloud cloud' done (.ok value)
  | failed {err} : err.retriable = true → cloud.failures = cloud'.failures + 1 →
      Outcome cloud cloud' done (.error err)

theorem Cloud.Fails.retriable {cloud cloud' : Cloud} {err : CloudflareError}
    (h : cloud.Fails err cloud') : (SyncError.cloudflare err).retriable = true := by
  show (!err.isAuth) = true
  rw [h.2.1]
  rfl

theorem Cloud.Fails.outcome {α : Type} {cloud cloud' : Cloud} {err : CloudflareError}
    {done : α → Prop} (h : cloud.Fails err cloud') :
    Outcome cloud cloud' done (.error (.cloudflare err)) :=
  .failed h.retriable h.failures_eq

/-- Polls see the operation complete in time, unless one of them fails. -/
theorem PollRun.converges {operationId : String} {elapsed : ℚ≥0} {t : List Ev}
    {out : Except SyncError Unit} {cloud cloud' : Cloud}
    (h : PollRun c operationId elapsed t out) (hpath : Path (cloudStep source) cloud t cloud')
    (helapsed : cloud.elapsed = elapsed) (hintime : elapsed < bulkOperationTimeout) :
    Outcome cloud cloud' (fun _ => cloud'.content = cloud.content ∧
      cloud'.attempting = cloud.attempting) out := by
  -- an answer that is not final leaves time for another poll
  have pending : ∀ {cloud s : Cloud} {took operation}, operation.isComplete = false →
      cloudStep source cloud (pollEv c operationId took (.ok operation)) s →
      operation.isFailed = false ∧
        cloud.elapsed + took + bulkOperationPollInterval < bulkOperationTimeout ∧
        s = { cloud with elapsed := cloud.elapsed + took + bulkOperationPollInterval } := by
    rintro cloud s took operation hc (⟨hc', -⟩ | ⟨-, hpending⟩)
    · rw [hc] at hc'
      cases hc'
    · exact hpending
  induction h generalizing cloud with
  | @late elapsed took answer hlate =>
      have hstep := path_single_iff.mp hpath
      subst helapsed
      rcases answer with err | operation
      · exact .failed rfl (Cloud.Fails.failures_eq hstep)
      · rcases hstep with ⟨-, -, htime⟩ | ⟨-, -, htime, -⟩
        · exact absurd (htime hintime) (not_lt.mpr hlate)
        · exact absurd (lt_of_le_of_lt le_self_add htime) (not_lt.mpr hlate)
  | raised =>
      have hstep := path_single_iff.mp hpath
      exact Cloud.Fails.outcome hstep
  | completed _ hc =>
      have hstep := path_single_iff.mp hpath
      rcases hstep with ⟨-, rfl, -⟩ | ⟨hc', -⟩
      · exact .done ⟨rfl, rfl⟩ rfl
      · rw [hc] at hc'
        cases hc'
  | failed _ hc hf =>
      obtain ⟨s, hstep, -⟩ := path_cons_iff.mp hpath
      rw [(pending hc hstep).1] at hf
      cases hf
  | asleep _ hc _ hlate =>
      obtain ⟨s, hstep, -⟩ := path_cons_iff.mp hpath
      subst helapsed
      exact absurd (pending hc hstep).2.1 (not_lt.mpr hlate)
  | again _ hc _ htime _ ih =>
      obtain ⟨s, hstep, hpath⟩ := path_cons_iff.mp hpath
      obtain ⟨-, -, rfl⟩ := pending hc hstep
      obtain ⟨s', rfl, hpath⟩ := path_cons_iff.mp hpath
      subst helapsed
      cases ih hpath rfl htime with
      | done hdone hfail => exact .done hdone hfail
      | failed hretry hfail => exact .failed hretry hfail

/-- A list of just the address is in sync with it. -/
theorem isInSync_singleton (hip : toNetwork localIp ≠ none) :
    isInSync (some localIp) [localIp] = true := by
  unfold isInSync
  rw [decide_eq_true_iff]
  simp [Finset.erase_eq_of_notMem, hip.symm]

/-- An attempt verifies its write, unless one of its calls fails. -/
theorem ReplaceRun.converges {t : List Ev} {out : Except SyncError (List String)}
    {cloud cloud' : Cloud} (hip : toNetwork localIp ≠ none) (h : ReplaceRun c localIp t out)
    (hpath : Path (cloudStep source) cloud t cloud') :
    Outcome cloud cloud' (fun _ => cloud'.content = [localIp]) out := by
  -- after the replacement the list holds the address it was given
  have replaced : ∀ {operationId tp r s}, PollRun c operationId 0 tp r →
      Path (cloudStep source) cloud (replaceEv c localIp (.ok operationId) :: tp) s →
      Outcome cloud s (fun _ => s.content = [localIp] ∧ s.attempting = true) r := by
    intro operationId tp r s hpoll hpath
    obtain ⟨s₁, rfl, hpath⟩ := path_cons_iff.mp hpath
    cases hpoll.converges hpath rfl (by norm_num [bulkOperationTimeout]) with
    | done hdone hfail => exact .done hdone hfail
    | failed hretry hfail => exact .failed hretry hfail
  cases h with
  | replaceRaised err =>
      have hstep := path_single_iff.mp hpath
      rcases hstep with hfails | hfails
      · exact .failed hfails.retriable hfails.failures_eq
      · exact .failed hfails.retriable hfails.failures_eq
  | waitRaised hpoll =>
      cases replaced hpoll hpath with
      | failed hretry hfail => exact .failed hretry hfail
  | readRaised hpoll =>
      obtain ⟨s, hpath, hstep⟩ := path_snoc_iff.mp hpath
      cases replaced hpoll hpath with
      | done hdone hfail =>
          have hfails : s.Fails _ cloud' := hstep
          refine .failed hfails.retriable ?_
          rw [← hfail, hfails.failures_eq]
  | @mismatch operationId tp items hpoll hsync =>
      obtain ⟨s, hpath, hstep⟩ := path_snoc_iff.mp hpath
      cases replaced hpoll hpath with
      | done hdone hfail =>
          -- the re-read cannot disagree with what was just written
          have hread : items.map (·.ip) = s.content := hstep.1
          rw [hread, hdone.1, isInSync_singleton hip] at hsync
          cases hsync
  | verified hpoll =>
      obtain ⟨s, hpath, hstep⟩ := path_snoc_iff.mp hpath
      cases replaced hpoll hpath with
      | done hdone hfail =>
          obtain ⟨-, rfl⟩ : _ ∧ cloud' = s := hstep
          exact .done hdone.1 hfail

/-! ### The retry loop -/

/-- With more attempts than failures left, the retry loop succeeds. -/
theorem RetryRun.converges {maxRetries : ℤ} {attempts : List ℤ} {delay : ℕ}
    {lastErr : Option SyncError} {t : List Ev} {out : Except SyncError (List String)}
    {cloud cloud' : Cloud} (hip : toNetwork localIp ≠ none)
    (h : RetryRun maxRetries (asyncReplaceAndVerify c localIp) attempts delay lastErr t out)
    (hpath : Path (cloudStep source) cloud t cloud') (hbudget : cloud.failures < attempts.length) :
    (∃ ips, out = .ok ips) ∧ cloud'.content = [localIp] := by
  induction h generalizing cloud with
  | exhausted => exact absurd hbudget (Nat.not_lt_zero _)
  | success hbody =>
      cases (replaceRun_of_traces hbody).converges hip hpath with
      | done hdone => exact ⟨⟨_, rfl⟩, hdone⟩
  | auth hbody =>
      cases (replaceRun_of_traces hbody).converges hip hpath with
      | failed hretry => cases hretry
  | again hbody _ _ _ ih =>
      obtain ⟨s, hattempt, hrest⟩ := path_append_iff.mp hpath
      rw [path_cons_iff] at hrest
      obtain ⟨s', rfl, hrest⟩ := hrest
      cases (replaceRun_of_traces hbody).converges hip hattempt with
      | failed _ hfail =>
          rw [List.length_cons] at hbudget
          apply ih hrest
          omega
  | last hbody _ _ _ ih =>
      obtain ⟨s, hattempt, hpath⟩ := path_append_iff.mp hpath
      cases (replaceRun_of_traces hbody).converges hip hattempt with
      | failed _ hfail =>
          rw [List.length_cons] at hbudget
          apply ih hpath
          omega

/-! ### A refresh -/

/-- The address of a usable source is a network. -/
theorem toNetwork_ne_none {state : Option String} (h : UsableSource state localIp) :
    toNetwork localIp ≠ none := by
  obtain ⟨text, -, -, -, -, rfl, hip⟩ := h
  obtain ⟨a, ha⟩ := Option.isSome_iff_exists.mp hip
  rw [toNetwork, strip_strip, ipNetwork_of_ipAddress ha]
  exact Option.some_ne_none _

/-- What a refresh should come to: in sync, without an error, and with a list
that is, as networks, exactly the source IP. -/
structure Converged (localIp : String) (out : Except UpdateError SyncState) (cloud : Cloud) :
    Prop where
  in_sync : ∃ s, out = .ok s ∧ s.inSync = true ∧ s.lastError = none
  content : (cloud.content.map toNetwork).toFinset = {toNetwork localIp}

/-- **Convergence.** Every refresh that starts with this list, and with fewer
failures ahead than the larger of 1 and the retry limit, converges. -/
def Converges (c : Coordinator) (source localIp : String) (content : List String) : Prop :=
  ∀ failures t out cloud', failures < max 1 c.maxRetries.toNat →
    (asyncUpdateData c).Traces t out →
    Path (cloudStep source) ⟨content, failures, 0, false⟩ t cloud' → Converged localIp out cloud'

/-- What the DNS half and the notifications do is no business of the list. -/
def Action.isCloud : Action → Bool
  | statesGet _ => true
  | getListItems _ _ => true
  | replaceListItems _ _ _ => true
  | getBulkOperation _ _ => true
  | _ => false

theorem not_isCloud_of_inDnsHalf {o : Action} (ho : o.InDnsHalf c) : o.isCloud = false := by
  cases o <;> first | rfl | exact ho.elim

theorem cloud_frame {t : List Ev} {cloud cloud' : Cloud}
    (h : Path (cloudStep source) cloud t cloud') (ht : ∀ e ∈ t, e.1.isCloud = false) :
    cloud' = cloud := by
  refine h.preserves (I := fun s => s = cloud) rfl ?_
  rintro s ⟨action, answer⟩ s' he rfl hstep
  have hoff := ht _ he
  cases action <;> first | exact hstep | cases hoff

/-- A refresh begins by reading the source and the list as they are. -/
theorem reads_of_path {state : Option String}
    {answer : Except CloudflareError (List CloudflareListItem)} {t : List Ev}
    {content : List String} {failures : ℕ} {cloud' : Cloud}
    (h : Path (cloudStep source) ⟨content, failures, 0, false⟩
      (sourceEv c state :: readEv c answer :: t) cloud') :
    state = some source ∧ (∃ items, answer = .ok items ∧ items.map (·.ip) = content) ∧
      Path (cloudStep source) ⟨content, failures, 0, false⟩ t cloud' := by
  rw [path_cons_iff] at h
  obtain ⟨s, ⟨rfl, rfl⟩, h⟩ := h
  rw [path_cons_iff] at h
  obtain ⟨s, hstep, h⟩ := h
  rcases answer with err | items
  · cases hstep.1
  · obtain ⟨hread, rfl⟩ := hstep
    exact ⟨rfl, ⟨items, rfl, hread⟩, h⟩

/-- A retried write in a refresh that has an attempt to spare. -/
theorem sync_converges {t : List Ev} {out : Except SyncError (List String)} {cloud cloud' : Cloud}
    (hip : toNetwork localIp ≠ none) (h : (asyncSyncWithRetry c localIp).Traces t out)
    (hpath : Path (cloudStep source) cloud t cloud')
    (hbudget : cloud.failures < c.maxRetries.toNat) :
    (∃ ips, out = .ok ips) ∧ cloud'.content = [localIp] := by
  apply (retryRun_of_traces h).converges hip hpath
  rw [pyRange_length]
  exact hbudget

/-- The networks of a list in sync whose entries all parse. -/
theorem networks_of_isInSync {content : List String}
    (hcontent : ∀ entry ∈ content, toNetwork entry ≠ none)
    (hsync : isInSync (some localIp) content = true) :
    (content.map toNetwork).toFinset = {toNetwork localIp} := by
  have hnone : none ∉ (content.map toNetwork).toFinset := by
    rw [List.mem_toFinset, List.mem_map]
    rintro ⟨entry, hentry, hnone⟩
    exact hcontent entry hentry hnone
  unfold isInSync at hsync
  rw [decide_eq_true_iff, Finset.erase_eq_of_notMem hnone] at hsync
  exact hsync.symm

/-- The Rule List half of a refresh, given an attempt to spare if one is needed. -/
theorem ListRun.converges {t : List Ev} {out : Except UpdateError ListOutcome}
    {content : List String} {failures : ℕ} {cloud' : Cloud}
    (hsource : readSourceIp (some source) = some localIp)
    (hcontent : ∀ entry ∈ content, toNetwork entry ≠ none)
    (hspare : isInSync (some localIp) content = false → failures < c.maxRetries.toNat)
    (h : ListRun c t out) (hpath : Path (cloudStep source) ⟨content, failures, 0, false⟩ t cloud') :
    (∃ list, out = .ok list ∧ list.inSync = true ∧ list.lastError = none) ∧
      (cloud'.content.map toNetwork).toFinset = {toNetwork localIp} := by
  have hip : toNetwork localIp ≠ none := toNetwork_ne_none (readSourceIp_eq_some_iff.mp hsource)
  -- a retried write ends in the one-element list
  have written : ∀ {ip tw w r s}, readSourceIp (some source) = some ip →
      isInSync (some ip) content = false → (asyncSyncWithRetry c ip).Traces tw r →
      Path (cloudStep source) ⟨content, failures, 0, false⟩ (issueEv c false :: tw ++ w) s →
      (∀ e ∈ w, e.1.isCloud = false) →
      (∃ ips, r = .ok ips) ∧ (s.content.map toNetwork).toFinset = {toNetwork localIp} := by
    intro ip tw w r s hsource' hdiff hwrite hpath hw
    obtain rfl : localIp = ip := Option.some.inj (hsource.symm.trans hsource')
    obtain ⟨mid, hpath, htail⟩ := path_append_iff.mp hpath
    rw [path_cons_iff] at hpath
    obtain ⟨start, rfl, hpath⟩ := hpath
    obtain ⟨hok, hlist⟩ := sync_converges hip hwrite hpath (hspare hdiff)
    rw [cloud_frame htail hw, hlist]
    exact ⟨hok, by simp⟩
  cases h with
  | readAuth | readApi | readOther =>
      obtain ⟨-, ⟨items, hok, -⟩, -⟩ := reads_of_path hpath
      cases hok
  | noSource items hnone =>
      obtain ⟨rfl, -, -⟩ := reads_of_path hpath
      rw [hsource] at hnone
      cases hnone
  | matched now hsource' hsync =>
      obtain ⟨rfl, ⟨items, hok, rfl⟩, hrest⟩ := reads_of_path hpath
      cases hok
      obtain rfl := Option.some.inj (hsource.symm.trans hsource')
      refine ⟨⟨_, rfl, rfl, rfl⟩, ?_⟩
      have hoff : ∀ e ∈ [issueEv c false, clearEv c, stampEv now], e.1.isCloud = false := by
        simp [issueEv, Action.isCloud]
      rw [cloud_frame hrest hoff]
      exact networks_of_isInSync hcontent hsync
  | written now hsource' hdiff hwrite =>
      obtain ⟨rfl, ⟨items, hok, rfl⟩, hrest⟩ := reads_of_path hpath
      cases hok
      obtain ⟨-, hlist⟩ := written hsource' hdiff hwrite hrest (by simp [Action.isCloud])
      exact ⟨⟨_, rfl, rfl, rfl⟩, hlist⟩
  | @writeAuth _ _ _ tw _ hsource' hdiff hwrite =>
      obtain ⟨rfl, ⟨items, hok, rfl⟩, hrest⟩ := reads_of_path hpath
      cases hok
      rw [← List.append_nil (issueEv c false :: tw)] at hrest
      obtain ⟨⟨ips, hips⟩, -⟩ := written hsource' hdiff hwrite hrest (by simp)
      cases hips
  | gaveUp hsource' hdiff hwrite =>
      obtain ⟨rfl, ⟨items, hok, rfl⟩, hrest⟩ := reads_of_path hpath
      cases hok
      obtain ⟨⟨ips, hips⟩, -⟩ := written hsource' hdiff hwrite hrest (by simp [Action.isCloud])
      cases hips

theorem converges_of_spare {content : List String}
    (hsource : readSourceIp (some source) = some localIp)
    (hcontent : ∀ entry ∈ content, toNetwork entry ≠ none)
    (hspare : 1 ≤ c.maxRetries ∨ isInSync (some localIp) content = true) :
    Converges c source localIp content := by
  intro failures t out cloud' hbudget htraces hpath
  have hfew : isInSync (some localIp) content = false → failures < c.maxRetries.toNat := by
    intro hdiff
    rcases hspare with hpos | hsync
    · omega
    · rw [hdiff] at hsync
      cases hsync
  cases refreshRun_of_traces htraces with
  | raised hlist =>
      obtain ⟨⟨list, hok, -⟩, -⟩ :=
        (listRun_of_traces hlist).converges hsource hcontent hfew hpath
      cases hok
  | @returned tl td list dns lastSynced hlist hdns =>
      rw [List.append_assoc] at hpath
      obtain ⟨s, hpathList, hrest⟩ := path_append_iff.mp hpath
      obtain ⟨⟨list, hok, hsync, herror⟩, hnetworks⟩ :=
        (listRun_of_traces hlist).converges hsource hcontent hfew hpathList
      cases hok
      have hoff : ∀ e ∈ td ++ [⟨Action.getLastSynced, lastSynced⟩], e.1.isCloud = false := by
        intro e he
        rcases List.mem_append.mp he with he | he
        · exact not_isCloud_of_inDnsHalf ((emits_asyncReconcileDns c _).traces hdns e he)
        · rw [List.mem_singleton.mp he]
          rfl
      rw [← cloud_frame hrest hoff] at hnetworks
      exact ⟨⟨_, rfl, hsync, herror⟩, hnetworks⟩

/-- Without an attempt and with a list that differs, a refresh can fail. -/
theorem not_converges {content : List String}
    (hsource : readSourceIp (some source) = some localIp) (hnone : c.maxRetries ≤ 0)
    (hdiff : isInSync (some localIp) content = false) : ¬ Converges c source localIp content := by
  intro hconverges
  obtain ⟨t, out, cloud', htraces, hpath⟩ :=
    Prog.exists_run (@cloudStep_total source) (asyncUpdateData c) ⟨content, 0, 0, false⟩
  obtain ⟨s, hout, hsync, -⟩ := (hconverges 0 t out cloud' (by omega) htraces hpath).in_sync
  cases refreshRun_of_traces htraces with
  | raised => cases hout
  | @returned tl td list dns lastSynced hlist hdns =>
      cases hout
      rw [List.append_assoc] at hpath
      obtain ⟨s, hpathList, -⟩ := path_append_iff.mp hpath
      generalize hok : (Except.ok list : Except UpdateError ListOutcome) = r at hlist
      cases listRun_of_traces hlist with
      | readAuth | readApi | readOther | writeAuth => cases hok
      | noSource | gaveUp => cases hok; exact Bool.false_ne_true hsync
      | matched now hsource' hmatch =>
          obtain ⟨rfl, ⟨items, hitems, rfl⟩, -⟩ := reads_of_path hpathList
          cases hitems
          obtain rfl := Option.some.inj (hsource.symm.trans hsource')
          rw [hdiff] at hmatch
          cases hmatch
      | written now _ _ hwrite =>
          -- there is no attempt to succeed
          have hempty : pyRange 1 (c.maxRetries + 1) = [] := by
            rw [← List.length_eq_zero_iff, pyRange_length]
            omega
          have hrun := retryRun_of_traces hwrite
          rw [hempty] at hrun
          cases hrun

/-- **The setting decides.** For every input the options form accepts, every
usable source IP and every list of addresses and networks: refreshes converge
if and only if the input is at least 1 or the list matches from the start. -/
theorem converges_iff {entry : ConfigEntry} {value : ℚ} {maxRetries : ℤ} {content : List String}
    (hform : storedMaxRetries value = some maxRetries)
    (hentry : entry.maxRetries = some (maxRetries : ℚ))
    (hsource : readSourceIp (some source) = some localIp)
    (hcontent : ∀ text ∈ content, toNetwork text ≠ none) :
    Converges (.ofEntry entry) source localIp content ↔
      1 ≤ value ∨ isInSync (some localIp) content = true := by
  have hlimit : (Coordinator.ofEntry entry).maxRetries = maxRetries := by
    simp [Coordinator.ofEntry, hentry]
  rw [← one_le_storedMaxRetries_iff hform, ← hlimit]
  constructor
  · intro hconverges
    by_contra hno
    obtain ⟨hlow, hdiff⟩ := not_or.mp hno
    refine not_converges hsource ?_ (by simpa using hdiff) hconverges
    omega
  · exact converges_of_spare hsource hcontent

/-- A form submitted with 0: one lost address is never written. -/
theorem not_converges_none :
    storedMaxRetries 0 = some 0 ∧
      ¬ Converges (.ofEntry ⟨"e", "home", "acc", "list", "sensor.ip", some 0, none, none⟩)
        "203.0.113.7" "203.0.113.7" ["198.51.100.1"] := by
  refine ⟨by decide +kernel, not_converges ?_ ?_ ?_⟩
  · decide
  · decide +kernel
  · decide

/-- A form submitted with 3.5, which is stored as 3. -/
theorem converges_iff_three :
    Converges (.ofEntry ⟨"e", "home", "acc", "list", "sensor.ip", some 3, none, none⟩)
        " 203.0.113.7" "203.0.113.7" ["198.51.100.1", "10.0.0.0/8"] ↔
      1 ≤ (7 / 2 : ℚ) ∨ isInSync (some "203.0.113.7") ["198.51.100.1", "10.0.0.0/8"] = true := by
  have hform : storedMaxRetries (7 / 2) = some 3 := by decide +kernel
  exact converges_iff hform rfl (by decide) (by decide)

end CloudflareIpSync
