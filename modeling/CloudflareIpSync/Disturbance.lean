/-
CloudflareIpSync/Disturbance.lean

Refreshes of a disturbed Rule List.  Cloudflare serves the list as it should
(`calmStep`), except that any action may go wrong in any way: fail, time out,
answer with something else, or find the list edited by somebody else.  Each
action that goes wrong uses up at least 1 of a budget, and nothing is known
about what it answers and leaves behind.

The source may change from one refresh to the next.  Over all refreshes, the
list is written at most once for every move of the address and once for every
disturbance, and no more refreshes miss being in sync than there were
disturbances (`writes_tracked`).
-/
import CloudflareIpSync.Convergence
import CloudflareIpSync.Tracking

namespace CloudflareIpSync

open Interact

/-! ### Counting actions -/

/-- Replacing the items of the list. -/
def Action.writesList : Action → Bool
  | replaceListItems _ _ _ => true
  | _ => false

/-- How many events of a run are of a kind. -/
def performed (P : Action → Bool) (t : List Ev) : ℕ := t.countP fun e => P e.1

section Performed

variable {P : Action → Bool} {t t' : List Ev} {e : Ev}

@[simp] theorem performed_nil : performed P [] = 0 := rfl

theorem performed_cons : performed P (e :: t) = performed P [e] + performed P t := by
  show List.countP _ ([e] ++ t) = _
  exact List.countP_append

theorem performed_append : performed P (t ++ t') = performed P t + performed P t' :=
  List.countP_append

theorem performed_eq_zero (h : ∀ e ∈ t, P e.1 = false) : performed P t = 0 := by
  apply List.countP_eq_zero.mpr
  intro e he hP
  rw [h e he] at hP
  cases hP

end Performed

/-! ### Retry loops that pay for their attempts -/

section Retry

variable {α σ : Type} {E : σ → Ev → σ → Prop} {P : Action → Bool} {body : Coro (Except SyncError α)}
  {maxRetries : ℤ} {attempts : List ℤ} {delay : ℕ} {lastErr : Option SyncError} {t : List Ev}
  {out : Except SyncError α} {s s' : σ}

/-- What a loop does is paid for by a measure of the state, if each attempt pays
and leaves enough for the next one after an error. -/
theorem RetryRun.paid (left done : σ → ℕ) (hle : ∀ s, done s ≤ left s)
    (hP : ∀ n, P (.sleep n) = false)
    (hsleep : ∀ {s n s'}, E s ⟨.sleep n, ()⟩ s' → left s' ≤ left s)
    (hok : ∀ {t value s s'}, body.Traces t (.ok value) → Path E s t s' →
      performed P t + done s' ≤ left s)
    (herror : ∀ {t err s s'}, body.Traces t (.error err) → Path E s t s' →
      performed P t + left s' ≤ left s)
    (h : RetryRun maxRetries body attempts delay lastErr t out) (hpath : Path E s t s') :
    performed P t + done s' ≤ left s := by
  induction h generalizing s with
  | exhausted =>
      rw [path_nil_iff.mp hpath, performed_nil, Nat.zero_add]
      exact hle s
  | success hbody => exact hok hbody hpath
  | auth hbody => exact Nat.le_trans (Nat.add_le_add_left (hle _) _) (herror hbody hpath)
  | @again _ _ delay _ t t' _ _ hbody _ _ _ ih =>
      obtain ⟨s₁, hfirst, hrest⟩ := path_append_iff.mp hpath
      obtain ⟨s₂, hsleeps, hrest⟩ := path_cons_iff.mp hrest
      have hattempt := herror hbody hfirst
      have hslept := hsleep hsleeps
      have hloop := ih hrest
      have hquiet : performed P [⟨Action.sleep delay, ()⟩] = 0 :=
        performed_eq_zero (by simp [hP])
      rw [performed_append, performed_cons, hquiet]
      omega
  | last hbody _ _ _ ih =>
      obtain ⟨s₁, hfirst, hrest⟩ := path_append_iff.mp hpath
      have hattempt := herror hbody hfirst
      have hloop := ih hrest
      rw [performed_append]
      omega

/-- A loop that gives up has spent something, if every attempt that fails has. -/
theorem RetryRun.spent {err : SyncError} (budget : σ → ℕ)
    (hle : ∀ {s e s'}, E s e s' → budget s' ≤ budget s)
    (herror : ∀ {t err s s'}, body.Traces t (.error err) → Path E s t s' → budget s' < budget s)
    (h : RetryRun maxRetries body attempts delay lastErr t (.error err)) (hne : attempts ≠ [])
    (hpath : Path E s t s') : budget s' < budget s := by
  have hrun : ∀ {t s s'}, Path E s t s' → budget s' ≤ budget s := by
    intro t s s' hpath
    exact hpath.preserves (I := fun s₁ => budget s₁ ≤ budget s) (Nat.le_refl _)
      fun _ _ _ _ hs hstep => Nat.le_trans (hle hstep) hs
  cases h with
  | exhausted => exact absurd rfl hne
  | auth hbody => exact herror hbody hpath
  | again hbody | last hbody =>
      obtain ⟨s₁, hfirst, hrest⟩ := path_append_iff.mp hpath
      exact Nat.lt_of_le_of_lt (hrun hrest) (herror hbody hfirst)

end Retry

/-! ### A list that is served as it should be -/

/-- A Rule List: the texts of its entries, and for how long its last replacement
has been polled. -/
structure ServedList where
  content : List String
  elapsed : ℚ≥0

/-- The list at a Cloudflare that has no failures left. -/
def ServedList.cloud (s : ServedList) : Cloud := ⟨s.content, 0, s.elapsed, true⟩

/-- One action while nothing goes wrong.  The source may be in any state. -/
def calmStep (s : ServedList) (e : Ev) (s' : ServedList) : Prop :=
  match e with
  | ⟨.statesGet _, _⟩ => s' = s
  | e => cloudStep "" s.cloud e s'.cloud

/-- The list, and how much may still go wrong with it. -/
abbrev DisturbedStep : ServedList × ℕ → Ev → ServedList × ℕ → Prop := Budgeted calmStep

variable {c : Coordinator} {localIp : String} {t : List Ev}

section Calm

variable {s s' : ServedList} {e : Ev}

theorem calmStep_iff (he : ∀ entityId, e.1 ≠ .statesGet entityId) :
    calmStep s e s' ↔ cloudStep "" s.cloud e s'.cloud := by
  obtain ⟨o, r⟩ := e
  cases o with
  | statesGet entityId => exact absurd rfl (he entityId)
  | _ => exact Iff.rfl

/-- Without a replacement, the list holds what it held. -/
theorem content_of_calm (he : e.1.writesList = false) (h : calmStep s e s') :
    s'.content = s.content := by
  have hkept : ∀ {err cloud}, ¬ s.cloud.Fails err cloud := fun hfails => by
    cases hfails.2.2.1
  obtain ⟨o, r⟩ := e
  cases o with
  | replaceListItems => cases he
  | statesGet => exact congrArg ServedList.content h
  | getListItems =>
      rcases r with err | items
      · exact absurd h hkept
      · exact congrArg Cloud.content h.2
  | getBulkOperation =>
      rcases r with ⟨took, err | operation⟩
      · exact absurd h hkept
      · rcases h with ⟨-, hsame, -⟩ | ⟨-, -, -, hsame⟩
        · exact congrArg Cloud.content hsame
        · exact congrArg Cloud.content hsame
  | _ => exact congrArg Cloud.content h

/-- An attempt without disturbance succeeds. -/
theorem attempt_calm {out : Except SyncError (List String)} (hip : toNetwork localIp ≠ none)
    (h : (asyncReplaceAndVerify c localIp).Traces t out) (hpath : Path calmStep s t s') :
    (∃ ips, out = .ok ips) ∧ s'.content = [localIp] := by
  have hcloud : Path (cloudStep "") s.cloud t s'.cloud := by
    have hattempt := (emits_asyncReplaceAndVerify c localIp).traces h
    clear h
    induction hpath with
    | nil => exact .nil _
    | cons hstep _ ih =>
        rw [List.forall_mem_cons] at hattempt
        have hother := (afterRead_of_inAttempt _ hattempt.1).1
        exact .cons ((calmStep_iff hother).mp hstep) (ih hattempt.2)
  cases (replaceRun_of_traces h).converges hip hcloud with
  | done hdone => exact ⟨⟨_, rfl⟩, hdone⟩
  | failed _ hfail => cases hfail

end Calm

/-! ### The distance between a list and an address -/

/-- Whether the list has to be written for the address. -/
def listOff (localIp : String) (s : ServedList × ℕ) : ℕ :=
  if isInSync (some localIp) s.1.content then 0 else 1

/-- Whether an address is another one, as a network. -/
def moved (localIp localIp' : String) : ℕ := if toNetwork localIp = toNetwork localIp' then 0 else 1

variable {s s' : ServedList × ℕ}

theorem listOff_le (localIp : String) (s : ServedList × ℕ) : listOff localIp s ≤ 1 := by
  unfold listOff
  split <;> omega

theorem listOff_triangle (localIp localIp' : String) (s : ServedList × ℕ) :
    listOff localIp' s ≤ listOff localIp s + moved localIp localIp' := by
  by_cases hsame : toNetwork localIp = toNetwork localIp'
  · rw [moved, if_pos hsame, listOff, listOff, isInSync, isInSync, hsame]
    exact Nat.le_refl _
  · rw [moved, if_neg hsame]
    exact Nat.le_trans (listOff_le localIp' s) (Nat.le_add_left 1 _)

/-- Without a write, the list gets out of sync by a disturbance only. -/
theorem listOff_of_quiet (h : Path DisturbedStep s t s') (ht : ∀ e ∈ t, e.1.writesList = false)
    (localIp : String) : s'.2 + listOff localIp s' ≤ s.2 + listOff localIp s := by
  rcases h.spent_or_regular with hless | ⟨heq, hregular⟩
  · have hle := listOff_le localIp s'
    omega
  · have hcontent : s'.1.content = s.1.content :=
      hregular.preserves (I := fun s₁ => s₁.content = s.1.content) rfl
        fun _ e _ he hs hstep => (content_of_calm (ht e he) hstep).trans hs
    rw [heq, listOff, listOff, hcontent]

/-! ### Attempts -/

theorem PollRun.quiet {operationId : String} {elapsed : ℚ≥0} {out : Except SyncError Unit}
    (h : PollRun c operationId elapsed t out) : ∀ e ∈ t, e.1.writesList = false := by
  induction h with
  | late | raised | completed | failed | asleep => simp [Action.writesList]
  | again _ _ _ _ _ ih => simpa [Action.writesList] using ih

/-- An attempt writes the list once. -/
theorem performed_attempt {out : Except SyncError (List String)}
    (h : (asyncReplaceAndVerify c localIp).Traces t out) : performed Action.writesList t = 1 := by
  have hwrite : ∀ {operationId tp r} {tail : List Ev}, PollRun c operationId 0 tp r →
      (∀ e ∈ tail, e.1.writesList = false) →
      performed Action.writesList (replaceEv c localIp (.ok operationId) :: tp ++ tail) = 1 := by
    intro operationId tp r tail hpoll htail
    rw [performed_append, performed_cons, performed_eq_zero hpoll.quiet, performed_eq_zero htail]
    rfl
  cases replaceRun_of_traces h with
  | replaceRaised => rfl
  | waitRaised hpoll =>
      rw [← List.append_nil (_ :: _)]
      exact hwrite hpoll (by simp)
  | readRaised hpoll | mismatch hpoll | verified hpoll =>
      exact hwrite hpoll (by simp [Action.writesList])

/-- An attempt is disturbed, or it ends in sync. -/
theorem attempt_cases {out : Except SyncError (List String)} (hip : toNetwork localIp ≠ none)
    (h : (asyncReplaceAndVerify c localIp).Traces t out) (hpath : Path DisturbedStep s t s') :
    s'.2 < s.2 ∨ s'.2 = s.2 ∧ (∃ ips, out = .ok ips) ∧ listOff localIp s' = 0 := by
  apply hpath.spent_or_regular.imp_right
  intro ⟨heq, hregular⟩
  obtain ⟨hok, hcontent⟩ := attempt_calm hip h hregular
  refine ⟨heq, hok, ?_⟩
  rw [listOff, hcontent, isInSync_singleton hip, if_pos rfl]

/-- A retried write of a list that was found off. -/
theorem sync_paid {out : Except SyncError (List String)} (hip : toNetwork localIp ≠ none)
    (h : (asyncSyncWithRetry c localIp).Traces t out) (hpath : Path DisturbedStep s t s') :
    performed Action.writesList t + (s'.2 + listOff localIp s') ≤ s.2 + 1 := by
  refine (retryRun_of_traces h).paid (fun s => s.2 + 1) (fun s => s.2 + listOff localIp s) ?_
    (fun _ => rfl) ?_ ?_ ?_ hpath
  · exact fun s => Nat.add_le_add_left (listOff_le localIp s) _
  · exact fun hstep => Nat.add_le_add_right (Budgeted.le hstep) 1
  · intro t value s s' hbody hpath
    rw [performed_attempt hbody]
    have hle := listOff_le localIp s'
    rcases attempt_cases hip hbody hpath with hless | ⟨heq, -, hoff⟩
    · omega
    · omega
  · intro t err s s' hbody hpath
    rw [performed_attempt hbody]
    rcases attempt_cases hip hbody hpath with hless | ⟨-, ⟨ips, hok⟩, -⟩
    · omega
    · cases hok

theorem attempts_ne_nil (hpos : 1 ≤ c.maxRetries) : pyRange 1 (c.maxRetries + 1) ≠ [] := by
  intro hnil
  have hlength := pyRange_length c.maxRetries
  rw [hnil, List.length_nil] at hlength
  omega

/-- It gives up, or is refused, after a disturbance only. -/
theorem sync_spent {err : SyncError} (hpos : 1 ≤ c.maxRetries) (hip : toNetwork localIp ≠ none)
    (h : (asyncSyncWithRetry c localIp).Traces t (.error err)) (hpath : Path DisturbedStep s t s') :
    s'.2 < s.2 := by
  refine (retryRun_of_traces h).spent (fun s => s.2) Budgeted.le ?_ (attempts_ne_nil hpos) hpath
  intro t err s s' hbody hpath
  rcases attempt_cases hip hbody hpath with hless | ⟨-, ⟨ips, hok⟩, -⟩
  · exact hless
  · cases hok

/-! ### A refresh -/

/-- A refresh that writes the list has read an address, found the list off, and
then tries to write it. -/
theorem ListRun.shape {out : Except UpdateError ListOutcome} (h : ListRun c t out) :
    (∀ e ∈ t, e.1.writesList = false) ∨
      ∃ state items localIp tw r tail,
        t = sourceEv c state :: readEv c (.ok items) :: issueEv c false :: tw ++ tail ∧
        readSourceIp state = some localIp ∧ isInSync (some localIp) (items.map (·.ip)) = false ∧
        (asyncSyncWithRetry c localIp).Traces tw r ∧ ∀ e ∈ tail, e.1.writesList = false := by
  cases h with
  | readAuth | readOther => exact .inl (by simp [Action.writesList])
  | readApi _ _ _ answer =>
      left
      cases ruleListMissing c answer <;> simp [Action.writesList, issueEv]
  | noSource | matched => exact .inl (by simp [Action.writesList, issueEv])
  | written _ hsource hdiff hwrite =>
      exact .inr ⟨_, _, _, _, _, _, rfl, hsource, hdiff, hwrite, by simp [Action.writesList]⟩
  | writeAuth hsource hdiff hwrite =>
      refine .inr ⟨_, _, _, _, _, [], ?_, hsource, hdiff, hwrite, by simp⟩
      rw [List.append_nil]
  | gaveUp hsource hdiff hwrite =>
      exact .inr ⟨_, _, _, _, _, _, rfl, hsource, hdiff, hwrite, by simp [Action.writesList]⟩

/-- A read is disturbed, or it returns the entries of the list. -/
theorem read_cases {answer : Except CloudflareError (List CloudflareListItem)}
    (h : DisturbedStep s (readEv c answer) s') :
    s'.2 < s.2 ∨ s'.2 = s.2 ∧ ∃ items, answer = .ok items ∧ items.map (·.ip) = s.1.content := by
  apply h.imp_right
  intro ⟨heq, hread⟩
  rcases answer with err | items
  · cases hread.2.2.1
  · exact ⟨heq, items, rfl, hread.1⟩

/-- The list half pays for its writes by bringing the list to the address. -/
theorem ListRun.paid {out : Except UpdateError ListOutcome} (h : ListRun c t out)
    (hpath : Path DisturbedStep s t s') (hip : sourceIp t = some localIp) :
    performed Action.writesList t + s'.2 + listOff localIp s' ≤ s.2 + listOff localIp s := by
  rcases h.shape with hquiet |
    ⟨state, items, localIp', tw, r, tail, rfl, hsource, hdiff, hwrite, htail⟩
  · rw [performed_eq_zero hquiet, Nat.zero_add]
    exact listOff_of_quiet hpath hquiet localIp
  obtain rfl := Option.some.inj (hsource.symm.trans hip)
  have hnet : toNetwork localIp' ≠ none := toNetwork_ne_none (readSourceIp_eq_some_iff.mp hsource)
  obtain ⟨s₃, hmain, htailPath⟩ := path_append_iff.mp hpath
  obtain ⟨s₁, hfirst, hmain⟩ := path_cons_iff.mp hmain
  obtain ⟨s₂, hread, hmain⟩ := path_cons_iff.mp hmain
  obtain ⟨s₄, hissue, hmain⟩ := path_cons_iff.mp hmain
  have hstart := listOff_of_quiet (.single hfirst) (by simp [Action.writesList]) localIp'
  -- the read shows that the list is off, or it is disturbed
  have hoff : s₂.2 + 1 ≤ s₁.2 + listOff localIp' s₁ := by
    rcases read_cases hread with hless | ⟨heq, items', hok, hitems⟩
    · omega
    · cases hok
      rw [listOff, ← hitems, hdiff, heq]
      exact Nat.le_refl _
  have hcleared := Budgeted.le hissue
  have hwritten := sync_paid hnet hwrite hmain
  have hend := listOff_of_quiet htailPath htail localIp'
  have hcount : performed Action.writesList (sourceEv c state :: readEv c (.ok items) ::
      issueEv c false :: tw ++ tail) = performed Action.writesList tw := by
    have hbefore : performed Action.writesList
        [sourceEv c state, readEv c (.ok items), issueEv c false] = 0 := rfl
    show performed _ ([sourceEv c state, readEv c (.ok items), issueEv c false] ++ tw ++ tail) = _
    rw [performed_append, performed_append, hbefore, performed_eq_zero htail]
    omega
  rw [hcount]
  omega

/-- With an attempt to make, the list half is disturbed or ends in sync. -/
theorem ListRun.spent {out : Except UpdateError ListOutcome} (hpos : 1 ≤ c.maxRetries)
    (h : ListRun c t out) (hpath : Path DisturbedStep s t s') (hip : sourceIp t = some localIp) :
    s'.2 < s.2 ∨ ∃ list, out = .ok list ∧ list.inSync = true := by
  have hread : ∀ {state err t s s'}, Path DisturbedStep s
      (sourceEv c state :: readEv c (.error err) :: t) s' → s'.2 < s.2 := by
    intro state err t s s' hpath
    obtain ⟨s₁, hfirst, hpath⟩ := path_cons_iff.mp hpath
    obtain ⟨s₂, hread, hpath⟩ := path_cons_iff.mp hpath
    rcases read_cases hread with hless | ⟨-, items, hok, -⟩
    · exact Nat.lt_of_le_of_lt hpath.budget_le (Nat.lt_of_lt_of_le hless (Budgeted.le hfirst))
    · cases hok
  -- a retried write that ends in an error
  have hwritten : ∀ {state answer tw err tail s s'}, readSourceIp state = some localIp →
      (asyncSyncWithRetry c localIp).Traces tw (.error err) →
      Path DisturbedStep s
        (sourceEv c state :: readEv c answer :: issueEv c false :: tw ++ tail) s' →
      s'.2 < s.2 := by
    intro state answer tw err tail s s' hsource hwrite hpath
    have hparts : Path DisturbedStep s
        ([sourceEv c state, readEv c answer, issueEv c false] ++ tw ++ tail) s' := hpath
    obtain ⟨s₂, hparts, htail⟩ := path_append_iff.mp hparts
    obtain ⟨s₁, hbefore, hmain⟩ := path_append_iff.mp hparts
    have hnet : toNetwork localIp ≠ none := toNetwork_ne_none (readSourceIp_eq_some_iff.mp hsource)
    have hspent := sync_spent hpos hnet hwrite hmain
    exact Nat.lt_of_le_of_lt htail.budget_le (Nat.lt_of_lt_of_le hspent hbefore.budget_le)
  cases h with
  | readAuth | readApi | readOther => exact .inl (hread hpath)
  | noSource _ hsource => cases hsource.symm.trans hip
  | matched => exact .inr ⟨_, rfl, rfl⟩
  | written => exact .inr ⟨_, rfl, rfl⟩
  | @writeAuth state items _ tw _ hsource _ hwrite =>
      obtain rfl := Option.some.inj (hsource.symm.trans hip)
      rw [← List.append_nil (_ :: _)] at hpath
      exact .inl (hwritten hsource hwrite hpath)
  | gaveUp hsource _ hwrite =>
      obtain rfl := Option.some.inj (hsource.symm.trans hip)
      exact .inl (hwritten hsource hwrite hpath)

/-- What follows the list half writes no list. -/
theorem quiet_of_dnsHalf {localIp : Option String} {td : List Ev}
    {dns : Option String × Option Bool × Option String} {lastSynced : Option Datetime}
    (h : (asyncReconcileDns c localIp).Traces td dns) :
    ∀ e ∈ td ++ [⟨Action.getLastSynced, lastSynced⟩], e.1.writesList = false := by
  intro e he
  rcases List.mem_append.mp he with he | he
  · have hhalf := (emits_asyncReconcileDns c localIp).traces h e he
    obtain ⟨o, r⟩ := e
    cases o <;> first | rfl | exact hhalf.elim
  · rw [List.mem_singleton.mp he]
    rfl

/-- A refresh is its list half, and then writes the list no more. -/
theorem refresh_parts {out : Except UpdateError SyncState} (h : (asyncUpdateData c).Traces t out) :
    ∃ tl list rest, t = tl ++ rest ∧ ListRun c tl list ∧ sourceIp t = sourceIp tl ∧
      (∀ e ∈ rest, e.1.writesList = false) ∧
      ∀ outcome, list = .ok outcome → ∃ s, out = .ok s ∧ s.inSync = outcome.inSync := by
  cases refreshRun_of_traces h with
  | raised hlist =>
      exact ⟨t, _, [], (List.append_nil t).symm, listRun_of_traces hlist, rfl, by simp,
        by rintro _ ⟨⟩⟩
  | @returned tl td list dns lastSynced hlist hdns =>
      refine ⟨tl, _, _, List.append_assoc _ _ _, listRun_of_traces hlist, ?_,
        quiet_of_dnsHalf hdns, ?_⟩
      · rw [sourceIp_refresh hlist, ← (listRun_of_traces hlist).localIp_eq [], List.append_nil]
      · intro outcome houtcome
        cases houtcome
        exact ⟨_, rfl, rfl⟩

variable {out : Except UpdateError SyncState}

/-- A refresh pays for its writes by bringing the list to its address. -/
theorem refresh_paid (h : (asyncUpdateData c).Traces t out) (hpath : Path DisturbedStep s t s')
    (hip : sourceIp t = some localIp) :
    performed Action.writesList t + s'.2 + listOff localIp s' ≤ s.2 + listOff localIp s := by
  obtain ⟨tl, list, rest, rfl, hlist, hsource, hquiet, -⟩ := refresh_parts h
  obtain ⟨s₁, hfirst, hrest⟩ := path_append_iff.mp hpath
  have hpaid := hlist.paid hfirst (hsource.symm.trans hip)
  have hend := listOff_of_quiet hrest hquiet localIp
  rw [performed_append, performed_eq_zero hquiet]
  omega

/-- Without an address, a refresh writes nothing. -/
theorem refresh_idle (h : (asyncUpdateData c).Traces t out) (hip : sourceIp t = none) :
    ∀ e ∈ t, e.1.writesList = false := by
  obtain ⟨tl, list, rest, rfl, hlist, hsource, hquiet, -⟩ := refresh_parts h
  intro e he
  rcases List.mem_append.mp he with he | he
  · rcases hlist.shape with hnone | ⟨state, items, localIp, tw, r, tail, rfl, hread, -⟩
    · exact hnone e he
    · cases hread.symm.trans (hsource.symm.trans hip)
  · exact hquiet e he

/-- A refresh in an environment with these states. -/
abbrev RefreshRound (σ : Type) := Prog.Round Action.Res σ (Except UpdateError SyncState)

section Rounds

variable {σ : Type}

/-- The address that a refresh aims at. -/
def aim (round : RefreshRound σ) : Option String := sourceIp round.trace

/-- How often a refresh writes the list. -/
def listWrites (round : RefreshRound σ) : ℕ := performed Action.writesList round.trace

/-- 1 for a refresh that has an address and does not report in sync. -/
def missed (round : RefreshRound σ) : ℕ :=
  match aim round, round.result with
  | none, _ => 0
  | some _, .ok s => if s.inSync then 0 else 1
  | some _, .error _ => 1

end Rounds

theorem refresh_spent {round : RefreshRound (ServedList × ℕ)} (hpos : 1 ≤ c.maxRetries)
    (h : Prog.RoundStep DisturbedStep (asyncUpdateData c) s round s') :
    missed round + s'.2 ≤ s.2 := by
  obtain ⟨htraces, hpath, -⟩ := h
  have hle := hpath.budget_le
  rcases hip : aim round with - | localIp
  · rw [missed, hip, Nat.zero_add]
    exact hle
  obtain ⟨tl, list, rest, ht, hlist, hsource, hquiet, hout⟩ := refresh_parts htraces
  rw [ht] at hpath
  obtain ⟨s₁, hfirst, hrest⟩ := path_append_iff.mp hpath
  rcases hlist.spent hpos hfirst (hsource.symm.trans hip) with hless | ⟨outcome, hok, hsync⟩
  · have hmissed : missed round ≤ 1 := by
      unfold missed
      split
      · exact Nat.zero_le 1
      · split <;> omega
      · exact Nat.le_refl 1
    have hend := hrest.budget_le
    omega
  · obtain ⟨snapshot, hresult, hsame⟩ := hout outcome hok
    have hhit : missed round = 0 := by
      rw [missed, hip, hresult]
      exact if_pos (hsame.trans hsync)
    rw [hhit, Nat.zero_add]
    exact hle

/-! ### All refreshes -/

theorem tracks_list (c : Coordinator) :
    Tracks (Prog.RoundStep DisturbedStep (asyncUpdateData c)) aim listWrites (fun s => s.2)
      listOff moved where
  triangle := listOff_triangle
  aimed := fun h hip => refresh_paid h.1 h.2.1 hip
  idle := by
    intro s round s' h hip
    have hquiet := refresh_idle h.1 hip
    rw [listWrites, performed_eq_zero hquiet, Nat.zero_add]
    refine ⟨h.2.1.budget_le, fun localIp => ?_⟩
    exact listOff_of_quiet h.2.1 hquiet localIp

/-- **Every write has a cause.** Over any number of refreshes, with a source that
changes and a list that is disturbed in any way, the list is written no more
often than the address moved and disturbances happened.  With an attempt to
make, no more refreshes than these disturbances miss being in sync. -/
theorem writes_tracked {rounds : List (RefreshRound (ServedList × ℕ))}
    (h : Prog.Session DisturbedStep (asyncUpdateData c) s rounds s') :
    (rounds.map listWrites).sum + s'.2 ≤ s.2 + travelFrom listOff moved s (rounds.filterMap aim) ∧
      (1 ≤ c.maxRetries → (rounds.map missed).sum + s'.2 ≤ s.2) :=
  ⟨(tracks_list c).path h, fun hpos => h.paid fun _ _ _ => refresh_spent hpos⟩

/-- A list that shows one address until it is written, at the third or the fifth
action, and another one then. -/
def writtenReplies (old new : String) (written n : ℕ) : Replies where
  source := some new
  listItems := .ok [⟨if n < written then old else new, none, none⟩]
  replace := if n < written then .error (.connection "timeout") else .ok "op"
  bulkOperation := (0, .ok ⟨"op", "completed", none⟩)
  ruleLists := .ok []
  dnsRecords := .ok []
  dnsRecord := .error (.connection "timeout")
  now := (9 : ℕ)
  lastSynced := none

/-- Three writes: for the first address, once more after a timeout, and for the
second address. -/
theorem writes_tracked_three :
    let c : Coordinator := ⟨"e", "home", "acc", "list", "sensor.ip", 5, none, none⟩
    let s : ServedList × ℕ := (⟨["198.51.100.1"], 0⟩, 1)
    ∃ rounds s', Prog.Session DisturbedStep (asyncUpdateData c) s rounds s' ∧
      (rounds.map listWrites).sum = 3 ∧
      (rounds.map listWrites).sum + s'.2 ≤
        s.2 + travelFrom listOff moved s (rounds.filterMap aim) := by
  intro c s
  let firstIp := "203.0.113.7"
  let secondIp := "192.0.2.1"
  let s₁ : ServedList × ℕ := (⟨[firstIp], 0⟩, 0)
  let s₂ : ServedList × ℕ := (⟨[secondIp], 0⟩, 0)
  let poll := pollEv c "op" 0 (.ok ⟨"op", "completed", none⟩)
  let first : List Ev :=
    [sourceEv c (some firstIp), readEv c (.ok [⟨"198.51.100.1", none, none⟩]), issueEv c false,
      replaceEv c firstIp (.error (.connection "timeout")), ⟨.sleep syncInitialBackoff, ()⟩,
      replaceEv c firstIp (.ok "op"), poll, readEv c (.ok [⟨firstIp, none, none⟩]), clearEv c,
      stampEv (9 : ℕ), ⟨.getLastSynced, none⟩]
  let second : List Ev :=
    [sourceEv c (some secondIp), readEv c (.ok [⟨firstIp, none, none⟩]), issueEv c false,
      replaceEv c secondIp (.ok "op"), poll, readEv c (.ok [⟨secondIp, none, none⟩]), clearEv c,
      stampEv (9 : ℕ), ⟨.getLastSynced, none⟩]
  let result (ip : String) : Except UpdateError SyncState :=
    .ok ⟨some ip, [ip], true, none, none, none, none, none, none⟩
  have hfirst : (asyncUpdateData c).Traces first (result firstIp) :=
    Prog.traces_of_exec (Replies.nth (writtenReplies "198.51.100.1" firstIp 5)) 0
      (by decide +kernel) (by decide +kernel)
  have hsecond : (asyncUpdateData c).Traces second (result secondIp) :=
    Prog.traces_of_exec (Replies.nth (writtenReplies firstIp secondIp 3)) 0
      (by decide +kernel) (by decide +kernel)
  have same : ∀ {s : ServedList × ℕ} {e : Ev}, calmStep s.1 e s.1 → DisturbedStep s e s :=
    fun h => .inr ⟨rfl, h⟩
  have hpoll : ∀ ip, DisturbedStep (⟨[ip], 0⟩, 0) poll (⟨[ip], 0⟩, 0) := by
    intro ip
    refine same (.inl ⟨rfl, rfl, ?_⟩)
    rw [add_zero]
    exact id
  have htimeout : DisturbedStep s (replaceEv c firstIp (.error (.connection "timeout")))
      (⟨["198.51.100.1"], 0⟩, 0) := .inl (by decide)
  have hwrite : ∀ {s : ServedList} {ip : String},
      DisturbedStep (s, 0) (replaceEv c ip (.ok "op")) (⟨[ip], 0⟩, 0) := .inr ⟨rfl, rfl⟩
  have hsession : Prog.Session DisturbedStep (asyncUpdateData c) s
      [⟨first, result firstIp, s₁⟩, ⟨second, result secondIp, s₂⟩] s₂ := by
    refine .cons ⟨hfirst, ?_, rfl⟩ (.cons ⟨hsecond, ?_, rfl⟩ (.nil _))
    · exact .cons (same rfl) (.cons (same ⟨rfl, rfl⟩) (.cons (same rfl) (.cons htimeout
        (.cons (same rfl) (.cons hwrite (.cons (hpoll firstIp) (.cons (same ⟨rfl, rfl⟩)
          (.cons (same rfl) (.cons (same rfl) (.cons (same rfl) (.nil _)))))))))))
    · exact .cons (same rfl) (.cons (same ⟨rfl, rfl⟩) (.cons (same rfl) (.cons hwrite
        (.cons (hpoll secondIp) (.cons (same ⟨rfl, rfl⟩) (.cons (same rfl) (.cons (same rfl)
          (.cons (same rfl) (.nil _)))))))))
  exact ⟨_, s₂, hsession, by decide +kernel, (writes_tracked hsession).1⟩

end CloudflareIpSync
