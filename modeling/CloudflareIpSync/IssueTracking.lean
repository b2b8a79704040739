/-
CloudflareIpSync/IssueTracking.lean

The Rule-List-missing Repair issue and the evidence behind it, over any number
of refreshes.

A refresh proves the list present, proves it missing, or proves nothing
(`evidence`).  The issue follows the latest proof in every run but one kind: a
refresh whose read failed with an API error and whose query for the account's
lists failed too (`unconfirmed`) proves nothing and still clears the issue.
`issue_tracks_evidence_iff` says that this is the only way to lose track.
-/
import CloudflareIpSync.Hass

namespace CloudflareIpSync

open Interact

variable {c : Coordinator}

/-! ### Evidence -/

/-- What a refresh can prove about the configured list. -/
inductive Evidence
  | present
  | missing
  deriving DecidableEq

/-- The evidence of a refresh: the list was read, or the read failed with an
API error and the query for the account's lists says whether it is there. -/
def evidence (c : Coordinator) : List Ev → Option Evidence
  | _ :: ⟨.getListItems _ _, .ok _⟩ :: _ => some .present
  | _ :: ⟨.getListItems _ _, .error (.api _ _)⟩ :: ⟨.getRuleLists _, .ok ruleLists⟩ :: _ =>
      some (if ruleLists.any fun rule => rule.id == c.listId then .present else .missing)
  | _ => none

/-- The read failed with an API error and the query failed too. -/
def unconfirmed : List Ev → Bool
  | _ :: ⟨.getListItems _ _, .error (.api _ _)⟩ :: ⟨.getRuleLists _, .error _⟩ :: _ => true
  | _ => false

/-- The evidence of the latest conclusive refresh. -/
def latestEvidence (c : Coordinator)
    (rounds : List (Prog.Round Action.Res Hass (Except UpdateError SyncState))) :
    Option Evidence :=
  (rounds.filterMap fun round => evidence c round.trace).getLast?

/-- The issue is shown after a refresh exactly when the latest conclusive
evidence was `missing`, at every point of the run. -/
def TracksEvidence (c : Coordinator)
    (rounds : List (Prog.Round Action.Res Hass (Except UpdateError SyncState))) : Prop :=
  ∀ before round rest, rounds = before ++ round :: rest →
    ((round.after.issues c.ruleListMissingIssueId).isSome ↔
      latestEvidence c (before ++ [round]) = some .missing)

/-! ### What a refresh does to the issue -/

/-- Raising or clearing an issue. -/
def Action.isIssue : Action → Bool
  | createIssue _ _ _ => true
  | deleteIssue _ => true
  | _ => false

theorem issues_of_not_isIssue {e : Ev} (he : e.1.isIssue = false) (s : Hass) :
    (s.after e).issues = s.issues := by
  obtain ⟨action, answer⟩ := e
  cases action <;> first | rfl | cases he

theorem not_isIssue_of_inDnsHalf {o : Action} (ho : o.InDnsHalf c) : o.isIssue = false := by
  cases o <;> first | rfl | exact ho.elim

theorem not_isIssue_of_inAttempt {localIp : String} {o : Action} (ho : o.InAttempt c localIp) :
    o.isIssue = false := by
  cases o <;> first | rfl | exact ho.elim

/-- The last event about the issue decides. -/
theorem issue_isSome {hass hass' : Hass} {t u : List Ev} {missing : Bool}
    (h : Path hassStep hass (t ++ issueEv c missing :: u) hass')
    (hu : ∀ e ∈ u, e.1.isIssue = false) :
    (hass'.issues c.ruleListMissingIssueId).isSome = missing := by
  obtain ⟨s, -, hrest⟩ := path_append_iff.mp h
  rw [path_cons_iff] at hrest
  obtain ⟨s₁, ⟨-, rfl⟩, hu'⟩ := hrest
  rw [hass_frame Hass.issues hu' fun e he => issues_of_not_isIssue (hu e he)]
  cases missing with
  | false =>
      show (Function.update s.issues c.ruleListMissingIssueId none _).isSome = false
      rw [Function.update_self]
      rfl
  | true =>
      show (Function.update s.issues c.ruleListMissingIssueId (some _) _).isSome = true
      rw [Function.update_self]
      rfl

/-- The ways a refresh treats the issue: not at all and without evidence, or by
one event that shows it exactly when the refresh proved the list missing. -/
inductive IssueRun (c : Coordinator) (t : List Ev) : Prop
  | untouched : evidence c t = none → unconfirmed t = false → (∀ e ∈ t, e.1.isIssue = false) →
      IssueRun c t
  | decided (head tail : List Ev) (missing : Bool) : t = head ++ issueEv c missing :: tail →
      (∀ e ∈ tail, e.1.isIssue = false) → (missing = true ↔ evidence c t = some .missing) →
      (evidence c t = none ↔ unconfirmed t = true) → IssueRun c t

/-- The Rule List half decides; `rest` is what the refresh does afterwards. -/
theorem ListRun.issueRun {t rest : List Ev} {out : Except UpdateError ListOutcome}
    (h : ListRun c t out) (hrest : ∀ e ∈ rest, e.1.isIssue = false) : IssueRun c (t ++ rest) := by
  -- a retried write and what follows it leave the issue alone
  have hwrite : ∀ {localIp u r v}, (asyncSyncWithRetry c localIp).Traces u r →
      (∀ e ∈ v, e.1.isIssue = false) → ∀ e ∈ u ++ v ++ rest, e.1.isIssue = false := by
    intro localIp u r v hu hv e he
    rw [List.append_assoc, List.mem_append, List.mem_append] at he
    rcases he with he | he | he
    · exact not_isIssue_of_inAttempt ((emits_asyncSyncWithRetry c localIp).traces hu e he)
    · exact hv e he
    · exact hrest e he
  -- a list that was read is present
  have hread : ∀ {state items u}, (∀ e ∈ u, e.1.isIssue = false) →
      IssueRun c (sourceEv c state :: readEv c (.ok items) :: issueEv c false :: u) := by
    intro state items u hu
    exact .decided [sourceEv c state, readEv c (.ok items)] u false rfl hu (by simp [evidence])
      (by simp [evidence, unconfirmed])
  cases h with
  | readAuth state message =>
      refine .untouched rfl rfl ?_
      simpa [Action.isIssue] using hrest
  | @readOther state err _ hapi =>
      have hnone : evidence c ([sourceEv c state, readEv c (.error err)] ++ rest) = none ∧
          unconfirmed ([sourceEv c state, readEv c (.error err)] ++ rest) = false := by
        cases err with
        | api message code => exact absurd rfl (hapi message code)
        | connection | auth | rateLimit | result => exact ⟨rfl, rfl⟩
      refine .untouched hnone.1 hnone.2 ?_
      simpa [Action.isIssue] using hrest
  | readApi state message code answer =>
      refine .decided [sourceEv c state, readEv c (.error (.api message code)), ruleListsEv c answer]
        rest (ruleListMissing c answer) rfl hrest ?_ ?_
      · rcases answer with err | ruleLists
        · simp [evidence, ruleListMissing]
        · simp [evidence, ruleListMissing]
      · rcases answer with err | ruleLists
        · simp [evidence, unconfirmed]
        · simp [evidence, unconfirmed]
  | noSource => exact hread (by simpa [Action.isIssue] using hrest)
  | matched => exact hread (by simpa [Action.isIssue] using hrest)
  | written _ _ _ hu => exact hread (hwrite hu (by simp [Action.isIssue]))
  | @writeAuth _ _ _ u _ _ _ hu =>
      have htail : ∀ e ∈ u ++ [] ++ rest, e.1.isIssue = false := hwrite hu (by simp)
      rw [List.append_nil] at htail
      exact hread htail
  | gaveUp _ _ hu => exact hread (hwrite hu (by simp [Action.isIssue]))

theorem RefreshRun.issueRun {t : List Ev} {out : Except UpdateError SyncState}
    (h : RefreshRun c t out) : IssueRun c t := by
  cases h with
  | raised hlist =>
      have hrun : IssueRun c (t ++ []) := (listRun_of_traces hlist).issueRun (by simp)
      rwa [List.append_nil] at hrun
  | @returned tl td list dns lastSynced hlist hdns =>
      have htail : ∀ e ∈ td ++ [⟨Action.getLastSynced, lastSynced⟩], e.1.isIssue = false := by
        intro e he
        rcases List.mem_append.mp he with he | he
        · exact not_isIssue_of_inDnsHalf ((emits_asyncReconcileDns c _).traces hdns e he)
        · rw [List.mem_singleton.mp he]
          rfl
      rw [List.append_assoc]
      exact (listRun_of_traces hlist).issueRun htail

/-- **One refresh.** Conclusive evidence decides about the issue; a refresh
without any leaves it as it was, unless its query failed: that clears it. -/
theorem issue_after_refresh {hass hass' : Hass} {t : List Ev} {out : Except UpdateError SyncState}
    (hrun : (asyncUpdateData c).Traces t out) (hhass : Path hassStep hass t hass') :
    (hass'.issues c.ruleListMissingIssueId).isSome ↔
      evidence c t = some .missing ∨ (evidence c t = none ∧ unconfirmed t = false ∧
        (hass.issues c.ruleListMissingIssueId).isSome) := by
  cases (refreshRun_of_traces hrun).issueRun with
  | untouched hnone hconfirmed hkeep =>
      rw [hass_frame Hass.issues hhass fun e he => issues_of_not_isIssue (hkeep e he), hnone]
      simp [hconfirmed]
  | decided head tail missing htrace htail hmissing hnone =>
      rw [htrace] at hhass
      rw [issue_isSome hhass htail, hmissing]
      constructor
      · exact .inl
      · rintro (h | ⟨h, hconfirmed, -⟩)
        · exact h
        · rw [hnone.mp h] at hconfirmed
          cases hconfirmed

/-! ### Whole runs -/

section Runs

variable {rounds : List (Prog.Round Action.Res Hass (Except UpdateError SyncState))}
variable {hass₀ hass : Hass}

/-- No refresh fails to confirm the list while the latest evidence is that it
is missing. -/
def NoUnconfirmedClear (c : Coordinator)
    (rounds : List (Prog.Round Action.Res Hass (Except UpdateError SyncState))) : Prop :=
  ∀ before round rest, rounds = before ++ round :: rest → unconfirmed round.trace = true →
    latestEvidence c before ≠ some .missing

theorem latestEvidence_snoc (before : List (Prog.Round Action.Res Hass (Except UpdateError SyncState)))
    (round : Prog.Round Action.Res Hass (Except UpdateError SyncState)) :
    latestEvidence c (before ++ [round]) =
      (evidence c round.trace).or (latestEvidence c before) := by
  unfold latestEvidence
  rw [List.filterMap_append, List.getLast?_append]
  rcases e : evidence c round.trace with - | proof
  · simp [e]
  · simp [e]

theorem evidence_of_unconfirmed {t : List Ev} (h : unconfirmed t = true) : evidence c t = none := by
  unfold unconfirmed at h
  split at h
  · rfl
  · cases h

/-- The issue after a run that never clears it unconfirmed. -/
theorem issue_after_session
    (hsession : Prog.Session hassStep (asyncUpdateData c) hass₀ rounds hass)
    (hstart : hass₀.issues c.ruleListMissingIssueId = none) (hclear : NoUnconfirmedClear c rounds) :
    (hass.issues c.ruleListMissingIssueId).isSome ↔ latestEvidence c rounds = some .missing := by
  induction rounds using List.reverseRecOn generalizing hass with
  | nil =>
      rw [path_nil_iff.mp hsession, hstart]
      simp [latestEvidence]
  | append_singleton before round ih =>
      obtain ⟨hass₁, hbefore, htraces, hhass, -⟩ := path_snoc_iff.mp hsession
      have hbefore := ih hbefore fun b r rest hsplit =>
        hclear b r (rest ++ [round]) (by rw [hsplit]; simp)
      rw [issue_after_refresh htraces hhass, hbefore, latestEvidence_snoc]
      rcases e : evidence c round.trace with - | proof
      · -- nothing proved: the latest evidence stays, and so does the issue
        simp only [reduceCtorEq, true_and, false_or, Option.none_or, and_iff_right_iff_imp]
        intro hmissing
        exact Bool.eq_false_iff.mpr fun hconfirmed => hclear before round [] rfl hconfirmed hmissing
      · simp

/-- **When the issue tracks the evidence.** In every run that starts without
the issue, the issue is shown after each refresh exactly when the latest
conclusive evidence was `missing`, if and only if no refresh that could not
confirm anything came at a time when the list was known to be missing. -/
theorem issue_tracks_evidence_iff
    (hsession : Prog.Session hassStep (asyncUpdateData c) hass₀ rounds hass)
    (hstart : hass₀.issues c.ruleListMissingIssueId = none) :
    TracksEvidence c rounds ↔ NoUnconfirmedClear c rounds := by
  constructor
  · intro htracks before round rest hsplit hunconfirmed hmissing
    have hiff := htracks before round rest hsplit
    rw [hsplit] at hsession
    obtain ⟨hass₁, -, hrest⟩ := path_append_iff.mp hsession
    obtain ⟨hass₂, ⟨htraces, hhass, hafter⟩, -⟩ := path_cons_iff.mp hrest
    have hnone : evidence c round.trace = none := evidence_of_unconfirmed hunconfirmed
    rw [latestEvidence_snoc, hnone, hafter, issue_after_refresh htraces hhass, hnone] at hiff
    simp [hunconfirmed, hmissing] at hiff
  · intro hclear before round rest hsplit
    rw [hsplit] at hsession
    obtain ⟨hass₁, hbefore, hrest⟩ := path_append_iff.mp hsession
    obtain ⟨hass₂, hround, -⟩ := path_cons_iff.mp hrest
    rw [hround.2.2]
    refine issue_after_session (path_snoc_iff.mpr ⟨hass₁, hbefore, hround⟩) hstart ?_
    intro b r rest' hsplit'
    have hall : rounds = b ++ r :: (rest' ++ rest) := by
      calc rounds = before ++ [round] ++ rest := by rw [hsplit, List.append_cons]
        _ = b ++ r :: (rest' ++ rest) := by rw [hsplit', List.append_assoc, List.cons_append]
    exact hclear b r (rest' ++ rest) hall

end Runs

/-- Replies of an account whose lists do not include the configured one, as
far as a read and the given answer to the query tell. -/
def missingReplies (ruleLists : Except CloudflareError (List CloudflareRuleList)) : Replies where
  source := some "203.0.113.7"
  listItems := .error (.api "list not found" (some 10001))
  replace := .ok "op"
  bulkOperation := (0, .ok ⟨"op", "completed", none⟩)
  ruleLists := ruleLists
  dnsRecords := .ok []
  dnsRecord := .error (.connection "timeout")
  now := (9 : ℕ)
  lastSynced := none

/-- The list is proved missing, then the read fails in the same way and the
query fails too: the issue is gone although nothing was confirmed. -/
theorem issue_cleared_unconfirmed :
    let c : Coordinator := ⟨"e", "home", "acc", "list", "sensor.ip", 5, none, none⟩
    let hass₀ : Hass := ⟨fun _ => none, fun _ => none, none⟩
    ∃ rounds hass, Prog.Session hassStep (asyncUpdateData c) hass₀ rounds hass ∧
      ¬ TracksEvidence c rounds := by
  intro c hass₀
  obtain ⟨hass, hsession⟩ := session_refreshes c hass₀
    [missingReplies (.ok []), missingReplies (.error (.connection "timeout"))]
  refine ⟨_, hass, hsession, ?_⟩
  intro htracks
  have hiff := htracks [_] _ [] rfl
  revert hiff
  decide +kernel

/-- The list is proved missing and, while the issue is shown, a refresh cannot
reach Cloudflare at all: the issue stays. -/
theorem issue_tracks_evidence_kept :
    let c : Coordinator := ⟨"e", "home", "acc", "list", "sensor.ip", 5, none, none⟩
    TracksEvidence c (refreshes c ⟨fun _ => none, fun _ => none, none⟩ [missingReplies (.ok []),
      { missingReplies (.ok []) with listItems := .error (.connection "timeout") }]) := by
  intro c
  obtain ⟨hass, hsession⟩ := session_refreshes c ⟨fun _ => none, fun _ => none, none⟩
    [missingReplies (.ok []),
      { missingReplies (.ok []) with listItems := .error (.connection "timeout") }]
  apply (issue_tracks_evidence_iff hsession rfl).mpr
  have hconfirmed : ∀ round ∈ refreshes c ⟨fun _ => none, fun _ => none, none⟩
      [missingReplies (.ok []),
        { missingReplies (.ok []) with listItems := .error (.connection "timeout") }],
      unconfirmed round.trace = false := by
    decide +kernel
  intro before round rest hsplit hunconfirmed
  have hmem := hconfirmed round (by rw [hsplit]; simp)
  rw [hmem] at hunconfirmed
  cases hunconfirmed

end CloudflareIpSync
