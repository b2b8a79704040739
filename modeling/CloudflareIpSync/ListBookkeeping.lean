/-
CloudflareIpSync/ListBookkeeping.lean

The list-failure notification and `_last_synced` over whole runs.

Both outlive a refresh.  `BookRun` lists what one refresh does to them: nothing,
if it raises; otherwise the notification says whether it gave up, and the time
is set exactly if one of its reads matched (`RefreshRun.bookRun`).  By induction
over the refreshes the time is that of the latest refresh with such a read
(`lastSynced_of_session`).
-/
import CloudflareIpSync.ListReads

namespace CloudflareIpSync

open Interact Ipaddress

variable {c : Coordinator} {t : List Ev} {hass hass' hass₀ : Hass}

/-! ### Confirmed matches -/

/-- A list read of the refresh matched the source IP it had read. -/
def confirmed (t : List Ev) : Bool := (reads t).any (isInSync (sourceIp t))

/-- The clock's reading that an action stored in `_last_synced`. -/
def stampOf : Ev → Option Datetime
  | ⟨.stampLastSynced, now⟩ => some now
  | _ => none

/-- The time a refresh recorded. -/
def recordedTime (t : List Ev) : Option Datetime := t.findSome? stampOf

/-- The latest refresh in which a list read was confirmed to match. -/
def latestMatch (rounds : List HassRound) : Option HassRound :=
  (rounds.filter fun round => confirmed round.trace).getLast?

/-! ### What a refresh does to the bookkeeping -/

/-- The actions that touch the list's notification or `_last_synced`. -/
def Action.isBook (c : Coordinator) (o : Action) : Bool :=
  o.notifies c.notificationId || o == .stampLastSynced

theorem not_isBook_of_inDnsHalf {o : Action} (ho : o.InDnsHalf c) : o.isBook c = false := by
  have hstamp : (o == .stampLastSynced) = false := by
    cases o <;> first | rfl | exact ho.elim
  rw [Action.isBook, not_notifies_of_inDnsHalf ho (notificationId_ne c), hstamp]
  rfl

theorem not_isBook_of_inAttempt {localIp : String} {o : Action} (ho : o.InAttempt c localIp) :
    o.isBook c = false := by
  cases o <;> first | rfl | exact ho.elim

/-- The list's notification and the stored time. -/
def Hass.book (c : Coordinator) (hass : Hass) : Option (String × String) × Option Datetime :=
  (hass.notifications c.notificationId, hass.lastSynced)

theorem book_of_not_isBook {e : Ev} (he : e.1.isBook c = false) (s : Hass) :
    (s.after e).book c = s.book c := by
  obtain ⟨hnotify, hstamp⟩ := Bool.or_eq_false_iff.mp he
  have htime : (s.after e).lastSynced = s.lastSynced := by
    obtain ⟨action, answer⟩ := e
    cases action <;> first | rfl | cases hstamp
  rw [Hass.book, notifications_of_not_notifies hnotify, htime]
  rfl

/-- **Frame.** Events that do not touch the bookkeeping leave it as it was. -/
theorem book_frame (h : Path hassStep hass t hass') (ht : ∀ e ∈ t, e.1.isBook c = false) :
    hass'.book c = hass.book c :=
  hass_frame (Hass.book c) h fun e he => book_of_not_isBook (ht e he)

theorem stampOf_of_not_isBook {e : Ev} (he : e.1.isBook c = false) : stampOf e = none := by
  obtain ⟨action, answer⟩ := e
  cases action <;> first | rfl | cases he

/-- Events that leave the bookkeeping alone come before those that touch it. -/
theorem book_after {u : List Ev} (h : Path hassStep hass (t ++ u) hass')
    (ht : ∀ e ∈ t, e.1.isBook c = false) :
    ∃ mid : Hass, mid.book c = hass.book c ∧ Path hassStep mid u hass' := by
  obtain ⟨mid, hbefore, hafter⟩ := path_append_iff.mp h
  exact ⟨mid, book_frame hbefore ht, hafter⟩

theorem recordedTime_append {u : List Ev} (ht : ∀ e ∈ t, e.1.isBook c = false) :
    recordedTime (t ++ u) = recordedTime u := by
  have hnone : t.findSome? stampOf = none := by
    rw [List.findSome?_eq_none_iff]
    intro e he
    exact stampOf_of_not_isBook (ht e he)
  rw [recordedTime, List.findSome?_append, hnone]
  rfl

/-- What a refresh does before it records an outcome leaves the bookkeeping alone. -/
theorem not_isBook_reads {state : Option String} {answer missing} {u : List Ev}
    (hu : ∀ e ∈ u, e.1.isBook c = false) :
    ∀ e ∈ sourceEv c state :: readEv c answer :: issueEv c missing :: u, e.1.isBook c = false := by
  have hissue : (issueEv c missing).1.isBook c = false := by
    cases missing <;> rfl
  simp only [List.forall_mem_cons]
  exact ⟨rfl, rfl, hissue, hu⟩

theorem not_isBook_write {localIp : String} {out : Except SyncError (List String)}
    (h : (asyncSyncWithRetry c localIp).Traces t out) : ∀ e ∈ t, e.1.isBook c = false := by
  intro e he
  exact not_isBook_of_inAttempt ((emits_asyncSyncWithRetry c localIp).traces h e he)

/-- A Rule List half that raises does nothing to the bookkeeping. -/
theorem ListRun.book_error {err : UpdateError} (h : ListRun c t (.error err))
    (hpath : Path hassStep hass t hass') : hass'.book c = hass.book c := by
  apply book_frame hpath
  generalize hout : (Except.error err : Except UpdateError ListOutcome) = out at h
  cases h with
  | noSource | matched | written | gaveUp => cases hout
  | readAuth | readOther => exact List.forall_mem_cons.mpr ⟨rfl, List.forall_mem_singleton.mpr rfl⟩
  | readApi state message code answer =>
      have hissue : (issueEv c (ruleListMissing c answer)).1.isBook c = false := by
        rcases ruleListMissing c answer with - | - <;> rfl
      simp only [List.forall_mem_cons]
      exact ⟨rfl, rfl, rfl, hissue, by simp⟩
  | writeAuth _ _ hwrite => exact not_isBook_reads (not_isBook_write hwrite)

/-- A Rule List half that returns clears the notification and records the time
if the list matches; otherwise the time stays, and the notification says whether
there is an error. -/
theorem ListRun.book_ok {list : ListOutcome} (h : ListRun c t (.ok list))
    (hpath : Path hassStep hass t hass') :
    ((hass'.notifications c.notificationId).isSome ↔ list.lastError.isSome) ∧
      ((list.inSync = true ∧ ∃ now, recordedTime t = some now ∧ hass'.lastSynced = some now) ∨
        (list.inSync = false ∧ hass'.lastSynced = hass.lastSynced)) := by
  -- the two events after a match
  have recorded : ∀ {u : List Ev} {now : Datetime}, (∀ e ∈ u, e.1.isBook c = false) →
      Path hassStep hass (u ++ [clearEv c, stampEv now]) hass' →
      hass'.notifications c.notificationId = none ∧
        recordedTime (u ++ [clearEv c, stampEv now]) = some now ∧ hass'.lastSynced = some now := by
    intro u now hu hpath
    obtain ⟨mid, -, hends⟩ := book_after hpath hu
    obtain ⟨s₁, ⟨-, rfl⟩, hends⟩ := path_cons_iff.mp hends
    obtain ⟨s₂, ⟨-, rfl⟩, hends⟩ := path_cons_iff.mp hends
    rw [path_nil_iff.mp hends]
    exact ⟨Function.update_self _ _ _, recordedTime_append hu, rfl⟩
  generalize hout : (Except.ok list : Except UpdateError ListOutcome) = out at h
  cases h with
  | readAuth | readApi | readOther | writeAuth => cases hout
  | @matched state items localIp now =>
      cases hout
      obtain ⟨hclear, htime, hstamp⟩ := recorded (not_isBook_reads (u := []) (by simp)) hpath
      rw [hclear]
      exact ⟨by simp, .inl ⟨rfl, now, htime, hstamp⟩⟩
  | @written state items localIp tw ips now hsource hsync hwrite =>
      cases hout
      obtain ⟨hclear, htime, hstamp⟩ := recorded (not_isBook_reads (not_isBook_write hwrite)) hpath
      rw [hclear]
      exact ⟨by simp, .inl ⟨rfl, now, htime, hstamp⟩⟩
  | @noSource state items =>
      cases hout
      obtain ⟨mid, hmid, hends⟩ := book_after (u := [clearEv c]) hpath
        (not_isBook_reads (u := []) (by simp))
      obtain ⟨s₁, ⟨-, rfl⟩, hends⟩ := path_cons_iff.mp hends
      rw [path_nil_iff.mp hends]
      exact ⟨by simp [Hass.after], .inr ⟨rfl, congrArg Prod.snd hmid⟩⟩
  | @gaveUp state items localIp tw message hsource hsync hwrite =>
      cases hout
      obtain ⟨mid, hmid, hends⟩ := book_after hpath (not_isBook_reads (not_isBook_write hwrite))
      obtain ⟨s₁, ⟨-, rfl⟩, hends⟩ := path_cons_iff.mp hends
      rw [path_nil_iff.mp hends]
      exact ⟨by simp [Hass.after], .inr ⟨rfl, congrArg Prod.snd hmid⟩⟩

/-- What a refresh does to the bookkeeping. -/
inductive BookRun (c : Coordinator) (t : List Ev) (hass hass' : Hass) :
    Except UpdateError SyncState → Prop
  | raised {err} : confirmed t = false → hass'.book c = hass.book c →
      BookRun c t hass hass' (.error err)
  | returned {s} : ((hass'.notifications c.notificationId).isSome ↔ s.lastError.isSome) →
      s.lastSynced = hass'.lastSynced →
      ((confirmed t = true ∧ ∃ now, recordedTime t = some now ∧ hass'.lastSynced = some now) ∨
        (confirmed t = false ∧ hass'.lastSynced = hass.lastSynced)) →
      BookRun c t hass hass' (.ok s)

/-- **One refresh.** -/
theorem RefreshRun.bookRun {out : Except UpdateError SyncState} (h : RefreshRun c t out)
    (hpath : Path hassStep hass t hass') : BookRun c t hass hass' out := by
  cases h with
  | raised hlist =>
      have hrun := listRun_of_traces hlist
      refine .raised ?_ (hrun.book_error hpath)
      rw [confirmed, List.any_eq_false]
      intro ips hips
      rw [hrun.reads_error ips hips]
      exact Bool.false_ne_true
  | @returned tl td list dns lastSynced hlist hdns =>
      have hrun := listRun_of_traces hlist
      obtain ⟨s₂, hpath, hread, hlast⟩ := path_snoc_iff.mp hpath
      obtain ⟨s₁, hl, hd⟩ := path_append_iff.mp hpath
      -- the DNS half and the reading of the time change nothing
      have hkeep : hass'.book c = s₁.book c := by
        rw [hlast]
        apply book_frame hd
        intro e he
        exact not_isBook_of_inDnsHalf ((emits_asyncReconcileDns c _).traces hdns e he)
      have hshown : hass'.notifications c.notificationId = s₁.notifications c.notificationId :=
        congrArg Prod.fst hkeep
      have htime : hass'.lastSynced = s₁.lastSynced := congrArg Prod.snd hkeep
      have hsource := sourceIp_refresh hlist td lastSynced
      obtain ⟨hnotification, hstamp⟩ := hrun.book_ok hl
      refine .returned ?_ ?_ ?_
      · rw [hshown]
        exact hnotification
      · show lastSynced = hass'.lastSynced
        rw [hlast]
        exact hread
      rw [htime, confirmed, reads_dnsHalf hdns, hsource, List.any_eq_true, List.any_eq_false]
      rcases hrun.reads_ok with ⟨hsync, hlastRead, hmatch⟩ | ⟨hsync, -, hnone⟩
      · rcases hstamp with ⟨-, now, hnow, hs₁⟩ | ⟨hnot, -⟩
        · refine .inl ⟨⟨_, List.mem_of_getLast? hlastRead, hmatch⟩, now, ?_, hs₁⟩
          unfold recordedTime at hnow ⊢
          rw [List.append_assoc, List.findSome?_append, hnow]
          rfl
        · rw [hsync] at hnot
          cases hnot
      · rcases hstamp with ⟨hyes, -⟩ | ⟨-, hs₁⟩
        · rw [hsync] at hyes
          cases hyes
        · refine .inr ⟨?_, hs₁⟩
          intro ips hips
          rw [hnone ips hips]
          exact Bool.false_ne_true

/-! ### Whole runs -/

section Runs

variable {rounds before : List HassRound} {round : HassRound}

/-- The time is the one recorded by the latest refresh with a confirmed match,
and `none` if there is no such refresh. -/
def IsLatestMatch (rounds : List HassRound) (time : Option Datetime) : Prop :=
  match latestMatch rounds with
  | none => time = none
  | some round => ∃ now, recordedTime round.trace = some now ∧ time = some now

theorem latestMatch_snoc :
    latestMatch (before ++ [round]) =
      if confirmed round.trace then some round else latestMatch before := by
  unfold latestMatch
  rw [List.filter_append, List.getLast?_append]
  rcases e : confirmed round.trace with - | -
  · simp [e]
  · simp [e]

/-- The stored time after a run that starts without one. -/
theorem lastSynced_of_session
    (hsession : Prog.Session hassStep (asyncUpdateData c) hass₀ rounds hass)
    (hstart : hass₀.lastSynced = none) : IsLatestMatch rounds hass.lastSynced := by
  apply hsession.history (I := fun rounds s => IsLatestMatch rounds s.lastSynced)
  · exact hstart
  · rintro before s round s' ih ⟨htraces, hpath, -⟩
    unfold IsLatestMatch
    rw [latestMatch_snoc]
    generalize hout : round.result = out at htraces
    cases (refreshRun_of_traces htraces).bookRun hpath with
    | raised hnone hbook =>
        have htime : s'.lastSynced = s.lastSynced := congrArg Prod.snd hbook
        rw [hnone, htime]
        exact ih
    | returned _ _ htime =>
        rcases htime with ⟨hconfirmed, htime⟩ | ⟨hnone, htime⟩
        · rw [hconfirmed]
          exact htime
        · rw [hnone, htime]
          exact ih

/-- Once there is a match, there is a latest one ever after. -/
theorem latestMatch_isSome_append {rest : List HassRound} (h : (latestMatch before).isSome) :
    (latestMatch (before ++ rest)).isSome := by
  induction rest using List.reverseRecOn with
  | nil => rwa [List.append_nil]
  | append_singleton rest round ih =>
      rw [← List.append_assoc, latestMatch_snoc]
      split
      · rfl
      · exact ih

theorem IsLatestMatch.isSome_iff {time : Option Datetime} (h : IsLatestMatch rounds time) :
    time.isSome ↔ (latestMatch rounds).isSome := by
  unfold IsLatestMatch at h
  rcases e : latestMatch rounds with - | round
  · rw [e] at h
    simp [show time = none from h]
  · rw [e] at h
    obtain ⟨now, -, rfl⟩ := h
    simp

/-- The list-side bookkeeping at one refresh of a run: `hass` is the state
before it and `before` are the refreshes before it. -/
structure ListBook (c : Coordinator) (before : List HassRound) (hass : Hass) (round : HassRound) :
    Prop where
  notification : ∀ s, round.result = .ok s →
    ((round.after.notifications c.notificationId).isSome ↔ s.lastError.isSome)
  raised : ∀ err, round.result = .error err →
    round.after.notifications c.notificationId = hass.notifications c.notificationId ∧
      round.after.lastSynced = hass.lastSynced
  last_synced : ∀ s, round.result = .ok s → IsLatestMatch (before ++ [round]) s.lastSynced
  never_lost : ∀ s, round.result = .ok s → ∀ earlier ∈ before, ∀ s', earlier.result = .ok s' →
    s'.lastSynced.isSome → s.lastSynced.isSome

/-- **List-side bookkeeping.**  In every run of refreshes of a coordinator that
starts without a recorded time: after each refresh that returns, the
list-failure notification is shown exactly if it reports an error, and its
`last_synced` is the time of the latest refresh with a confirmed match; a
refresh that raises leaves both as they were. -/
theorem list_bookkeeping (hsession : Prog.Session hassStep (asyncUpdateData c) hass₀ rounds hass)
    (hstart : hass₀.lastSynced = none) :
    ∀ before round rest, rounds = before ++ round :: rest →
      ∃ mid, Prog.Session hassStep (asyncUpdateData c) hass₀ before mid ∧
        ListBook c before mid round := by
  -- what a returned state says is what is stored after its refresh
  have stored : ∀ before round rest s, rounds = before ++ round :: rest → round.result = .ok s →
      IsLatestMatch (before ++ [round]) s.lastSynced := by
    intro before round rest s hsplit hresult
    rw [hsplit] at hsession
    obtain ⟨mid, hbefore, hrest⟩ := path_append_iff.mp hsession
    obtain ⟨s', hround, -⟩ := path_cons_iff.mp hrest
    have hlatest := lastSynced_of_session (path_snoc_iff.mpr ⟨mid, hbefore, hround⟩) hstart
    obtain ⟨htraces, hpath, -⟩ := hround
    rw [hresult] at htraces
    cases (refreshRun_of_traces htraces).bookRun hpath with
    | returned _ htime =>
        rw [htime]
        exact hlatest
  intro before round rest hsplit
  have hstored := stored before round rest
  have hearlier : ∀ earlier ∈ before, ∀ s', earlier.result = .ok s' → s'.lastSynced.isSome →
      (latestMatch before).isSome := by
    intro earlier hmem s' hresult hsome
    obtain ⟨b, r, rfl⟩ := List.append_of_mem hmem
    have hlatest := stored b earlier (r ++ round :: rest) s' (by rw [hsplit]; simp) hresult
    have happend : (latestMatch (b ++ [earlier] ++ r)).isSome :=
      latestMatch_isSome_append (hlatest.isSome_iff.mp hsome)
    rwa [List.append_assoc] at happend
  rw [hsplit] at hsession
  obtain ⟨mid, hbefore, hrest⟩ := path_append_iff.mp hsession
  obtain ⟨s', ⟨htraces, hpath, hafter⟩, -⟩ := path_cons_iff.mp hrest
  refine ⟨mid, hbefore, ?_⟩
  generalize hout : round.result = out at htraces
  have hbook := (refreshRun_of_traces htraces).bookRun hpath
  rw [← hafter] at hbook
  constructor
  · rintro s hresult
    obtain rfl := hout.symm.trans hresult
    cases hbook with
    | returned hnotification => exact hnotification
  · rintro err hresult
    obtain rfl := hout.symm.trans hresult
    cases hbook with
    | raised _ hsame => exact ⟨congrArg Prod.fst hsame, congrArg Prod.snd hsame⟩
  · intro s hresult
    exact hstored s hsplit hresult
  · intro s hresult earlier hmem s' hresult' hsome
    rw [(hstored s hsplit hresult).isSome_iff]
    exact latestMatch_isSome_append (hearlier earlier hmem s' hresult' hsome)

end Runs

/-- Answers of a list that holds `ip` and cannot be written. -/
def heldReplies (ip : String) (now : Datetime) : Replies where
  source := some "203.0.113.7"
  listItems := .ok [⟨ip, none, none⟩]
  replace := .error (.connection "timeout")
  bulkOperation := (0, .error (.connection "timeout"))
  ruleLists := .ok []
  dnsRecords := .ok []
  dnsRecord := .error (.connection "timeout")
  now := now
  lastSynced := none

/-- A match, a refresh that gives up, and one that cannot read the list: the
time of the match is kept, and so is the notification of the failure. -/
theorem list_bookkeeping_three :
    let c : Coordinator := ⟨"e", "home", "acc", "list", "sensor.ip", 1, none, none⟩
    let rounds := refreshes c ⟨fun _ => none, fun _ => none, none⟩
      [heldReplies "203.0.113.7" (7 : ℕ), heldReplies "198.51.100.1" (8 : ℕ),
        { heldReplies "203.0.113.7" (9 : ℕ) with listItems := .error (.rateLimit "slow down") }]
    ∀ before round rest, rounds = before ++ round :: rest →
      ∃ mid, Prog.Session hassStep (asyncUpdateData c) ⟨fun _ => none, fun _ => none, none⟩
          before mid ∧ ListBook c before mid round := by
  intro c rounds
  obtain ⟨hass, hsession⟩ := session_refreshes c ⟨fun _ => none, fun _ => none, none⟩
    [heldReplies "203.0.113.7" (7 : ℕ), heldReplies "198.51.100.1" (8 : ℕ),
      { heldReplies "203.0.113.7" (9 : ℕ) with listItems := .error (.rateLimit "slow down") }]
  exact list_bookkeeping hsession rfl

end CloudflareIpSync
