/-
CloudflareIpSync/WriteSafety.lean

Write safety of the Rule List over whole runs: whatever fails and whenever the
run is cut off, the list is the initial one or the one-element list of a valid
source IP that was read during the run.

The list's side is a model in which nobody else writes it and no answer says
anything about what happened: a replace request takes effect at once, later or
never, whatever its response was.  Reads may return anything.
-/
import CloudflareIpSync.Refresh

namespace CloudflareIpSync

open Interact Ipaddress

variable {c : Coordinator}

/-! ### The list's side -/

/-- The Rule List: its content, and the bodies of the requests sent so far. -/
structure ListWorld where
  content : List ReplaceItem
  sent : List (List ReplaceItem)

/-- The bodies sent after an action. -/
def ListWorld.sentAfter (c : Coordinator) (world : ListWorld) : Ev → List (List ReplaceItem)
  | ⟨.replaceListItems accountId listId items, _⟩ =>
      if accountId = c.accountId ∧ listId = c.listId then replaceBody items :: world.sent
      else world.sent
  | _ => world.sent

/-- One action.  The content changes only to a body that has been sent, all of
it at once. -/
def listStep (c : Coordinator) (world : ListWorld) (e : Ev) (world' : ListWorld) : Prop :=
  world'.sent = world.sentAfter c e ∧
    (world'.content = world.content ∨ world'.content ∈ world'.sent)

theorem subset_sentAfter (world : ListWorld) (e : Ev) : world.sent ⊆ world.sentAfter c e := by
  obtain ⟨action, answer⟩ := e
  cases action with
  | replaceListItems accountId listId items =>
      show world.sent ⊆ if accountId = c.accountId ∧ listId = c.listId then
        replaceBody items :: world.sent else world.sent
      split
      · exact List.subset_cons_self _ _
      · exact List.Subset.refl _
  | _ => exact List.Subset.refl _

theorem mem_sentAfter {world : ListWorld} {e : Ev} {body : List ReplaceItem}
    (h : body ∈ world.sentAfter c e) :
    body ∈ world.sent ∨ ∃ items answer,
      e = ⟨Action.replaceListItems c.accountId c.listId items, answer⟩ ∧
        body = replaceBody items := by
  obtain ⟨action, answer⟩ := e
  cases action with
  | replaceListItems accountId listId items =>
      change body ∈ if accountId = c.accountId ∧ listId = c.listId then
        replaceBody items :: world.sent else world.sent at h
      split at h
      · rename_i hids
        obtain ⟨rfl, rfl⟩ := hids
        rcases List.mem_cons.mp h with rfl | h
        · exact .inr ⟨items, answer, rfl, rfl⟩
        · exact .inl h
      · exact .inl h
  | _ => exact .inl h

/-- Whatever is in the list after a run was there before it or is the body of
one of its requests. -/
theorem content_of_path {world world' : ListWorld} {t : List Ev}
    (h : Path (listStep c) world t world') (hstart : world.sent = []) :
    world'.content = world.content ∨
      ∃ items answer, ⟨Action.replaceListItems c.accountId c.listId items, answer⟩ ∈ t ∧
        world'.content = replaceBody items := by
  let I (l : List Ev) (w : ListWorld) : Prop :=
    (∀ body ∈ w.sent, ∃ items answer,
      ⟨Action.replaceListItems c.accountId c.listId items, answer⟩ ∈ l ∧
        body = replaceBody items) ∧
      (w.content = world.content ∨ w.content ∈ w.sent)
  have hinv : I t world' := by
    apply h.history
    · refine ⟨?_, .inl rfl⟩
      rw [hstart]
      simp
    · rintro l w e w' ⟨hsent, hcontent⟩ ⟨hsent', hcontent'⟩
      refine ⟨?_, ?_⟩
      · intro body hbody
        rw [hsent'] at hbody
        rcases mem_sentAfter hbody with hbody | ⟨items, answer, rfl, rfl⟩
        · obtain ⟨items, answer, hmem, rfl⟩ := hsent body hbody
          exact ⟨items, answer, List.mem_append_left _ hmem, rfl⟩
        · exact ⟨items, answer, by simp, rfl⟩
      · rcases hcontent' with hcontent' | hcontent'
        · rw [hcontent']
          refine hcontent.imp_right fun hmem => ?_
          rw [hsent']
          exact subset_sentAfter w e hmem
        · exact .inr hcontent'
  exact hinv.2.imp_right (hinv.1 _)

/-! ### What a refresh writes -/

/-- A source state the coordinator uses, and the address it takes from it. -/
def UsableSource (state : Option String) (localIp : String) : Prop :=
  ∃ text, state = some text ∧ text ≠ "unavailable" ∧ text ≠ "unknown" ∧ text ≠ "" ∧
    localIp = strip text ∧ (ipAddress localIp).isSome

theorem readSourceIp_eq_some_iff {state : Option String} {localIp : String} :
    readSourceIp state = some localIp ↔ UsableSource state localIp := by
  unfold readSourceIp UsableSource
  rcases state with - | text
  · simp
  by_cases hun : text = "unavailable" ∨ text = "unknown" ∨ text = ""
  · simp only [if_pos hun, reduceCtorEq, Option.some.injEq, exists_eq_left', false_iff]
    rintro ⟨h₁, h₂, h₃, -⟩
    rcases hun with h | h | h
    · exact h₁ h
    · exact h₂ h
    · exact h₃ h
  · simp only [if_neg hun, Option.some.injEq, exists_eq_left']
    obtain ⟨h₁, h₂, h₃⟩ := not_or.mp hun |>.imp_right not_or.mp
    by_cases hip : (ipAddress (strip text)).isSome
    · simp only [if_pos hip, Option.some.injEq, h₁, h₂, h₃, ne_eq, not_false_eq_true, true_and]
      constructor
      · rintro rfl
        exact ⟨rfl, hip⟩
      · rintro ⟨rfl, -⟩
        rfl
    · simp only [if_neg hip, reduceCtorEq, false_iff]
      rintro ⟨-, -, -, rfl, hip'⟩
      exact hip hip'

/-- An action that writes the Rule List only as a refresh may that took
`localIp` from the source and got `read` as its list: the one item `localIp`,
and only if the list was read and differs from it. -/
def Action.SafeWrite (c : Coordinator) (localIp : Option String)
    (read : Except CloudflareError (List CloudflareListItem)) : Action → Prop
  | replaceListItems accountId listId items =>
      ∃ ip listed, localIp = some ip ∧ read = .ok listed ∧
        isInSync (some ip) (listed.map (·.ip)) = false ∧
        accountId = c.accountId ∧ listId = c.listId ∧ items = replacement ip
  | _ => True

/-- What follows the Rule List half never writes the list. -/
theorem safeWrite_of_inDnsHalf {localIp : Option String}
    {read : Except CloudflareError (List CloudflareListItem)} (o : Action) (ho : o.InDnsHalf c) :
    o.SafeWrite c localIp read := by
  cases o with
  | replaceListItems => exact ho.elim
  | _ => trivial

/-- A refresh, possibly cut off: it reads the source, then the list, and then
writes safely. -/
theorem safeWrite_of_steps {t : List Ev} {rest : Coro (Except UpdateError SyncState)}
    (h : (asyncUpdateData c).Steps t rest) :
    t = [] ∨ (∃ state, t = [sourceEv c state]) ∨
      ∃ state read t', t = sourceEv c state :: readEv c read :: t' ∧
        ∀ e ∈ t', e.1.SafeWrite c (readSourceIp state) read := by
  obtain ⟨k, hk, hrest⟩ := asyncUpdateList_eq c
  rw [asyncUpdateData, hk, Prog.op_bind, Prog.steps_op_iff] at h
  obtain ⟨rfl, -⟩ | ⟨state, t', rfl, h⟩ := h
  · exact .inl rfl
  rw [Prog.op_bind, Prog.steps_op_iff] at h
  obtain ⟨rfl, -⟩ | ⟨read, t', rfl, h⟩ := h
  · exact .inr (.inl ⟨state, rfl⟩)
  refine .inr (.inr ⟨state, read, t', rfl, (Prog.Emits.steps ?_ h).1⟩)
  refine Prog.Emits.bind (hrest state read trivial trivial trivial ?_) ?_
  · rintro listed rfl
    refine emits_asyncReconcileList ?_ (fun _ _ => trivial) trivial trivial
    intro ip hsource hsync o ho
    cases o with
    | replaceListItems => exact ⟨ip, listed, hsource, rfl, hsync, ho⟩
    | _ => trivial
  · rintro (err | list)
    · trivial
    · apply ((emits_asyncReconcileDns c _).mono safeWrite_of_inDnsHalf).bind
      rintro ⟨dnsRecordIp, dnsInSync, dnsLastError⟩
      exact ⟨trivial, fun _ => trivial⟩

/-! ### Whole runs -/

/-- A refresh that replaces the list only as it should: with the one usable
address it read from the source, after a read of the list that did not match. -/
def WritesSafely (c : Coordinator) (t : List Ev) : Prop :=
  ∀ accountId listId items answer,
    (⟨Action.replaceListItems accountId listId items, answer⟩ : Ev) ∈ t →
    ∃ state listed rest ip, t = sourceEv c state :: readEv c (.ok listed) :: rest ∧
      UsableSource state ip ∧ isInSync (some ip) (listed.map (·.ip)) = false ∧
      accountId = c.accountId ∧ listId = c.listId ∧ items = replacement ip

theorem writesSafely_of_steps {t : List Ev} {rest : Coro (Except UpdateError SyncState)}
    (h : (asyncUpdateData c).Steps t rest) : WritesSafely c t := by
  intro accountId listId items answer hmem
  obtain rfl | ⟨state, rfl⟩ | ⟨state, read, t', rfl, hsafe⟩ := safeWrite_of_steps h
  · simp at hmem
  · simp at hmem
  · have hmem' : (⟨Action.replaceListItems accountId listId items, answer⟩ : Ev) ∈ t' := by
      simpa using hmem
    obtain ⟨ip, listed, hsource, rfl, hdiff, hids⟩ := hsafe _ hmem'
    exact ⟨state, listed, t', ip, rfl, readSourceIp_eq_some_iff.mp hsource, hdiff, hids⟩

/-- **Write safety.** Take any number of complete refreshes and one more that
may be cut off anywhere.  Each of them writes safely, and the list is then the
initial one or holds exactly one item, a usable address that one of these
refreshes read from the source. -/
theorem write_safety {rounds : List (Prog.Round Action.Res ListWorld (Except UpdateError SyncState))}
    {world₀ world₁ world : ListWorld} {t : List Ev} {rest : Coro (Except UpdateError SyncState)}
    (hstart : world₀.sent = [])
    (hsession : Prog.Session (listStep c) (asyncUpdateData c) world₀ rounds world₁)
    (hlast : (asyncUpdateData c).Steps t rest) (hpath : Path (listStep c) world₁ t world) :
    (∀ u ∈ rounds.map (·.trace) ++ [t], WritesSafely c u) ∧
      (world.content = world₀.content ∨
        ∃ u ∈ rounds.map (·.trace) ++ [t], ∃ state u' ip, u = sourceEv c state :: u' ∧
          UsableSource state ip ∧ world.content = [⟨ip, some listItemComment⟩]) := by
  have hsafe : ∀ u ∈ rounds.map (·.trace) ++ [t], WritesSafely c u := by
    intro u hu
    rcases List.mem_append.mp hu with hu | hu
    · obtain ⟨round, hround, rfl⟩ := List.mem_map.mp hu
      exact writesSafely_of_steps (hsession.traces round hround)
    · rw [List.mem_singleton.mp hu]
      exact writesSafely_of_steps hlast
  refine ⟨hsafe, ?_⟩
  apply (content_of_path (hsession.path.append hpath) hstart).imp_right
  rintro ⟨items, answer, hmem, hcontent⟩
  -- the request was sent by one of the refreshes
  have hin : ∃ u ∈ rounds.map (·.trace) ++ [t],
      ⟨Action.replaceListItems c.accountId c.listId items, answer⟩ ∈ u := by
    rcases List.mem_append.mp hmem with hmem | hmem
    · obtain ⟨round, hround, hmem⟩ := List.mem_flatMap.mp hmem
      exact ⟨round.trace, by simp only [List.mem_append, List.mem_map]; exact .inl ⟨_, hround, rfl⟩,
        hmem⟩
    · exact ⟨t, by simp, hmem⟩
  obtain ⟨u, hu, hmem⟩ := hin
  obtain ⟨state, listed, u', ip, rfl, husable, -, -, -, rfl⟩ := hsafe u hu _ _ _ _ hmem
  exact ⟨_, hu, state, _, ip, rfl, husable, hcontent⟩

/-- One refresh cannot reach Cloudflare; the next one's replacement takes effect
although its response is lost, and is cut off there. -/
theorem write_safety_lost :
    let c : Coordinator := ⟨"e", "home", "acc", "list", "sensor.ip", 5, none, none⟩
    ∃ t : List Ev, ∃ world : ListWorld, world.content = [⟨"203.0.113.7", some listItemComment⟩] ∧
      (∀ u ∈ [[sourceEv c (some "203.0.113.7"), readEv c (.error (.connection "timeout"))], t],
        WritesSafely c u) ∧
      (world.content = [⟨"198.51.100.1", none⟩] ∨
        ∃ u ∈ [[sourceEv c (some "203.0.113.7"), readEv c (.error (.connection "timeout"))], t],
          ∃ state u' ip, u = sourceEv c state :: u' ∧ UsableSource state ip ∧
            world.content = [⟨ip, some listItemComment⟩]) := by
  intro c
  let replies : Replies :=
    { source := some "203.0.113.7", listItems := .ok [⟨"198.51.100.1", none, none⟩],
      replace := .error (.connection "timeout"), bulkOperation := (0, .error (.connection "timeout")),
      ruleLists := .ok [], dnsRecords := .ok [], dnsRecord := .error (.connection "timeout"),
      now := (9 : ℕ), lastSynced := none }
  let world₀ : ListWorld := ⟨[⟨"198.51.100.1", none⟩], []⟩
  let world : ListWorld := ⟨[⟨"203.0.113.7", some listItemComment⟩],
    [[⟨"203.0.113.7", some listItemComment⟩]]⟩
  let t : List Ev := [sourceEv c (some "203.0.113.7"),
    readEv c (.ok [⟨"198.51.100.1", none, none⟩]), issueEv c false,
    replaceEv c "203.0.113.7" (.error (.connection "timeout"))]
  have hsession : Prog.Session (listStep c) (asyncUpdateData c) world₀
      [⟨[sourceEv c (some "203.0.113.7"), readEv c (.error (.connection "timeout"))],
        .error (.updateFailed "timeout"), world₀⟩] world₀ := by
    refine .single ⟨?_, .cons ⟨rfl, .inl rfl⟩ (.single ⟨rfl, .inl rfl⟩), rfl⟩
    exact Prog.traces_of_exec
      (fun _ o => ({ replies with listItems := .error (.connection "timeout") }.answer o, ())) ()
      (by decide +kernel) (by decide +kernel)
  have htraces := Prog.exec_traces (fun _ o => (replies.answer o, ())) (asyncUpdateData c) ()
  have hsplit : (Prog.exec (fun _ o => (replies.answer o, ())) (asyncUpdateData c) ()).trace =
      t ++ (Prog.exec (fun _ o => (replies.answer o, ())) (asyncUpdateData c) ()).trace.drop 4 := by
    decide +kernel
  rw [Prog.Traces, Prog.Steps, hsplit] at htraces
  obtain ⟨rest, hlast, -⟩ := path_append_iff.mp htraces
  have hpath : Path (listStep c) world₀ t world :=
    .cons ⟨rfl, .inl rfl⟩ (.cons ⟨rfl, .inl rfl⟩ (.cons ⟨rfl, .inl rfl⟩
      (.single ⟨rfl, .inr (by simp [world])⟩)))
  exact ⟨t, world, rfl, write_safety rfl hsession hlast hpath⟩

end CloudflareIpSync
