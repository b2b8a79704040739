/-
CloudflareIpSync/Entitlement.lean

What a refresh may do, given what it has seen.

Every action of a refresh follows from the configuration and from earlier
answers of the same refresh: it writes the address it read from the source, and
only if the list it read differs; it polls operations that its own writes
returned, and changes records that its own queries returned (`Entitled`).  This
is proved as a precondition of the coroutines, so it holds of runs that are
still under way and whatever the answers are (`entitled_refresh`).
-/
import CloudflareIpSync.Refresh
import CloudflareIpSync.Hoare

namespace CloudflareIpSync

open Interact

/-! ### What an action follows from -/

section Seen

variable (c : Coordinator) (seen : List Ev)

/-- The refresh read this address from its source entity. -/
def SourceRead (ip : String) : Prop :=
  ∃ state, sourceEv c state ∈ seen ∧ readSourceIp state = some ip

/-- The refresh read the list and found that it differs from the address. -/
def ListDiffers (ip : String) : Prop :=
  ∃ items, (⟨.getListItems c.accountId c.listId, .ok items⟩ : Ev) ∈ seen ∧
    isInSync (some ip) (items.map (·.ip)) = false

/-- The actions of a refresh that has seen these events. -/
inductive Entitled : Action → Prop
  | source : Entitled (.statesGet c.sourceEntityId)
  | read : Entitled (.getListItems c.accountId c.listId)
  | replace {ip : String} : SourceRead c seen ip → ListDiffers c seen ip →
      Entitled (.replaceListItems c.accountId c.listId (replacement ip))
  | poll {items : List CloudflareListItem} {operationId : String} :
      (⟨.replaceListItems c.accountId c.listId items, .ok operationId⟩ : Ev) ∈ seen →
      Entitled (.getBulkOperation c.accountId operationId)
  | ruleLists {message : String} {code : Option ℤ} :
      (⟨.getListItems c.accountId c.listId, .error (.api message code)⟩ : Ev) ∈ seen →
      Entitled (.getRuleLists c.accountId)
  | records {target : DnsTarget} {ip : String} : c.dnsTarget = some target →
      SourceRead c seen ip →
      Entitled (.getDnsRecords target.zoneId target.recordName (recordType ip))
  | create {target : DnsTarget} {ip : String} : c.dnsTarget = some target →
      SourceRead c seen ip →
      (⟨.getDnsRecords target.zoneId target.recordName (recordType ip), .ok []⟩ : Ev) ∈ seen →
      Entitled (.createDnsRecord target.zoneId (dnsBody target ip))
  | update {target : DnsTarget} {ip : String} {record : CloudflareDnsRecord}
      {rest : List CloudflareDnsRecord} : c.dnsTarget = some target → SourceRead c seen ip →
      (⟨.getDnsRecords target.zoneId target.recordName (recordType ip), .ok (record :: rest)⟩ :
        Ev) ∈ seen →
      (record.content ≠ ip ∨ record.proxied ∨ record.ttl ≠ dnsRecordTtl) →
      Entitled (.updateDnsRecord target.zoneId record.id (dnsPatch record ip))
  | sleep (seconds : ℕ) : Entitled (.sleep seconds)
  | stamp : Entitled .stampLastSynced
  | lastSynced : Entitled .getLastSynced
  | notify {id : String} (title message : String) :
      id = c.notificationId ∨ id = c.dnsNotificationId →
      Entitled (.createNotification id title message)
  | dismiss {id : String} : id = c.notificationId ∨ id = c.dnsNotificationId →
      Entitled (.dismissNotification id)
  | createIssue : Entitled (.createIssue c.ruleListMissingIssueId "rule_list_missing" c.title)
  | deleteIssue : Entitled (.deleteIssue c.ruleListMissingIssueId)

end Seen

variable {c : Coordinator} {seen seen' : List Ev} {localIp : String}

theorem SourceRead.mono (h : SourceRead c seen localIp) (hsub : seen ⊆ seen') :
    SourceRead c seen' localIp := by
  obtain ⟨state, hmem, hread⟩ := h
  exact ⟨state, hsub hmem, hread⟩

theorem ListDiffers.mono (h : ListDiffers c seen localIp) (hsub : seen ⊆ seen') :
    ListDiffers c seen' localIp := by
  obtain ⟨items, hmem, hdiffers⟩ := h
  exact ⟨items, hsub hmem, hdiffers⟩

/-! ### What a write follows from -/

theorem entitled_replace {accountId listId : String} {items : List CloudflareListItem}
    (h : Entitled c seen (.replaceListItems accountId listId items)) :
    accountId = c.accountId ∧ listId = c.listId ∧
      ∃ ip, items = replacement ip ∧ SourceRead c seen ip ∧ ListDiffers c seen ip := by
  cases h with
  | replace hread hdiffers => exact ⟨rfl, rfl, _, rfl, hread, hdiffers⟩

theorem entitled_create {zoneId : String} {body : DnsRecordBody}
    (h : Entitled c seen (.createDnsRecord zoneId body)) :
    ∃ target ip, c.dnsTarget = some target ∧ zoneId = target.zoneId ∧ body = dnsBody target ip ∧
      SourceRead c seen ip ∧
      (⟨.getDnsRecords target.zoneId target.recordName (recordType ip), .ok []⟩ : Ev) ∈ seen := by
  cases h with
  | create htarget hread hquery => exact ⟨_, _, htarget, rfl, rfl, hread, hquery⟩

theorem entitled_update {zoneId recordId : String} {patch : DnsRecordPatch}
    (h : Entitled c seen (.updateDnsRecord zoneId recordId patch)) :
    ∃ target ip record rest, c.dnsTarget = some target ∧ zoneId = target.zoneId ∧
      recordId = record.id ∧ patch = dnsPatch record ip ∧ SourceRead c seen ip ∧
      (⟨.getDnsRecords target.zoneId target.recordName (recordType ip), .ok (record :: rest)⟩ :
        Ev) ∈ seen := by
  cases h with
  | update htarget hread hquery _ => exact ⟨_, _, _, _, htarget, rfl, rfl, rfl, hread, hquery⟩

/-- A coroutine that is entitled to all its actions from here on. -/
abbrev Entitles {α : Type} (c : Coordinator) (p : Coro α) (post : α → List Ev → Prop)
    (seen : List Ev) : Prop :=
  p.Wp History (Entitled c) post seen

/-! ### The Rule List -/

/-- A wait polls one operation. -/
theorem entitles_pollLoop {operationId : String} {items : List CloudflareListItem}
    (h : (⟨.replaceListItems c.accountId c.listId items, .ok operationId⟩ : Ev) ∈ seen)
    (fuel : ℕ) (elapsed : ℚ≥0) :
    Entitles c (pollLoop c operationId fuel elapsed) (fun _ _ => True) seen := by
  induction fuel generalizing seen elapsed with
  | zero => trivial
  | succ fuel ih =>
      rw [pollLoop, asyncGetBulkOperation, Prog.call_bind]
      refine Prog.wp_history_iff.mpr ⟨.poll h, ?_⟩
      rintro ⟨took, answer⟩
      dsimp only
      split
      · trivial
      rcases answer with err | operation
      · trivial
      dsimp only
      split
      · trivial
      split
      · trivial
      rw [asyncSleep, Prog.call_bind]
      refine Prog.wp_history_iff.mpr ⟨.sleep _, ?_⟩
      intro _
      split
      · trivial
      · exact ih (by simp [h]) _

theorem entitles_replaceAndVerify (hsource : SourceRead c seen localIp)
    (hdiffers : ListDiffers c seen localIp) :
    Entitles c (asyncReplaceAndVerify c localIp) (fun _ _ => True) seen := by
  rw [asyncReplaceAndVerify, asyncReplaceListItems, Prog.call_bind]
  refine Prog.wp_history_iff.mpr ⟨.replace hsource hdiffers, ?_⟩
  rintro (err | operationId)
  · trivial
  apply Prog.wp_bind_iff.mpr
  apply (entitles_pollLoop (List.mem_append_right _ (List.mem_singleton_self _)) pollFuel 0).imp
  rintro (err | ⟨⟨⟩⟩) seen' -
  · trivial
  dsimp only
  rw [asyncGetListItems, Prog.call_bind]
  refine Prog.wp_history_iff.mpr ⟨.read, ?_⟩
  rintro (err | items)
  · trivial
  dsimp only
  split <;> trivial

/-- The retry loop is entitled to what every attempt is entitled to. -/
theorem entitles_retryLoop {α : Type} {maxRetries : ℤ} {body : Coro (Except SyncError α)}
    (hbody : ∀ seen', seen ⊆ seen' → Entitles c body (fun _ _ => True) seen')
    (attempts : List ℤ) (delay : ℕ) (lastErr : Option SyncError) :
    Entitles c (retryLoop maxRetries body attempts delay lastErr) (fun _ _ => True) seen := by
  induction attempts generalizing seen delay lastErr with
  | nil => trivial
  | cons attempt rest ih =>
      rw [retryLoop_cons]
      apply Prog.wp_bind_iff.mpr
      apply (hbody seen (List.Subset.refl _)).remember.imp
      rintro (err | value) seen' ⟨-, hsub⟩
      · have hrest : ∀ seen'', seen' ⊆ seen'' → ∀ seen₁, seen'' ⊆ seen₁ →
            Entitles c body (fun _ _ => True) seen₁ := by
          intro seen'' hsub' seen₁ hsub₁
          exact hbody seen₁ (List.Subset.trans hsub (List.Subset.trans hsub' hsub₁))
        dsimp only
        split
        · split
          · refine Prog.wp_history_iff.mpr ⟨.sleep _, fun _ => ?_⟩
            exact ih (hrest _ (List.subset_append_left _ _)) _ _
          · exact ih (hrest _ (List.Subset.refl _)) _ _
        · trivial
      · trivial

theorem entitles_reconcileList {source : Option String} {ips : List String}
    (hsource : ∀ ip, source = some ip → SourceRead c seen ip)
    (hdiffers : ∀ ip, source = some ip → isInSync (some ip) ips = false → ListDiffers c seen ip) :
    Entitles c (asyncReconcileList c source ips)
      (fun r _ => ∀ list, r = .ok list → list.localIp = source) seen := by
  unfold asyncReconcileList
  split
  · rename_i ip hsync
    apply Prog.wp_bind_iff.mpr
    have hattempt : ∀ seen', seen ⊆ seen' →
        Entitles c (asyncReplaceAndVerify c ip) (fun _ _ => True) seen' := by
      intro seen' hsub
      exact entitles_replaceAndVerify ((hsource ip rfl).mono hsub)
        ((hdiffers ip rfl hsync).mono hsub)
    apply (entitles_retryLoop hattempt _ _ _).imp
    rintro ((err | message) | ips') seen' -
    · cases err <;> simp [Prog.wp_ret_iff]
    · refine Prog.wp_history_iff.mpr ⟨.notify _ _ (.inl rfl), fun _ => ?_⟩
      rintro list ⟨⟩
      rfl
    · refine Prog.wp_history_iff.mpr ⟨.dismiss (.inl rfl), fun _ => ?_⟩
      refine Prog.wp_history_iff.mpr ⟨.stamp, fun _ => ?_⟩
      rintro list ⟨⟩
      rfl
  · refine Prog.wp_history_iff.mpr ⟨.dismiss (.inl rfl), fun _ => ?_⟩
    refine Prog.wp_history_iff.mpr ⟨.stamp, fun _ => ?_⟩
    rintro list ⟨⟩
    rfl
  · refine Prog.wp_history_iff.mpr ⟨.dismiss (.inl rfl), fun _ => ?_⟩
    rintro list ⟨⟩
    rfl

/-- The list half hands on the address that it read. -/
theorem entitles_updateList :
    Entitles c (asyncUpdateList c)
      (fun r seen => ∀ list, r = .ok list → ∀ ip, list.localIp = some ip → SourceRead c seen ip)
      seen := by
  rw [asyncUpdateList, statesGet, Prog.call_bind]
  refine Prog.wp_history_iff.mpr ⟨.source, fun state => ?_⟩
  dsimp only
  rw [asyncGetListItems, Prog.call_bind]
  refine Prog.wp_history_iff.mpr ⟨.read, ?_⟩
  rintro (err | items)
  · cases err with
    | api message code =>
        apply Prog.wp_bind_iff.mpr
        have hquery : Entitled c (seen ++ [sourceEv c state] ++
            [⟨.getListItems c.accountId c.listId, .error (.api message code)⟩])
            (.getRuleLists c.accountId) :=
          .ruleLists (List.mem_append_right _ (List.mem_singleton_self _))
        have hmissing : Entitles c (asyncIsRuleListMissing c) (fun _ _ => True) _ :=
          Prog.wp_history_iff.mpr ⟨hquery, by rintro (- | -) <;> trivial⟩
        apply hmissing.imp
        rintro (- | -) seen' -
        · exact Prog.wp_history_iff.mpr ⟨.deleteIssue, by rintro _ list ⟨⟩⟩
        · exact Prog.wp_history_iff.mpr ⟨.createIssue, by rintro _ list ⟨⟩⟩
    | auth | connection | rateLimit | result => rintro list ⟨⟩
  · refine Prog.wp_history_iff.mpr ⟨.deleteIssue, fun _ => ?_⟩
    have hsource : ∀ ip, readSourceIp state = some ip → SourceRead c
        (seen ++ [sourceEv c state] ++ [⟨.getListItems c.accountId c.listId, .ok items⟩] ++
          [⟨.deleteIssue c.ruleListMissingIssueId, ()⟩]) ip := by
      intro ip hread
      exact ⟨state, by simp, hread⟩
    apply (entitles_reconcileList hsource ?_).remember.imp
    · rintro r seen' ⟨hlist, hsub⟩ list hr ip hip
      exact (hsource ip (by rw [← hlist list hr, hip])).mono hsub
    · intro ip _ hdiffers
      exact ⟨items, by simp, hdiffers⟩

/-! ### The DNS record -/

theorem entitles_upsertDnsRecord {target : DnsTarget} (htarget : c.dnsTarget = some target)
    (hsource : SourceRead c seen localIp) :
    Entitles c (asyncUpsertDnsRecord target localIp) (fun _ _ => True) seen := by
  rw [asyncUpsertDnsRecord, asyncGetDnsRecords, Prog.call_bind]
  refine Prog.wp_history_iff.mpr ⟨.records htarget hsource, ?_⟩
  have hsource' : ∀ e, SourceRead c (seen ++ [e]) localIp :=
    fun e => hsource.mono (List.subset_append_left _ _)
  rintro (err | (- | ⟨record, rest⟩))
  · trivial
  · refine Prog.wp_history_iff.mpr ⟨.create htarget (hsource' _) (by simp), ?_⟩
    rintro (err | record) <;> trivial
  · dsimp only
    split
    · next hwrong =>
        refine Prog.wp_history_iff.mpr ⟨.update htarget (hsource' _)
          (List.mem_append_right _ (List.mem_singleton_self _)) hwrong, ?_⟩
        rintro (err | record) <;> trivial
    · trivial

theorem entitles_reconcileDns {source : Option String}
    (hsource : ∀ ip, source = some ip → SourceRead c seen ip) :
    Entitles c (asyncReconcileDns c source) (fun _ _ => True) seen := by
  unfold asyncReconcileDns
  split
  · rename_i target ip htarget
    apply Prog.wp_bind_iff.mpr
    have hattempt : ∀ seen', seen ⊆ seen' →
        Entitles c (asyncUpsertDnsRecord target ip) (fun _ _ => True) seen' := by
      intro seen' hsub
      exact entitles_upsertDnsRecord htarget ((hsource ip rfl).mono hsub)
    apply (entitles_retryLoop hattempt _ _ _).imp
    rintro (err | record) seen' -
    · exact Prog.wp_history_iff.mpr ⟨.notify _ _ (.inr rfl), fun _ => trivial⟩
    · exact Prog.wp_history_iff.mpr ⟨.dismiss (.inr rfl), fun _ => trivial⟩
  · trivial

/-! ### A refresh -/

/-- **A refresh is entitled to all it does.** -/
theorem entitled_refresh (c : Coordinator) (seen : List Ev) :
    Entitles c (asyncUpdateData c) (fun _ _ => True) seen := by
  unfold asyncUpdateData
  apply Prog.wp_bind_iff.mpr
  apply entitles_updateList.imp
  rintro (err | list) seen' hlist
  · trivial
  · apply Prog.wp_bind_iff.mpr
    apply (entitles_reconcileDns (hlist list rfl)).imp
    intro _ seen'' _
    exact Prog.wp_history_iff.mpr ⟨.lastSynced, fun _ => trivial⟩

end CloudflareIpSync
