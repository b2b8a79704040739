/-
CloudflareIpSync/ReadEnds.lean

A refresh in single steps, with every read of the Rule List taken apart into its
requests, and when it ends.

The coordinator's programs are finite, so only the cursor loop of
`async_get_list_items` can go on for ever.  Against an endpoint that is a fixed
function from the cursor sent to the page returned, with finitely many cursors,
it ends exactly if no page that is reached leads back to itself
(`refresh_ends_iff`); nothing in the loop looks for that.
-/
import CloudflareIpSync.Pagination

namespace CloudflareIpSync.Client

open Interact Python CloudflareClient Relation

/-! ### The cursors of an endpoint -/

variable {client : CloudflareClient} {endpoint : Option String → HttpAnswer}

/-- The page at one cursor is followed by the page at another. -/
def Leads (client : CloudflareClient) (endpoint : Option String → HttpAnswer)
    (cursor cursor' : Option String) : Prop :=
  ∃ raws after, IsItemsPage client (endpoint cursor) raws (some after) ∧ cursor' = some after

/-! ### A refresh in single steps -/

/-- A refresh in progress: between two actions, within a read of the Rule List,
or ended by an exception that no handler catches. -/
inductive RefreshState
  | running (p : Coro (Except UpdateError SyncState))
  | reading (accountId listId : String) (s : ItemsState)
      (k : Except CloudflareError (List CloudflareIpSync.CloudflareListItem) →
        Coro (Except UpdateError SyncState))
  | crashed (exc : Exc)

/-- The start of a read, the request for a page, or any other action. -/
inductive RefreshLabel
  | start
  | page (cursor : Option String)
  | act (e : Ev)

/-- The refresh is over. -/
def RefreshState.Ended : RefreshState → Prop
  | running (.ret _) => True
  | crashed _ => True
  | _ => False

/-- One step.  The pages of a read are answered by the endpoint, every other
action by anything.  The coordinator sees the items that a read returns, or the
`CloudflareError` it raises. -/
inductive RefreshStep (client : CloudflareClient) (endpoint : Option String → HttpAnswer) :
    RefreshState → RefreshLabel → RefreshState → Prop
  | act {o : Action} {k : o.Res → Coro (Except UpdateError SyncState)} (r : o.Res) :
      (∀ accountId listId, o ≠ .getListItems accountId listId) →
      RefreshStep client endpoint (.running (.op o k)) (.act ⟨o, r⟩) (.running (k r))
  | start {accountId listId : String}
      {k : (Action.getListItems accountId listId).Res → Coro (Except UpdateError SyncState)} :
      RefreshStep client endpoint (.running (.op (.getListItems accountId listId) k)) .start
        (.reading accountId listId ([], none) k)
  | next {accountId listId : String} {s s' : ItemsState} {e : HttpEv} {k} :
      (client.listItemsBody accountId listId s).Traces [e] (.ok (.inl s')) →
      e.2 = endpoint s.2 →
      RefreshStep client endpoint (.reading accountId listId s k) (.page s.2)
        (.reading accountId listId s' k)
  | returned {accountId listId : String} {s : ItemsState} {items : List CloudflareListItem}
      {items' : List CloudflareIpSync.CloudflareListItem} {e : HttpEv} {k} :
      (client.listItemsBody accountId listId s).Traces [e] (.ok (.inr items)) →
      e.2 = endpoint s.2 → items'.map (·.ip) = items.map (·.ip) →
      RefreshStep client endpoint (.reading accountId listId s k) (.page s.2)
        (.running (k (.ok items')))
  | raised {accountId listId : String} {s : ItemsState} {err : CloudflareError} {e : HttpEv} {k} :
      (client.listItemsBody accountId listId s).Traces [e] (.error (.cloudflare err)) →
      e.2 = endpoint s.2 →
      RefreshStep client endpoint (.reading accountId listId s k) (.page s.2)
        (.running (k (.error err)))
  | crashed {accountId listId : String} {s : ItemsState} {exc : Exc} {e : HttpEv} {k} :
      (client.listItemsBody accountId listId s).Traces [e] (.error (.builtin exc)) →
      e.2 = endpoint s.2 →
      RefreshStep client endpoint (.reading accountId listId s k) (.page s.2) (.crashed exc)

/-- Every refresh ends: it never goes on for ever and never gets stuck, and no
read asks for a page twice. -/
structure RefreshEnds (client : CloudflareClient) (endpoint : Option String → HttpAnswer)
    (c : Coordinator) : Prop where
  no_infinite_run : ¬ ∃ run : ℕ → RefreshState, run 0 = .running (asyncUpdateData c) ∧
    ∀ n, ∃ label, RefreshStep client endpoint (run n) label (run (n + 1))
  not_stuck : ∀ labels s,
    Path (RefreshStep client endpoint) (.running (asyncUpdateData c)) labels s →
    s.Ended ∨ ∃ label s', RefreshStep client endpoint s label s'
  pages_nodup : ∀ before (cursors : List (Option String)) after s,
    Path (RefreshStep client endpoint) (.running (asyncUpdateData c))
      (before ++ .start :: cursors.map .page ++ after) s → cursors.Nodup

/-! ### One round of a read -/

variable {accountId listId : String} {s s' : ItemsState}

/-- A round that goes on follows the cursor of the page. -/
theorem leads_of_next {e : HttpEv}
    (h : (client.listItemsBody accountId listId s).Traces [e] (.ok (.inl s')))
    (he : e.2 = endpoint s.2) : Leads client endpoint s.2 s'.2 := by
  obtain ⟨answer, ht, hround⟩ := (traces_single (listItemsBody_eq accountId listId)).mp h
  obtain rfl := List.singleton_inj.mp ht
  obtain rfl : answer = endpoint s.2 := he
  rw [itemsRound, bind_eq_ok_iff] at hround
  obtain ⟨payload, hreceive, hround⟩ := hround
  obtain ⟨raws, hlist, hround⟩ := bind_eq_ok_iff.mp hround
  obtain ⟨items, hitems, hround⟩ := bind_eq_ok_iff.mp hround
  obtain ⟨status, hanswer, hreadable, haccepted⟩ := receive_ok hreceive
  have hresult : payload.get "result" .null = .arr raws := by
    unfold requireList at hlist
    split at hlist
    · rename_i result hresult
      cases hlist
      exact hresult
    · cases hlist
  have hraws : ∀ raw ∈ raws, raw.isDict = true := by
    have hreturns : Returns (client.collectItems s.1 raws) := by
      rw [← typed_lift_iff, hitems]
      exact typed_ok _
    intro raw hraw
    obtain ⟨fields, rfl⟩ := returns_collectItems_iff.mp hreturns raw hraw
    rfl
  rcases hcursor : client.nextCursor payload with - | after
  · rw [hcursor] at hround
    cases hround
  · rw [hcursor] at hround
    cases hround
    have hpage : IsItemsPage client (endpoint s.2) raws (some after) :=
      ⟨payload, ⟨status, hanswer, hreadable, haccepted⟩, hresult, hraws, hcursor⟩
    exact ⟨raws, after, hpage, rfl⟩

/-- A round whose request the endpoint answers. -/
theorem traces_round (client : CloudflareClient) (endpoint : Option String → HttpAnswer)
    (accountId listId : String) (s : ItemsState) :
    (client.listItemsBody accountId listId s).Traces
      [⟨itemsRequest client accountId listId s.2, endpoint s.2⟩]
      (client.itemsRound s.1 (client.receive "GET" (itemsPath accountId listId) (endpoint s.2))) :=
  (traces_single (listItemsBody_eq accountId listId)).mpr ⟨endpoint s.2, rfl, rfl⟩

/-- A page that leads to another cursor makes the read go on with that one. -/
theorem next_of_leads (accountId listId : String) {cursor : Option String}
    (h : Leads client endpoint s.2 cursor) :
    ∃ items, (client.listItemsBody accountId listId s).Traces
      [⟨itemsRequest client accountId listId s.2, endpoint s.2⟩] (.ok (.inl (items, cursor))) := by
  obtain ⟨raws, after, ⟨payload, hserves, hresult, hraws, hcursor⟩, rfl⟩ := h
  refine ⟨s.1 ++ raws.filterMap (itemOf client), ?_⟩
  have hround := traces_round client endpoint accountId listId s
  rw [itemsRound, receive_of_serves hserves, ok_bind, requireList, hresult] at hround
  simpa [collectItems_objects hraws, hcursor] using hround

/-! ### When a refresh ends -/

/-- Some step leads from the one state to the other. -/
abbrev Goes (client : CloudflareClient) (endpoint : Option String → HttpAnswer)
    (s s' : RefreshState) : Prop :=
  ∃ label, RefreshStep client endpoint s label s'

/-- A read ends if the chain of cursors does. -/
theorem acc_reading {cursor : Option String} (h : Acc (flip (Leads client endpoint)) cursor)
    {k : Except CloudflareError (List CloudflareIpSync.CloudflareListItem) →
      Coro (Except UpdateError SyncState)}
    (hk : ∀ answer, Acc (flip (Goes client endpoint)) (.running (k answer)))
    (items : List CloudflareListItem) :
    Acc (flip (Goes client endpoint)) (.reading accountId listId (items, cursor) k) := by
  induction h generalizing items with
  | intro cursor _ ih =>
      constructor
      rintro state ⟨label, hstep⟩
      cases hstep with
      | @next _ _ _ s' _ _ hround he => exact ih _ (leads_of_next hround he) s'.1
      | returned => exact hk _
      | raised => exact hk _
      | crashed =>
          constructor
          rintro state ⟨label, hstep⟩
          cases hstep

/-- A program ends if its reads do. -/
theorem acc_running (h : Acc (flip (Leads client endpoint)) none)
    (p : Coro (Except UpdateError SyncState)) :
    Acc (flip (Goes client endpoint)) (.running p) := by
  induction p with
  | ret out =>
      constructor
      rintro state ⟨label, hstep⟩
      cases hstep
  | op o k ih =>
      constructor
      rintro state ⟨label, hstep⟩
      cases hstep with
      | act r _ => exact ih r
      | start => exact acc_reading h ih []

/-- If a read ends, the chain of cursors does. -/
theorem acc_leads {state : RefreshState} (h : Acc (flip (Goes client endpoint)) state)
    {k : Except CloudflareError (List CloudflareIpSync.CloudflareListItem) →
      Coro (Except UpdateError SyncState)}
    (hstate : state = .reading accountId listId s k) :
    Acc (flip (Leads client endpoint)) s.2 := by
  induction h generalizing s with
  | intro state _ ih =>
      subst hstate
      constructor
      intro cursor hleads
      obtain ⟨items, hround⟩ := next_of_leads accountId listId hleads
      exact ih _ ⟨_, .next hround rfl⟩ rfl

theorem not_infinite_iff {c : Coordinator} :
    (¬ ∃ run : ℕ → RefreshState, run 0 = .running (asyncUpdateData c) ∧
        ∀ n, ∃ label, RefreshStep client endpoint (run n) label (run (n + 1))) ↔
      Acc (flip (Leads client endpoint)) none := by
  show (¬ ∃ run : ℕ → RefreshState, run 0 = .running (asyncUpdateData c) ∧
    ∀ n, Goes client endpoint (run n) (run (n + 1))) ↔ _
  rw [← acc_iff_no_infinite_chain]
  constructor
  · intro h
    -- the refresh reads the source and then starts to read the list
    obtain ⟨k, hk, -⟩ := asyncUpdateList_eq c
    rw [asyncUpdateData, hk, Prog.op_bind] at h
    have hsource := h.inv ⟨_, .act none (by simp)⟩
    have hread := hsource.inv ⟨_, .start⟩
    exact acc_leads hread rfl
  · intro h
    exact acc_running h _

/-- A refresh that is not over can go on. -/
theorem ended_or_goes (state : RefreshState) :
    state.Ended ∨ ∃ label state', RefreshStep client endpoint state label state' := by
  cases state with
  | crashed exc => exact .inl trivial
  | running p =>
      rcases p with out | ⟨o, k⟩
      · exact .inl trivial
      right
      by_cases ho : ∀ accountId listId, o ≠ .getListItems accountId listId
      · obtain ⟨r⟩ := nonempty_res o
        exact ⟨_, _, .act r ho⟩
      · simp only [not_forall, not_not] at ho
        obtain ⟨accountId, listId, rfl⟩ := ho
        exact ⟨_, _, .start⟩
  | reading accountId listId s k =>
      right
      have hround := traces_round client endpoint accountId listId s
      rcases hnext : client.itemsRound s.1
        (client.receive "GET" (itemsPath accountId listId) (endpoint s.2)) with
        (err | exc) | (s' | items)
      · rw [hnext] at hround
        exact ⟨_, _, .raised hround rfl⟩
      · rw [hnext] at hround
        exact ⟨_, _, .crashed hround rfl⟩
      · rw [hnext] at hround
        exact ⟨_, _, .next hround rfl⟩
      · rw [hnext] at hround
        -- the coordinator sees items with the IPs that were read
        have hips : (items.map fun item => (⟨item.ip, none, none⟩ :
            CloudflareIpSync.CloudflareListItem)).map (·.ip) = items.map (·.ip) := by
          rw [List.map_map]
          rfl
        exact ⟨_, _, .returned hround rfl hips⟩

/-- Only a read in progress asks for a page. -/
theorem cursors_eq_nil {cursors : List (Option String)} {state state' : RefreshState}
    (hstate : ∀ accountId listId s k, state ≠ .reading accountId listId s k)
    (h : Path (RefreshStep client endpoint) state (cursors.map .page) state') : cursors = [] := by
  rcases cursors with - | ⟨cursor, rest⟩
  · rfl
  obtain ⟨_, hstep, -⟩ := path_cons_iff.mp h
  cases hstep with
  | next | returned | raised | crashed => exact absurd rfl (hstate _ _ _ _)

/-- If the chain of cursors ends, a read asks for each of its cursors once. -/
theorem nodup_of_path {cursors : List (Option String)} {state' : RefreshState}
    {k : Except CloudflareError (List CloudflareIpSync.CloudflareListItem) →
      Coro (Except UpdateError SyncState)}
    (hacc : Acc (flip (Leads client endpoint)) s.2)
    (h : Path (RefreshStep client endpoint) (.reading accountId listId s k)
      (cursors.map .page) state') :
    cursors.Nodup ∧ ∀ cursor ∈ cursors, ReflTransGen (Leads client endpoint) s.2 cursor := by
  induction cursors generalizing s with
  | nil => simp
  | cons cursor rest ih =>
      obtain ⟨state, hstep, hrest⟩ := path_cons_iff.mp h
      have hlast : rest = [] → cursor = s.2 → (cursor :: rest).Nodup ∧
          ∀ cursor' ∈ cursor :: rest, ReflTransGen (Leads client endpoint) s.2 cursor' := by
        rintro rfl rfl
        simp [ReflTransGen.refl]
      cases hstep with
      | @next _ _ _ s' _ _ hround he =>
          have hleads := leads_of_next hround he
          obtain ⟨hnodup, hreach⟩ := ih (hacc.inv hleads) hrest
          refine ⟨List.nodup_cons.mpr ⟨?_, hnodup⟩, ?_⟩
          · intro hmem
            exact not_transGen_of_acc hacc (TransGen.head' hleads (hreach _ hmem))
          · intro cursor' hcursor'
            rcases List.mem_cons.mp hcursor' with rfl | hcursor'
            · exact .refl
            · exact .head hleads (hreach _ hcursor')
      | returned => exact hlast (cursors_eq_nil (by simp) hrest) rfl
      | raised => exact hlast (cursors_eq_nil (by simp) hrest) rfl
      | crashed => exact hlast (cursors_eq_nil (by simp) hrest) rfl

theorem refreshEnds_iff_acc {c : Coordinator} :
    RefreshEnds client endpoint c ↔ Acc (flip (Leads client endpoint)) none := by
  constructor
  · intro h
    exact not_infinite_iff.mp h.no_infinite_run
  · intro hacc
    refine ⟨not_infinite_iff.mpr hacc, fun _ state _ => ended_or_goes state, ?_⟩
    intro before cursors after state h
    obtain ⟨_, hpages, -⟩ := path_append_iff.mp h
    obtain ⟨_, -, hread⟩ := path_append_iff.mp hpages
    obtain ⟨_, hstart, hpath⟩ := path_cons_iff.mp hread
    cases hstart with
    | start => exact (nodup_of_path hacc hpath).1

/-- **When every refresh ends.**  Against an endpoint that is a fixed function of
the cursor with finitely many cursors in its pages, every refresh ends, asking
for each page at most once a read, exactly if no page that is reached from the
first one leads back to itself. -/
theorem refresh_ends_iff (client : CloudflareClient) (endpoint : Option String → HttpAnswer)
    (c : Coordinator) (hfin : {cursor | ∃ before, Leads client endpoint before cursor}.Finite) :
    RefreshEnds client endpoint c ↔
      ∀ cursor, ReflTransGen (Leads client endpoint) none cursor →
        ¬ TransGen (Leads client endpoint) cursor cursor := by
  rw [refreshEnds_iff_acc, acc_iff_no_cycle hfin]

/-- What a page with the given pagination info leads to. -/
theorem cursor_of_pageAnswer {raws raws' : List Json} {resultInfo : Dict} {cursor : Option String}
    (h : IsItemsPage client (pageAnswer raws resultInfo) raws' cursor) :
    client.nextCursor [("result_info", .obj resultInfo)] = cursor := by
  obtain ⟨payload, ⟨status, hanswer, -, -⟩, -, -, hcursor⟩ := h
  cases hanswer
  exact hcursor

/-- Pages that all give the same cursor. -/
def stuckEndpoint (_ : Option String) : HttpAnswer :=
  pageAnswer [] [("cursors", .obj [("after", .str "CUR")])]

/-- The endpoint has one cursor, and no refresh ends. -/
theorem refresh_never_ends :
    let c : Coordinator := ⟨"e", "home", "acc", "list", "sensor.ip", 5, none, none⟩
    {cursor | ∃ before, Leads sampleClient stuckEndpoint before cursor}.Finite ∧
      ¬ RefreshEnds sampleClient stuckEndpoint c := by
  intro c
  have hleads : ∀ before, Leads sampleClient stuckEndpoint before (some "CUR") := by
    intro before
    exact ⟨[], "CUR", ⟨_, ⟨200, rfl, rfl, by decide, rfl⟩, rfl, by simp, rfl⟩, rfl⟩
  constructor
  · apply (Set.finite_singleton (some "CUR")).subset
    rintro cursor ⟨before, raws, after, hpage, rfl⟩
    exact (cursor_of_pageAnswer hpage).symm
  · rw [refreshEnds_iff_acc]
    intro hacc
    exact not_transGen_of_acc (hacc.inv (hleads none)) (.single (hleads _))

/-- Two pages, the first with a cursor. -/
def twoPageEndpoint : Option String → HttpAnswer
  | none => pageAnswer [] [("cursors", .obj [("after", .str "CUR")])]
  | some _ => pageAnswer [] []

theorem refresh_ends_two_pages :
    let c : Coordinator := ⟨"e", "home", "acc", "list", "sensor.ip", 5, none, none⟩
    RefreshEnds sampleClient twoPageEndpoint c := by
  intro c
  have hleads : ∀ {before cursor}, Leads sampleClient twoPageEndpoint before cursor →
      before = none ∧ cursor = some "CUR" := by
    rintro before cursor ⟨raws, after, hpage, rfl⟩
    rcases before with - | before
    · exact ⟨rfl, (cursor_of_pageAnswer hpage).symm⟩
    · cases cursor_of_pageAnswer hpage
  have hfin : {cursor | ∃ before, Leads sampleClient twoPageEndpoint before cursor}.Finite := by
    apply (Set.finite_singleton (some "CUR")).subset
    rintro cursor ⟨before, h⟩
    exact (hleads h).2
  apply (refresh_ends_iff sampleClient twoPageEndpoint c hfin).mpr
  intro cursor _ hcycle
  obtain ⟨_, hfirst, -⟩ := TransGen.head'_iff.mp hcycle
  obtain ⟨_, -, hlast⟩ := TransGen.tail'_iff.mp hcycle
  cases (hleads hfirst).1.symm.trans (hleads hlast).2

end CloudflareIpSync.Client
