/-
CloudflareIpSync/Accounts.lean

Which accounts the setup flow offers.

The accounts endpoint shows its accounts in pages, like the zones endpoint.
`async_get_zones` follows the pages; `async_get_accounts` sends one request, of
the first fifty.  So the setup offers every account exactly if no account comes
after these (`all_accounts_offered_iff`).
-/
import CloudflareIpSync.Pagination
import CloudflareIpSync.SetupFlow

namespace CloudflareIpSync.Flow

open Interact Python Client Client.CloudflareClient

variable {client : CloudflareClient} {server : HttpRequest → HttpAnswer} {raws : List Json}
  {render : Json → String} {token : String} {t : List HttpEv}

/-! ### The accounts endpoint -/

/-- The request for a page of accounts; without a page it is the one that
`async_get_accounts` sends. -/
def accountsRequest (client : CloudflareClient) (page : Option ℕ) : HttpRequest :=
  client.httpRequest "GET" "/accounts"
    (some (("per_page", "50") :: page.toList.map fun page => ("page", toString page))) none

/-- A server that shows accounts in pages of fifty, the first one by default. -/
structure ServesAccounts (client : CloudflareClient) (server : HttpRequest → HttpAnswer)
    (raws : List Json) : Prop where
  first : IsZonesPage (server (accountsRequest client none)) (raws.take 50)
    (pageCount raws.length 50)
  page : ∀ i, i < max 1 (pageCount raws.length 50) →
    IsZonesPage (server (accountsRequest client (some (i + 1)))) ((raws.drop (i * 50)).take 50)
      (pageCount raws.length 50)

/-- The account of an element, if it has an id. -/
def accountOf (client : CloudflareClient) : Json → Option CloudflareAccount
  | .obj fields =>
      if (Dict.get fields "id" .null).truthy then
        some ⟨client.str (Dict.get fields "id" .null),
          client.str (Dict.get fields "name" (.str ""))⟩
      else none
  | _ => none

theorem readAccounts_objects (h : ∀ raw ∈ raws, raw.isDict = true) :
    withId client.readAccount raws = .ok (raws.filterMap (accountOf client)) := by
  apply withId_objects h
  · intro fields hid
    exact ⟨_, by simp [readAccount, Json.item_of_truthy hid], if_pos hid⟩
  · intro fields hid
    exact if_neg (by simp [hid])

/-! ### What the flow offers -/

/-- `async_get_accounts` returns the accounts of the first page. -/
theorem getAccounts_first (hraws : ∀ raw ∈ raws, raw.isDict = true)
    (hserver : ServesAccounts client server raws) :
    client.receive "GET" "/accounts" (server (accountsRequest client none)) >>=
        (fun payload => requireList payload >>= fun result =>
          liftM (withId client.readAccount result)) =
      .ok ((raws.take 50).filterMap (accountOf client)) := by
  obtain ⟨payload, resultInfo, hserves, hresult, -, -⟩ := hserver.first
  have hfirst : ∀ raw ∈ raws.take 50, raw.isDict = true :=
    fun raw hraw => hraws raw (List.mem_of_mem_take hraw)
  rw [receive_of_serves hserves, ok_bind, requireList, hresult]
  simp [readAccounts_objects hfirst]

theorem traces_getAccounts_iff (hraws : ∀ raw ∈ raws, raw.isDict = true)
    (hserver : ServesAccounts client server raws)
    {out : Except ClientExc (List CloudflareAccount)} :
    (client.asyncGetAccounts.Traces t out ∧ ∀ e ∈ t, e.2 = server e.1) ↔
      t = [⟨accountsRequest client none, server (accountsRequest client none)⟩] ∧
        out = .ok ((raws.take 50).filterMap (accountOf client)) := by
  have hread := getAccounts_first hraws hserver
  constructor
  · rintro ⟨h, hanswers⟩
    obtain ⟨answer, t', rfl, hrest⟩ := Prog.traces_op_iff.mp h
    obtain ⟨rfl, rfl⟩ := Prog.traces_ret_iff.mp hrest
    have hanswer : answer = server (accountsRequest client none) := hanswers _ List.mem_cons_self
    rw [hanswer]
    exact ⟨rfl, hread⟩
  · rintro ⟨rfl, rfl⟩
    refine ⟨Prog.traces_op_iff.mpr ⟨_, [], rfl, Prog.traces_ret_iff.mpr ⟨rfl, hread.symm⟩⟩, ?_⟩
    intro e he
    rw [List.mem_singleton.mp he]

/-- The form that offers accounts, or the abort if there is none. -/
def accountChoice (data : TokenData) (accounts : List CloudflareAccount) : SetupResult :=
  if accounts = [] then .abort "no_accounts"
  else .showForm (.account data)
    [dropdownField confAccountId (accounts.map fun account => ⟨account.id, account.name⟩)] []

/-- The account step shows what `async_get_accounts` returns. -/
theorem asyncStepAccount_eq (data : TokenData) :
    asyncStepAccount data none = .op (.getAccounts data.apiToken) fun answer =>
      .ret (match answer with
        | .error (.cloudflare err) => .ok (.abort (errorKey err))
        | .error exc => .error exc
        | .ok accounts => .ok (accountChoice data accounts)) := by
  unfold asyncStepAccount
  rw [Prog.call_bind]
  congr 1
  funext answer
  rcases answer with (err | exc) | (- | ⟨account, accounts⟩)
  · rfl
  · rfl
  · rfl
  · rfl

theorem runs_stepAccount_iff (hraws : ∀ raw ∈ raws, raw.isDict = true)
    (hserver : ServesAccounts (apiClient render token) server raws)
    {r : Except ClientExc SetupResult} :
    (Runs render (asyncStepAccount ⟨token⟩ none) t r ∧ ∀ e ∈ t, e.2 = server e.1) ↔
      t = [⟨accountsRequest (apiClient render token) none,
        server (accountsRequest (apiClient render token) none)⟩] ∧
      r = .ok (accountChoice ⟨token⟩
        ((raws.take 50).filterMap (accountOf (apiClient render token)))) := by
  rw [asyncStepAccount_eq, Runs, Prog.via_single_iff]
  constructor
  · rintro ⟨⟨out, hcarried, rfl⟩, hanswers⟩
    obtain ⟨rfl, rfl⟩ := (traces_getAccounts_iff hraws hserver).mp ⟨hcarried, hanswers⟩
    exact ⟨rfl, rfl⟩
  · rintro ⟨rfl, rfl⟩
    obtain ⟨hcarried, hanswers⟩ := (traces_getAccounts_iff hraws hserver).mpr ⟨rfl, rfl⟩
    exact ⟨⟨_, hcarried, rfl⟩, hanswers⟩

/-- `async_get_accounts` returns `accounts`, and the account step offers all of
them, or aborts with `no_accounts` if there is none. -/
def AllAccountsOffered (render : Json → String) (token : String)
    (server : HttpRequest → HttpAnswer) (accounts : List CloudflareAccount) : Prop :=
  (∀ t out, (apiClient render token).asyncGetAccounts.Traces t out →
    (∀ e ∈ t, e.2 = server e.1) → out = .ok accounts) ∧
  ∀ t r, Runs render (asyncStepAccount ⟨token⟩ none) t r → (∀ e ∈ t, e.2 = server e.1) →
    r = .ok (accountChoice ⟨token⟩ accounts)

/-- **Every account can be chosen at setup**, of those that a server shows in
pages of fifty, exactly if no account with an id comes after the first fifty
elements. -/
theorem all_accounts_offered_iff (render : Json → String) (token : String)
    (server : HttpRequest → HttpAnswer) (raws : List Json)
    (hraws : ∀ raw ∈ raws, raw.isDict = true)
    (hserver : ServesAccounts (apiClient render token) server raws) :
    AllAccountsOffered render token server
        (raws.filterMap (accountOf (apiClient render token))) ↔
      (raws.drop 50).filterMap (accountOf (apiClient render token)) = [] := by
  have hsplit : raws.filterMap (accountOf (apiClient render token)) =
      (raws.take 50).filterMap (accountOf (apiClient render token)) ++
        (raws.drop 50).filterMap (accountOf (apiClient render token)) := by
    rw [← List.filterMap_append, List.take_append_drop]
  constructor
  · rintro ⟨hreturned, -⟩
    obtain ⟨h, hanswers⟩ := (traces_getAccounts_iff hraws hserver).mpr ⟨rfl, rfl⟩
    have hall := Except.ok.inj (hreturned _ _ h hanswers)
    rw [hsplit] at hall
    exact List.self_eq_append_right.mp hall
  · intro hrest
    rw [hrest, List.append_nil] at hsplit
    rw [hsplit]
    refine ⟨?_, ?_⟩
    · intro t out h hanswers
      exact ((traces_getAccounts_iff hraws hserver).mp ⟨h, hanswers⟩).2
    · intro t r h hanswers
      exact ((runs_stepAccount_iff hraws hserver).mp ⟨h, hanswers⟩).2

/-- The `i`-th of many accounts. -/
def accountRaw (i : ℕ) : Json := .obj [("id", .str (toString i)), ("name", .str "Home")]

/-- A server that shows `raws` in two pages at most. -/
def twoPages (raws : List Json) (request : HttpRequest) : HttpAnswer :=
  let info := [("total_pages", .int (pageCount raws.length 50))]
  match request.params with
  | some [_, ("page", "2")] => pageAnswer ((raws.drop 50).take 50) info
  | _ => pageAnswer (raws.take 50) info

theorem servesAccounts_twoPages {n : ℕ} (hn : n ≤ 100) :
    ServesAccounts client (twoPages ((List.range n).map accountRaw))
      ((List.range n).map accountRaw) := by
  have hserves : ∀ raws resultInfo, Serves (pageAnswer raws resultInfo)
      [("success", .bool true), ("result", .arr raws), ("result_info", .obj resultInfo)] :=
    fun raws resultInfo => ⟨200, rfl, rfl, by decide, rfl⟩
  refine ⟨⟨_, _, hserves _ _, rfl, rfl, rfl⟩, ?_⟩
  intro i hi
  have hcount : pageCount ((List.range n).map accountRaw).length 50 ≤ 2 := by
    rw [List.length_map, List.length_range, pageCount]
    omega
  obtain rfl | rfl : i = 0 ∨ i = 1 := by omega
  · exact ⟨_, _, hserves _ _, rfl, rfl, rfl⟩
  · exact ⟨_, _, hserves _ _, rfl, rfl, rfl⟩

theorem isDict_accountRaw {n : ℕ} : ∀ raw ∈ (List.range n).map accountRaw, raw.isDict = true := by
  intro raw hraw
  obtain ⟨i, -, rfl⟩ := List.mem_map.mp hraw
  rfl

/-- Fifty-one accounts: `async_get_accounts` returns fifty, and the setup offers
fifty. -/
theorem last_account_not_offered :
    let raws := (List.range 51).map accountRaw
    let client := apiClient (fun _ => "0.5") "token"
    ServesAccounts client (twoPages raws) raws ∧
      (raws.filterMap (accountOf client)).length = 51 ∧
      (∃ t out, client.asyncGetAccounts.Traces t (.ok out) ∧
        (∀ e ∈ t, e.2 = twoPages raws e.1) ∧ out.length = 50) ∧
      ∃ t options, Runs (fun _ => "0.5") (asyncStepAccount ⟨"token"⟩ none) t
          (.ok (.showForm (.account ⟨"token"⟩) [dropdownField confAccountId options] [])) ∧
        (∀ e ∈ t, e.2 = twoPages raws e.1) ∧ options.length = 50 := by
  intro raws client
  have hserver : ServesAccounts client (twoPages raws) raws :=
    servesAccounts_twoPages (by decide)
  have hfirst : ((raws.take 50).filterMap (accountOf client)).length = 50 := by decide +kernel
  obtain ⟨hget, hanswers⟩ := (traces_getAccounts_iff isDict_accountRaw hserver).mpr ⟨rfl, rfl⟩
  obtain ⟨hstep, hanswers'⟩ := (runs_stepAccount_iff isDict_accountRaw hserver).mpr ⟨rfl, rfl⟩
  refine ⟨hserver, by decide +kernel, ⟨_, _, hget, hanswers, hfirst⟩, ?_⟩
  have hsome : (raws.take 50).filterMap (accountOf client) ≠ [] := by
    intro hnil
    rw [hnil] at hfirst
    cases hfirst
  rw [accountChoice, if_neg hsome] at hstep
  exact ⟨_, _, hstep, hanswers', by rw [List.length_map, hfirst]⟩

/-- Two accounts are both offered. -/
theorem all_accounts_offered_two :
    let raws := (List.range 2).map accountRaw
    AllAccountsOffered (fun _ => "0.5") "token" (twoPages raws)
      [⟨"0", "Home"⟩, ⟨"1", "Home"⟩] := by
  intro raws
  have hserver : ServesAccounts (apiClient (fun _ => "0.5") "token") (twoPages raws) raws :=
    servesAccounts_twoPages (by decide)
  exact (all_accounts_offered_iff (fun _ => "0.5") "token" (twoPages raws) raws
    isDict_accountRaw hserver).mpr rfl

end CloudflareIpSync.Flow
