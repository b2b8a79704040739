/-
CloudflareIpSync/Pagination.lean

The two paginated reads of the client are pagers.

`async_get_list_items` follows cursors and stops at a page that names none;
`async_get_zones` counts pages and stops when it has reached the number that the
latest response gives.  Against a server that shows a list in pages, both make
one request a page and return every element that counts, in order; against any
answers, a page that raises makes the whole read raise (`paginated_reads`).
-/
import CloudflareIpSync.ClientErrors
import CloudflareIpSync.ListReads
import CloudflareIpSync.Paging

namespace CloudflareIpSync.Client

open Interact Python CloudflareClient

variable {client : CloudflareClient} {accountId listId : String}

/-! ### The items of a page -/

/-- What `async_get_list_items` makes of one response. -/
def itemsPage (client : CloudflareClient) (accountId listId : String) (answer : HttpAnswer) :
    Except ClientExc (List CloudflareListItem × Option String) := do
  let payload ← client.receive "GET" (itemsPath accountId listId) answer
  let items ← client.collectItems [] (← requireList payload)
  return (items, client.nextCursor payload)

/-- `async_get_list_items` as a pager. -/
def itemsPager (client : CloudflareClient) (accountId listId : String) :
    Pager HttpRequest HttpAnswer (Option String) (Option String) CloudflareListItem ClientExc where
  request := itemsRequest client accountId listId
  page := itemsPage client accountId listId
  follow _ cursor := cursor.map some

theorem collectItems_append (items : List CloudflareListItem) (raws : List Json) :
    client.collectItems items raws = (client.collectItems [] raws).map (items ++ ·) := by
  induction raws generalizing items with
  | nil => simp [collectItems, Except.map]
  | cons raw rest ih =>
      cases raw with
      | obj fields =>
          simp only [collectItems, Json.get_obj, ok_bind]
          split
          · exact ih items
          · rw [ih, ih ([] ++ _)]
            rcases client.collectItems [] rest with exc | more
            · rfl
            · simp [Except.map]
      | null | bool | int | float | str | arr => rfl

theorem listItemsBody_pager :
    client.listItemsBody accountId listId = (itemsPager client accountId listId).body := by
  funext s
  rw [listItemsBody_eq, Pager.body_eq]
  congr 1
  funext answer
  show Prog.ret (client.itemsRound s.1
    (client.receive "GET" (itemsPath accountId listId) answer)) = _
  simp only [itemsRound, Pager.next, itemsPager, itemsPage]
  rcases client.receive "GET" (itemsPath accountId listId) answer with exc | payload
  · rfl
  rw [ok_bind, ok_bind]
  rcases requireList payload with exc | raws
  · rfl
  rw [ok_bind, ok_bind, collectItems_append]
  rcases client.collectItems [] raws with exc | items
  · rfl
  rcases client.nextCursor payload with - | cursor
  · rfl
  · rfl

/-- The item of an element, if it has an IP. -/
def itemOf (client : CloudflareClient) : Json → Option CloudflareListItem
  | .obj fields =>
      match Dict.get fields "ip" .null with
      | .null => none
      | ip => some ⟨client.str ip, Dict.get fields "id" .null, Dict.get fields "comment" .null⟩
  | _ => none

theorem collectItems_objects {raws : List Json} (h : ∀ raw ∈ raws, raw.isDict = true)
    (items : List CloudflareListItem) :
    client.collectItems items raws = .ok (items ++ raws.filterMap (itemOf client)) := by
  induction raws generalizing items with
  | nil => simp [collectItems]
  | cons raw rest ih =>
      rw [List.forall_mem_cons] at h
      cases raw with
      | obj fields =>
          simp only [collectItems, Json.get_obj, ok_bind, List.filterMap_cons, itemOf]
          generalize Dict.get fields "ip" .null = ip
          cases ip with
          | null => exact ih h.2 items
          | bool | int | float | str | arr | obj => simp [ih h.2]
      | null | bool | int | float | str | arr => cases h.1

/-! ### The zones of a page -/

/-- What `async_get_zones` makes of one response. -/
def zonesPage (client : CloudflareClient) (answer : HttpAnswer) :
    Except ClientExc (List CloudflareZone × ℤ) := do
  let payload ← client.receive "GET" "/zones" answer
  let zones ← withId client.readZone (← requireList payload)
  let total ← totalPages payload
  return (zones, total)

/-- `async_get_zones` as a pager. -/
def zonesPager (client : CloudflareClient) :
    Pager HttpRequest HttpAnswer ℕ ℤ CloudflareZone ClientExc where
  request := zonesRequest client
  page := zonesPage client
  follow page total := if total ≤ page then none else some (page + 1)

theorem zonesBody_pager : client.zonesBody = (zonesPager client).body := by
  funext s
  rw [zonesBody_eq, Pager.body_eq]
  congr 1
  funext answer
  show Prog.ret (client.zonesRound s.1 s.2 (client.receive "GET" "/zones" answer)) = _
  simp only [zonesRound, Pager.next, zonesPager, zonesPage]
  rcases client.receive "GET" "/zones" answer with exc | payload
  · rfl
  rw [ok_bind, ok_bind]
  rcases requireList payload with exc | raws
  · rfl
  rw [ok_bind, ok_bind]
  rcases withId client.readZone raws with exc | zones
  · rfl
  rcases totalPages payload with exc | total
  · rfl
  simp only [lift_ok, ok_bind, pure_eq_ok]
  split
  · rfl
  · rfl

/-- The zone of an element, if it has an id. -/
def zoneOf (client : CloudflareClient) : Json → Option CloudflareZone
  | .obj fields =>
      if (Dict.get fields "id" .null).truthy then
        some ⟨client.str (Dict.get fields "id" .null),
          client.str (Dict.get fields "name" (.str ""))⟩
      else none
  | _ => none

/-- Of objects, those with an id are read. -/
theorem withId_objects {α : Type} {build : Json → Except Exc α} {of : Json → Option α}
    {raws : List Json} (h : ∀ raw ∈ raws, raw.isDict = true)
    (hread : ∀ fields, (Dict.get fields "id" .null).truthy = true →
      ∃ a, build (.obj fields) = .ok a ∧ of (.obj fields) = some a)
    (hskip : ∀ fields, (Dict.get fields "id" .null).truthy = false → of (.obj fields) = none) :
    withId build raws = .ok (raws.filterMap of) := by
  induction raws with
  | nil => rfl
  | cons raw rest ih =>
      rw [List.forall_mem_cons] at h
      cases raw with
      | obj fields =>
          rw [withId, Json.get_obj, ok_bind, ih h.2, List.filterMap_cons]
          rcases hid : (Dict.get fields "id" .null).truthy with - | -
          · rw [hskip fields hid]
            rfl
          · obtain ⟨a, hbuild, hof⟩ := hread fields hid
            rw [hbuild, hof]
            rfl
      | null | bool | int | float | str | arr => cases h.1

theorem readZones_objects {raws : List Json} (h : ∀ raw ∈ raws, raw.isDict = true) :
    withId client.readZone raws = .ok (raws.filterMap (zoneOf client)) := by
  apply withId_objects h
  · intro fields hid
    exact ⟨_, by simp [readZone, Json.item_of_truthy hid], if_pos hid⟩
  · intro fields hid
    exact if_neg (by simp [hid])

/-- An accepted response with a payload. -/
def Serves (answer : HttpAnswer) (payload : Dict) : Prop :=
  ∃ status, answer = .response status (.json (.obj payload)) ∧ ErrorsReadable payload ∧
    Accepted status payload

theorem receive_of_serves {method path : String} {answer : HttpAnswer} {payload : Dict}
    (h : Serves answer payload) : client.receive method path answer = .ok payload := by
  obtain ⟨status, rfl, hreadable, haccepted⟩ := h
  obtain ⟨message, hreceive⟩ := receive_payload client method path status hreadable
  rw [hreceive, (statusError_eq_none message).mpr haccepted]

/-- A page of list items: the elements it shows, and the cursor of the next page. -/
def IsItemsPage (client : CloudflareClient) (answer : HttpAnswer) (raws : List Json)
    (cursor : Option String) : Prop :=
  ∃ payload, Serves answer payload ∧ payload.get "result" .null = .arr raws ∧
    (∀ raw ∈ raws, raw.isDict = true) ∧ client.nextCursor payload = cursor

/-- The pages that a server shows of a Rule List, from a cursor on: each with the
cursor that leads to it and the elements it shows. -/
inductive ItemsChain (client : CloudflareClient) (server : HttpRequest → HttpAnswer)
    (accountId listId : String) : Option String → List (Option String × List Json) → Prop
  | last {cursor : Option String} {raws : List Json} :
      IsItemsPage client (server (itemsRequest client accountId listId cursor)) raws none →
      ItemsChain client server accountId listId cursor [(cursor, raws)]
  | more {cursor : Option String} {after : String} {raws : List Json}
      {rest : List (Option String × List Json)} :
      IsItemsPage client (server (itemsRequest client accountId listId cursor)) raws (some after) →
      ItemsChain client server accountId listId (some after) rest →
      ItemsChain client server accountId listId cursor ((cursor, raws) :: rest)

/-- A page of zones: the elements it shows, and how many pages there are. -/
def IsZonesPage (answer : HttpAnswer) (raws : List Json) (total : ℕ) : Prop :=
  ∃ payload resultInfo, Serves answer payload ∧ payload.get "result" .null = .arr raws ∧
    payload.get "result_info" .null = .obj resultInfo ∧
    Dict.get resultInfo "total_pages" (.int 1) = .int total

/-- How many pages of `p` zones there are. -/
def pageCount (n p : ℕ) : ℕ := (n + p - 1) / p

/-- A server that shows `zones` in pages of `p`. -/
def ServesZones (client : CloudflareClient) (server : HttpRequest → HttpAnswer)
    (zones : List Json) (p : ℕ) : Prop :=
  ∀ i, i < max 1 (pageCount zones.length p) →
    IsZonesPage (server (zonesRequest client (i + 1))) ((zones.drop (i * p)).take p)
      (pageCount zones.length p)

theorem itemsPage_of_isItemsPage {answer : HttpAnswer} {raws : List Json}
    {cursor : Option String} (h : IsItemsPage client answer raws cursor) :
    itemsPage client accountId listId answer =
      .ok (raws.filterMap (itemOf client), cursor) := by
  obtain ⟨payload, hserves, hresult, hraws, rfl⟩ := h
  rw [itemsPage, receive_of_serves hserves, ok_bind, requireList, hresult]
  simp [collectItems_objects hraws]

theorem chain_of_itemsChain {server : HttpRequest → HttpAnswer} {cursor : Option String}
    {pages : List (Option String × List Json)}
    (h : ItemsChain client server accountId listId cursor pages) :
    (itemsPager client accountId listId).Chain server cursor
      (pages.map fun page => (page.1, page.2.filterMap (itemOf client))) := by
  induction h with
  | last hpage => exact .last (itemsPage_of_isItemsPage hpage) rfl
  | more hpage _ ih => exact .more (itemsPage_of_isItemsPage hpage) rfl ih

theorem zonesPage_of_isZonesPage {answer : HttpAnswer} {raws : List Json} {total : ℕ}
    (h : IsZonesPage answer raws total) (hraws : ∀ raw ∈ raws, raw.isDict = true) :
    zonesPage client answer = .ok (raws.filterMap (zoneOf client), max (total : ℤ) 1) := by
  obtain ⟨payload, resultInfo, hserves, hresult, hinfo, htotal⟩ := h
  rw [zonesPage, receive_of_serves hserves, ok_bind, requireList, hresult]
  simp [readZones_objects hraws, totalPages, hinfo, htotal, Json.toInt]

/-- The last pages of a server that shows `zones` in pages of `p`. -/
theorem chain_of_servesZones {server : HttpRequest → HttpAnswer} {zones : List Json} {p : ℕ}
    (hzones : ∀ zone ∈ zones, zone.isDict = true) (h : ServesZones client server zones p)
    {m i : ℕ} (hm : i + m + 1 = max 1 (pageCount zones.length p)) :
    (zonesPager client).Chain server (i + 1) ((List.range' i (m + 1)).map fun i =>
      (i + 1, ((zones.drop (i * p)).take p).filterMap (zoneOf client))) := by
  have hpage : ∀ i, i < max 1 (pageCount zones.length p) →
      (zonesPager client).page (server (zonesRequest client (i + 1))) =
        .ok (((zones.drop (i * p)).take p).filterMap (zoneOf client),
          max (pageCount zones.length p : ℤ) 1) := by
    intro i hi
    apply zonesPage_of_isZonesPage (h i hi)
    intro raw hraw
    exact hzones raw (List.mem_of_mem_drop (List.mem_of_mem_take hraw))
  induction m generalizing i with
  | zero =>
      apply Pager.Chain.last (hpage i (by omega))
      show (if max (pageCount zones.length p : ℤ) 1 ≤ ((i + 1 : ℕ) : ℤ) then none else _) = none
      rw [if_pos (by omega)]
  | succ m ih =>
      rw [List.range'_succ, List.map_cons]
      apply Pager.Chain.more (hpage i (by omega)) _ (ih (by omega))
      show (if max (pageCount zones.length p : ℤ) 1 ≤ ((i + 1 : ℕ) : ℤ) then none else _) = _
      rw [if_neg (by omega)]

/-- Consecutive slices make up the list. -/
theorem flatMap_slices {α β : Type} (f : α → Option β) (xs : List α) (p i m : ℕ) :
    (List.range' i m).flatMap (fun i => ((xs.drop (i * p)).take p).filterMap f) =
      ((xs.drop (i * p)).take (m * p)).filterMap f := by
  induction m generalizing i with
  | zero => simp
  | succ m ih =>
      rw [List.range'_succ, List.flatMap_cons, ih, ← List.filterMap_append, add_mul, one_mul,
        add_mul, one_mul, add_comm (m * p) p, List.take_add, List.drop_drop]

theorem le_pageCount_mul {n p : ℕ} (hp : 0 < p) : n ≤ max 1 (pageCount n p) * p := by
  have hdiv := Nat.div_add_mod (n + p - 1) p
  have hmod := Nat.mod_lt (n + p - 1) hp
  have hmax : pageCount n p * p ≤ max 1 (pageCount n p) * p :=
    Nat.mul_le_mul_right p (le_max_right 1 (pageCount n p))
  have hcount : p * ((n + p - 1) / p) = pageCount n p * p := Nat.mul_comm _ _
  omega

/-! ### Paginated reads -/

/-- A refresh finds the list in sync only by a read of it that returned. -/
theorem mem_reads_of_inSync {c : Coordinator} {t : List Ev} {s : SyncState}
    (h : (asyncUpdateData c).Traces t (.ok s)) (hsync : s.inSync = true) :
    s.cloudflareIps ∈ reads t ∧ isInSync s.localIp s.cloudflareIps = true := by
  obtain ⟨tl, td, list, dns, lastSynced, hlist, hdns, rfl, rfl⟩ := refresh_returned h
  rcases (listRun_of_traces hlist).reads_ok with ⟨-, hlast, hmatch⟩ | ⟨hfalse, -⟩
  · rw [reads_dnsHalf hdns]
    exact ⟨List.mem_of_getLast? hlast, hmatch⟩
  · exact absurd (hfalse.symm.trans hsync) Bool.false_ne_true

/-- **Paginated reads lose, duplicate and reorder nothing, and are all or
nothing.**  A Rule List shown in pages that are chained by cursors, and zones
shown in pages of any size, are read with one request a page and returned in
order.  Against any answers, the response to a page that raises ends the read
with that exception, and a read that returns has read every page.  A refresh
judges the list in sync only by a read that returned. -/
theorem paginated_reads (client : CloudflareClient) (server : HttpRequest → HttpAnswer) :
    (∀ accountId listId pages, ItemsChain client server accountId listId none pages →
      ∀ t out, (client.AsyncGetListItems accountId listId t out ∧ ∀ e ∈ t, e.2 = server e.1) ↔
        t = pages.map (fun page => (itemsPager client accountId listId).ask server page.1) ∧
          out = .ok (pages.flatMap fun page => page.2.filterMap (itemOf client))) ∧
    (∀ zones p, 0 < p → (∀ zone ∈ zones, zone.isDict = true) →
      ServesZones client server zones p →
      ∀ t out, (client.AsyncGetZones t out ∧ ∀ e ∈ t, e.2 = server e.1) ↔
        t = (List.range (max 1 (pageCount zones.length p))).map
            (fun i => (zonesPager client).ask server (i + 1)) ∧
          out = .ok (zones.filterMap (zoneOf client))) ∧
    (∀ accountId listId, (itemsPager client accountId listId).AllOrNothing
      (client.AsyncGetListItems accountId listId)) ∧
    (zonesPager client).AllOrNothing client.AsyncGetZones ∧
    ∀ c t s, (asyncUpdateData c).Traces t (.ok s) → s.inSync = true →
      s.cloudflareIps ∈ reads t ∧ isInSync s.localIp s.cloudflareIps = true := by
  refine ⟨?_, ?_, ?_, ?_, fun c t s => mem_reads_of_inSync⟩
  · intro accountId listId pages hchain t out
    have hrun := Pager.run_iff (chain_of_itemsChain hchain) [] t out
    rw [AsyncGetListItems, listItemsBody_pager, hrun, List.map_map, List.nil_append,
      List.flatMap_map]
    rfl
  · intro zones p hp hzones hserver t out
    have hcount : 0 + (max 1 (pageCount zones.length p) - 1) + 1 =
        max 1 (pageCount zones.length p) := by omega
    have hrun := Pager.run_iff (chain_of_servesZones hzones hserver hcount) [] t out
    have hslices := flatMap_slices (zoneOf client) zones p 0 (max 1 (pageCount zones.length p))
    rw [zero_mul, List.drop_zero, List.take_of_length_le (le_pageCount_mul hp)] at hslices
    rw [Nat.sub_add_cancel (le_max_left 1 _)] at hrun
    rw [AsyncGetZones, zonesBody_pager, hrun, List.map_map, List.nil_append, List.flatMap_map,
      hslices, List.range_eq_range']
    rfl
  · intro accountId listId
    rw [AsyncGetListItems, listItemsBody_pager]
    exact Pager.allOrNothing none
  · rw [AsyncGetZones, zonesBody_pager]
    exact Pager.allOrNothing 1

/-- An accepted page. -/
def pageAnswer (raws : List Json) (resultInfo : Dict) : HttpAnswer :=
  .response 200 (.json (.obj [("success", .bool true), ("result", .arr raws),
    ("result_info", .obj resultInfo)]))

def zoneRaw (id : String) : Json := .obj [("id", .str id), ("name", .str "home.example")]

/-- Two pages of items, the second without an IP in its first element, and three
zones in pages of two. -/
def twoPageServer (request : HttpRequest) : HttpAnswer :=
  match request.params with
  | some [_, ("cursor", "CUR")] =>
      pageAnswer [.obj [("id", .str "2")], .obj [("ip", .str "203.0.113.7")]] []
  | some [_, ("page", "1")] =>
      pageAnswer [zoneRaw "z1", zoneRaw "z2"] [("total_pages", .int 2)]
  | some [_, ("page", "2")] => pageAnswer [zoneRaw "z3"] [("total_pages", .int 2)]
  | _ =>
      pageAnswer [.obj [("ip", .str "198.51.100.1")]]
        [("cursors", .obj [("after", .str "CUR")])]

theorem paginated_reads_two_pages :
    (∃ t, sampleClient.AsyncGetListItems "acc" "list" t
      (.ok [⟨"198.51.100.1", .null, .null⟩, ⟨"203.0.113.7", .null, .null⟩]) ∧ t.length = 2) ∧
    ∃ t, sampleClient.AsyncGetZones t
      (.ok [⟨"z1", "home.example"⟩, ⟨"z2", "home.example"⟩, ⟨"z3", "home.example"⟩]) ∧
      t.length = 2 := by
  have hserves : ∀ raws resultInfo, Serves (pageAnswer raws resultInfo)
      [("success", .bool true), ("result", .arr raws), ("result_info", .obj resultInfo)] :=
    fun raws resultInfo => ⟨200, rfl, rfl, by decide, rfl⟩
  obtain ⟨hitems, hzones, -⟩ := paginated_reads sampleClient twoPageServer
  constructor
  · have hfirst : IsItemsPage sampleClient
        (twoPageServer (itemsRequest sampleClient "acc" "list" none))
        [.obj [("ip", .str "198.51.100.1")]] (some "CUR") :=
      ⟨_, hserves _ _, rfl, by simp [Json.isDict], rfl⟩
    have hsecond : IsItemsPage sampleClient
        (twoPageServer (itemsRequest sampleClient "acc" "list" (some "CUR")))
        [.obj [("id", .str "2")], .obj [("ip", .str "203.0.113.7")]] none :=
      ⟨_, hserves _ _, rfl, by simp [Json.isDict], rfl⟩
    have hrun := (hitems "acc" "list" _ (.more hfirst (.last hsecond)) _ _).mpr ⟨rfl, rfl⟩
    exact ⟨_, hrun.1, rfl⟩
  · have hserver : ServesZones sampleClient twoPageServer
        [zoneRaw "z1", zoneRaw "z2", zoneRaw "z3"] 2 := by
      intro i hi
      have hi : i = 0 ∨ i = 1 := by
        have hcount : max 1 (pageCount 3 2) = 2 := by decide
        have : i < 2 := hcount ▸ hi
        omega
      rcases hi with rfl | rfl
      · exact ⟨_, _, hserves _ _, rfl, rfl, rfl⟩
      · exact ⟨_, _, hserves _ _, rfl, rfl, rfl⟩
    have hdicts : ∀ zone ∈ [zoneRaw "z1", zoneRaw "z2", zoneRaw "z3"], zone.isDict = true := by
      simp [zoneRaw, Json.isDict]
    have hrun := (hzones _ 2 (by decide) hdicts hserver _ _).mpr ⟨rfl, rfl⟩
    exact ⟨_, hrun.1, rfl⟩

end CloudflareIpSync.Client
