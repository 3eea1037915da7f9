import Mathlib.Data.List.Chain
import Mathlib.Data.List.Nodup
import GatewayProvisioning.Proofs.Transcript
import GatewayProvisioning.Proofs.Walk

/-!
# The rounds of a reset

A reset is made of rounds, one for each collection. In a round the pages of the collection come first,
each linked from the one before it, and then the deletions of what they have listed, in that order.
Whatever is refused is the last thing that has been asked, so a round begins only when the one before
it is finished.

Nothing is asked of the gateway: its replies are any row of replies.
-/

namespace GatewayProvisioning

open Dialogue Document

/-! ## What replies mean -/

namespace Exchange

/-- The page of ids that has come back, if there is one. -/
def page? (e : Exchange) : Option (Page IdEntry) :=
  match e.reply with
  | some (.ok r) =>
    if r.status = 200 then
      ((Page.codec IdEntry.codec).decode (Json.document r.body)).toOption
    else none
  | _ => none

/-- The ids that have come back. -/
def ids (e : Exchange) : List String :=
  (e.page?.map fun page => page.data.map (·.id)).getD []

/-- Whether the reply says that something has been deleted. -/
def deleted (e : Exchange) : Bool :=
  match e.reply with
  | some (.ok r) => [200, 201, 204].contains r.status
  | _ => false

/-- The request is for the page that the reply before it links to. -/
def LinksTo (c : AdminClient) (e next : Exchange) : Prop :=
  ∃ page link, e.page? = some page ∧ page.link? = some link ∧
    next.request = c.requestTo .get (c.resolve link)

end Exchange

/-! ## Rounds -/

/-- What has been said about a collection: its pages, and the deletions of its objects. -/
structure Round where
  collection : String
  pages : List Exchange
  deletions : List Exchange

namespace Round

/-- All that has been said, in its order: no page is asked for after a deletion. -/
def exchanges (round : Round) : List Exchange :=
  round.pages ++ round.deletions

/-- The ids that the pages list, in their order. -/
def listed (round : Round) : List String :=
  round.pages.flatMap Exchange.ids

/-- The last page links to no other. -/
def LastPage (pages : List Exchange) : Prop :=
  ∃ e page, pages.getLast? = some e ∧ e.page? = some page ∧ page.link? = none

/-- The request that deletes an object of a collection. -/
def deletion (c : AdminClient) (collection id : String) : Request :=
  c.requestTo .delete (c.url (collection ++ "/" ++ Url.encodeSegment id))

/-- The pages begin with that of the collection and follow their links, none of them twice. What has
been listed is deleted in its order, once the listing is complete, up to the first that is refused. -/
structure Sound (c : AdminClient) (round : Round) : Prop where
  first : round.pages.head?.map Exchange.request = some (c.requestTo .get (c.url round.collection))
  linked : round.pages.IsChain (Exchange.LinksTo c)
  fresh : (round.pages.map (·.request.url)).Nodup
  complete : round.deletions ≠ [] → LastPage round.pages
  inOrder : round.deletions.map Exchange.request <+: round.listed.map (deletion c round.collection)
  stops : ∀ e ∈ round.deletions.dropLast, e.deleted = true

/-- The listing is complete, and all that it lists has been deleted. -/
structure Finished (round : Round) : Prop where
  complete : LastPage round.pages
  all : round.deletions.length = round.listed.length
  deleted : ∀ e ∈ round.deletions, e.deleted = true

end Round

/-! ## The pages of a round -/

namespace Round

theorem lastPage_singleton {e : Exchange} :
    LastPage [e] ↔ ∃ page, e.page? = some page ∧ page.link? = none := by
  unfold LastPage
  simp

theorem lastPage_cons (e : Exchange) {pages : List Exchange} (h : pages ≠ []) :
    LastPage (e :: pages) ↔ LastPage pages := by
  unfold LastPage
  rw [List.getLast?_cons_of_ne_nil h]

end Round

namespace AdminClient

variable (c : AdminClient)

/-- What is read from a response is what the exchange says. -/
theorem readPage_cases (url : String) {e : Exchange} {r : Response} (h : e.reply = some (.ok r)) :
    (∃ failure, c.readPage url r = .error failure ∧ e.page? = none) ∨
    ∃ page, c.readPage url r = .ok (e.ids, page.link?.map c.resolve) ∧ e.page? = some page := by
  have hpage : e.page? = if r.status = 200 then
      ((Page.codec IdEntry.codec).decode (Json.document r.body)).toOption else none := by
    unfold Exchange.page?
    rw [h]
  unfold readPage Response.isOk decodeFrom
  by_cases h200 : r.status = 200
  · rw [if_pos h200] at hpage
    rcases hdecode : (Page.codec IdEntry.codec).decode (Json.document r.body) with fault | page
    · rw [hdecode] at hpage
      rw [h200]
      exact .inl ⟨.undecodable url (.document fault), rfl, hpage⟩
    · rw [hdecode] at hpage
      refine .inr ⟨page, ?_, hpage⟩
      unfold Exchange.ids
      rw [hpage, h200]
      rfl
  · rw [if_neg h200] at hpage
    have hstatus : (!r.status == 200) = true := by simpa using h200
    rw [if_pos hstatus]
    exact .inl ⟨.refused url r.status r.body, rfl, hpage⟩

/-- One page of a walk: what has come back is no page, it is the last one, or the walk goes on with
the page that it links to. -/
theorem walk_cons {visited : List String} {url : String} (hnew : url ∉ visited) (ids : List String)
    (reply : Reply) (replies : List Reply) {e : Exchange}
    (he : e = ⟨c.requestTo .get url, some reply⟩) :
    (e.page? = none ∧ (c.walk visited ids url).transcript (reply :: replies) = [e] ∧
      ∀ x rest, (c.walk visited ids url (reply :: replies)).ended ≠ some (.ok x, rest)) ∨
    (∃ page, e.page? = some page ∧ page.link? = none ∧
      (c.walk visited ids url).transcript (reply :: replies) = [e] ∧
      (c.walk visited ids url (reply :: replies)).ended = some (.ok (ids ++ e.ids), replies)) ∨
    ∃ page link, e.page? = some page ∧ page.link? = some link ∧
      (c.walk visited ids url).transcript (reply :: replies) =
        e :: (c.walk (visited ++ [url]) (ids ++ e.ids) (c.resolve link)).transcript replies ∧
      (c.walk visited ids url (reply :: replies)).ended =
        (c.walk (visited ++ [url]) (ids ++ e.ids) (c.resolve link) replies).ended := by
  rw [walk_of_new c hnew]
  rcases reply with reason | response
  · left
    subst he
    refine ⟨rfl, rfl, fun x rest hended => ?_⟩
    cases hended
  · have hsend : (Dialogue.send (c.requestTo .get url) (.ok response :: replies)).ended =
        some (.ok response, replies) := rfl
    obtain ⟨htranscript, hended⟩ :=
      bind_with_value (orderly_send _) (c.walkOn visited ids url) hsend
    rw [htranscript, transcript_send_cons, hended, ← he, List.singleton_append]
    unfold walkOn
    rcases c.readPage_cases url (congrArg Exchange.reply he) with ⟨failure, hread, hnone⟩ |
      ⟨page, hread, hpage⟩
    · simp only [hread]
      exact .inl ⟨hnone, rfl, fun x rest hfail => by cases hfail⟩
    · rcases hlink : page.link? with _ | link
      · simp only [hread, hlink, Option.map_none]
        exact .inr (.inl ⟨page, hpage, hlink, rfl, rfl⟩)
      · simp only [hread, hlink, Option.map_some]
        exact .inr (.inr ⟨page, link, hpage, hlink, rfl, rfl⟩)

/-- What a walk has come to: its value is what its pages list, once the last of them is there, and
until then it has none. -/
def WalkedTo (ids : List String) (pages : List Exchange)
    (ended : Option (Except Failure (List String) × List Reply)) : Prop :=
  (Round.LastPage pages ∧ ∃ rest, ended = some (.ok (ids ++ pages.flatMap Exchange.ids), rest)) ∨
    (¬Round.LastPage pages ∧ ∀ x rest, ended ≠ some (.ok x, rest))

theorem not_lastPage {e : Exchange} (h : e.page? = none) : ¬Round.LastPage [e] := by
  rw [Round.lastPage_singleton, h]
  rintro ⟨page, hpage, -⟩
  cases hpage

/-- The pages of a walk: they begin with an address and follow their links, none has been visited
before, and what they list is its value. -/
structure Walked (visited ids : List String) (url : String) (pages : List Exchange)
    (ended : Option (Except Failure (List String) × List Reply)) : Prop where
  first : pages.head?.map Exchange.request = some (c.requestTo .get url)
  linked : pages.IsChain (Exchange.LinksTo c)
  fresh : (visited ++ pages.map (·.request.url)).Nodup
  comes : WalkedTo ids pages ended

variable {c} {visited ids : List String} {url : String} {e : Exchange} {pages : List Exchange}
  {ended : Option (Except Failure (List String) × List Reply)}

theorem walked_singleton (he : e.request = c.requestTo .get url) (hfresh : (visited ++ [url]).Nodup)
    (hcomes : WalkedTo ids [e] ended) : c.Walked visited ids url [e] ended where
  first := congrArg some he
  linked := .singleton e
  fresh := by
    rw [List.map_singleton, he]
    exact hfresh
  comes := hcomes

/-- A page stands before the pages that it links to. -/
theorem Walked.cons {page : Page IdEntry} {link : String} (he : e.request = c.requestTo .get url)
    (hpage : e.page? = some page) (hlink : page.link? = some link)
    (h : c.Walked (visited ++ [url]) (ids ++ e.ids) (c.resolve link) pages ended) :
    c.Walked visited ids url (e :: pages) ended := by
  obtain ⟨hfirst, hlinked, hfresh, hcomes⟩ := h
  obtain ⟨next, rest, rfl⟩ : ∃ next rest, pages = next :: rest := by
    cases pages with
    | nil => cases hfirst
    | cons next rest => exact ⟨next, rest, rfl⟩
  have hurl : e.request.url = url := by rw [he, requestTo]
  refine ⟨congrArg some he, ?_, ?_, ?_⟩
  · exact .cons_cons ⟨page, link, hpage, hlink, Option.some.inj hfirst⟩ hlinked
  · rw [List.map_cons, hurl, ← List.singleton_append, ← List.append_assoc]
    exact hfresh
  · unfold WalkedTo at hcomes ⊢
    rw [Round.lastPage_cons e (List.cons_ne_nil next rest), List.flatMap_cons, ← List.append_assoc]
    exact hcomes

variable (c)

/-- The induction is on the replies. The invariant is that no page is asked for twice. -/
theorem walk_transcript (replies : List Reply) (visited ids : List String) (url : String)
    (hfresh : (visited ++ [url]).Nodup) :
    c.Walked visited ids url ((c.walk visited ids url).transcript replies)
      (c.walk visited ids url replies).ended := by
  have hnew : url ∉ visited := fun hmem =>
    (List.nodup_append.mp hfresh).2.2 url hmem url List.mem_cons_self rfl
  induction replies generalizing visited ids url with
  | nil =>
    rw [walk_of_new c hnew]
    refine walked_singleton rfl hfresh (.inr ⟨not_lastPage rfl, fun x rest hended => ?_⟩)
    cases hended
  | cons reply replies ih =>
    generalize he : (⟨c.requestTo .get url, some reply⟩ : Exchange) = e
    have hrequest : e.request = c.requestTo .get url := by rw [← he]
    rcases c.walk_cons hnew ids reply replies he.symm with ⟨hnone, hpages, hended⟩ |
      ⟨page, hpage, hlast, hpages, hended⟩ | ⟨page, link, hpage, hlink, hpages, hended⟩
    · rw [hpages]
      exact walked_singleton hrequest hfresh (.inr ⟨not_lastPage hnone, hended⟩)
    · rw [hpages, hended]
      refine walked_singleton hrequest hfresh (.inl ⟨?_, replies, ?_⟩)
      · exact Round.lastPage_singleton.mpr ⟨page, hpage, hlast⟩
      · rw [List.flatMap_singleton]
    · rw [hpages, hended]
      by_cases hagain : c.resolve link ∈ visited ++ [url]
      · -- the walk ends here, but not with a last page
        rw [walk_of_visited c hagain]
        refine walked_singleton hrequest hfresh (.inr ⟨?_, fun x rest hfail => by cases hfail⟩)
        rw [Round.lastPage_singleton, hpage]
        rintro ⟨other, hother, hnone⟩
        cases hother
        rw [hlink] at hnone
        cases hnone
      · have hnext : ((visited ++ [url]) ++ [c.resolve link]).Nodup :=
          List.nodup_append.mpr ⟨hfresh, List.nodup_singleton _, fun a ha b hb heq =>
            hagain (List.mem_singleton.mp hb ▸ heq ▸ ha)⟩
        exact .cons hrequest hpage hlink (ih _ (ids ++ e.ids) _ hnext hagain)

end AdminClient

/-! ## The deletions of a round -/

namespace AdminClient

variable (c : AdminClient) {collection : String}

/-- What has been said about the deletion of objects: they come in their order, up to the first that is
refused, and if none is refused there is a value. -/
structure Removed (collection : String) (ids : List String) (deletions : List Exchange)
    (ended : Option (Except Failure Unit × List Reply)) : Prop where
  inOrder : deletions.map Exchange.request <+: ids.map (Round.deletion c collection)
  stops : ∀ e ∈ deletions.dropLast, e.deleted = true
  done : (deletions.length = ids.length ∧ ∀ e ∈ deletions, e.deleted = true) ↔
    ∃ rest, ended = some (.ok (), rest)

variable {c} {id : String} {ids : List String} {e : Exchange} {deletions : List Exchange}
  {ended : Option (Except Failure Unit × List Reply)}

theorem Removed.cons (hrequest : e.request = Round.deletion c collection id)
    (hdeleted : e.deleted = true) (h : c.Removed collection ids deletions ended) :
    c.Removed collection (id :: ids) (e :: deletions) ended := by
  obtain ⟨horder, hstops, hdone⟩ := h
  refine ⟨?_, ?_, ?_⟩
  · rw [List.map_cons, List.map_cons, hrequest, List.prefix_cons_inj]
    exact horder
  · rcases deletions with _ | ⟨next, deletions⟩
    · exact List.forall_mem_nil _
    · rw [List.dropLast_cons_of_ne_nil (List.cons_ne_nil _ _)]
      exact List.forall_mem_cons.mpr ⟨hdeleted, hstops⟩
  · rw [← hdone]
    simp [hdeleted]

variable (c)

end AdminClient

/-! ## All rounds -/

namespace Provisioning

variable (c : AdminClient)

/-- What has been said about collections: a round for each, in their order, up to the first that is not
finished, and if all are finished there is a value. -/
structure Emptied (collections : List String) (rounds : List Round)
    (ended : Option (Except Failure Unit × List Reply)) : Prop where
  inOrder : rounds.map Round.collection <+: collections
  sound : ∀ round ∈ rounds, round.Sound c
  finished : ∀ round ∈ rounds.dropLast, round.Finished
  done : (rounds.map Round.collection = collections ∧ ∀ round ∈ rounds, round.Finished) ↔
    ∃ rest, ended = some (.ok (), rest)

variable {c} {collections : List String} {round : Round} {rounds : List Round}
  {ended : Option (Except Failure Unit × List Reply)}

theorem Emptied.cons (hsound : round.Sound c) (hfinished : round.Finished)
    (h : Emptied c collections rounds ended) :
    Emptied c (round.collection :: collections) (round :: rounds) ended := by
  obtain ⟨horder, hsounds, hfinish, hdone⟩ := h
  refine ⟨?_, List.forall_mem_cons.mpr ⟨hsound, hsounds⟩, ?_, ?_⟩
  · rw [List.map_cons, List.prefix_cons_inj]
    exact horder
  · rcases rounds with _ | ⟨next, rounds⟩
    · exact List.forall_mem_nil _
    · rw [List.dropLast_cons_of_ne_nil (List.cons_ne_nil _ _)]
      exact List.forall_mem_cons.mpr ⟨hfinished, hfinish⟩
  · rw [← hdone]
    simp [hfinished]

variable (c)

end Provisioning

/-! ## Nothing follows a refusal -/

namespace Round

variable {c : AdminClient} {round : Round}

theorem get_of_linked {e : Exchange} {pages : List Exchange}
    (hlinked : (e :: pages).IsChain (Exchange.LinksTo c)) (hfirst : e.request.method = .get) :
    ∀ other ∈ e :: pages, other.request.method = .get := by
  induction pages generalizing e with
  | nil => exact List.forall_mem_singleton.mpr hfirst
  | cons next pages ih =>
    obtain ⟨⟨page, link, -, -, hnext⟩, hrest⟩ := List.isChain_cons_cons.mp hlinked
    refine List.forall_mem_cons.mpr ⟨hfirst, ih hrest ?_⟩
    rw [hnext]
    rfl

theorem page_of_linked {pages : List Exchange} (hlinked : pages.IsChain (Exchange.LinksTo c)) :
    ∀ e ∈ pages.dropLast, e.page?.isSome = true := by
  induction pages with
  | nil => exact List.forall_mem_nil _
  | cons e pages ih =>
    rcases pages with _ | ⟨next, pages⟩
    · exact List.forall_mem_nil _
    · obtain ⟨⟨page, link, hpage, -, -⟩, hrest⟩ := List.isChain_cons_cons.mp hlinked
      rw [List.dropLast_cons_of_ne_nil (List.cons_ne_nil _ _)]
      exact List.forall_mem_cons.mpr ⟨by rw [hpage]; rfl, ih hrest⟩

theorem Sound.pages_ne_nil (h : round.Sound c) : round.pages ≠ [] := by
  intro hnil
  have hfirst := h.first
  rw [hnil] at hfirst
  cases hfirst

theorem Sound.get (h : round.Sound c) : ∀ e ∈ round.pages, e.request.method = .get := by
  have hfirst := h.first
  have hlinked := h.linked
  rcases hpages : round.pages with _ | ⟨e, pages⟩
  · exact absurd hpages h.pages_ne_nil
  · rw [hpages] at hfirst hlinked
    refine get_of_linked hlinked ?_
    rw [Option.some.inj hfirst]
    rfl

theorem Sound.delete (h : round.Sound c) : ∀ e ∈ round.deletions, e.request.method = .delete := by
  intro e he
  obtain ⟨id, -, hid⟩ := List.mem_map.mp (h.inOrder.subset (List.mem_map_of_mem he))
  rw [← hid]
  rfl

end Round

namespace Provisioning

variable (p : Provisioning) (files : FileSource)

end Provisioning

end GatewayProvisioning
