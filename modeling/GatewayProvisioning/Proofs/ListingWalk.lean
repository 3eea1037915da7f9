import Mathlib.Data.Finset.Card
import GatewayProvisioning.Proofs.ResetRounds

/-!
# The listing of a collection

A listing is complete, free of loops and bounded. It asks for pages only, for none of them twice, and
each is the one that the page before it links to. It has a value exactly if the last page links to no
other, and the value is what the pages list, in their order. A link to a page that has been fetched is
a failure of its own, and since that is so the number of addresses bounds the number of requests.

The replies are any row of replies, so pages may change while they are listed.
-/

namespace GatewayProvisioning

open Dialogue

/-- A page without a next one: its link is missing, null or empty. -/
theorem Page.link?_eq_none {α : Type} {page : Page α} :
    page.link? = none ↔ page.next = none ∨ page.next = some "" := by
  unfold Page.link?
  rcases page.next with _ | link
  · simp
  · simp [Option.filter]

namespace AdminClient

variable (c : AdminClient)

/-! ## How a walk ends -/

/-- A page is read, it is refused, or its text is no page: that a link has been visited is not said
of what has come back. -/
theorem readPage_not_visited {url : String} {r : Response} {failure : Failure}
    (h : c.readPage url r = .error failure) (link : String) :
    failure ≠ .undecodable link .linkVisited := by
  unfold readPage at h
  by_cases hok : r.isOk = true
  · rw [if_neg (by simpa using hok)] at h
    rcases hdecode : decodeFrom (Page.codec IdEntry.codec) url r.body with fault | page
    · rw [hdecode] at h
      unfold decodeFrom at hdecode
      rcases hread : (Page.codec IdEntry.codec).decode (Json.document r.body) with e | page <;>
        rw [hread] at hdecode <;> cases hdecode
      cases h
      simp
    · rw [hdecode] at h
      cases h
  · rw [if_pos (by simpa using hok)] at h
    cases h
    simp

/-- What a walk has come to, by its last exchange: the reply is still missing, there is no next page,
the next page has been visited, or what has come back is no page. -/
inductive Settled (visited ids : List String) (pages : List Exchange) :
    Option (Except Failure (List String) × List Reply) → Prop
  | waits {e : Exchange} (last : pages.getLast? = some e) (missing : e.reply = none) :
    Settled visited ids pages none
  | ends (rest : List Reply) (complete : Round.LastPage pages) :
    Settled visited ids pages (some (.ok (ids ++ pages.flatMap Exchange.ids), rest))
  | again {e : Exchange} {page : Page IdEntry} {link : String} (rest : List Reply)
      (last : pages.getLast? = some e) (read : e.page? = some page) (next : page.link? = some link)
      (known : c.resolve link ∈ visited ++ pages.map (·.request.url)) :
    Settled visited ids pages (some (.error (.undecodable (c.resolve link) .linkVisited), rest))
  | fails {e : Exchange} {failure : Failure} (rest : List Reply) (last : pages.getLast? = some e)
      (unread : e.page? = none) (other : ∀ url, failure ≠ .undecodable url .linkVisited) :
    Settled visited ids pages (some (.error failure, rest))

variable {c} {visited ids : List String} {e : Exchange} {pages : List Exchange}
  {ended : Option (Except Failure (List String) × List Reply)}

theorem Settled.ne_nil (h : c.Settled visited ids pages ended) : pages ≠ [] := by
  rintro rfl
  cases h with
  | waits last missing => cases last
  | ends rest complete =>
    obtain ⟨last, page, hlast, -⟩ := complete
    cases hlast
  | again rest last read next known => cases last
  | fails rest last unread other => cases last

/-- A walk that goes on from a page comes to what the rest of it comes to. -/
theorem Settled.cons (h : c.Settled (visited ++ [e.request.url]) (ids ++ e.ids) pages ended) :
    c.Settled visited ids (e :: pages) ended := by
  have hlast := List.getLast?_cons_of_ne_nil (x := e) h.ne_nil
  have hcomplete := Round.lastPage_cons e h.ne_nil
  cases h with
  | waits last missing => exact .waits (hlast.trans last) missing
  | ends rest complete =>
    rw [List.append_assoc, ← List.flatMap_cons]
    exact .ends rest (hcomplete.mpr complete)
  | again rest last read next known =>
    apply Settled.again rest (hlast.trans last) read next
    simpa using known
  | fails rest last unread other => exact .fails rest (hlast.trans last) unread other

/-- If the last reply is a page, its link decides how the walk has ended. -/
theorem Settled.of_page {page : Page IdEntry} (h : c.Settled visited ids pages ended)
    (hlast : pages.getLast? = some e) (hpage : e.page? = some page) :
    (page.link? = none ∧ ∃ rest, ended = some (.ok (ids ++ pages.flatMap Exchange.ids), rest)) ∨
      ∃ link rest, page.link? = some link ∧
        ended = some (.error (.undecodable (c.resolve link) .linkVisited), rest) := by
  cases h with
  | waits last missing =>
    cases hlast.symm.trans last
    rw [Exchange.page?, missing] at hpage
    cases hpage
  | ends rest complete =>
    obtain ⟨e', page', hlast', hpage', hlink'⟩ := complete
    cases hlast.symm.trans hlast'
    cases hpage.symm.trans hpage'
    exact .inl ⟨hlink', rest, rfl⟩
  | again rest last read next known =>
    cases hlast.symm.trans last
    cases hpage.symm.trans read
    exact .inr ⟨_, rest, next, rfl⟩
  | fails rest last unread other =>
    cases hlast.symm.trans last
    cases hpage.symm.trans unread

variable (c)

/-- The induction is on the replies. Between two pages the walk is that of the next page, with one
more address visited. -/
theorem walk_settled (replies : List Reply) {visited : List String} {url : String}
    (hnew : url ∉ visited) (ids : List String) :
    c.Settled visited ids ((c.walk visited ids url).transcript replies)
      (c.walk visited ids url replies).ended := by
  induction replies generalizing visited ids url with
  | nil =>
    rw [walk_of_new c hnew]
    exact .waits (e := ⟨c.requestTo .get url, none⟩) rfl rfl
  | cons reply replies ih =>
    rw [walk_of_new c hnew]
    rcases reply with reason | response
    · exact .fails (e := ⟨c.requestTo .get url, some (.error reason)⟩) replies rfl rfl (by simp)
    · have hsend : (Dialogue.send (c.requestTo .get url) (.ok response :: replies)).ended =
          some (.ok response, replies) := rfl
      obtain ⟨hsaid, hended⟩ :=
        bind_with_value (orderly_send _) (c.walkOn visited ids url) hsend
      rw [hsaid, hended, transcript_send_cons, List.singleton_append]
      generalize he : (⟨c.requestTo .get url, some (.ok response)⟩ : Exchange) = e
      have hurl : e.request.url = url := by rw [← he, requestTo]
      have hreply : e.reply = some (.ok response) := by rw [← he]
      unfold walkOn
      rcases c.readPage_cases url hreply with ⟨failure, hread, hnone⟩ | ⟨page, hread, hpage⟩
      · simp only [hread]
        exact .fails replies rfl hnone (c.readPage_not_visited hread)
      · rcases hlink : page.link? with _ | link
        · simp only [hread, hlink, Option.map_none]
          rw [← List.flatMap_singleton (x := e) Exchange.ids]
          exact .ends replies (Round.lastPage_singleton.mpr ⟨page, hpage, hlink⟩)
        · simp only [hread, hlink, Option.map_some]
          by_cases hagain : c.resolve link ∈ visited ++ [url]
          · -- nothing more is asked for
            rw [walk_of_visited c hagain]
            have hknown : c.resolve link ∈ visited ++ [e].map (·.request.url) := by
              rw [List.map_singleton, hurl]
              exact hagain
            exact .again replies rfl hpage hlink hknown
          · have hrest := ih hagain (ids ++ e.ids)
            rw [← hurl] at hrest ⊢
            exact hrest.cons

end AdminClient

/-! ## Pages and their links -/

namespace Exchange

variable {c : AdminClient} {e : Exchange} {pages : List Exchange}

/-- Every page but the first is linked to by a page of the row. -/
theorem exists_link (h : (e :: pages).IsChain (LinksTo c)) :
    ∀ next ∈ pages, ∃ before ∈ e :: pages, before.LinksTo c next := by
  induction pages generalizing e with
  | nil => exact List.forall_mem_nil _
  | cons second pages ih =>
    obtain ⟨hfirst, hrest⟩ := List.isChain_cons_cons.mp h
    refine List.forall_mem_cons.mpr ⟨⟨e, List.mem_cons_self, hfirst⟩, fun next hnext => ?_⟩
    obtain ⟨before, hbefore, hlink⟩ := ih hrest next hnext
    exact ⟨before, List.mem_cons_of_mem e hbefore, hlink⟩

theorem requestTo_of_linked (h : (e :: pages).IsChain (LinksTo c))
    (hfirst : ∃ url, e.request = c.requestTo .get url) :
    ∀ other ∈ e :: pages, ∃ url, other.request = c.requestTo .get url := by
  refine List.forall_mem_cons.mpr ⟨hfirst, fun next hnext => ?_⟩
  obtain ⟨before, -, page, link, -, -, hrequest⟩ := exists_link h next hnext
  exact ⟨c.resolve link, hrequest⟩

/-- If the last reply is a page, all replies are. -/
theorem page_of_last {page : Page IdEntry} (h : pages.IsChain (LinksTo c))
    (hlast : pages.getLast? = some e) (hpage : e.page? = some page) :
    ∀ other ∈ pages, other.page?.isSome = true := by
  obtain ⟨front, rfl⟩ := List.getLast?_eq_some_iff.mp hlast
  have hread := Round.page_of_linked h
  rw [List.dropLast_concat] at hread
  intro other hother
  rcases List.mem_append.mp hother with hother | hother
  · exact hread other hother
  · rw [List.mem_singleton.mp hother, hpage]
    rfl

/-- If the addresses of all links are known, there are as many pages as addresses, and the first. -/
theorem length_le_of_linked (h : (e :: pages).IsChain (LinksTo c))
    (hfresh : ((e :: pages).map (·.request.url)).Nodup) {urls : Finset String}
    (hurls : ∀ e' ∈ e :: pages, ∀ page link, e'.page? = some page → page.link? = some link →
      c.resolve link ∈ urls) : (e :: pages).length ≤ urls.card + 1 := by
  have hrest : (pages.map (·.request.url)).Nodup := (List.nodup_cons.mp hfresh).2
  have hsubset : (pages.map (·.request.url)).toFinset ⊆ urls := by
    intro url hurl
    obtain ⟨next, hnext, rfl⟩ := List.mem_map.mp (List.mem_toFinset.mp hurl)
    obtain ⟨before, hbefore, page, link, hpage, hlink, hrequest⟩ := exists_link h next hnext
    rw [hrequest]
    exact hurls before hbefore page link hpage hlink
  have hcard := Finset.card_le_card hsubset
  rw [List.toFinset_card_of_nodup hrest, List.length_map] at hcard
  simpa using hcard

end Exchange

namespace AdminClient

variable (c : AdminClient)

/-- One of the pages links to an address that had been fetched by then. -/
def Revisits (pages : List Exchange) (url : String) : Prop :=
  ∃ before e after page link, pages = before ++ e :: after ∧ e.page? = some page ∧
    page.link? = some link ∧ c.resolve link = url ∧ url ∈ (before ++ [e]).map (·.request.url)

/-- Only the last page can link back, since what it links to would be fetched twice otherwise. -/
theorem Revisits.last {c : AdminClient} {pages : List Exchange} {url : String}
    (h : c.Revisits pages url) (hlinked : pages.IsChain (Exchange.LinksTo c))
    (hfresh : (pages.map (·.request.url)).Nodup) :
    ∃ e page link, pages.getLast? = some e ∧ e.page? = some page ∧ page.link? = some link ∧
      c.resolve link = url := by
  obtain ⟨before, e, after, page, link, rfl, hpage, hlink, hurl, hknown⟩ := h
  rcases after with _ | ⟨next, after⟩
  · exact ⟨e, page, link, by simp, hpage, hlink, hurl⟩
  · exfalso
    have hnext := (List.isChain_cons_cons.mp (List.isChain_append.mp hlinked).2.1).1
    obtain ⟨page', link', hpage', hlink', hrequest⟩ := hnext
    have hsame : next.request.url = url := by
      rw [hpage] at hpage'
      cases hpage'
      rw [hlink] at hlink'
      cases hlink'
      rw [hrequest, ← hurl, requestTo]
    have hparts : (before ++ e :: next :: after).map (·.request.url) =
        (before ++ [e]).map (·.request.url) ++ (next :: after).map (·.request.url) := by simp
    rw [hparts] at hfresh
    apply (List.nodup_append.mp hfresh).2.2 url hknown url _ rfl
    rw [List.map_cons, hsame]
    exact List.mem_cons_self

variable {c} {pages : List Exchange}
  {ended : Option (Except Failure (List String) × List Reply)}

/-- A listing has a value exactly if its last page has no next one, and the value is all that the
pages list. -/
theorem Settled.ok_iff (h : c.Settled [] [] pages ended) (hlinked : pages.IsChain (Exchange.LinksTo c))
    (ids : List String) :
    (∃ rest, ended = some (.ok ids, rest)) ↔
      (∀ e ∈ pages, e.page?.isSome = true) ∧
      (∃ e page, pages.getLast? = some e ∧ e.page? = some page ∧
        (page.next = none ∨ page.next = some "")) ∧
      ids = pages.flatMap Exchange.ids := by
  constructor
  · rintro ⟨rest, rfl⟩
    cases h with
    | ends rest complete =>
      obtain ⟨e, page, hlast, hpage, hlink⟩ := complete
      exact ⟨Exchange.page_of_last hlinked hlast hpage,
        ⟨e, page, hlast, hpage, Page.link?_eq_none.mp hlink⟩, rfl⟩
  · rintro ⟨-, ⟨e, page, hlast, hpage, hnext⟩, rfl⟩
    have hlink := Page.link?_eq_none.mpr hnext
    rcases h.of_page hlast hpage with ⟨-, hended⟩ | ⟨link, rest, hsome, -⟩
    · exact hended
    · cases hlink.symm.trans hsome

/-- A listing fails for a visited link exactly if one of its pages links back. -/
theorem Settled.visited_iff (h : c.Settled [] [] pages ended)
    (hlinked : pages.IsChain (Exchange.LinksTo c)) (hfresh : (pages.map (·.request.url)).Nodup)
    (url : String) :
    (∃ rest, ended = some (.error (.undecodable url .linkVisited), rest)) ↔ c.Revisits pages url := by
  constructor
  · rintro ⟨rest, rfl⟩
    cases h with
    | again rest last read next known =>
      obtain ⟨front, hfront⟩ := List.getLast?_eq_some_iff.mp last
      exact ⟨front, _, [], _, _, hfront, read, next, rfl, hfront ▸ known⟩
    | fails rest last unread other => exact absurd rfl (other url)
  · intro hrevisits
    obtain ⟨e, page, link, hlast, hpage, hlink, rfl⟩ := hrevisits.last hlinked hfresh
    rcases h.of_page hlast hpage with ⟨hnone, -⟩ | ⟨link', rest, hsome, hended⟩
    · cases hnone.symm.trans hlink
    · cases hlink.symm.trans hsome
      exact ⟨rest, hended⟩

variable (c)

/-- On any replies at all, a listing sends requests for pages only, for no address twice. The first is
that of the collection, and each of the others is linked to by the page before it. It succeeds exactly
if every reply is a page and the last one has no link, and then it gives what the pages list, in their
order. It fails for a visited link exactly if a page links to an address that has been fetched before,
which is not fetched again. If there are `k` addresses that the links lead to, it has ended after
`k + 1` requests. -/
theorem listIds_walks (collection : String) (replies : List Reply) :
    let pages := (c.listIds collection).transcript replies
    let progress := c.listIds collection replies
    progress.sent = pages.map Exchange.request ∧
    (∀ request ∈ progress.sent, request = c.requestTo .get request.url) ∧
    (progress.sent.map Request.url).Nodup ∧
    progress.sent.head? = some (c.requestTo .get (c.url collection)) ∧
    pages.IsChain (Exchange.LinksTo c) ∧
    (∀ ids, (∃ rest, progress.ended = some (.ok ids, rest)) ↔
      (∀ e ∈ pages, e.page?.isSome = true) ∧
      (∃ e page, pages.getLast? = some e ∧ e.page? = some page ∧
        (page.next = none ∨ page.next = some "")) ∧
      ids = pages.flatMap Exchange.ids) ∧
    (∀ url, (∃ rest, progress.ended = some (.error (.undecodable url .linkVisited), rest)) ↔
      c.Revisits pages url) ∧
    ∀ urls : Finset String,
      (∀ e ∈ pages, ∀ page link, e.page? = some page → page.link? = some link →
        c.resolve link ∈ urls) →
      progress.sent.length ≤ urls.card + 1 ∧
      (urls.card + 1 ≤ replies.length → progress.ended ≠ none) := by
  intro pages progress
  obtain ⟨hfirst, hlinked, hfresh, -⟩ :=
    c.walk_transcript replies [] [] (c.url collection) (List.nodup_singleton _)
  have hsettled := c.walk_settled replies (List.not_mem_nil (a := c.url collection)) []
  have hsent : progress.sent = pages.map Exchange.request := (transcript_requests _ replies).symm
  change pages.head?.map Exchange.request = _ at hfirst
  change pages.IsChain (Exchange.LinksTo c) at hlinked
  change (pages.map (·.request.url)).Nodup at hfresh
  change c.Settled [] [] pages progress.ended at hsettled
  obtain ⟨first, others, hpages⟩ := List.exists_cons_of_ne_nil hsettled.ne_nil
  refine ⟨hsent, ?_, ?_, ?_, hlinked, hsettled.ok_iff hlinked, hsettled.visited_iff hlinked hfresh,
    fun urls hurls => ?_⟩
  · intro request hrequest
    rw [hsent] at hrequest
    obtain ⟨e, he, rfl⟩ := List.mem_map.mp hrequest
    rw [hpages] at he hlinked hfirst
    obtain ⟨url, hurl⟩ :=
      Exchange.requestTo_of_linked hlinked ⟨_, Option.some.inj hfirst⟩ e he
    rw [hurl]
    rfl
  · rw [hsent, List.map_map]
    exact hfresh
  · rw [hsent, List.head?_map]
    exact hfirst
  · rw [hpages] at hlinked hfresh hurls
    have hlength := Exchange.length_le_of_linked hlinked hfresh hurls
    rw [hsent, List.length_map, hpages]
    refine ⟨hlength, fun henough hwait => ?_⟩
    -- a listing that still waits has sent one request more than it has replies
    have hcount := ((c.orderly_listIds collection).waits (show progress = ⟨_, none⟩ by rw [← hwait])).1
    rw [hsent, List.length_map, hpages] at hcount
    omega

/-- Three pages of which the last links back to the second are asked for once each. -/
example :
    ((⟨"http://kong:8001/admin/", "t"⟩ : AdminClient).listIds "routes"
      [.ok ⟨200, "\x7b\"data\":[\x7b\"id\":\"a\"\x7d],\"next\":\"/routes?2\"\x7d"⟩,
        .ok ⟨200, "\x7b\"next\":\"routes?3\"\x7d"⟩,
        .ok ⟨200, "\x7b\"next\":\"http://kong:8001/admin/routes?2\"\x7d"⟩]).sent.map Request.url =
    ["http://kong:8001/admin/routes", "http://kong:8001/admin/routes?2",
      "http://kong:8001/admin/routes?3"] := by
  decide +kernel

end AdminClient

end GatewayProvisioning
