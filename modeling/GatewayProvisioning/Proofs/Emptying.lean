import GatewayProvisioning.Proofs.InitTwice
import GatewayProvisioning.Proofs.Inventory

/-!
# A reset empties the gateway

A gateway keeps its collections and serves them in pages. A walk finds all ids of a collection, page by
page, and what it has found is deleted. Since all pages come before the first deletion, no page moves
while it is being read. With a deletion other objects may go as well: a collection is listed when its
turn comes, so that nothing is deleted that has gone by then.
-/

namespace GatewayProvisioning

open Dialogue Document

/-! ## One page -/

namespace AdminClient

variable {σ : Type} {gateway : σ → Request → Reply × σ} {g : Paging} {held : σ → String → List String}
  (c : AdminClient)

/-- After a page a walk goes on with the next one, if there is one. -/
theorem walkOn_page {names : List String} (haddress : Url.Addressable names) {xs : List String}
    {i : Nat} {r : Response} (hserves : g.Serves IdEntry.codec names (xs.map IdEntry.mk) i r)
    (visited ids : List String) (url : String) :
    c.walkOn visited ids url r =
      if (i + 1) * g.size < xs.length then
        c.walk (visited ++ [url]) (ids ++ g.entries xs i) (g.url c.base names (i + 1))
      else pure (ids ++ g.entries xs i) := by
  obtain ⟨hstatus, hdecode⟩ := hserves
  have hids : (g.entries (xs.map IdEntry.mk) i).map IdEntry.id = g.entries xs i := by
    simp [Paging.entries, ← List.map_drop, ← List.map_take, Function.comp_def]
  have hread : c.readPage url r = .ok (g.entries xs i,
      if (i + 1) * g.size < xs.length then some (g.url c.base names (i + 1)) else none) := by
    unfold readPage Response.isOk decodeFrom
    rw [hstatus, hdecode, List.length_map]
    show Except.ok ((g.entries (xs.map IdEntry.mk) i).map IdEntry.id, _) = _
    rw [hids, ← g.next_address c haddress]
    rfl
  unfold walkOn
  rw [hread]
  by_cases hmore : (i + 1) * g.size < xs.length
  · simp only [if_pos hmore]
  · simp only [if_neg hmore]

/-! ## One collection -/

variable {collection : String}

/-- The collections have plain names, which stand in addresses as they are. -/
theorem plain_collection (h : collection ∈ Provisioning.resetOrder) :
    Url.encodeSegment collection = collection ∧
      String.ofList (Url.trimBase collection) = collection ∧ collection ≠ "" := by
  have hall : ∀ name ∈ Provisioning.resetOrder, Url.encodeSegment name = name ∧
      String.ofList (Url.trimBase name) = name ∧ name ≠ "" := by decide
  exact hall collection h

theorem addressable_collection (h : collection ∈ Provisioning.resetOrder) :
    Url.Addressable [collection] := by
  obtain ⟨-, -, hne⟩ := plain_collection h
  exact ⟨by simp, by simpa using hne, by simpa using hne⟩

theorem url_collection (h : collection ∈ Provisioning.resetOrder) :
    c.url collection = g.url c.base [collection] 0 := by
  obtain ⟨hencode, -, -⟩ := plain_collection h
  show Url.join c.base [collection] = Url.join c.base [_]
  rw [List.map_singleton, hencode]
  show _ = Url.join c.base [String.ofList collection.toList]
  rw [String.ofList_toList]

theorem url_object (h : collection ∈ Provisioning.resetOrder) (id : String) :
    c.url (objectPath collection id) = Url.below c.base ([collection] ++ [id]) := by
  obtain ⟨hencode, htrim, -⟩ := plain_collection h
  have hpath : objectPath collection id =
      String.ofList (Url.slashed (([collection] ++ [id]).map Url.encodeSegment)) := by
    apply String.toList_inj.mp
    simp [objectPath, htrim, hencode, Url.slashed]
  show Url.join c.base [_] = Url.join c.base [_]
  rw [hpath]

/-- The induction is on the number of entries that are left. By page `i` the entries before it have
been listed and the pages before it visited. -/
theorem runs_walk (h : KeepsCollections c.base gateway g held)
    (hmem : collection ∈ Provisioning.resetOrder) {xs : List String} (i : Nat) (state : σ)
    (hxs : held state collection = xs) (hpage : g.HasPage xs.length i) :
    ∃ asked last, Runs gateway (c.walk ((List.range i).map (g.url c.base [collection]))
        (xs.take (i * g.size)) (g.url c.base [collection] i)) state asked (.ok xs) last ∧
      held last = held state ∧
      asked.head? = some (c.requestTo .get (g.url c.base [collection] i)) ∧
      ∀ request ∈ asked, ∃ j, request = c.requestTo .get (g.url c.base [collection] j) := by
  have haddress := addressable_collection hmem
  induction hleft : xs.length - i * g.size using Nat.strongRecOn generalizing i state with
  | ind left ih =>
    have hnew : g.url c.base [collection] i ∉ (List.range i).map (g.url c.base [collection]) := by
      intro hvisited
      obtain ⟨j, hj, hurl⟩ := List.mem_map.mp hvisited
      have heq : j = i := g.url_inj c.base [collection] hurl
      exact absurd (List.mem_range.mp hj) (by omega)
    obtain ⟨hsame, response, hreply, hserves⟩ :=
      h.pages state _ collection hmem i (g.ofRequest?_page c haddress i) (hxs ▸ hpage)
    rw [hxs] at hserves
    rw [walk_of_new c hnew]
    have hsend := runs_send hreply
    have hnext := c.walkOn_page haddress hserves ((List.range i).map (g.url c.base [collection]))
      (xs.take (i * g.size)) (g.url c.base [collection] i)
    rw [g.take_append_entries] at hnext
    by_cases hmore : (i + 1) * g.size < xs.length
    · have hvisited : (List.range i).map (g.url c.base [collection]) ++
          [g.url c.base [collection] i] = (List.range (i + 1)).map (g.url c.base [collection]) := by
        simp [List.range_succ]
      rw [if_pos hmore, hvisited] at hnext
      have hless : xs.length - (i + 1) * g.size < left := by
        have hsize := g.size_pos
        rw [Nat.add_one_mul] at hmore ⊢
        omega
      obtain ⟨asked, last, hrun, hheld, -, hgets⟩ :=
        ih _ hless (i + 1) _ (by rw [hsame, hxs]) (.inr hmore) rfl
      rw [← hnext] at hrun
      refine ⟨_ :: asked, last, hsend.bind (orderly_send _) hrun, hheld.trans hsame, rfl, ?_⟩
      exact List.forall_mem_cons.mpr ⟨⟨i, rfl⟩, hgets⟩
    · have hall : xs.take ((i + 1) * g.size) = xs := List.take_of_length_le (Nat.le_of_not_lt hmore)
      rw [if_neg hmore, hall] at hnext
      refine ⟨[_], _, hsend.bind (orderly_send _) ?_, hsame, rfl, ?_⟩
      · rw [hnext]
        exact runs_ofResult _ _
      · exact List.forall_mem_singleton.mpr ⟨i, rfl⟩

/-- All ids of a collection are found, by requests for its pages alone. -/
theorem runs_listIds (h : KeepsCollections c.base gateway g held)
    (hmem : collection ∈ Provisioning.resetOrder) (state : σ) :
    ∃ asked last, Runs gateway (c.listIds collection) state asked (.ok (held state collection)) last ∧
      held last = held state ∧
      asked.head?.map (ListingCall.ofRequest? c.base) = some (some (.page [collection] none)) ∧
      ∀ request ∈ asked, ∃ offset,
        ListingCall.ofRequest? c.base request = some (.page [collection] offset) := by
  have haddress := addressable_collection hmem
  have hcall : ∀ j, ListingCall.ofRequest? c.base
      (c.requestTo .get (g.url c.base [collection] j)) = some (.page [collection] (g.offset j)) :=
    g.ofRequest?_page c haddress
  obtain ⟨asked, last, hrun, hheld, hfirst, hgets⟩ := c.runs_walk h hmem 0 state rfl (.inl rfl)
  have hlist : c.listIds collection = c.walk ((List.range 0).map (g.url c.base [collection]))
      ((held state collection).take (0 * g.size)) (g.url c.base [collection] 0) := by
    rw [Nat.zero_mul, List.take_zero, ← c.url_collection hmem]
    rfl
  refine ⟨asked, last, hlist ▸ hrun, hheld, ?_, fun request hrequest => ?_⟩
  · rw [hfirst, Option.map_some, hcall]
    rfl
  · obtain ⟨j, rfl⟩ := hgets request hrequest
    exact ⟨_, hcall j⟩

theorem ofRequest?_deletion (hmem : collection ∈ Provisioning.resetOrder) {id : String}
    (hid : id ≠ "") :
    ListingCall.ofRequest? c.base (c.request .delete (objectPath collection id)) =
      some (.remove [collection] id) := by
  have haddress := addressable_collection hmem
  unfold request
  rw [c.url_object hmem]
  exact ListingCall.ofRequest?_remove c haddress.some haddress.first hid

theorem runs_remove (h : KeepsCollections c.base gateway g held)
    (hmem : collection ∈ Provisioning.resetOrder) {state : σ} {id : String}
    (hid : id ∈ held state collection) :
    ∃ last, Runs gateway (c.remove collection id) state
        [c.request .delete (objectPath collection id)] (.ok ()) last ∧
      (∀ x, x ∈ held last collection ↔ x ∈ held state collection ∧ x ≠ id) ∧
      ∀ other, held last other ⊆ held state other := by
  have hne : id ≠ "" := fun hempty => h.ids state collection hmem (hempty ▸ hid)
  obtain ⟨⟨response, hreply, hstatus⟩, hheld, hothers⟩ :=
    h.removals state _ collection hmem id hid (c.ofRequest?_deletion hmem hne)
  exact ⟨_, runs_remove_of_reply hreply hstatus, hheld, hothers⟩

/-- Deleting all that a collection holds leaves it empty. The induction is on what is left of it. -/
theorem runs_removeAll (h : KeepsCollections c.base gateway g held)
    (hmem : collection ∈ Provisioning.resetOrder) {ids : List String} (hdistinct : ids.Nodup)
    {state : σ} (hids : ∀ id, id ∈ held state collection ↔ id ∈ ids) :
    ∃ last, Runs gateway (forEach (c.remove collection) ids) state
        (ids.map fun id => c.request .delete (objectPath collection id)) (.ok ()) last ∧
      held last collection = [] ∧ ∀ other, held last other ⊆ held state other := by
  induction ids generalizing state with
  | nil =>
    refine ⟨state, runs_ofResult _ _, ?_, fun _ => List.Subset.refl _⟩
    exact List.eq_nil_iff_forall_not_mem.mpr fun id hid => by simpa using (hids id).mp hid
  | cons id ids ih =>
    obtain ⟨hnew, hdistinct⟩ := List.nodup_cons.mp hdistinct
    obtain ⟨mid, hremove, hheld, hothers⟩ :=
      c.runs_remove h hmem ((hids id).mpr List.mem_cons_self)
    have hrest : ∀ x, x ∈ held mid collection ↔ x ∈ ids := by
      intro x
      rw [hheld, hids, List.mem_cons]
      constructor
      · rintro ⟨rfl | hx, hne⟩
        · exact absurd rfl hne
        · exact hx
      · intro hx
        exact ⟨.inr hx, fun heq => hnew (heq ▸ hx)⟩
    obtain ⟨last, hrun, hempty, hless⟩ := ih hdistinct hrest
    refine ⟨last, ?_, hempty, fun other => List.Subset.trans (hless other) (hothers other)⟩
    exact hremove.bind (c.orderly_remove collection id) hrun

end AdminClient

/-! ## What has been asked -/

namespace ListingCall

variable {σ : Type} (base : String)

/-- How often the deletion of an object has been asked for. -/
def removals (requests : List Request) (collection id : String) : Nat :=
  requests.countP fun request => ofRequest? base request = some (.remove [collection] id)

/-- The state of a gateway when a collection has its turn: its first page is about to be asked for. -/
def turn (gateway : σ → Request → Reply × σ) (start : σ) (requests : List Request)
    (collection : String) : σ :=
  (answers gateway start (requests.takeWhile fun request =>
    ofRequest? base request ≠ some (.page [collection] none))).2

/-- A request asks for a page of a collection, or for a deletion in it. -/
def Concerns (collection : String) (request : Request) : Prop :=
  (∃ offset, ofRequest? base request = some (.page [collection] offset)) ∨
    ∃ id, ofRequest? base request = some (.remove [collection] id)

/-- Requests begin with the first page of a collection, concern nothing else, and ask once for the
deletion of each of some objects. -/
structure Clears (collection : String) (ids : List String) (requests : List Request) : Prop where
  first : requests.head?.map (ofRequest? base) = some (some (.page [collection] none))
  concerns : ∀ request ∈ requests, Concerns base collection request
  once : ∀ id, removals base requests collection id = if id ∈ ids then 1 else 0

variable {base} {collection other : String} {requests : List Request}

theorem removals_append (xs ys : List Request) (collection id : String) :
    removals base (xs ++ ys) collection id =
      removals base xs collection id + removals base ys collection id :=
  List.countP_append

theorem not_remove_of_concerns {request : Request} (h : Concerns base other request)
    (hne : other ≠ collection) (id : String) :
    ofRequest? base request ≠ some (.remove [collection] id) := by
  rcases h with ⟨offset, hcall⟩ | ⟨id', hcall⟩ <;> rw [hcall] <;> simp [hne]

theorem not_page_of_concerns {request : Request} (h : Concerns base other request)
    (hne : other ≠ collection) (offset : Option String) :
    ofRequest? base request ≠ some (.page [collection] offset) := by
  rcases h with ⟨offset', hcall⟩ | ⟨id, hcall⟩ <;> rw [hcall] <;> simp [hne]

theorem removals_of_concerns
    (h : ∀ r ∈ requests, ∃ name, name ≠ collection ∧ Concerns base name r) (id : String) :
    removals base requests collection id = 0 := by
  refine List.countP_eq_zero.mpr fun r hr => ?_
  obtain ⟨name, hne, hconcerns⟩ := h r hr
  simpa using not_remove_of_concerns hconcerns hne id

variable {gateway : σ → Request → Reply × σ}

/-- A collection has its turn at once if its first page is asked for first. -/
theorem turn_of_first
    (h : requests.head?.map (ofRequest? base) = some (some (.page [collection] none)))
    (start : σ) (rest : List Request) :
    turn base gateway start (requests ++ rest) collection = start := by
  rcases requests with _ | ⟨request, requests⟩
  · cases h
  · have hcall : ofRequest? base request = some (.page [collection] none) := Option.some.inj h
    unfold turn
    rw [List.cons_append, List.takeWhile_cons_of_neg (by simp [hcall])]
    rfl

/-- It has its turn later if what is asked for first concerns another collection. -/
theorem turn_of_concerns (h : ∀ request ∈ requests, Concerns base other request)
    (hne : other ≠ collection) (start : σ) (rest : List Request) :
    turn base gateway start (requests ++ rest) collection =
      turn base gateway (answers gateway start requests).2 rest collection := by
  have htake : ∀ request ∈ requests,
      decide (ofRequest? base request ≠ some (.page [collection] none)) = true :=
    fun request hrequest => decide_eq_true (not_page_of_concerns (h request hrequest) hne none)
  unfold turn
  rw [List.takeWhile_append_of_pos htake, answers_append]

end ListingCall

namespace Provisioning

variable {σ : Type} {gateway : σ → Request → Reply × σ} {g : Paging} {held : σ → String → List String}
  (c : AdminClient) {collection : String}

theorem runs_emptyCollection (h : KeepsCollections c.base gateway g held)
    (hmem : collection ∈ resetOrder) (state : σ) :
    ∃ asked last, Runs gateway (emptyCollection c collection) state asked (.ok ()) last ∧
      held last collection = [] ∧ (∀ other, held last other ⊆ held state other) ∧
      ListingCall.Clears c.base collection (held state collection) asked := by
  obtain ⟨pages, mid, hlist, hmid, hfirst, hpages⟩ := c.runs_listIds h hmem state
  have hdistinct := h.distinct state collection hmem
  have hids : ∀ id ∈ held state collection, id ≠ "" := fun id hid hempty =>
    h.ids state collection hmem (hempty ▸ hid)
  obtain ⟨last, hremove, hempty, hless⟩ :=
    c.runs_removeAll h hmem hdistinct fun id => by rw [hmid]
  refine ⟨_, last, hlist.bind (c.orderly_listIds collection) hremove, hempty, ?_, ?_, ?_, ?_⟩
  · intro other
    rw [← hmid]
    exact hless other
  · rcases pages with _ | ⟨page, pages⟩
    · cases hfirst
    · exact hfirst
  · intro request hrequest
    rcases List.mem_append.mp hrequest with hrequest | hrequest
    · exact .inl (hpages request hrequest)
    · obtain ⟨id, hid, rfl⟩ := List.mem_map.mp hrequest
      exact .inr ⟨id, c.ofRequest?_deletion hmem (hids id hid)⟩
  · intro id
    have hnone : ListingCall.removals c.base pages collection id = 0 := by
      refine List.countP_eq_zero.mpr fun request hrequest => ?_
      obtain ⟨offset, hcall⟩ := hpages request hrequest
      simp [hcall]
    have hcount : ListingCall.removals c.base
        ((held state collection).map fun id =>
          c.request .delete (AdminClient.objectPath collection id)) collection id =
          (held state collection).count id := by
      unfold ListingCall.removals
      rw [List.countP_map, List.count_eq_countP]
      refine List.countP_congr fun x hx => ?_
      simp [c.ofRequest?_deletion hmem (hids x hx)]
    rw [ListingCall.removals_append, hnone, hcount, hdistinct.count, Nat.zero_add]

/-- The induction is on the collections. What has been emptied stays empty, since nothing is ever
added, and what is asked for later concerns other collections. -/
theorem runs_emptyAll (h : KeepsCollections c.base gateway g held) {collections : List String}
    (hmem : ∀ collection ∈ collections, collection ∈ resetOrder) (hdistinct : collections.Nodup)
    (state : σ) :
    ∃ asked last, Runs gateway (forEach (emptyCollection c) collections) state asked (.ok ()) last ∧
      (∀ other, held last other ⊆ held state other) ∧
      (∀ request ∈ asked, ∃ collection ∈ collections,
        ListingCall.Concerns c.base collection request) ∧
      ∀ collection ∈ collections, held last collection = [] ∧ ∀ id,
        ListingCall.removals c.base asked collection id =
          if id ∈ held (ListingCall.turn c.base gateway state asked collection) collection then 1
          else 0 := by
  induction collections generalizing state with
  | nil =>
    exact ⟨[], state, runs_ofResult _ _, fun _ => List.Subset.refl _, List.forall_mem_nil _,
      List.forall_mem_nil _⟩
  | cons first collections ih =>
    obtain ⟨hfirst, hrest⟩ := List.forall_mem_cons.mp hmem
    obtain ⟨hnew, hdistinct⟩ := List.nodup_cons.mp hdistinct
    obtain ⟨xs, mid, hrun, hempty, hless, hclears⟩ := runs_emptyCollection c h hfirst state
    obtain ⟨ys, last, hruns, hlesser, hconcerns, hcollections⟩ := ih hrest hdistinct mid
    refine ⟨xs ++ ys, last, hrun.bind (orderly_emptyCollection c first) hruns,
      fun other => List.Subset.trans (hlesser other) (hless other), ?_, ?_⟩
    · intro request hrequest
      rcases List.mem_append.mp hrequest with hrequest | hrequest
      · exact ⟨first, List.mem_cons_self, hclears.concerns request hrequest⟩
      · obtain ⟨collection, hcollection, hconcern⟩ := hconcerns request hrequest
        exact ⟨collection, List.mem_cons_of_mem first hcollection, hconcern⟩
    · intro collection hcollection
      rcases List.mem_cons.mp hcollection with rfl | hcollection
      · -- its own turn is now, and nothing later concerns it
        have hlater : ∀ id, ListingCall.removals c.base ys collection id = 0 :=
          ListingCall.removals_of_concerns fun request hrequest => by
            obtain ⟨other, hother, hconcern⟩ := hconcerns request hrequest
            exact ⟨other, fun heq => hnew (heq ▸ hother), hconcern⟩
        refine ⟨List.subset_nil.mp (hempty ▸ hlesser collection), fun id => ?_⟩
        rw [ListingCall.removals_append, hlater, Nat.add_zero, hclears.once,
          ListingCall.turn_of_first hclears.first]
      · -- its turn is later, after requests that do not concern it
        have hne : first ≠ collection := fun heq => hnew (heq ▸ hcollection)
        have hearlier : ∀ id, ListingCall.removals c.base xs collection id = 0 :=
          ListingCall.removals_of_concerns fun request hrequest =>
            ⟨first, hne, hclears.concerns request hrequest⟩
        obtain ⟨hgone, honce⟩ := hcollections collection hcollection
        refine ⟨hgone, fun id => ?_⟩
        rw [ListingCall.removals_append, hearlier, Nat.zero_add, honce,
          ListingCall.turn_of_concerns hclears.concerns hne, hrun.2]

variable {p : Provisioning} {files : FileSource}

/-- With a gateway that keeps its collections and lists them in pages of any size, a reset with a token
succeeds and leaves all collections empty. Each object that is there when its collection has its turn
is deleted by exactly one request, and no other deletion is asked for. -/
theorem reset_empties {token : String}
    (hkeeps : KeepsCollections p.gateway.adminBase gateway g held)
    (hload : Token.load files p.bearerTokenFile = .ok token) (start : σ) :
    ∃ requests last,
      (∀ steps, requests.length ≤ steps →
        (p.reset files).serve gateway steps [] start = (requests, last, some (.ok ()))) ∧
      ∀ collection ∈ ["routes", "services", "consumers", "plugins", "certificates"],
        held last collection = [] ∧ ∀ id,
          ListingCall.removals p.gateway.adminBase requests collection id =
            if id ∈ held (ListingCall.turn p.gateway.adminBase gateway start requests collection)
                collection then 1
            else 0 := by
  have hdistinct : resetOrder.Nodup := by decide
  obtain ⟨requests, last, hrun, -, -, hcollections⟩ :=
    runs_emptyAll ⟨p.gateway.adminBase, token⟩ hkeeps (fun _ hmem => hmem) hdistinct start
  have hreset : p.reset files = forEach (emptyCollection ⟨p.gateway.adminBase, token⟩) resetOrder := by
    rw [reset_eq, p.client_of_token files hload, ofResult_ok_bind]
  rw [← hreset] at hrun
  refine ⟨requests, last, fun steps hsteps => ?_, hcollections⟩
  exact serve_of_answers (p.orderly_reset files) requests [] start start rfl hrun steps hsteps

/-- A gateway below a path, with a token for it. -/
def remoteProvisioning : Provisioning where
  gateway := { adminPath := "/admin/" }
  bearerTokenFile := "token"

/-- Ids that need care in addresses, more of them than fit on a page, and a plugin that depends on one
of the routes. -/
def crowdedInventory : Inventory where
  objects := [⟨"routes", "%2F", ""⟩, ⟨"routes", "a/b?c", ""⟩, ⟨"routes", "http://x", ""⟩,
    ⟨"services", " ", ""⟩, ⟨"plugins", "p", "a/b?c"⟩, ⟨"plugins", "q", ""⟩]
  distinct := by decide
  ids := by decide

/-- Pages of two entries are read, and everything is deleted. -/
theorem reset_empties_crowded :
    Token.load registryFiles remoteProvisioning.bearerTokenFile = .ok "t" ∧
    KeepsCollections remoteProvisioning.gateway.adminBase
      (Inventory.gateway remoteProvisioning.gateway.adminBase (.numbered 2 (by decide)))
      (.numbered 2 (by decide)) Inventory.held ∧
    ∃ requests last,
      (∀ steps, requests.length ≤ steps →
        (remoteProvisioning.reset registryFiles).serve
          (Inventory.gateway remoteProvisioning.gateway.adminBase (.numbered 2 (by decide))) steps []
          crowdedInventory = (requests, last, some (.ok ()))) ∧
      ∀ collection ∈ ["routes", "services", "consumers", "plugins", "certificates"],
        last.held collection = [] ∧ ∀ id,
          ListingCall.removals remoteProvisioning.gateway.adminBase requests collection id =
            if id ∈ (ListingCall.turn remoteProvisioning.gateway.adminBase
                (Inventory.gateway remoteProvisioning.gateway.adminBase (.numbered 2 (by decide)))
                crowdedInventory requests collection).held collection then 1
            else 0 := by
  have hkeeps := Inventory.keepsCollections remoteProvisioning.gateway.adminBase (by decide : 0 < 2)
  exact ⟨registryFiles_token, hkeeps, reset_empties hkeeps registryFiles_token crowdedInventory⟩

end Provisioning

end GatewayProvisioning
