import GatewayProvisioning.Proofs.ResetRounds
import GatewayProvisioning.Proofs.Segments
import GatewayProvisioning.Proofs.TwoRuns

/-!
# Where the admin token goes

The token of the admin interface stands in the header `Authorization` and nowhere else. Two runs with
different tokens are twins: a gateway that does not look at the value of this header gets the same
requests, and the runs have the same result. The header itself goes only below the base of the admin
interface, or to a page that the gateway has linked to by an address of its own.
-/

namespace GatewayProvisioning

open Dialogue Document

/-! ## Requests with a token -/

/-- The header that carries the token of the admin interface. -/
def authorization : String := "Authorization"

namespace Request

/-- A request without the values of a header. -/
def masked (name : String) (r : Request) : Request :=
  { r with headers := r.headers.map fun h =>
      if Text.equalIgnoringAsciiCase h.1 name then (h.1, "") else h }

/-- Whether a request carries a header. -/
def carries (name : String) (r : Request) : Bool :=
  (r.header? name).isSome

end Request

/-- The address goes on with a slash after the base, which has lost the slashes at its end. -/
def Url.Below (base url : String) : Prop :=
  Url.trimBase base ++ ['/'] <+: url.toList

/-- The last response is a page that links to the address, by its scheme and host. -/
def Linked (said : List Exchange) (url : String) : Prop :=
  ∃ e page, said.getLast? = some e ∧ e.page? = some page ∧ page.link? = some url ∧
    ("http://".toList <+: url.toList ∨ "https://".toList <+: url.toList)

/-- With the admin token a request goes below the base, or asks for a page that has been linked to. -/
def Confined (base : String) (said : List Exchange) (r : Request) : Prop :=
  r.carries authorization = true →
    Url.Below base r.url ∨ (r.method = .get ∧ Linked said r.url)

/-- All requests of a conversation are confined by what has been said before them. -/
def Confines {α : Type} (base : String) (d : Dialogue α) : Prop :=
  ∀ replies i (h : i < (d.transcript replies).length),
    Confined base ((d.transcript replies).take i) (d.transcript replies)[i].request

/-- Requests that differ at most in the admin token, and are confined. -/
def TokenApart (base : String) : Likeness := fun said r r' =>
  r.masked authorization = r'.masked authorization ∧ Confined base said r

/-! ## Addresses below a base -/

namespace Url

/-- The path begins with a segment, not with a slash. -/
def BeginsSegment (path : String) : Prop :=
  ∃ c rest, path.toList = c :: rest ∧ c ≠ '/'

theorem BeginsSegment.append {path : String} (h : BeginsSegment path) (more : String) :
    BeginsSegment (path ++ more) := by
  obtain ⟨c, rest, hpath, hc⟩ := h
  exact ⟨c, rest ++ more.toList, by rw [String.toList_append, hpath, List.cons_append], hc⟩

theorem dropEndWhile_slash {c : Char} (rest : List Char) (hc : c ≠ '/') :
    Text.dropEndWhile (· == '/') (c :: rest) = c :: Text.dropEndWhile (· == '/') rest := by
  rw [Text.dropEndWhile_cons, if_neg]
  intro h
  exact hc (eq_of_beq h.2)

theorem beginsSegment_objectPath {collection : String} (h : BeginsSegment collection) (id : String) :
    BeginsSegment (AdminClient.objectPath collection id) := by
  obtain ⟨c, rest, hcollection, hc⟩ := h
  have htrim : trimBase collection = c :: Text.dropEndWhile (· == '/') rest := by
    unfold trimBase
    rw [hcollection, dropEndWhile_slash rest hc]
  unfold AdminClient.objectPath
  refine BeginsSegment.append (BeginsSegment.append ?_ "/") _
  exact ⟨c, Text.dropEndWhile (· == '/') rest, by rw [String.toList_ofList, htrim], hc⟩

theorem below_join (base : String) {path : String} (h : BeginsSegment path) :
    Below base (join base [path]) := by
  obtain ⟨c, rest, hpath, hc⟩ := h
  have hfront : (c :: rest).dropWhile (· == '/') = c :: rest :=
    List.dropWhile_cons_of_neg (by simpa using hc)
  have hboth : Text.dropBothWhile (· == '/') path.toList =
      c :: Text.dropEndWhile (· == '/') rest := by
    rw [hpath, Text.dropBothWhile, hfront, dropEndWhile_slash rest hc]
  unfold Below
  rw [join_toList, appendSegment, hboth]
  exact ⟨c :: Text.dropEndWhile (· == '/') rest, List.append_cons _ _ _ ▸ rfl⟩

theorem beginsSegment_services (service tail : String) :
    BeginsSegment ("services/" ++ encodeSegment service ++ tail) :=
  (BeginsSegment.append ⟨'s', _, rfl, by decide⟩ _).append _

theorem beginsSegment_collection (scope : Scope) : BeginsSegment scope.collection := by
  cases scope with
  | service name => exact beginsSegment_services name "/plugins"
  | route name => exact (BeginsSegment.append ⟨'r', _, rfl, by decide⟩ _).append _
  | global => exact ⟨'p', _, rfl, by decide⟩

theorem beginsSegment_consumer (name : String) : BeginsSegment (Consumers.path name) :=
  BeginsSegment.append ⟨'c', _, rfl, by decide⟩ _

theorem beginsSegment_resetOrder {collection : String}
    (h : collection ∈ Provisioning.resetOrder) : BeginsSegment collection := by
  have hall : ∀ collection ∈ Provisioning.resetOrder, ∃ c rest, collection.toList = c :: rest ∧
      c ≠ '/' := by
    simp only [Provisioning.resetOrder, List.forall_mem_cons]
    refine ⟨⟨'r', _, rfl, by decide⟩, ⟨'s', _, rfl, by decide⟩, ⟨'c', _, rfl, by decide⟩,
      ⟨'p', _, rfl, by decide⟩, ⟨'c', _, rfl, by decide⟩, List.forall_mem_nil _⟩
  exact hall collection h

end Url

/-! ## The admin interface under two tokens -/

namespace AdminClient

variable (base token token' : String)

/-- The token is in the header, and only there. -/
theorem masked_requestTo (method : Method) (url : String) (body : Body) :
    ({ requestTo ⟨base, token⟩ method url with body } : Request).masked authorization =
      ({ requestTo ⟨base, token'⟩ method url with body } : Request).masked authorization := by
  unfold requestTo Request.masked Text.equalIgnoringAsciiCase authorization
  simp

/-- A question at a path is the same question under both tokens. -/
theorem twins_question {α : Type} {path : String} (hpath : Url.BeginsSegment path) (method : Method)
    (body : Body) (judge : Response → Except Failure α) :
    Twins (TokenApart base) (ask { request ⟨base, token⟩ method path with body } judge)
      (ask { request ⟨base, token'⟩ method path with body } judge) := by
  apply twins_ask
  · intro said
    refine ⟨masked_requestTo base token token' method _ body, ?_⟩
    intro _
    exact .inl (Url.below_join base hpath)
  · rfl
  · rfl

theorem twins_remove {collection : String} (h : Url.BeginsSegment collection) (id : String) :
    Twins (TokenApart base) (remove ⟨base, token⟩ collection id)
      (remove ⟨base, token'⟩ collection id) := by
  rw [remove_eq, remove_eq]
  exact twins_question base token token' (Url.beginsSegment_objectPath h id) .delete .empty _

/-- A link is below the base, unless it is an address of its own. -/
theorem resolve_below (c : AdminClient) (link : String) :
    Url.Below c.base (c.resolve link) ∨
      (c.resolve link = link ∧ ("http://".toList <+: link.toList ∨ "https://".toList <+: link.toList)) := by
  unfold resolve
  split
  · rename_i habsolute
    rw [Bool.or_eq_true, List.isPrefixOf_iff_prefix, List.isPrefixOf_iff_prefix] at habsolute
    exact .inr ⟨rfl, habsolute⟩
  · refine .inl ⟨link.toList.dropWhile (· == '/'), ?_⟩
    rw [String.toList_ofList, List.append_assoc, List.singleton_append]

/-- A page that may be asked for is asked for in the same way under both tokens. -/
theorem twinsAt_page {said : List Exchange} {url : String}
    (hurl : Url.Below base url ∨ Linked said url) (replies : List Reply) :
    TwinsAt (TokenApart base) said
      (ask (requestTo ⟨base, token⟩ .get url) (readPage ⟨base, token⟩ url))
      (ask (requestTo ⟨base, token'⟩ .get url) (readPage ⟨base, token'⟩ url)) replies := by
  apply twinsAt_ask
  · refine ⟨masked_requestTo base token token' .get url .empty, ?_⟩
    intro _
    exact hurl.imp_right fun hlinked => ⟨rfl, hlinked⟩
  · rfl
  · rfl

/-- A walk under two tokens. What has been said last allows the address: it is the first one, or the
page before links to it. The induction is on the replies. -/
theorem twinsAt_walk (replies : List Reply) : ∀ (said : List Exchange) (visited ids : List String)
    (url : String), Url.Below base url ∨ Linked said url →
    TwinsAt (TokenApart base) said (walk ⟨base, token⟩ visited ids url)
      (walk ⟨base, token'⟩ visited ids url) replies := by
  induction replies with
  | nil =>
    intro said visited ids url hurl
    by_cases hvisited : url ∈ visited
    · rw [walk_of_visited _ hvisited, walk_of_visited _ hvisited]
      exact twins_ofResult _ said []
    · rw [walk_eq_ask _ hvisited, walk_eq_ask _ hvisited]
      apply (twinsAt_page base token token' hurl []).bind (orderly_ask _ _) (orderly_ask _ _)
      intro found rest hended
      cases hended
  | cons reply replies ih =>
    intro said visited ids url hurl
    by_cases hvisited : url ∈ visited
    · rw [walk_of_visited _ hvisited, walk_of_visited _ hvisited]
      exact twins_ofResult _ said _
    · rw [walk_eq_ask _ hvisited, walk_eq_ask _ hvisited]
      apply (twinsAt_page base token token' hurl _).bind (orderly_ask _ _) (orderly_ask _ _)
      intro found rest hended
      rcases reply with reason | r
      · cases hended
      have hread : readPage ⟨base, token⟩ url r = .ok found ∧ replies = rest :=
        Prod.mk.inj (Option.some.inj hended)
      rw [← hread.2]
      let e : Exchange := ⟨requestTo ⟨base, token⟩ .get url, some (.ok r)⟩
      rcases readPage_cases ⟨base, token⟩ url (e := e) rfl with
        ⟨failure, hfailed, -⟩ | ⟨page, hfound, hpage⟩
      · cases hfailed.symm.trans hread.1
      rcases hlink : page.link? with _ | link
      · rw [hlink] at hfound
        cases hfound.symm.trans hread.1
        exact twins_pure _ _ _
      · rw [hlink] at hfound
        cases hfound.symm.trans hread.1
        apply ih
        rcases resolve_below ⟨base, token⟩ link with hbelow | ⟨hself, habsolute⟩
        · exact .inl hbelow
        · rw [hself]
          exact .inr ⟨e, page, List.getLast?_concat, hpage, hlink, habsolute⟩

theorem twins_listIds {collection : String} (h : Url.BeginsSegment collection) :
    Twins (TokenApart base) (listIds ⟨base, token⟩ collection)
      (listIds ⟨base, token'⟩ collection) := by
  intro said replies
  exact twinsAt_walk base token token' replies said [] [] _ (.inl (Url.below_join base h))

end AdminClient

/-- A question without headers is the same one in any two runs. -/
theorem twins_bare {α : Type} (base : String) {request : Request} (h : request.headers = [])
    (judge : Response → Except Failure α) :
    Twins (TokenApart base) (ask request judge) (ask request judge) := by
  apply twins_ask
  · intro said
    refine ⟨rfl, ?_⟩
    intro hcarries
    rw [Request.carries, Request.header?, h] at hcarries
    cases hcarries
  · rfl
  · rfl

/-! ## Provisioning under two tokens -/

namespace Provisioning

variable (p : Provisioning) {files files' : FileSource} (base token token' : String)

theorem twins_checkStatus : Twins (TokenApart base) p.checkStatus p.checkStatus := by
  rw [checkStatus_eq]
  exact twins_bare base rfl _

theorem twins_created {path : String} (hpath : Url.BeginsSegment path) (body : Body) :
    Twins (TokenApart base)
      (ask { AdminClient.request ⟨base, token⟩ .post path with body }
        (AdminClient.created ⟨base, token⟩ path)).ignored
      (ask { AdminClient.request ⟨base, token'⟩ .post path with body }
        (AdminClient.created ⟨base, token'⟩ path)).ignored :=
  (AdminClient.twins_question base token token' hpath .post body _).ignored
    (orderly_ask _ _) (orderly_ask _ _)

theorem twins_attach (plugin : Plugin) :
    Twins (TokenApart base) (attach ⟨base, token⟩ plugin).ignored
      (attach ⟨base, token'⟩ plugin).ignored :=
  twins_created base token token' (Url.beginsSegment_collection plugin.scope) _

/-- The token of the registry is the same in both runs. -/
theorem twins_injectRegistryToken (service : String)
    (hsecret : ∀ path, p.accessTokenFile = some path →
      Token.secretId files path = Token.secretId files' path) :
    Twins (TokenApart base) (p.injectRegistryToken files ⟨base, token⟩ service)
      (p.injectRegistryToken files' ⟨base, token'⟩ service) := by
  have hplugins : Url.BeginsSegment (servicePlugins service) := Url.beginsSegment_services service _
  rw [injectRegistryToken_questions, injectRegistryToken_questions]
  apply twins_ofResult_bind
  intro path hpath
  have hid : Token.secretId files path = Token.secretId files' path := by
    apply hsecret
    rcases haccess : p.accessTokenFile with _ | other
    · rw [haccess] at hpath
      cases hpath
    · rw [haccess] at hpath
      cases hpath
      rfl
  apply (AdminClient.twins_question base token token' hplugins .get .empty _).bind
    (orderly_ask _ _) (orderly_ask _ _)
  intro page
  have hremove : Twins (TokenApart base)
      (removeHeaderPlugin ⟨base, token⟩ (servicePlugins service) page.data)
      (removeHeaderPlugin ⟨base, token'⟩ (servicePlugins service) page.data) := by
    unfold removeHeaderPlugin
    split
    · exact AdminClient.twins_remove base token token' hplugins _
    · exact twins_pure ()
  apply hremove.bind (orderly_removeHeaderPlugin _ _ _) (orderly_removeHeaderPlugin _ _ _)
  intro _
  rw [hid]
  apply twins_ofResult_bind
  intro id _
  exact AdminClient.twins_question base token token' hplugins .post _ _

theorem twins_initRoute (item : String × Route)
    (hsecret : ∀ path, p.accessTokenFile = some path →
      Token.secretId files path = Token.secretId files' path) :
    Twins (TokenApart base) (p.initRoute files ⟨base, token⟩ item)
      (p.initRoute files' ⟨base, token'⟩ item) := by
  obtain ⟨key, route⟩ := item
  rw [initRoute_eq, initRoute_eq]
  apply (twins_created base token token' ⟨'s', _, rfl, by decide⟩ _).bind
    (orderly_createService _ _).ignored (orderly_createService _ _).ignored
  intro _
  apply (twins_onlyIf (p.twins_injectRegistryToken base token token' _ hsecret) _).bind
    (orderly_onlyIf (p.orderly_injectRegistryToken _ _ _) _)
    (orderly_onlyIf (p.orderly_injectRegistryToken _ _ _) _)
  intro _
  apply (twins_created base token token' (Url.beginsSegment_services _ _) _).bind
    (orderly_createEntry _ _ _).ignored (orderly_createEntry _ _ _).ignored
  intro _
  apply (twins_onlyIf (twins_attach base token token' _) _).bind
    (orderly_onlyIf (orderly_attach _ _).ignored _) (orderly_onlyIf (orderly_attach _ _).ignored _)
  intro _
  exact twins_attach base token token' _

theorem twins_emptyCollection {collection : String} (h : Url.BeginsSegment collection) :
    Twins (TokenApart base) (emptyCollection ⟨base, token⟩ collection)
      (emptyCollection ⟨base, token'⟩ collection) := by
  apply (AdminClient.twins_listIds base token token' h).bind
    (AdminClient.orderly_listIds _ _) (AdminClient.orderly_listIds _ _)
  intro ids
  apply twins_forEach (AdminClient.orderly_remove _ _) (AdminClient.orderly_remove _ _)
  intro id _
  exact AdminClient.twins_remove base token token' h id

/-- Two sources of files from which provisioning gets two tokens of the admin interface, and one token
of the registry. -/
structure DifferInToken (p : Provisioning) (files files' : FileSource) (token token' : String) :
    Prop where
  first : Token.load files p.bearerTokenFile = .ok token
  second : Token.load files' p.bearerTokenFile = .ok token'
  secret : ∀ path, p.accessTokenFile = some path →
    Token.secretId files path = Token.secretId files' path

variable {token token'}

theorem twins_init (h : p.DifferInToken files files' token token') :
    Twins (TokenApart p.gateway.adminBase) (p.init files) (p.init files') := by
  rw [init_eq, init_eq, p.client_of_token files h.first, p.client_of_token files' h.second,
    ofResult_ok_bind, ofResult_ok_bind]
  have hroutes : Twins (TokenApart p.gateway.adminBase)
      (forEach (p.initRoute files ⟨p.gateway.adminBase, token⟩) p.routes.entries)
      (forEach (p.initRoute files' ⟨p.gateway.adminBase, token'⟩) p.routes.entries) := by
    apply twins_forEach (p.orderly_initRoute files _) (p.orderly_initRoute files' _)
    intro item _
    exact p.twins_initRoute _ token token' item h.secret
  apply hroutes.bind (orderly_forEach (p.orderly_initRoute files _) _)
    (orderly_forEach (p.orderly_initRoute files' _) _)
  intro _
  exact twins_onlyIf (twins_attach _ token token' _) _

theorem twins_reset (h : p.DifferInToken files files' token token') :
    Twins (TokenApart p.gateway.adminBase) (p.reset files) (p.reset files') := by
  rw [reset_eq, reset_eq, p.client_of_token files h.first, p.client_of_token files' h.second,
    ofResult_ok_bind, ofResult_ok_bind]
  apply twins_forEach (orderly_emptyCollection _) (orderly_emptyCollection _)
  intro collection hcollection
  exact twins_emptyCollection _ token token' (Url.beginsSegment_resetOrder hcollection)

theorem twins_postCert (h : p.DifferInToken files files' token token') (pair : CertPair)
    (extraNames : String) :
    Twins (TokenApart p.gateway.adminBase) (p.postCert files pair extraNames)
      (p.postCert files' pair extraNames) := by
  rw [postCert_eq, postCert_eq]
  apply twins_ofResult_bind
  intro _ _
  rw [p.client_of_token files h.first, p.client_of_token files' h.second,
    ofResult_ok_bind, ofResult_ok_bind]
  exact AdminClient.twins_question _ token token' ⟨'c', _, rfl, by decide⟩ .post _ _

end Provisioning

/-! ## Consumers under two tokens -/

namespace Consumers

variable (c : Consumers) (token : String) (now : Int)

/-- The same access to the consumers with another token. -/
def withToken (c : Consumers) (token : String) : Consumers :=
  { c with admin := { c.admin with token } }

theorem twins_create (name : String) :
    Twins (TokenApart c.admin.base) (c.create name) ((c.withToken token).create name) :=
  AdminClient.twins_question _ c.admin.token token (Url.beginsSegment_consumer name) .put .empty _

theorem twins_join (name group : String) :
    Twins (TokenApart c.admin.base) (c.join name group) ((c.withToken token).join name group) :=
  AdminClient.twins_question _ c.admin.token token ((Url.beginsSegment_consumer name).append _)
    .post _ _

theorem twins_delete (name : String) :
    Twins (TokenApart c.admin.base) (c.delete name) ((c.withToken token).delete name) :=
  AdminClient.twins_remove _ c.admin.token token ⟨'c', _, rfl, by decide⟩ name

theorem twins_issueCredential (name : String) :
    Twins (TokenApart c.admin.base) (c.issueCredential name)
      ((c.withToken token).issueCredential name) := by
  have hauth : (c.withToken token).auth = c.auth := rfl
  rw [issueCredential_eq, issueCredential_eq, hauth]
  cases c.auth with
  | jwt =>
    exact AdminClient.twins_question _ c.admin.token token
      ((Url.beginsSegment_consumer name).append _) .post .empty _
  | oauth2 settings =>
    apply (AdminClient.twins_question _ c.admin.token token
      ((Url.beginsSegment_consumer name).append _) .post _ _).bind (orderly_ask _ _)
      (orderly_ask _ _)
    intro _
    exact twins_pure _

/-- A credential is exchanged without the token of the admin interface. -/
theorem twins_exchange (material : Material) (options : TokenOptions) :
    Twins (TokenApart c.admin.base) (c.exchange now material options)
      ((c.withToken token).exchange now material options) := by
  change Twins _ _ (c.exchange now material options)
  unfold exchange
  split
  · apply twins_ofResult_bind
    intro value _
    exact twins_pure _
  · rw [requestToken_eq]
    exact twins_bare c.admin.base rfl _
  · exact twins_ofResult _

theorem twins_createToken (name : String) (options : TokenOptions) :
    Twins (TokenApart c.admin.base) (c.createToken now name options)
      ((c.withToken token).createToken now name options) := by
  apply (c.twins_issueCredential token name).bind (c.orderly_issueCredential name)
    ((c.withToken token).orderly_issueCredential name)
  intro material
  exact c.twins_exchange token now material options

theorem twins_addUser (name : String) (groups : List String) (options : TokenOptions) :
    Twins (TokenApart c.admin.base) (c.addUser now name groups options)
      ((c.withToken token).addUser now name groups options) := by
  have horderly : ∀ (c : Consumers) (group : String),
      Orderly (do let _ ← c.join name group) :=
    fun c group => (c.orderly_join name group).ignored
  apply (c.twins_create token name).bind (c.orderly_create name) (orderly_create _ name)
  intro _
  have hgroups : Twins (TokenApart c.admin.base)
      (forEach (fun group => do let _ ← c.join name group) groups)
      (forEach (fun group => do let _ ← (c.withToken token).join name group) groups) := by
    apply twins_forEach (horderly c) (horderly (c.withToken token))
    intro group _
    exact (c.twins_join token name group).ignored (c.orderly_join name group)
      (orderly_join _ name group)
  apply hgroups.bind (orderly_forEach (horderly c) groups)
    (orderly_forEach (horderly (c.withToken token)) groups)
  intro _
  apply (c.twins_createToken token now name options).bind
    (c.orderly_createToken now name options) (orderly_createToken _ now name options)
  intro value
  exact twins_pure _

end Consumers

/-! ## All operations -/

/-- The operations of provisioning. -/
inductive Provisioning.Task where
  | checkStatus
  | init
  | reset
  | postCert (pair : CertPair) (extraNames : String)

/-- What an operation of provisioning comes to. -/
def Provisioning.Task.Value : Provisioning.Task → Type
  | .postCert _ _ => UploadOutcome
  | _ => Unit

/-- An operation of provisioning. -/
def Provisioning.Task.run (p : Provisioning) (files : FileSource) :
    (task : Provisioning.Task) → Dialogue task.Value
  | .checkStatus => p.checkStatus
  | .init => p.init files
  | .reset => p.reset files
  | .postCert pair extraNames => p.postCert files pair extraNames

/-- The operations on consumers. -/
inductive Consumers.Task where
  | create (name : String)
  | join (name group : String)
  | delete (name : String)
  | issueCredential (name : String)
  | exchange (material : Material) (options : TokenOptions)
  | createToken (name : String) (options : TokenOptions)
  | addUser (name : String) (groups : List String) (options : TokenOptions)

/-- What an operation on consumers comes to. -/
def Consumers.Task.Value : Consumers.Task → Type
  | .create _ | .join _ _ => Created
  | .delete _ => Unit
  | .issueCredential _ => Material
  | .exchange _ _ | .createToken _ _ => AccessToken
  | .addUser _ _ _ => Consumer × AccessToken

/-- An operation on consumers at a time. -/
def Consumers.Task.run (c : Consumers) (now : Int) :
    (task : Consumers.Task) → Dialogue task.Value
  | .create name => c.create name
  | .join name group => c.join name group
  | .delete name => c.delete name
  | .issueCredential name => c.issueCredential name
  | .exchange material options => c.exchange now material options
  | .createToken name options => c.createToken now name options
  | .addUser name groups options => c.addUser now name groups options

theorem Provisioning.Task.twins (p : Provisioning) {files files' : FileSource}
    {token token' : String} (h : p.DifferInToken files files' token token') (task : Task) :
    Twins (TokenApart p.gateway.adminBase) (task.run p files) (task.run p files') := by
  cases task with
  | checkStatus => exact p.twins_checkStatus _
  | init => exact p.twins_init h
  | reset => exact p.twins_reset h
  | postCert pair extraNames => exact p.twins_postCert h pair extraNames

theorem Consumers.Task.twins (c : Consumers) (token : String) (now : Int) (task : Task) :
    Twins (TokenApart c.admin.base) (task.run c now) (task.run (c.withToken token) now) := by
  cases task with
  | create name => exact c.twins_create token name
  | join name group => exact c.twins_join token name group
  | delete name => exact c.twins_delete token name
  | issueCredential name => exact c.twins_issueCredential token name
  | exchange material options => exact c.twins_exchange token now material options
  | createToken name options => exact c.twins_createToken token now name options
  | addUser name groups options => exact c.twins_addUser token now name groups options

namespace Dialogue

variable {α : Type} {base : String} {d d' : Dialogue α}

theorem Twins.indistinct_masked (h : Twins (TokenApart base) d d') :
    Indistinct (Request.masked authorization) d d' := by
  apply h.indistinct
  intro said r r' hlike
  exact hlike.1

theorem Twins.confines (h : Twins (TokenApart base) d d') : Confines base d := by
  intro replies i hi
  obtain ⟨r', hlike⟩ := (h [] replies).paired.at i hi
  exact hlike.2

end Dialogue

/-- Without a readable token nothing is sent with one. -/
theorem Provisioning.Task.confines (p : Provisioning) (files : FileSource) (task : Task) :
    Confines p.gateway.adminBase (task.run p files) := by
  rcases hload : Token.load files p.bearerTokenFile with failure | token
  · have hclient : p.client files = .error failure := p.client_of_failure files hload
    have hself : Twins (TokenApart p.gateway.adminBase) (task.run p files) (task.run p files) := by
      cases task with
      | checkStatus => exact p.twins_checkStatus _
      | init =>
        change Twins _ (p.init files) (p.init files)
        rw [init_eq, hclient, ofResult_error_bind]
        exact twins_ofResult _
      | reset =>
        change Twins _ (p.reset files) (p.reset files)
        rw [reset_eq, hclient, ofResult_error_bind]
        exact twins_ofResult _
      | postCert pair extraNames =>
        change Twins _ (p.postCert files pair extraNames) (p.postCert files pair extraNames)
        rw [postCert_eq, hclient]
        apply twins_ofResult_bind
        intro _ _
        rw [ofResult_error_bind]
        exact twins_ofResult _
    exact hself.confines
  · have h : p.DifferInToken files files token token := ⟨hload, hload, fun _ _ => rfl⟩
    exact (task.twins p h).confines

/-- No request has the header of the admin token. -/
def Tokenless {α : Type} (d : Dialogue α) : Prop :=
  ∀ replies, ∀ r ∈ (d replies).sent, r.carries authorization = false

theorem tokenless_ofResult {α : Type} (result : Except Failure α) :
    Tokenless (ofResult result) :=
  fun _ _ h => absurd h List.not_mem_nil

theorem tokenless_ofResult_bind {α β : Type} (result : Except Failure α) {f : α → Dialogue β}
    (h : ∀ x, Tokenless (f x)) : Tokenless (ofResult result >>= f) := by
  rcases result with failure | x
  · rw [ofResult_error_bind]
    exact tokenless_ofResult _
  · rw [ofResult_ok_bind]
    exact h x

theorem tokenless_bare {α : Type} {request : Request} (h : request.headers = [])
    (judge : Response → Except Failure α) : Tokenless (ask request judge) := by
  intro replies r hr
  have hsent : (ask request judge replies).sent = [request] := by
    rcases replies with _ | ⟨reason | response, rest⟩ <;> rfl
  rw [hsent, List.mem_singleton] at hr
  rw [hr, Request.carries, Request.header?, h]
  rfl

theorem Provisioning.tokenless_checkStatus (p : Provisioning) : Tokenless p.checkStatus := by
  rw [checkStatus_eq]
  exact tokenless_bare rfl _

theorem Consumers.tokenless_exchange (c : Consumers) (now : Int) (material : Material)
    (options : TokenOptions) : Tokenless (c.exchange now material options) := by
  unfold exchange
  split
  · apply tokenless_ofResult_bind
    intro value
    exact tokenless_ofResult _
  · rw [requestToken_eq]
    exact tokenless_bare rfl _
  · exact tokenless_ofResult _

/-- Whatever the admin token is, a gateway that is blind to the values of `Authorization` gets the same
requests up to them, and each operation comes to the same result. The header itself goes only below
the base of the admin interface, or to a page that the gateway has linked to by an address of its own;
checks of the status and exchanges of credentials are without it. -/
theorem token_stays_in_header (p : Provisioning) {files files' : FileSource} {token token' : String}
    (h : p.DifferInToken files files' token token') (c : Consumers) (other : String) (now : Int) :
    (∀ task : Provisioning.Task,
      Indistinct (Request.masked authorization) (task.run p files) (task.run p files')) ∧
    (∀ task : Consumers.Task,
      Indistinct (Request.masked authorization) (task.run c now)
        (task.run (c.withToken other) now)) ∧
    (∀ (task : Provisioning.Task) (anywhere : FileSource),
      Confines p.gateway.adminBase (task.run p anywhere)) ∧
    (∀ task : Consumers.Task, Confines c.admin.base (task.run c now)) ∧
    Tokenless p.checkStatus ∧
    ∀ material options, Tokenless (c.exchange now material options) := by
  refine ⟨?_, ?_, ?_, ?_, p.tokenless_checkStatus, c.tokenless_exchange now⟩
  · intro task
    exact (task.twins p h).indistinct_masked
  · intro task
    exact (task.twins c other now).indistinct_masked
  · intro task anywhere
    exact task.confines p anywhere
  · intro task
    exact (task.twins c other now).confines

/-- Files with a token of the admin interface, beside one and the same token of the registry. -/
def tokenFiles (token : String) : FileSource := fun path =>
  if path = "token" then .ok (Utf8.encode token)
  else .ok (Utf8.encode "\x7b\"SecretID\":\"s\"\x7d")

/-- A reset under one token and under another. -/
theorem token_stays_in_header_reset :
    let p : Provisioning := { bearerTokenFile := "token", accessTokenFile := some "registry.json" }
    p.DifferInToken (tokenFiles "first") (tokenFiles "second") "first" "second" ∧
      Indistinct (Request.masked authorization) (p.reset (tokenFiles "first"))
        (p.reset (tokenFiles "second")) := by
  intro p
  have h : p.DifferInToken (tokenFiles "first") (tokenFiles "second") "first" "second" := by
    refine ⟨ok_of_toOption (by decide +kernel),
      ok_of_toOption (by decide +kernel), ?_⟩
    rintro path ⟨⟩
    rfl
  have hall := token_stays_in_header p h ⟨⟨"http://kong:8001", "third"⟩, {}, .jwt⟩ "fourth" 0
  exact ⟨h, hall.1 .reset⟩

end GatewayProvisioning
