import GatewayProvisioning.Proofs.Asking
import GatewayProvisioning.Proofs.Transcript

/-!
# The last word

A conversation goes on only after a response that grants what was asked for: a success, or a conflict
where the object may be there already. Whatever else comes back is the last thing that is said, and a
failure that blames a response has the address and the status of just that exchange.

Nothing is asked of the gateway or the secret store: their replies are any row of replies.
-/

namespace GatewayProvisioning

open Dialogue Document

/-- The address that a failure blames, if it comes from a response. -/
def Failure.endpoint? : Failure → Option String
  | .refused endpoint _ _ => some endpoint
  | .notDeleted endpoint _ _ _ _ => some endpoint
  | .alreadyExists endpoint => some endpoint
  | _ => none

/-- The response is a success, or a conflict about something that may be there already. -/
def Exchange.Granted (mayExist : Request → Prop) (e : Exchange) : Prop :=
  ∃ r, e.reply = some (.ok r) ∧ (r.isSuccess = true ∨ (r.status = 409 ∧ mayExist e.request))

/-! ## Conversations that stop -/

namespace Dialogue

variable {α β ι : Type} {mayExist : Request → Prop}

/-- On a row of replies, a conversation goes on only after what has been granted, and its failure is
that of the last exchange: a broken connection as it is, a response by its address and status. -/
structure StopsAt (mayExist : Request → Prop) (d : Dialogue α) (replies : List Reply) : Prop where
  goesOn : ∀ e ∈ (d.transcript replies).dropLast, e.Granted mayExist
  succeeds : ∀ x rest, (d replies).ended = some (.ok x, rest) →
    ∀ e ∈ d.transcript replies, e.Granted mayExist
  blames : ∀ failure rest endpoint, (d replies).ended = some (.error failure, rest) →
    failure.endpoint? = some endpoint →
    ∃ request r, (d.transcript replies).getLast? = some ⟨request, some (.ok r)⟩ ∧
      request.url = endpoint ∧ failure.status? = some r.status
  breaks : ∀ request reason,
    (d.transcript replies).getLast? = some ⟨request, some (.error reason)⟩ →
    ∃ rest, (d replies).ended = some (.error (.unreachable request.url reason), rest)

/-- On whatever replies, a conversation stops at the first that grants nothing. -/
def Stops (mayExist : Request → Prop) (d : Dialogue α) : Prop :=
  ∀ replies, StopsAt mayExist d replies

theorem stops_ofResult {result : Except Failure α}
    (h : ∀ failure, result = .error failure → failure.endpoint? = none) :
    Stops mayExist (ofResult result) := by
  intro replies
  constructor
  case goesOn => exact List.forall_mem_nil _
  case succeeds => exact fun _ _ _ => List.forall_mem_nil _
  case blames =>
    intro failure rest endpoint hended hendpoint
    obtain ⟨hresult, -⟩ := Prod.mk.inj (Option.some.inj hended)
    rw [h failure hresult] at hendpoint
    cases hendpoint
  case breaks =>
    intro request reason hlast
    cases hlast

theorem stops_pure (x : α) : Stops mayExist (pure x : Dialogue α) :=
  stops_ofResult fun failure h => by cases h

/-- A conversation that has no value has said the same, and failed in the same way, as one that it has
begun with. -/
theorem StopsAt.unchanged {d : Dialogue α} {d' : Dialogue β} {replies : List Reply}
    (h : StopsAt mayExist d replies) (hsaid : d'.transcript replies = d.transcript replies)
    (hnone : ∀ y rest, (d' replies).ended ≠ some (.ok y, rest))
    (hfails : ∀ failure rest, (d' replies).ended = some (.error failure, rest) ↔
      (d replies).ended = some (.error failure, rest)) :
    StopsAt mayExist d' replies where
  goesOn := by
    rw [hsaid]
    exact h.goesOn
  succeeds y rest hended := absurd hended (hnone y rest)
  blames failure rest endpoint hended := by
    rw [hsaid]
    exact h.blames failure rest endpoint ((hfails failure rest).mp hended)
  breaks request reason hlast := by
    rw [hsaid] at hlast
    obtain ⟨rest, hended⟩ := h.breaks request reason hlast
    exact ⟨rest, (hfails _ rest).mpr hended⟩

/-- A conversation stops where its rest does, if all that it has asked for before was granted. -/
theorem StopsAt.after {next : Dialogue α} {d : Dialogue α} {replies rest : List Reply}
    {said : List Exchange} (h : StopsAt mayExist next rest)
    (hgranted : ∀ e ∈ said, e.Granted mayExist)
    (hsaid : d.transcript replies = said ++ next.transcript rest)
    (hended : (d replies).ended = (next rest).ended) : StopsAt mayExist d replies where
  goesOn := by
    rw [hsaid]
    by_cases hnil : next.transcript rest = []
    · rw [hnil, List.append_nil]
      exact fun e he => hgranted e (List.dropLast_subset _ he)
    · rw [List.dropLast_append_of_ne_nil hnil]
      exact List.forall_mem_append.mpr ⟨hgranted, h.goesOn⟩
  succeeds x left hx := by
    rw [hended] at hx
    rw [hsaid]
    exact List.forall_mem_append.mpr ⟨hgranted, h.succeeds x left hx⟩
  blames failure left endpoint hfail hendpoint := by
    rw [hended] at hfail
    obtain ⟨request, r, hlast, hsame⟩ := h.blames failure left endpoint hfail hendpoint
    refine ⟨request, r, ?_, hsame⟩
    rw [hsaid, List.getLast?_append, hlast, Option.some_or]
  breaks request reason hlast := by
    rw [hsaid, List.getLast?_append] at hlast
    rw [hended]
    rcases hlate : (next.transcript rest).getLast? with _ | e
    · -- what has been granted has a response
      rw [hlate, Option.none_or] at hlast
      obtain ⟨r, hreply, -⟩ := hgranted _ (List.mem_of_getLast? hlast)
      cases hreply
    · rw [hlate, Option.some_or] at hlast
      exact h.breaks request reason (hlate.trans hlast)

/-- What follows a conversation begins where that one has left the replies, and only if all that it
has asked for has been granted. -/
theorem StopsAt.bind {d : Dialogue α} {f : α → Dialogue β} {replies : List Reply} (hd : Orderly d)
    (h : StopsAt mayExist d replies)
    (hf : ∀ x rest, (d replies).ended = some (.ok x, rest) → StopsAt mayExist (f x) rest) :
    StopsAt mayExist (d >>= f) replies := by
  rcases hvalue : (d replies).ended with _ | ⟨failure | x, rest⟩
  · have hwait : (d >>= f) replies = ⟨(d replies).sent, none⟩ := bind_of_waiting (by rw [← hvalue])
    refine h.unchanged (by rw [transcript, hwait, transcript]) ?_ ?_
    · rw [hwait]
      simp
    · rw [hwait, hvalue]
      simp
  · have hfail : (d >>= f) replies = ⟨(d replies).sent, some (.error failure, rest)⟩ :=
      bind_of_failed (by rw [← hvalue])
    refine h.unchanged (by rw [transcript, hfail, transcript]) ?_ ?_
    · rw [hfail]
      simp
    · rw [hfail, hvalue]
      simp
  · obtain ⟨hsaid, hended⟩ := bind_with_value hd f hvalue
    exact (hf x rest hvalue).after (h.succeeds x rest hvalue) hsaid hended

theorem Stops.bind {d : Dialogue α} {f : α → Dialogue β} (hd : Orderly d) (h : Stops mayExist d)
    (hf : ∀ x, Stops mayExist (f x)) : Stops mayExist (d >>= f) :=
  fun replies => (h replies).bind hd fun x rest _ => hf x rest

theorem Stops.ignored {d : Dialogue α} (hd : Orderly d) (h : Stops mayExist d) :
    Stops mayExist d.ignored :=
  h.bind hd fun _ => stops_pure ()

theorem stops_onlyIf {d : Dialogue Unit} (h : Stops mayExist d) (b : Bool) :
    Stops mayExist (onlyIf b d) := by
  cases b
  · exact stops_pure ()
  · exact h

theorem stops_forEach {f : ι → Dialogue Unit} (hd : ∀ x, Orderly (f x))
    (h : ∀ x, Stops mayExist (f x)) (xs : List ι) : Stops mayExist (forEach f xs) := by
  induction xs with
  | nil => exact stops_pure ()
  | cons x xs ih => exact (h x).bind (hd x) fun _ => ih

/-! ## Requests whose response is judged -/

/-- A judgement that accepts only what grants the request, and blames nothing but the response. -/
structure Judges (mayExist : Request → Prop) (request : Request)
    (judge : Response → Except Failure α) : Prop where
  accepts : ∀ r x, judge r = .ok x → r.isSuccess = true ∨ (r.status = 409 ∧ mayExist request)
  blames : ∀ r failure endpoint, judge r = .error failure → failure.endpoint? = some endpoint →
    request.url = endpoint ∧ failure.status? = some r.status

theorem stops_ask {request : Request} {judge : Response → Except Failure α}
    (h : Judges mayExist request judge) : Stops mayExist (ask request judge) := by
  rintro (_ | ⟨reason | r, rest⟩)
  · constructor
    case goesOn => exact List.forall_mem_nil _
    case succeeds =>
      intro x left hended
      cases hended
    case blames =>
      intro failure left endpoint hended
      cases hended
    case breaks =>
      intro other reason hlast
      cases hlast
  · constructor
    case goesOn => exact List.forall_mem_nil _
    case succeeds =>
      intro x left hended
      cases hended
    case blames =>
      intro failure left endpoint hended hendpoint
      cases hended
      cases hendpoint
    case breaks =>
      intro other reason' hlast
      cases hlast
      exact ⟨rest, rfl⟩
  · have hsaid : (ask request judge).transcript (.ok r :: rest) = [⟨request, some (.ok r)⟩] := rfl
    have hended : (ask request judge (.ok r :: rest)).ended = some (judge r, rest) := rfl
    constructor
    case goesOn => exact List.forall_mem_nil _
    case succeeds =>
      intro x left hvalue
      obtain ⟨hjudge, -⟩ := Prod.mk.inj (Option.some.inj (hended.symm.trans hvalue))
      rw [hsaid]
      exact List.forall_mem_singleton.mpr ⟨r, rfl, h.accepts r x hjudge⟩
    case blames =>
      intro failure left endpoint hfail hendpoint
      obtain ⟨hjudge, -⟩ := Prod.mk.inj (Option.some.inj (hended.symm.trans hfail))
      refine ⟨request, r, ?_, h.blames r failure endpoint hjudge hendpoint⟩
      rw [hsaid]
      rfl
    case breaks =>
      intro other reason hlast
      cases hlast

end Dialogue

/-! ## What may be there already -/

/-- A request that creates an object which may be there already: a service, a route, a plugin other
than the one that carries the token of the registry, a consumer, a membership, or an application. -/
inductive MayExist (base : String) : Request → Prop
  | service (token : String) (service : Gateway.Service) :
    MayExist base
      { AdminClient.request ⟨base, token⟩ .post "services" with body := .form service.form }
  | entry (token service : String) (entry : Gateway.Entry) :
    MayExist base
      { AdminClient.request ⟨base, token⟩ .post (Provisioning.serviceEntries service) with
        body := .json (Provisioning.entryBody entry) }
  | plugin (token : String) (plugin : Plugin)
      (other : ∀ service id, plugin ≠ .registryToken service id) :
    MayExist base
      { AdminClient.request ⟨base, token⟩ .post plugin.scope.collection with
        body := .form plugin.form }
  | consumer (token name : String) :
    MayExist base (AdminClient.request ⟨base, token⟩ .put (Consumers.path name))
  | member (token name group : String) :
    MayExist base
      { AdminClient.request ⟨base, token⟩ .post (Consumers.path name ++ "/acls") with
        body := .form [("group", group)] }
  | application (token name : String) (settings : OAuth2Settings) :
    MayExist base
      { AdminClient.request ⟨base, token⟩ .post (Consumers.path name ++ "/oauth2") with
        body := .form (Consumers.applicationForm name settings) }

/-- No request is for something that may be there already. -/
def Nothing (_ : Request) : Prop :=
  False

/-! ## Requests of the admin interface -/

namespace AdminClient

variable (c : AdminClient) {mayExist : Request → Prop}

theorem isSuccess_of_status {r : Response} (h : r.status = 200 ∨ r.status = 201 ∨ r.status = 204) :
    r.isSuccess = true := by
  unfold Response.isSuccess
  rcases h with h | h | h <;> rw [h] <;> rfl

theorem isSuccess_of_isOk {r : Response} (h : r.isOk = true) : r.isSuccess = true :=
  isSuccess_of_status (.inl (eq_of_beq h))

theorem isSuccess_of_isCreated {r : Response} (h : r.isCreated = true) : r.isSuccess = true := by
  unfold Response.isCreated at h
  rw [Bool.or_eq_true, beq_iff_eq, beq_iff_eq] at h
  exact isSuccess_of_status (h.imp_right .inl)

theorem judges_created {request : Request} {path : String} (hurl : request.url = c.url path)
    (hmay : mayExist request) : Judges mayExist request (c.created path) where
  accepts r x h := by
    unfold created at h
    split at h
    · exact .inl (isSuccess_of_isCreated ‹_›)
    · split at h
      · exact .inr ⟨eq_of_beq ‹_›, hmay⟩
      · cases h
  blames r failure endpoint h hendpoint := by
    unfold created at h
    split at h
    · cases h
    · split at h <;> cases h
      exact ⟨hurl.trans (Option.some.inj hendpoint), rfl⟩

theorem decodeFrom_blames_none {α : Type} {codec : Codec α} {url body : String} {failure : Failure}
    (h : decodeFrom codec url body = .error failure) : failure.endpoint? = none := by
  unfold decodeFrom at h
  rcases hdecode : codec.decode (Json.document body) with e | x <;> rw [hdecode] at h <;> cases h
  rfl

/-- A response that is decoded if its status is right, and refused with its status otherwise. -/
theorem judges_decoded {α : Type} {request : Request} {right : Response → Bool}
    {value : Response → Except Failure α} {text : Response → String}
    (hright : ∀ r, right r = true → r.isSuccess = true)
    (hvalue : ∀ r failure, value r = .error failure → failure.endpoint? = none) :
    Judges mayExist request fun r =>
      if right r then value r else .error (.refused request.url r.status (text r)) where
  accepts r x h := by
    split at h
    · exact .inl (hright r ‹_›)
    · cases h
  blames r failure endpoint h hendpoint := by
    split at h
    · rw [hvalue r failure h] at hendpoint
      cases hendpoint
    · cases h
      exact ⟨Option.some.inj hendpoint, rfl⟩

theorem stops_decodeOk {α : Type} (codec : Codec α) (request : Request) {path : String}
    (hurl : request.url = c.url path) :
    Stops mayExist (ask request (c.decodeOk codec path)) := by
  have hjudge : c.decodeOk codec path = fun r =>
      if r.isOk then decodeFrom codec request.url r.body
      else .error (.refused request.url r.status r.body) := by
    funext r
    rw [hurl]
    rfl
  rw [hjudge]
  exact stops_ask (judges_decoded (fun _ => isSuccess_of_isOk) fun _ _ => decodeFrom_blames_none)

theorem stops_remove (collection id : String) : Stops mayExist (c.remove collection id) := by
  rw [remove_eq]
  refine stops_ask ⟨fun r x h => ?_, fun r failure endpoint h hendpoint => ?_⟩
  · split at h
    · rename_i hdeleted
      rw [isDeleted, Bool.or_eq_true] at hdeleted
      rcases hdeleted with hdeleted | hdeleted
      · exact .inl (isSuccess_of_isCreated hdeleted)
      · exact .inl (isSuccess_of_status (.inr (.inr (eq_of_beq hdeleted))))
    · cases h
  · split at h
    · cases h
    · cases h
      exact ⟨Option.some.inj hendpoint, rfl⟩

theorem judges_readPage (url : String) :
    Judges mayExist (c.requestTo .get url) (c.readPage url) where
  accepts r x h := by
    unfold readPage at h
    by_cases hok : r.isOk = true
    · exact .inl (isSuccess_of_isOk hok)
    · rw [if_pos (by simpa using hok)] at h
      cases h
  blames r failure endpoint h hendpoint := by
    unfold readPage at h
    by_cases hok : r.isOk = true
    · rw [if_neg (by simpa using hok)] at h
      rcases hdecode : decodeFrom (Page.codec IdEntry.codec) url r.body with e | page
      · rw [hdecode] at h
        cases h
        rw [decodeFrom_blames_none hdecode] at hendpoint
        cases hendpoint
      · rw [hdecode] at h
        cases h
    · rw [if_pos (by simpa using hok)] at h
      cases h
      exact ⟨Option.some.inj hendpoint, rfl⟩

/-- The induction is on the replies, since nothing else becomes less from page to page. -/
theorem stops_walk (visited ids : List String) (url : String) :
    Stops mayExist (c.walk visited ids url) := by
  intro replies
  induction replies generalizing visited ids url with
  | nil =>
    by_cases hvisited : url ∈ visited
    · rw [walk_of_visited c hvisited]
      exact stops_ofResult (fun failure h => by cases h; rfl) []
    · rw [walk_eq_ask c hvisited]
      refine (stops_ask (c.judges_readPage url) []).bind (orderly_ask _ _) fun found rest hended => ?_
      cases hended
  | cons reply replies ih =>
    by_cases hvisited : url ∈ visited
    · rw [walk_of_visited c hvisited]
      exact stops_ofResult (fun failure h => by cases h; rfl) _
    · rw [walk_eq_ask c hvisited]
      refine (stops_ask (c.judges_readPage url) _).bind (orderly_ask _ _) fun found rest hended => ?_
      have hrest : rest = replies := by
        rcases reply with reason | r
        · cases hended
        · exact (Prod.mk.inj (Option.some.inj hended)).2.symm
      rw [hrest]
      split
      · exact stops_pure _ _
      · exact ih _ _ _

end AdminClient

/-! ## Consumers -/

namespace Consumers

variable (c : Consumers) (now : Int)

theorem stops_create (name : String) : Stops (MayExist c.admin.base) (c.create name) :=
  stops_ask (c.admin.judges_created rfl (.consumer c.admin.token name))

theorem stops_join (name group : String) : Stops (MayExist c.admin.base) (c.join name group) :=
  stops_ask (c.admin.judges_created rfl (.member c.admin.token name group))

theorem stops_issueCredential (name : String) :
    Stops (MayExist c.admin.base) (c.issueCredential name) := by
  rw [issueCredential_eq]
  cases c.auth with
  | jwt =>
    refine stops_ask (AdminClient.judges_decoded (fun _ => AdminClient.isSuccess_of_isCreated)
      fun r failure h => ?_)
    rcases hdecode : AdminClient.decodeFrom JwtCredential.codec
      (c.admin.url (path name ++ "/jwt")) r.body with e | credential <;> rw [hdecode] at h <;> cases h
    exact AdminClient.decodeFrom_blames_none hdecode
  | oauth2 settings =>
    exact (stops_ask (c.admin.judges_created rfl (.application c.admin.token name settings))).bind
      (orderly_ask _ _) fun _ => stops_pure _

theorem signConsumer_blames_none {key secret : String} {audience : Option String}
    {span : Option Duration} {failure : Failure}
    (h : Token.signConsumer key secret audience span now = .error failure) :
    failure.endpoint? = none := by
  unfold Token.signConsumer at h
  split at h <;> cases h
  rfl

theorem stops_exchange (material : Material) (options : TokenOptions) {mayExist : Request → Prop} :
    Stops mayExist (c.exchange now material options) := by
  unfold exchange
  split
  · exact (stops_ofResult fun _ => signConsumer_blames_none now).bind (orderly_ofResult _)
      fun value => stops_pure _
  · rw [requestToken_eq]
    exact stops_ask (AdminClient.judges_decoded (fun _ => AdminClient.isSuccess_of_isCreated)
      fun _ _ => AdminClient.decodeFrom_blames_none)
  · exact stops_ofResult fun failure h => by cases h; rfl

theorem stops_createToken (name : String) (options : TokenOptions) :
    Stops (MayExist c.admin.base) (c.createToken now name options) :=
  (c.stops_issueCredential name).bind (c.orderly_issueCredential name)
    fun material => c.stops_exchange now material options

theorem stops_addUser (name : String) (groups : List String) (options : TokenOptions) :
    Stops (MayExist c.admin.base) (c.addUser now name groups options) := by
  unfold addUser
  refine (c.stops_create name).bind (c.orderly_create name) fun _ => ?_
  have horderly : ∀ group, Orderly (do let _ ← c.join name group) :=
    fun group => (c.orderly_join name group).ignored
  refine (stops_forEach horderly (fun group => ?_) groups).bind (orderly_forEach horderly groups)
    fun _ => ?_
  · exact (c.stops_join name group).ignored (c.orderly_join name group)
  · exact (c.stops_createToken now name options).bind (c.orderly_createToken now name options)
      fun token => stops_pure _

end Consumers

/-! ## Provisioning -/

namespace Provisioning

variable (p : Provisioning) (files : FileSource) (c : AdminClient)

/-- Without a token it is a token that is missing, and no response is to blame. -/
theorem tokenLoad_blames_none {path : String} {failure : Failure}
    (h : Token.load files path = .error failure) : failure.endpoint? = none := by
  unfold Token.load at h
  rcases hread : files path with fault | bytes
  · rw [hread] at h
    cases h
    rfl
  rw [hread] at h
  rcases hdecode : Utf8.decode? bytes with _ | text
  · simp only [hdecode] at h
    cases h
    rfl
  simp only [hdecode] at h
  rcases htext : Token.ofText path text with early | token
  · rw [htext] at h
    cases h
    unfold Token.ofText at htext
    simp only at htext
    split at htext
    · split at htext <;> cases htext
      rfl
    · cases htext
  · simp only [htext, bind, Except.bind] at h
    split at h <;> cases h
    rfl

theorem client_blames_none {failure : Failure} (h : p.client files = .error failure) :
    failure.endpoint? = none := by
  rcases hload : Token.load files p.bearerTokenFile with early | token
  · rw [p.client_of_failure files hload] at h
    cases h
    exact tokenLoad_blames_none files hload
  · rw [p.client_of_token files hload] at h
    cases h

theorem secretId_blames_none {path : String} {failure : Failure}
    (h : Token.secretId files path = .error failure) : failure.endpoint? = none := by
  unfold Token.secretId FileSource.read at h
  rcases hread : files path with fault | bytes
  · rw [hread] at h
    cases h
    rfl
  have hbytes : (Except.ok bytes).mapError (Failure.file path) = .ok bytes := rfl
  rw [hread, hbytes] at h
  simp only [bind, Except.bind] at h
  split at h
  · cases h
    rfl
  · split at h <;> cases h
    rfl

theorem stops_checkStatus {mayExist : Request → Prop} : Stops mayExist p.checkStatus := by
  rw [checkStatus_eq]
  exact stops_ask (AdminClient.judges_decoded (fun _ => AdminClient.isSuccess_of_isOk)
    fun r failure h => by cases h)

theorem stops_createService (service : Gateway.Service) :
    Stops (MayExist c.base) (createService c service) :=
  stops_ask (c.judges_created rfl (.service c.token service))

theorem stops_createEntry (service : String) (entry : Gateway.Entry) :
    Stops (MayExist c.base) (createEntry c service entry) :=
  stops_ask (c.judges_created rfl (.entry c.token service entry))

theorem stops_attach {plugin : Plugin} (h : ∀ service, plugin.scope ≠ .service service) :
    Stops (MayExist c.base) (attach c plugin) :=
  stops_ask (c.judges_created rfl (.plugin c.token plugin fun service id heq =>
    h service (by rw [heq]; rfl)))

theorem stops_removeHeaderPlugin (collection : String) (plugins : List PluginEntry)
    {mayExist : Request → Prop} : Stops mayExist (removeHeaderPlugin c collection plugins) := by
  unfold removeHeaderPlugin
  split
  · exact c.stops_remove _ _
  · exact stops_pure ()

theorem judges_replaced {request : Request} {collection : String}
    (hurl : request.url = c.url collection) {mayExist : Request → Prop} :
    Judges mayExist request (replaced c collection) where
  accepts r x h := by
    unfold replaced at h
    split at h
    · cases h
    · split at h
      · exact .inl ‹_›
      · cases h
  blames r failure endpoint h hendpoint := by
    unfold replaced at h
    split at h
    · rename_i hconflict
      cases h
      exact ⟨hurl.trans (Option.some.inj hendpoint), by rw [eq_of_beq hconflict]; rfl⟩
    · split at h <;> cases h
      exact ⟨hurl.trans (Option.some.inj hendpoint), rfl⟩

theorem stops_injectRegistryToken (service : String) {mayExist : Request → Prop} :
    Stops mayExist (p.injectRegistryToken files c service) := by
  rw [injectRegistryToken_questions]
  refine (stops_ofResult fun failure h => ?_).bind (orderly_ofResult _) fun path => ?_
  · split at h <;> cases h
    rfl
  refine (c.stops_decodeOk (Page.codec PluginEntry.codec)
    (c.request .get (servicePlugins service)) rfl).bind (orderly_ask _ _) fun page => ?_
  refine (stops_removeHeaderPlugin c _ _).bind (orderly_removeHeaderPlugin c _ _) fun _ => ?_
  refine (stops_ofResult fun _ => secretId_blames_none files).bind (orderly_ofResult _) fun id => ?_
  exact stops_ask (judges_replaced c rfl)

theorem stops_initRoute (item : String × Route) :
    Stops (MayExist c.base) (p.initRoute files c item) := by
  obtain ⟨key, route⟩ := item
  rw [initRoute_eq]
  refine ((stops_createService c _).ignored (orderly_createService c _)).bind
    (orderly_createService c _).ignored fun _ => ?_
  refine (stops_onlyIf (p.stops_injectRegistryToken files c _) _).bind
    (orderly_onlyIf (p.orderly_injectRegistryToken files c _) _) fun _ => ?_
  refine ((stops_createEntry c _ _).ignored (orderly_createEntry c _ _)).bind
    (orderly_createEntry c _ _).ignored fun _ => ?_
  refine (stops_onlyIf ((stops_attach c ?_).ignored (orderly_attach c _)) _).bind
    (orderly_onlyIf (orderly_attach c _).ignored _) fun _ => ?_
  · intro service h
    cases h
  refine (stops_attach c ?_).ignored (orderly_attach c _)
  intro service h
  rw [scope_auth] at h
  cases h

theorem stops_init : Stops (MayExist p.gateway.adminBase) (p.init files) := by
  rw [init_eq]
  rcases hclient : p.client files with failure | c
  · rw [ofResult_error_bind]
    exact stops_ofResult fun other h => by cases h; exact p.client_blames_none files hclient
  · rw [ofResult_ok_bind, ← p.client_base files hclient]
    refine (stops_forEach (p.orderly_initRoute files c) (p.stops_initRoute files c) _).bind
      (orderly_forEach (p.orderly_initRoute files c) _) fun _ => ?_
    refine stops_onlyIf ((stops_attach c ?_).ignored (orderly_attach c _)) _
    intro service h
    cases h

theorem stops_emptyCollection (collection : String) {mayExist : Request → Prop} :
    Stops mayExist (emptyCollection c collection) :=
  (c.stops_walk [] [] (c.url collection)).bind (c.orderly_listIds collection)
    fun ids => stops_forEach (c.orderly_remove collection) (c.stops_remove collection) ids

theorem stops_reset {mayExist : Request → Prop} : Stops mayExist (p.reset files) := by
  rw [reset_eq]
  exact (stops_ofResult fun _ => p.client_blames_none files).bind (orderly_ofResult _)
    fun c => stops_forEach (orderly_emptyCollection c) (fun _ => stops_emptyCollection c _) resetOrder

end Provisioning

/-! ## The secret store -/

namespace SecretStoreSettings

variable (s : SecretStoreSettings) (files : FileSource) {mayExist : Request → Prop}

theorem stops_checkStatus : Stops mayExist s.checkStatus := by
  rw [checkStatus_eq]
  exact stops_ask (AdminClient.judges_decoded (fun _ => AdminClient.isSuccess_of_isOk)
    fun r failure h => by cases h)

theorem stops_load : Stops mayExist (s.load files) := by
  rw [load_eq]
  refine (stops_ofResult fun _ => Provisioning.tokenLoad_blames_none files).bind
    (orderly_ofResult _) fun token => ?_
  exact stops_ask (AdminClient.judges_decoded (fun _ => AdminClient.isSuccess_of_isOk)
    fun _ _ => AdminClient.decodeFrom_blames_none)

end SecretStoreSettings

/-! ## All operations -/

/-- Whatever comes back, each operation stops at the first reply that does not grant what was asked
for. A failure that blames a response has the address of the last request and the status of the
response to it, and a broken connection is reported as it is. An operation that succeeds has been
granted everything, and only the creation of what may be there already is granted by a conflict. -/
theorem operations_stop :
    (∀ (c : AdminClient) (collection id : String), Stops Nothing (c.remove collection id)) ∧
    (∀ (c : AdminClient) (collection : String), Stops Nothing (c.listIds collection)) ∧
    (∀ (c : Consumers) (now : Int) (name : String) (options : TokenOptions),
      Stops (MayExist c.admin.base) (c.create name) ∧
      (∀ group, Stops (MayExist c.admin.base) (c.join name group)) ∧
      Stops Nothing (c.delete name) ∧
      Stops (MayExist c.admin.base) (c.issueCredential name) ∧
      (∀ material, Stops Nothing (c.exchange now material options)) ∧
      Stops (MayExist c.admin.base) (c.createToken now name options) ∧
      ∀ groups, Stops (MayExist c.admin.base) (c.addUser now name groups options)) ∧
    (∀ (p : Provisioning) (files : FileSource),
      Stops Nothing p.checkStatus ∧
      Stops (MayExist p.gateway.adminBase) (p.init files) ∧
      Stops Nothing (p.reset files)) ∧
    ∀ (s : SecretStoreSettings) (files : FileSource),
      Stops Nothing (s.load files) ∧ Stops Nothing s.checkStatus := by
  refine ⟨fun c collection id => c.stops_remove collection id,
    fun c collection => c.stops_walk [] [] _, fun c now name options => ?_,
    fun p files => ⟨p.stops_checkStatus, p.stops_init files, p.stops_reset files⟩,
    fun s files => ⟨s.stops_load files, s.stops_checkStatus⟩⟩
  exact ⟨c.stops_create name, c.stops_join name, c.admin.stops_remove _ _,
    c.stops_issueCredential name, fun material => c.stops_exchange now material options,
    c.stops_createToken now name options, fun groups => c.stops_addUser now name groups options⟩

end GatewayProvisioning
