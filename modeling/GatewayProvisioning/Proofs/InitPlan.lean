import GatewayProvisioning.Proofs.Parts
import GatewayProvisioning.Proofs.PluginForm

/-!
# The plan of an initialization

Which requests an initialization sends, in which order, and which responses let it go on. The plan is
written out in full: methods, addresses, headers and bodies. Only one of its steps depends on an
earlier response: the deletion of the header plugin needs the id that the listing of the plugins has
given.

In a plan the replies are those that are left when its first step begins. They are any replies: what a
gateway answers from what it has been asked before is one row of them.
-/

namespace GatewayProvisioning

/-- One step of a plan: a request with the responses after which it goes on, or a condition. -/
inductive PlanStep where
  | ask (request : Request) (accepts : Response → Bool)
  | need (met : Bool)

namespace PlanStep

variable {α β ι : Type}

/-- All requests of a plan. -/
def requests : List PlanStep → List Request
  | [] => []
  | ask request _ :: steps => request :: requests steps
  | need _ :: steps => requests steps

/-- The requests that are sent if each step waits for the one before it to be met. -/
def reached : List PlanStep → List Reply → List Request
  | [], _ => []
  | need met :: steps, replies => if met then reached steps replies else []
  | ask request _ :: _, [] => [request]
  | ask request _ :: _, .error _ :: _ => [request]
  | ask request accepts :: steps, .ok response :: replies =>
    request :: if accepts response then reached steps replies else []

/-- The replies that are left when all steps have been met. -/
def passed : List PlanStep → List Reply → Option (List Reply)
  | [], replies => some replies
  | need met :: steps, replies => if met then passed steps replies else none
  | ask .. :: _, [] => none
  | ask .. :: _, .error _ :: _ => none
  | ask _ accepts :: steps, .ok response :: replies =>
    if accepts response then passed steps replies else none

theorem requests_append (xs ys : List PlanStep) :
    requests (xs ++ ys) = requests xs ++ requests ys := by
  induction xs with
  | nil => rfl
  | cons step xs ih => cases step <;> simp only [List.cons_append, requests, ih]

theorem prefix_reached (steps : List PlanStep) (replies : List Reply) :
    reached steps replies <+: requests steps := by
  induction steps generalizing replies with
  | nil => exact List.nil_prefix
  | cons step steps ih =>
    rcases step with ⟨request, accepts⟩ | met
    · rcases replies with _ | ⟨reason | response, replies⟩
      · exact List.prefix_append [request] _
      · exact List.prefix_append [request] _
      · rw [reached, requests, List.prefix_cons_inj]
        by_cases haccept : accepts response = true
        · rw [if_pos haccept]
          exact ih replies
        · rw [if_neg haccept]
          exact List.nil_prefix
    · cases met
      · exact List.nil_prefix
      · exact ih replies

/-- A plan that has been met has been sent as a whole, one reply for each request. -/
theorem reached_of_passed {steps : List PlanStep} {replies rest : List Reply}
    (h : passed steps replies = some rest) :
    reached steps replies = requests steps ∧ rest = replies.drop (requests steps).length := by
  induction steps generalizing replies with
  | nil =>
    rw [passed, Option.some.injEq] at h
    exact ⟨rfl, h.symm⟩
  | cons step steps ih =>
    rcases step with ⟨request, accepts⟩ | met
    · rcases replies with _ | ⟨reason | response, replies⟩
      · simp [passed] at h
      · simp [passed] at h
      · by_cases haccept : accepts response = true
        · rw [passed, if_pos haccept] at h
          obtain ⟨hreached, hrest⟩ := ih h
          rw [reached, if_pos haccept, requests, hreached]
          exact ⟨rfl, hrest⟩
        · rw [passed, if_neg haccept] at h
          contradiction
    · cases met
      · simp [passed] at h
      · exact ih h

theorem reached_append (xs ys : List PlanStep) (replies : List Reply) :
    reached (xs ++ ys) replies =
      reached xs replies ++ ((passed xs replies).map (reached ys)).getD [] := by
  induction xs generalizing replies with
  | nil => rfl
  | cons step xs ih =>
    rcases step with ⟨request, accepts⟩ | met
    · rcases replies with _ | ⟨reason | response, replies⟩
      · rfl
      · rfl
      · by_cases haccept : accepts response = true
        · simp only [List.cons_append, reached, passed, if_pos haccept, ih]
        · simp only [List.cons_append, reached, passed, if_neg haccept]
          rfl
    · cases met
      · rfl
      · exact ih replies

theorem passed_append (xs ys : List PlanStep) (replies : List Reply) :
    passed (xs ++ ys) replies = (passed xs replies).bind (passed ys) := by
  induction xs generalizing replies with
  | nil => rfl
  | cons step xs ih =>
    rcases step with ⟨request, accepts⟩ | met
    · rcases replies with _ | ⟨reason | response, replies⟩
      · rfl
      · rfl
      · by_cases haccept : accepts response = true
        · simp only [List.cons_append, passed, if_pos haccept, ih]
        · simp only [List.cons_append, passed, if_neg haccept]
          rfl
    · cases met
      · rfl
      · exact ih replies

end PlanStep

namespace Dialogue

open PlanStep

variable {α β ι : Type}

/-- The replies that are left after a conversation that has come to a value. -/
def unused (progress : Progress α) : Option (List Reply) :=
  match progress.ended with
  | some (.ok _, rest) => some rest
  | _ => none

/-- On a row of replies a conversation sends what the steps of a plan let it send, and comes to a
value exactly if all of them are met. -/
def Follows (d : Dialogue α) (steps : List PlanStep) (replies : List Reply) : Prop :=
  (d replies).sent = reached steps replies ∧ unused (d replies) = passed steps replies

theorem follows_pure (x : α) (replies : List Reply) : Follows (pure x) [] replies :=
  ⟨rfl, rfl⟩

/-- A result without requests is a condition. -/
theorem follows_ofResult {result : Except Failure α} {met : Bool}
    (h : met = true ↔ ∃ x, result = .ok x) (replies : List Reply) :
    Follows (ofResult result) [.need met] replies := by
  rcases result with failure | x
  · obtain rfl : met = false := by simpa using h
    exact ⟨rfl, rfl⟩
  · obtain rfl : met = true := by simpa using h
    exact ⟨rfl, rfl⟩

/-- The steps of a first conversation come before those of the next one, which begins with the
replies that the first has left. -/
theorem Follows.bind {d : Dialogue α} {f : α → Dialogue β} {xs ys : List PlanStep}
    {replies : List Reply} (h : Follows d xs replies)
    (hf : ∀ x rest, d replies = ⟨(d replies).sent, some (.ok x, rest)⟩ →
      rest = replies.drop (requests xs).length → Follows (f x) ys rest) :
    Follows (d >>= f) (xs ++ ys) replies := by
  obtain ⟨hsent, hleft⟩ := h
  unfold Follows
  rw [reached_append, passed_append]
  rcases progress_cases d replies with ⟨sent, hs⟩ | ⟨sent, failure, rest, hs⟩ | ⟨sent, x, rest, hs⟩
  · rw [hs] at hsent hleft
    rw [bind_of_waiting hs, ← hleft, ← hsent]
    exact ⟨(List.append_nil _).symm, rfl⟩
  · rw [hs] at hsent hleft
    rw [bind_of_failed hs, ← hleft, ← hsent]
    exact ⟨(List.append_nil _).symm, rfl⟩
  · -- only here the second conversation begins, with what the met steps have left
    rw [hs] at hsent hleft
    have hrest := (reached_of_passed hleft.symm).2
    obtain ⟨hsent', hleft'⟩ := hf x rest (by rw [hs]) hrest
    rw [bind_of_ok hs, ← hleft]
    simp only [unused, Option.bind_some] at hleft' ⊢
    rw [← hsent, hsent', ← hleft']
    exact ⟨rfl, rfl⟩

/-- A request whose response is a condition for all that follows. -/
theorem follows_send {request : Request} {accepts : Response → Bool} {steps : List PlanStep}
    {f : Response → Dialogue α} {replies : List Reply}
    (h : ∀ response rest, replies = .ok response :: rest →
      Follows (f response) (.need (accepts response) :: steps) rest) :
    Follows (send request >>= f) (.ask request accepts :: steps) replies := by
  rcases replies with _ | ⟨reason | response, rest⟩
  · exact ⟨rfl, rfl⟩
  · exact ⟨rfl, rfl⟩
  · obtain ⟨hsent, hleft⟩ := h response rest rfl
    unfold Follows
    rw [bind_of_ok (d := send request) rfl, reached, passed]
    rw [reached] at hsent
    rw [passed] at hleft
    rw [hsent]
    exact ⟨rfl, hleft⟩

theorem Follows.ignored {d : Dialogue α} {steps : List PlanStep} {replies : List Reply}
    (h : Follows d steps replies) : Follows d.ignored steps replies := by
  have hbind := h.bind (f := fun _ => pure ()) fun _ rest _ _ => follows_pure () rest
  rw [List.append_nil] at hbind
  exact hbind

theorem follows_onlyIf {b : Bool} {d : Dialogue Unit} {steps : List PlanStep}
    {replies : List Reply} (h : Follows d steps replies) :
    Follows (onlyIf b d) (if b then steps else []) replies := by
  cases b
  · exact follows_pure () replies
  · exact h

end Dialogue

namespace Provisioning

open Dialogue PlanStep

variable (p : Provisioning) (files : FileSource) (token : String)

/-! ## The plan -/

/-- A request of an initialization: a path below the base of the admin interface, and the token. -/
def planned (method : Method) (path : String) (body : Body := .empty) : Request where
  method := method
  url := Url.join p.gateway.adminBase [path]
  headers := [("Authorization", "Bearer " ++ token)]
  body := body

/-- Whether a response has one of several statuses. -/
def answeredBy (statuses : List UInt16) (r : Response) : Bool :=
  statuses.contains r.status

/-- The plugins that a listing names, if it is one. -/
def listed? (r : Response) : Option (List PluginEntry) :=
  if r.status == 200 then
    ((Page.codec PluginEntry.codec).decode (Json.document r.body)).toOption.map (·.data)
  else none

/-- The first plugin for headers in the reply to the listing of a service's plugins. -/
def listedHeaderPlugin? : Option Reply → Option PluginEntry
  | some (.ok r) => (listed? r).bind fun plugins => plugins.find? (·.name == "request-transformer")
  | _ => none

/-- The steps that put the token of the registry on requests to a service. -/
def registryPlan (name : String) (replies : List Reply) : List PlanStep :=
  let plugins := "services/" ++ Url.encodeSegment name ++ "/plugins"
  match p.accessTokenFile with
  | none => [.need false]
  | some path =>
    -- a service without plugins has a listing too
    .ask (p.planned token .get plugins) (fun r => (listed? r).isSome) ::
    (match listedHeaderPlugin? replies[0]? with
    | some plugin =>
      [.ask (p.planned token .delete (plugins ++ "/" ++ Url.encodeSegment plugin.id))
        (answeredBy [200, 201, 204])]
    | none => []) ++
    -- the file is read only now, and a conflict is no success here
    match Token.secretId files path with
    | .error _ => [.need false]
    | .ok id =>
      [.ask (p.planned token .post plugins (.form [("name", "request-transformer"),
        ("config.add.headers", "X-Consul-Token:" ++ id)])) Response.isSuccess]

/-- The steps for one route. The listing of its service's plugins is its second request. -/
def routePlan (key : String) (route : Route) (replies : List Reply) : List PlanStep :=
  let name := if route.name = "" then key else route.name
  let lower := Text.lowercase name
  let plugins := "routes/" ++ Url.encodeSegment lower ++ "/plugins"
  let createdOrPresent := answeredBy [200, 201, 409]
  [.ask (p.planned token .post "services" (.form [("name", name), ("host", route.host),
    ("port", Decimal.ofNat route.port.toNat), ("protocol", route.protocol)])) createdOrPresent] ++
  (if Text.equalIgnoringAsciiCase key "consul" then p.registryPlan files token name (replies.drop 1)
    else []) ++
  [.ask (p.planned token .post ("services/" ++ Url.encodeSegment name ++ "/routes")
    (.json (.record [("name", .text lower), ("paths", .list [.text ("/" ++ lower)])])))
    createdOrPresent] ++
  (if p.cors.enabled then
    [.ask (p.planned token .post plugins (.form (Plugin.settingsForm "cors"
      (Plugin.corsSettings p.cors)))) createdOrPresent]
    else []) ++
  [.ask (p.planned token .post plugins (.form (Plugin.authForm p.auth))) createdOrPresent]

/-- The steps for routes, one after the other. -/
def routesPlan : List (String × Route) → List Reply → List PlanStep
  | [], _ => []
  | (key, route) :: items, replies =>
    let steps := p.routePlan files token key route replies
    steps ++ routesPlan items (replies.drop (requests steps).length)

/-- The steps of an initialization. -/
def initPlan (replies : List Reply) : List PlanStep :=
  p.routesPlan files token p.routes.entries replies ++
  if p.acl.enabled then
    [.ask (p.planned token .post "plugins" (.form (Plugin.aclForm p.acl)))
      (answeredBy [200, 201, 409])]
  else []

/-! ## Every request of the plan carries the token -/

theorem registryPlan_planned (name : String) (replies : List Reply) :
    ∀ request ∈ requests (p.registryPlan files token name replies),
      ∃ method path body, request = p.planned token method path body := by
  unfold registryPlan
  rcases p.accessTokenFile with _ | path
  · intro request h
    cases h
  · simp only [List.cons_append, requests, requests_append, List.mem_cons, List.mem_append]
    rintro request (rfl | h | h)
    · exact ⟨_, _, _, rfl⟩
    · split at h
      · exact ⟨_, _, _, List.mem_singleton.mp h⟩
      · cases h
    · split at h
      · cases h
      · exact ⟨_, _, _, List.mem_singleton.mp h⟩

theorem routePlan_planned (key : String) (route : Route) (replies : List Reply) :
    ∀ request ∈ requests (p.routePlan files token key route replies),
      ∃ method path body, request = p.planned token method path body := by
  unfold routePlan
  simp only [requests_append, List.mem_append]
  rintro request ((((h | h) | h) | h) | h)
  · exact ⟨_, _, _, List.mem_singleton.mp h⟩
  · split at h
    · exact p.registryPlan_planned files token _ _ request h
    · cases h
  · exact ⟨_, _, _, List.mem_singleton.mp h⟩
  · split at h
    · exact ⟨_, _, _, List.mem_singleton.mp h⟩
    · cases h
  · exact ⟨_, _, _, List.mem_singleton.mp h⟩

theorem routesPlan_planned (items : List (String × Route)) (replies : List Reply) :
    ∀ request ∈ requests (p.routesPlan files token items replies),
      ∃ method path body, request = p.planned token method path body := by
  induction items generalizing replies with
  | nil =>
    intro request h
    cases h
  | cons item items ih =>
    rw [routesPlan, requests_append]
    intro request h
    rcases List.mem_append.mp h with h | h
    · exact p.routePlan_planned files token _ _ _ request h
    · exact ih _ request h

theorem initPlan_planned (replies : List Reply) :
    ∀ request ∈ requests (p.initPlan files token replies),
      ∃ method path body, request = p.planned token method path body := by
  unfold initPlan
  rw [requests_append]
  intro request h
  rcases List.mem_append.mp h with h | h
  · exact p.routesPlan_planned files token _ _ request h
  · split at h
    · exact ⟨_, _, _, List.mem_singleton.mp h⟩
    · cases h

theorem initPlan_headers (replies : List Reply) :
    ∀ request ∈ requests (p.initPlan files token replies),
      request.headers = [("Authorization", "Bearer " ++ token)] := by
  intro request h
  obtain ⟨method, path, body, hplanned⟩ := p.initPlan_planned files token replies request h
  rw [hplanned, planned]

/-! ## An initialization follows its plan -/

theorem created_isOk_iff (c : AdminClient) (path : String) (r : Response) :
    answeredBy [200, 201, 409] r = true ↔ ∃ x, c.created path r = .ok x := by
  unfold answeredBy AdminClient.created Response.isCreated
  by_cases h200 : r.status = 200
  · simp [h200]
  · by_cases h201 : r.status = 201
    · simp [h201]
    · by_cases h409 : r.status = 409 <;> simp [h200, h201, h409]

theorem follows_createService (service : Gateway.Service) (replies : List Reply) :
    Follows (createService ⟨p.gateway.adminBase, token⟩ service)
      [.ask (p.planned token .post "services" (.form service.form)) (answeredBy [200, 201, 409])]
      replies :=
  follows_send fun response rest _ => follows_ofResult (created_isOk_iff _ _ response) rest

theorem follows_createEntry (service : String) (entry : Gateway.Entry) (replies : List Reply) :
    Follows (createEntry ⟨p.gateway.adminBase, token⟩ service entry)
      [.ask (p.planned token .post (serviceEntries service) (.json (entryBody entry)))
        (answeredBy [200, 201, 409])] replies :=
  follows_send fun response rest _ => follows_ofResult (created_isOk_iff _ _ response) rest

theorem follows_attach (plugin : Plugin) (replies : List Reply) :
    Follows (attach ⟨p.gateway.adminBase, token⟩ plugin)
      [.ask (p.planned token .post plugin.scope.collection (.form plugin.form))
        (answeredBy [200, 201, 409])] replies :=
  follows_send fun response rest _ => follows_ofResult (created_isOk_iff _ _ response) rest

theorem decodeOk_isOk_iff (c : AdminClient) (path : String) (r : Response) :
    (listed? r).isSome = true ↔
      ∃ page, c.decodeOk (Page.codec PluginEntry.codec) path r = .ok page := by
  unfold listed? AdminClient.decodeOk Response.isOk AdminClient.decodeFrom
  by_cases h200 : r.status == 200
  · rw [if_pos h200, if_pos h200]
    rcases (Page.codec PluginEntry.codec).decode (Json.document r.body) with e | page
    · constructor
      · intro h
        cases h
      · rintro ⟨page, h⟩
        cases h
    · exact ⟨fun _ => ⟨page, rfl⟩, fun _ => rfl⟩
  · simp [h200]

theorem listed?_of_decodeOk {c : AdminClient} {path : String} {r : Response}
    {page : Page PluginEntry}
    (h : c.decodeOk (Page.codec PluginEntry.codec) path r = .ok page) :
    listed? r = some page.data := by
  unfold AdminClient.decodeOk Response.isOk AdminClient.decodeFrom at h
  unfold listed?
  by_cases h200 : r.status == 200
  · rw [if_pos h200] at h ⊢
    rcases hd : (Page.codec PluginEntry.codec).decode (Json.document r.body) with e | found
    · rw [hd] at h
      cases h
    · rw [hd] at h
      cases h
      rfl
  · rw [if_neg h200] at h
    cases h

theorem follows_removeHeaderPlugin (name : String) (plugins : List PluginEntry)
    (replies : List Reply) :
    Follows (removeHeaderPlugin ⟨p.gateway.adminBase, token⟩ (servicePlugins name) plugins)
      (match plugins.find? (·.name == "request-transformer") with
      | some plugin =>
        [.ask (p.planned token .delete (servicePlugins name ++ "/" ++ Url.encodeSegment plugin.id))
          (answeredBy [200, 201, 204])]
      | none => []) replies := by
  unfold removeHeaderPlugin Plugin.headerPlugin
  rcases hfound : plugins.find? (·.name == "request-transformer") with _ | plugin
  · simp only [hfound]
    exact follows_pure () replies
  · simp only [hfound, AdminClient.remove, objectPath_servicePlugins]
    refine follows_send fun response rest _ => ?_
    have hstatus : AdminClient.isDeleted response = answeredBy [200, 201, 204] response := by
      simp [AdminClient.isDeleted, Response.isCreated, answeredBy, Bool.or_assoc, Bool.beq_eq_decide_eq]
    rw [← hstatus]
    cases AdminClient.isDeleted response
    · exact follows_ofResult (by simp) rest
    · change Follows (ofResult (.ok ())) [.need true] rest
      exact follows_ofResult (by simp) rest

theorem follows_injectRegistryToken (name : String) (replies : List Reply) :
    Follows (p.injectRegistryToken files ⟨p.gateway.adminBase, token⟩ name)
      (p.registryPlan files token name replies) replies := by
  unfold injectRegistryToken registryPlan
  rcases p.accessTokenFile with _ | path
  · rw [ofResult_error_bind]
    exact follows_ofResult (by simp) replies
  rw [ofResult_ok_bind]
  refine follows_send fun listed rest hreplies => ?_
  -- the plan looks for the plugin in the reply, the conversation in the page read from it
  have hpage := follows_ofResult (decodeOk_isOk_iff ⟨p.gateway.adminBase, token⟩
    (servicePlugins name) listed) rest
  refine hpage.bind fun page rest' hok hrest => ?_
  have hlisted : listedHeaderPlugin? replies[0]? =
      page.data.find? (·.name == "request-transformer") := by
    simp only [ofResult, Progress.mk.injEq, Option.some.injEq, Prod.mk.injEq] at hok
    rw [hreplies, List.getElem?_cons_zero, listedHeaderPlugin?, listed?_of_decodeOk hok.2.1,
      Option.bind_some]
  rw [hlisted]
  refine (p.follows_removeHeaderPlugin token name page.data rest').bind fun _ rest'' _ _ => ?_
  rcases Token.secretId files path with failure | id
  · rw [ofResult_error_bind]
    exact follows_ofResult (by simp) rest''
  · rw [ofResult_ok_bind]
    refine follows_send fun response last _ => ?_
    by_cases h409 : response.status == 409
    · rw [if_pos h409]
      refine follows_ofResult ?_ last
      simp [Response.isSuccess, eq_of_beq h409]
    · rw [if_neg h409]
      cases response.isSuccess
      · exact follows_ofResult (by simp) last
      · change Follows (ofResult (.ok ())) [.need true] last
        exact follows_ofResult (by simp) last

theorem follows_initRoute (key : String) (route : Route) (replies : List Reply) :
    Follows (p.initRoute files ⟨p.gateway.adminBase, token⟩ (key, route))
      (p.routePlan files token key route replies) replies := by
  obtain ⟨hhost, hport, hprotocol⟩ := named_target key route
  rw [initRoute_eq, routePlan, ← named_name, ← hhost, ← hport, ← hprotocol]
  generalize named key route = configured
  simp only [List.append_assoc]
  have hservice := (p.follows_createService token configured.toService replies).ignored
  refine hservice.bind fun _ afterService _ hdrop => ?_
  -- the service has taken one reply, so the listing takes the next
  have htoken : Follows
      (onlyIf (isRegistry key)
        (p.injectRegistryToken files ⟨p.gateway.adminBase, token⟩ configured.name))
      (if Text.equalIgnoringAsciiCase key "consul" then
        p.registryPlan files token configured.name (replies.drop 1) else []) afterService := by
    rw [hdrop]
    exact follows_onlyIf (p.follows_injectRegistryToken files token configured.name _)
  refine htoken.bind fun _ afterToken _ _ => ?_
  have hentry := (p.follows_createEntry token configured.name configured.toEntry afterToken).ignored
  refine hentry.bind fun _ afterEntry _ _ => ?_
  have hcors := follows_onlyIf (b := p.cors.enabled)
    (p.follows_attach token (.cors configured.toEntry.name p.cors) afterEntry).ignored
  rw [Plugin.cors_form] at hcors
  refine hcors.bind fun _ afterCors _ _ => ?_
  have hauth := (p.follows_attach token (.auth configured.toEntry.name p.auth) afterCors).ignored
  rw [scope_auth, Plugin.auth_form] at hauth
  exact hauth

/-- The induction is on the routes: what a route leaves of the replies is what the next one gets. -/
theorem follows_initRoutes (items : List (String × Route)) (replies : List Reply) :
    Follows (forEach (p.initRoute files ⟨p.gateway.adminBase, token⟩) items)
      (p.routesPlan files token items replies) replies := by
  induction items generalizing replies with
  | nil => exact follows_pure () replies
  | cons item items ih =>
    refine (p.follows_initRoute files token item.1 item.2 replies).bind fun _ rest _ hrest => ?_
    rw [← hrest]
    exact ih rest

theorem follows_init (hload : Token.load files p.bearerTokenFile = .ok token)
    (replies : List Reply) : Follows (p.init files) (p.initPlan files token replies) replies := by
  rw [init_eq, p.client_of_token files hload, ofResult_ok_bind]
  refine (p.follows_initRoutes files token _ replies).bind fun _ rest _ _ => ?_
  have hacl := follows_onlyIf (b := p.acl.enabled) (p.follows_attach token (.acl p.acl) rest).ignored
  rw [Plugin.acl_form] at hacl
  exact hacl

/-- Without a token nothing is sent. With one, an initialization sends a prefix of its plan, as far
as the replies let it, and each request carries the token. It succeeds exactly if every step of the
plan is met, and then it has sent the whole plan. -/
theorem init_follows_plan (replies : List Reply) :
    match Token.load files p.bearerTokenFile with
    | .error failure => p.init files replies = ⟨[], some (.error failure, replies)⟩
    | .ok token =>
      (p.init files replies).sent = reached (p.initPlan files token replies) replies ∧
      (p.init files replies).sent <+: requests (p.initPlan files token replies) ∧
      (∀ request ∈ requests (p.initPlan files token replies),
        request.headers = [("Authorization", "Bearer " ++ token)]) ∧
      ∀ rest, (p.init files replies).ended = some (.ok (), rest) ↔
        passed (p.initPlan files token replies) replies = some rest ∧
          (p.init files replies).sent = requests (p.initPlan files token replies) := by
  rcases hload : Token.load files p.bearerTokenFile with failure | token
  · have hclient : p.client files = .error failure := by
      unfold client
      rw [hload]
      rfl
    rw [init_eq, hclient, ofResult_error_bind]
    rfl
  · obtain ⟨hsent, hunused⟩ := p.follows_init files token hload replies
    refine ⟨hsent, ?_, p.initPlan_headers files token replies, fun rest => ?_⟩
    · rw [hsent]
      exact prefix_reached _ replies
    · rw [← hunused]
      constructor
      · intro hended
        have hrest : unused (p.init files replies) = some rest := by rw [unused, hended]
        refine ⟨hrest, ?_⟩
        rw [hsent]
        exact (reached_of_passed (hunused.symm.trans hrest)).1
      · rintro ⟨hrest, -⟩
        unfold unused at hrest
        split at hrest
        · rename_i hended
          cases hrest
          exact hended
        · contradiction

end Provisioning

end GatewayProvisioning
