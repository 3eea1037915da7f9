import GatewayProvisioning.Configuration.Reader
import GatewayProvisioning.Proofs.AdminCalls
import GatewayProvisioning.Proofs.EffectiveRoutes
import GatewayProvisioning.Proofs.InitPlan

/-!
# Usable routes

A route is usable if it has a name and a host. Routes come from a configuration, where a missing name
is filled in from the key, and from a list, whose entries are looked at one by one. So only a route
whose key is empty too can be without a name, and it is the one for which an initialization creates a
service without a name and an entry that takes every path.
-/

namespace GatewayProvisioning

open Dialogue PlanStep

theorem Text.lowerChar_ne_nil (c : Char) : Text.lowerChar c ≠ [] := by
  unfold Text.lowerChar
  split
  · exact List.cons_ne_nil _ _
  · split
    · exact List.cons_ne_nil _ _
    · split <;> exact List.cons_ne_nil _ _

/-- Only the empty text is empty in lower case. -/
theorem Text.lowercase_ne_empty {s : String} (h : s ≠ "") : Text.lowercase s ≠ "" := by
  obtain ⟨c, rest, hs⟩ := List.exists_cons_of_ne_nil fun hnil => h (String.toList_eq_nil_iff.mp hnil)
  intro hempty
  have hchars := congrArg String.toList hempty
  unfold Text.lowercase at hchars
  rw [String.toList_ofList, hs, Text.lowerFrom] at hchars
  have himage := (List.append_eq_nil_iff.mp hchars).1
  revert himage
  split
  · split <;> exact List.cons_ne_nil _ _
  · exact Text.lowerChar_ne_nil c

namespace AdminCall

/-- Whether a call creates a service without a name, or an entry whose only path is a slash. -/
def Unusable : AdminCall → Prop
  | addService service => service.name = ""
  | addEntry _ entry => entry.paths = ["/"]
  | _ => False

end AdminCall

/-- A request that does not ask for something that catches everything. -/
def Request.Usable (base : String) (request : Request) : Prop :=
  ∀ call, AdminCall.ofRequest? base request = some call → ¬call.Unusable

namespace Provisioning

variable (p : Provisioning) (files : FileSource) (token : String)

/-! ## What an initialization asks for -/

theorem usable_unposted {request : Request} (h : request.method ≠ .post) :
    request.Usable p.gateway.adminBase := by
  intro call hcall
  rcases AdminCall.call_of_not_post h hcall with ⟨service, rfl⟩ | ⟨service, id, rfl⟩
  · exact id
  · exact fun hunusable => hunusable

theorem usable_plugin {plugin : Plugin} (h : AdminCall.Nameless plugin) {path : String}
    (hpath : path = plugin.scope.collection) :
    (p.planned token .post path (.form plugin.form)).Usable p.gateway.adminBase := by
  intro call hcall
  rw [hpath] at hcall
  have hattach := AdminCall.ofRequest?_attach ⟨p.gateway.adminBase, token⟩ h
  cases hcall.symm.trans hattach
  exact fun hunusable => hunusable

theorem usable_service (service : Gateway.Service) :
    (p.planned token .post "services" (.form service.form)).Usable p.gateway.adminBase ↔
      service.name ≠ "" := by
  have hcreate := AdminCall.ofRequest?_createService ⟨p.gateway.adminBase, token⟩ service
  constructor
  · intro h
    exact h _ hcreate
  · intro h call hcall
    cases hcall.symm.trans hcreate
    exact h

theorem usable_entry (owner : String) {name : String} (h : name ≠ "") :
    (p.planned token .post ("services/" ++ Url.encodeSegment owner ++ "/routes")
      (.json (.record [("name", .text (Text.lowercase name)),
        ("paths", .list [.text ("/" ++ Text.lowercase name)])]))).Usable p.gateway.adminBase := by
  intro call hcall
  have hcreate := AdminCall.ofRequest?_createEntry ⟨p.gateway.adminBase, token⟩ owner
    ⟨Text.lowercase name, ["/" ++ Text.lowercase name]⟩
  cases hcall.symm.trans hcreate
  intro hunusable
  have hpath : "/" ++ Text.lowercase name = "/" := List.singleton_inj.mp hunusable
  apply Text.lowercase_ne_empty h
  apply String.toList_inj.mp
  have hchars := congrArg String.toList hpath
  rw [String.toList_append] at hchars
  exact List.append_cancel_left (hchars.trans (List.append_nil _).symm)

theorem usable_registryPlan (name : String) (replies : List Reply) :
    ∀ request ∈ requests (p.registryPlan files token name replies),
      request.Usable p.gateway.adminBase := by
  unfold registryPlan
  rcases p.accessTokenFile with _ | path
  · intro request h
    cases h
  · simp only [List.cons_append, requests, requests_append, List.mem_cons, List.mem_append]
    rintro request (rfl | h | h)
    · exact p.usable_unposted (by simp [planned])
    · split at h
      · rw [List.mem_singleton.mp h]
        exact p.usable_unposted (by simp [planned])
      · cases h
    · split at h
      · cases h
      · rename_i id _
        rw [List.mem_singleton.mp h]
        exact p.usable_plugin token (AdminCall.nameless_registryToken name id) rfl

theorem usable_routePlan {key : String} {route : Route} (h : (named key route).name ≠ "")
    (replies : List Reply) :
    ∀ request ∈ requests (p.routePlan files token key route replies),
      request.Usable p.gateway.adminBase := by
  rw [named_name] at h
  unfold routePlan
  simp only [requests_append, List.mem_append]
  rintro request ((((hr | hr) | hr) | hr) | hr)
  · rw [List.mem_singleton.mp hr]
    exact (p.usable_service token ⟨_, route.host, route.port, route.protocol⟩).mpr h
  · split at hr
    · exact p.usable_registryPlan files token _ _ request hr
    · cases hr
  · rw [List.mem_singleton.mp hr]
    exact p.usable_entry token _ h
  · split at hr
    · rw [List.mem_singleton.mp hr, ← Plugin.cors_form (Text.lowercase _)]
      exact p.usable_plugin token (AdminCall.nameless_cors _ _) rfl
    · cases hr
  · rw [List.mem_singleton.mp hr, ← Plugin.auth_form (Text.lowercase _)]
    refine p.usable_plugin token (AdminCall.nameless_auth _ _) ?_
    rw [scope_auth]
    rfl

theorem usable_routesPlan {items : List (String × Route)}
    (h : ∀ item ∈ items, (named item.1 item.2).name ≠ "") (replies : List Reply) :
    ∀ request ∈ requests (p.routesPlan files token items replies),
      request.Usable p.gateway.adminBase := by
  induction items generalizing replies with
  | nil =>
    intro request hr
    cases hr
  | cons item items ih =>
    rw [routesPlan, requests_append]
    intro request hr
    rcases List.mem_append.mp hr with hr | hr
    · exact p.usable_routePlan files token (h item List.mem_cons_self) _ request hr
    · exact ih (fun other hother => h other (List.mem_cons_of_mem item hother)) _ request hr

theorem usable_initPlan (h : ∀ item ∈ p.routes.entries, (named item.1 item.2).name ≠ "")
    (replies : List Reply) :
    ∀ request ∈ requests (p.initPlan files token replies), request.Usable p.gateway.adminBase := by
  unfold initPlan
  rw [requests_append]
  intro request hr
  rcases List.mem_append.mp hr with hr | hr
  · exact p.usable_routesPlan files token h _ request hr
  · split at hr
    · rw [List.mem_singleton.mp hr, ← Plugin.acl_form]
      exact p.usable_plugin token (AdminCall.nameless_acl _) rfl
    · cases hr

/-- An initialization asks for nothing unusable, whatever the token and the replies are, if and only
if no route has both an empty key and an empty name. -/
theorem init_usable_iff :
    (∀ files replies, ∀ request ∈ (p.init files replies).sent,
      request.Usable p.gateway.adminBase) ↔
        ∀ route, p.routes.get? "" = some route → route.name ≠ "" := by
  constructor
  · intro h route hroute hname
    let files : FileSource := fun _ => .ok (Utf8.encode "t")
    have hload : Token.load files p.bearerTokenFile = .ok "t" := rfl
    obtain ⟨rest, hentries⟩ := NameMap.entries_of_get?_empty hroute
    -- the route has the first key, so its service is asked for before anything is answered
    have hsent : (p.init files []).sent =
        [p.planned "t" .post "services" (.form (Gateway.Service.form
          ⟨if route.name = "" then "" else route.name, route.host, route.port, route.protocol⟩))] := by
      rw [(p.follows_init files "t" hload []).1, initPlan, hentries]
      rfl
    have husable := h files [] _ (by rw [hsent]; exact List.mem_singleton_self _)
    exact (p.usable_service "t" _).mp husable (by rw [if_pos hname])
  · intro h files replies request hrequest
    rcases hload : Token.load files p.bearerTokenFile with failure | token
    · rw [init_eq, p.client_of_failure files hload, ofResult_error_bind] at hrequest
      cases hrequest
    · rw [(p.follows_init files token hload replies).1] at hrequest
      refine p.usable_initPlan files token ?_ replies request ((prefix_reached _ _).subset hrequest)
      rintro ⟨key, route⟩ hitem
      rw [named_name]
      by_cases hname : route.name = ""
      · rw [if_pos hname]
        rintro rfl
        exact h route ((NameMap.mem_entries_iff _).mp hitem) hname
      · rw [if_neg hname]
        exact hname

end Provisioning

/-! ## Which routes reach an initialization -/

/-- What a list adds is under its own name and usable. -/
theorem RouteList.added_usable {list : Option String} {key : String} {route : Route}
    (h : (added list).get? key = some route) : route.name = key ∧ key ≠ "" ∧ route.host ≠ "" := by
  rcases list with _ | list
  · cases h
  · rcases hread : read list with failure | m
    · rw [added_of_error hread] at h
      cases h
    · rw [added_of_ok hread] at h
      obtain ⟨routes, hroutes, hget⟩ := read_eq_ok_iff.mp hread
      rw [hget] at h
      have hmeets := List.find?_some h
      have hkey : route.name = key := eq_of_beq hmeets
      obtain ⟨entry, -, hentry⟩ := exists_of_mem_mapM (mapM_eq_ok_iff.mpr hroutes) _
        (List.mem_of_find?_eq_some h)
      obtain ⟨-, hname, hhost⟩ := readEntry_ok hentry
      exact ⟨hkey, hkey ▸ hname, hhost⟩

namespace Configuration

variable {c n : Configuration}

theorem normalized_routes (h : c.normalized = .ok n) {key : String} {route : Route}
    (hroute : n.routes.get? key = some route) :
    route.host ≠ "" ∧ (route.name = "" → key = "") := by
  unfold normalized at h
  simp only at h
  rcases hfound : (c.routes.mapValues Provisioning.named).entries.find?
      (fun item => item.2.host.isEmpty) with _ | item
  · rw [hfound] at h
    by_cases htime : c.timeoutMillis = 0
    · simp only [htime] at h
      cases h
    · simp only [htime] at h
      cases h
      constructor
      · have hall := List.find?_eq_none.mp hfound _ ((NameMap.mem_entries_iff _).mpr hroute)
        simpa using hall
      · intro hname
        obtain ⟨configured, -, rfl⟩ := (NameMap.get?_mapValues_eq_some _ _).mp hroute
        rw [Provisioning.named_name] at hname
        by_cases hown : configured.name = ""
        · rwa [if_pos hown] at hname
        · rw [if_neg hown] at hname
          exact absurd hname hown
  · rw [hfound] at h
    cases h

/-- What has been loaded has been normalized. -/
theorem load_eq_ok {files : FileSource} {path : String} (h : load files path = .ok n) :
    ∃ read : Configuration, read.normalized = .ok n := by
  obtain ⟨bytes, -, h⟩ := exists_of_bind_eq_ok h
  split at h
  · split at h
    · obtain ⟨read, -, h⟩ := exists_of_bind_eq_ok h
      exact ⟨read, h⟩
    · cases h
  · cases h

/-- Every route of a configuration that has been loaded has a host, and so has every route that the
environment adds. Each of them has a name as well, and nothing unusable is ever asked for, if and only
if the configuration gives no route an empty key and no name. -/
theorem routes_usable_iff {files : FileSource} {path : String} (hload : load files path = .ok c)
    (environment : String → Option String) :
    let p := (c.withEnvironment environment).provisioning
    (∀ key route, p.routes.get? key = some route →
      route.host ≠ "" ∧ (route.name = "" → key = "")) ∧
    ((∀ key route, p.routes.get? key = some route → route.name ≠ "" ∧ route.host ≠ "") ↔
      ∀ route, c.routes.get? "" = some route → route.name ≠ "") ∧
    ((∀ tokens replies, ∀ request ∈ (p.init tokens replies).sent,
      request.Usable p.gateway.adminBase) ↔
        ∀ route, c.routes.get? "" = some route → route.name ≠ "") := by
  intro p
  obtain ⟨read, hnormalized⟩ := load_eq_ok hload
  let list := (c.withEnvironment environment).additionalRoutes
  have hget : ∀ key, p.routes.get? key =
      (c.routes.get? key).or ((RouteList.added list).get? key) := by
    intro key
    change (c.routes.effective list).get? key = _
    rw [Routes.effective_eq, NameMap.get?_union]
  have hall : ∀ key route, p.routes.get? key = some route →
      route.host ≠ "" ∧ (route.name = "" → key = "") := by
    intro key route hroute
    rw [hget] at hroute
    rcases Option.or_eq_some_iff.mp hroute with hconfigured | ⟨-, hadded⟩
    · exact normalized_routes hnormalized hconfigured
    · obtain ⟨hname, hkey, hhost⟩ := RouteList.added_usable hadded
      exact ⟨hhost, fun hempty => hname ▸ hempty⟩
  -- a list adds nothing under the empty key
  have hempty : p.routes.get? "" = c.routes.get? "" := by
    rw [hget]
    rcases hadded : (RouteList.added list).get? "" with _ | route
    · exact Option.or_none
    · exact absurd rfl (RouteList.added_usable hadded).2.1
  refine ⟨hall, ?_, ?_⟩
  · constructor
    · intro h route hroute
      exact (h "" route (hempty.trans hroute)).1
    · intro h key route hroute
      obtain ⟨hhost, hkey⟩ := hall key route hroute
      refine ⟨fun hname => ?_, hhost⟩
      obtain rfl := hkey hname
      exact h route (hempty.symm.trans hroute) hname
  · rw [p.init_usable_iff, hempty]

/-- Files that hold a text. -/
def filesWith (text : String) : FileSource := fun _ => .ok (Utf8.encode text)

/-- A configuration of one route without a name, under a key. -/
def namelessUnder (key : String) : String :=
  "\x7b\"routes\":\x7b\"" ++ key ++ "\":\x7b\"host\":\"h\",\"port\":1\x7d\x7d\x7d"

theorem load_namelessUnder (key : String) (route : Route)
    (h : ((load (filesWith (namelessUnder key)) "config.json").toOption.map
      fun c => (c.routes.entries, c.additionalRoutes)) = some ([(key, route)], none)) :
    ∃ c, load (filesWith (namelessUnder key)) "config.json" = .ok c ∧
      c.routes.entries = [(key, route)] ∧ c.additionalRoutes = none := by
  obtain ⟨c, hc, hparts⟩ := Option.map_eq_some_iff.mp h
  rw [Prod.mk.injEq] at hparts
  exact ⟨c, ok_of_toOption hc, hparts⟩

/-- A key that is not empty gives its route a name. -/
theorem routes_usable_named_by_key :
    ∃ c, load (filesWith (namelessUnder "core")) "config.json" = .ok c ∧
      (∀ route, c.routes.get? "" = some route → route.name ≠ "") ∧
      let p := (c.withEnvironment fun _ => some "extra.tcp://outside:2").provisioning
      (∀ key route, p.routes.get? key = some route → route.name ≠ "" ∧ route.host ≠ "") ∧
      ∀ tokens replies, ∀ request ∈ (p.init tokens replies).sent,
        request.Usable p.gateway.adminBase := by
  obtain ⟨c, hload, hentries, -⟩ := load_namelessUnder "core" ⟨"core", "http", "h", 1⟩
    (by decide +kernel)
  have hnone : ∀ route, c.routes.get? "" = some route → route.name ≠ "" := by
    intro route hroute
    unfold NameMap.get? at hroute
    rw [hentries] at hroute
    cases hroute
  obtain ⟨-, hroutes, hinit⟩ := routes_usable_iff hload fun _ => some "extra.tcp://outside:2"
  exact ⟨c, hload, hnone, hroutes.mpr hnone, hinit.mpr hnone⟩

/-- An empty key is no name: the route is accepted, and an initialization asks for a service without a
name and for an entry that takes every path. -/
theorem nameless_route_accepted :
    ∃ c, load (filesWith (namelessUnder "")) "config.json" = .ok c ∧
      let p := (c.withEnvironment fun _ => none).provisioning
      p.routes.get? "" = some ⟨"", "http", "h", 1⟩ ∧
      ((p.init (filesWith "t") [.ok ⟨201, ""⟩]).sent.map
        (AdminCall.ofRequest? p.gateway.adminBase)) =
          [some (.addService ⟨"", "h", 1, "http"⟩), some (.addEntry "" ⟨"", ["/"]⟩)] := by
  obtain ⟨c, hload, hentries, hlist⟩ := load_namelessUnder "" ⟨"", "http", "h", 1⟩
    (by decide +kernel)
  refine ⟨c, hload, ?_⟩
  intro p
  have hroutes : p.routes = c.routes := by
    change c.routes.effective c.additionalRoutes = c.routes
    rw [hlist]
    rfl
  have hget : p.routes.get? "" = some ⟨"", "http", "h", 1⟩ := by
    unfold NameMap.get?
    rw [hroutes, hentries]
    rfl
  have htoken : Token.load (filesWith "t") p.bearerTokenFile = .ok "t" := rfl
  have hsent := (p.follows_init _ "t" htoken [.ok ⟨201, ""⟩]).1
  rw [Provisioning.initPlan, hroutes, hentries] at hsent
  refine ⟨hget, ?_⟩
  rw [hsent]
  have hservice := AdminCall.ofRequest?_createService ⟨p.gateway.adminBase, "t"⟩
    ⟨"", "h", 1, "http"⟩
  have hentry := AdminCall.ofRequest?_createEntry ⟨p.gateway.adminBase, "t"⟩ "" ⟨"", ["/"]⟩
  exact congrArg₂ (fun first second => [first, second]) hservice hentry

end Configuration

end GatewayProvisioning
