import GatewayProvisioning.Proofs.EffectiveRoutes
import GatewayProvisioning.Proofs.InitTwice

/-!
# Static and additional routes

What a gateway that was empty keeps after an initialization: under each name what the first route with
that name asks for, in the order of the keys. Names of services are compared as they are, and names
of entries in lower case, while keys decide which additional routes are left out.

So a static route gets its service and its entry unless an additional route with another key comes
first and has the same name up to case.
-/

namespace GatewayProvisioning

open Dialogue

/-! ## What the first of several routes gives -/

/-- The routes of a map in the order of their keys, each with its name. -/
def Routes.inOrder (routes : Routes) : List Route :=
  routes.entries.map fun item => Provisioning.named item.1 item.2

namespace Routing

/-- Keeps a service unless its name is taken. -/
def offerService (t : Routing) (service : Gateway.Service) : Routing :=
  if (t.services service.name).isSome then t else t.addService service

/-- Keeps an entry unless its name is taken. -/
def offerEntry (t : Routing) (owner : String) (entry : Gateway.Entry) : Routing :=
  if (t.entries entry.name).isSome then t else t.addEntry owner entry

/-- Under each name what the first route with that name asks for. -/
def ofRoutes (routes : List Route) : Routing where
  services name := (routes.find? fun route => route.name == name).map Route.toService
  entries name := (routes.find? fun route => route.toEntry.name == name).map fun route =>
    (route.name, route.toEntry)

theorem services_ofRoutes (routes : List Route) (name : String) :
    (ofRoutes routes).services name =
      (routes.find? fun route => route.name == name).map Route.toService := rfl

theorem entries_ofRoutes (routes : List Route) (name : String) :
    (ofRoutes routes).entries name =
      (routes.find? fun route => route.toEntry.name == name).map fun route =>
        (route.name, route.toEntry) := rfl

variable (t : Routing)

theorem services_offerService (service : Gateway.Service) (name : String) :
    (t.offerService service).services name =
      (t.services name).or (if service.name = name then some service else none) := by
  unfold offerService
  rcases hold : t.services service.name with _ | old
  · by_cases hname : service.name = name
    · subst hname
      simp [addService, hold]
    · simp [addService, hname, Ne.symm hname]
  · by_cases hname : service.name = name
    · subst hname
      simp [hold]
    · simp [hname]

theorem entries_offerEntry (owner : String) (entry : Gateway.Entry) (name : String) :
    (t.offerEntry owner entry).entries name =
      (t.entries name).or (if entry.name = name then some (owner, entry) else none) := by
  unfold offerEntry
  rcases hold : t.entries entry.name with _ | old
  · by_cases hname : entry.name = name
    · subst hname
      simp [addEntry, hold]
    · simp [addEntry, hname, Ne.symm hname]
  · by_cases hname : entry.name = name
    · subst hname
      simp [hold]
    · simp [hname]

theorem services_offerEntry (owner : String) (entry : Gateway.Entry) :
    (t.offerEntry owner entry).services = t.services := by
  unfold offerEntry
  split <;> rfl

theorem entries_offerService (service : Gateway.Service) :
    (t.offerService service).entries = t.entries := by
  unfold offerService
  split <;> rfl

/-- A route that comes last adds what has not been there. -/
theorem ofRoutes_concat (routes : List Route) (route : Route) :
    ofRoutes (routes ++ [route]) =
      ((ofRoutes routes).offerService route.toService).offerEntry route.name route.toEntry := by
  apply Routing.ext
  · funext name
    rw [services_offerEntry, services_offerService, services_ofRoutes, services_ofRoutes,
      List.find?_append, Option.map_or, List.find?_singleton]
    by_cases hname : route.name = name
    · simp [Route.toService, hname]
    · simp [Route.toService, hname]
  · funext name
    rw [entries_offerEntry, entries_offerService, entries_ofRoutes, entries_ofRoutes,
      List.find?_append, Option.map_or, List.find?_singleton]
    by_cases hname : route.toEntry.name = name
    · simp [hname]
    · simp [hname]

end Routing

/-! ## An initialization of an empty gateway -/

namespace Provisioning

variable {σ : Type} {gateway : σ → Request → Reply × σ} {view : σ → Routing} {p : Provisioning}
  {files : FileSource} {c : AdminClient}

theorem ensures_created {state : σ} {request : Request} {path : String} {t : Routing}
    (h : ∀ response, (gateway state request).1 = .ok response →
      view (gateway state request).2 = t) :
    Ensures gateway (send request >>= fun r => ofResult (c.created path r)).ignored state
      fun _ last => view last = t := by
  refine Ensures.bind ((orderly_send _).bind fun _ => orderly_ofResult _) ?_
  refine Ensures.bind (orderly_send _) (ensures_send fun response hreply => ?_)
  exact ensures_ofResult fun _ _ => ensures_ofResult fun _ _ => h response hreply

theorem ensures_createService (hkeeps : KeepsRouting c.base gateway view) (state : σ)
    (service : Gateway.Service) :
    Ensures gateway (createService c service).ignored state fun _ last =>
      view last = (view state).offerService service := by
  refine ensures_created fun response hreply => ?_
  have hcall := AdminCall.ofRequest?_createService c service
  have hanswer := hkeeps.answers state _ _ response hcall hreply
  unfold Routing.offerService
  rcases hservice : (view state).services service.name with _ | old <;>
    simp only [Routing.Answers, hservice] at hanswer
  · exact hanswer.2
  · exact hanswer.2

theorem ensures_createEntry (hkeeps : KeepsRouting c.base gateway view) {state : σ} {owner : String}
    (howner : ((view state).services owner).isSome = true) (entry : Gateway.Entry) :
    Ensures gateway (createEntry c owner entry).ignored state fun _ last =>
      view last = (view state).offerEntry owner entry := by
  refine ensures_created fun response hreply => ?_
  have hcall := AdminCall.ofRequest?_createEntry c owner entry
  have hanswer := hkeeps.answers state _ _ response hcall hreply howner
  unfold Routing.offerEntry
  rcases hentry : (view state).entries entry.name with _ | old <;>
    simp only [hentry] at hanswer
  · exact hanswer.2
  · exact hanswer.2

theorem ensures_attach (hkeeps : KeepsRouting c.base gateway view) (state : σ) {plugin : Plugin}
    (hconfig : AdminCall.Nameless plugin) :
    Ensures gateway (attach c plugin).ignored state fun _ last => view last = view state := by
  refine ensures_created fun response hreply => ?_
  exact hkeeps.answers state _ _ response (AdminCall.ofRequest?_attach c hconfig) hreply

/-- What is not posted changes neither services nor routes. -/
theorem ensures_unposted (hkeeps : KeepsRouting c.base gateway view) (state : σ) {request : Request}
    (hmethod : request.method ≠ .post) :
    Ensures gateway (send request) state fun _ last => view last = view state := by
  refine ensures_send fun response hreply => ?_
  rcases hcall : AdminCall.ofRequest? c.base request with _ | call
  · exact hkeeps.others state request hcall
  · have hanswer := hkeeps.answers state request call response hcall hreply
    rcases AdminCall.call_of_not_post hmethod hcall with ⟨service, rfl⟩ | ⟨service, id, rfl⟩
    · exact hanswer
    · exact hanswer

theorem ensures_removeHeaderPlugin (hkeeps : KeepsRouting c.base gateway view) (state : σ)
    (collection : String) (plugins : List PluginEntry) :
    Ensures gateway (removeHeaderPlugin c collection plugins) state fun _ last =>
      view last = view state := by
  unfold removeHeaderPlugin
  split
  · unfold AdminClient.remove AdminClient.delete
    refine Ensures.bind (orderly_send _) ?_
    have hdelete : Method.delete ≠ .post := by decide
    refine (ensures_unposted hkeeps state hdelete).mono fun response last hlast => ?_
    split
    · exact ensures_ofResult fun _ _ => hlast
    · exact ensures_ofResult fun _ _ => hlast
  · exact ensures_ofResult fun _ _ => rfl

theorem ensures_injectRegistryToken (hkeeps : KeepsRouting c.base gateway view) (state : σ)
    (service : String) :
    Ensures gateway (p.injectRegistryToken files c service) state fun _ last =>
      view last = view state := by
  unfold injectRegistryToken AdminClient.get AdminClient.postForm
  refine Ensures.bind (orderly_ofResult _) (ensures_ofResult fun path _ => ?_)
  refine Ensures.bind (orderly_send _) ?_
  have hget : Method.get ≠ .post := by decide
  refine (ensures_unposted hkeeps state hget).mono fun listed mid hmid => ?_
  refine Ensures.bind (orderly_ofResult _) (ensures_ofResult fun page _ => ?_)
  refine Ensures.bind (orderly_removeHeaderPlugin c _ _) ?_
  refine (ensures_removeHeaderPlugin hkeeps mid _ _).mono fun _ bare hbare => ?_
  refine Ensures.bind (orderly_ofResult _) (ensures_ofResult fun id _ => ?_)
  refine Ensures.bind (orderly_send _) (ensures_send fun response hreply => ?_)
  have hcall := AdminCall.ofRequest?_attach c (AdminCall.nameless_registryToken service id)
  have hanswer := hkeeps.answers bare _ _ response hcall hreply
  have hlast := (show _ = view bare from hanswer).trans (hbare.trans hmid)
  split
  · exact ensures_ofResult fun _ _ => hlast
  · split
    · exact ensures_ofResult fun _ _ => hlast
    · exact ensures_ofResult fun _ _ => hlast

theorem ensures_onlyIf {d : Dialogue Unit} {state : σ} {b : Bool}
    (h : Ensures gateway d state fun _ last => view last = view state) :
    Ensures gateway (onlyIf b d) state fun _ last => view last = view state := by
  cases b
  · exact ensures_ofResult fun _ _ => rfl
  · exact h

theorem ensures_initRoute (hkeeps : KeepsRouting c.base gateway view) (state : σ) (key : String)
    (route : Route) :
    Ensures gateway (p.initRoute files c (key, route)) state fun _ last =>
      view last = ((view state).offerService (named key route).toService).offerEntry
        (named key route).name (named key route).toEntry := by
  rw [initRoute_eq]
  generalize named key route = configured
  refine Ensures.bind (orderly_createService c _).ignored ?_
  refine (ensures_createService hkeeps state _).mono fun _ first hfirst => ?_
  refine Ensures.bind (orderly_onlyIf (p.orderly_injectRegistryToken files c _) _) ?_
  refine (ensures_onlyIf (ensures_injectRegistryToken hkeeps first _)).mono fun _ second hsecond => ?_
  have hview : view second = (view state).offerService configured.toService := hsecond.trans hfirst
  -- the service of the entry is there by now
  have howner : ((view second).services configured.name).isSome = true := by
    have hself : configured.toService.name = configured.name := rfl
    rw [hview, Routing.services_offerService, if_pos hself, Option.isSome_or]
    exact Bool.or_true _
  refine Ensures.bind (orderly_createEntry c _ _).ignored ?_
  refine (ensures_createEntry hkeeps howner _).mono fun _ third hthird => ?_
  refine Ensures.bind (orderly_onlyIf (orderly_attach c _).ignored _) ?_
  refine (ensures_onlyIf (ensures_attach hkeeps third (AdminCall.nameless_cors _ _))).mono
    fun _ fourth hfourth => ?_
  refine (ensures_attach hkeeps fourth (AdminCall.nameless_auth _ _)).mono fun _ last hlast => ?_
  rw [hlast, hfourth, hthird, hview]

/-- What is kept after an initialization of an empty gateway. -/
theorem ensures_init (hkeeps : KeepsRouting p.gateway.adminBase gateway view) {start : σ}
    (hempty : view start = .empty) :
    Ensures gateway (p.init files) start fun _ last =>
      view last = .ofRoutes p.routes.inOrder := by
  have hclient : ∀ c, p.client files = .ok c → c.base = p.gateway.adminBase := by
    intro c hc
    unfold client at hc
    cases htoken : Token.load files p.bearerTokenFile with
    | error failure =>
      rw [htoken] at hc
      cases hc
    | ok token =>
      rw [htoken] at hc
      cases hc
      rfl
  rw [init_eq]
  refine Ensures.bind (orderly_ofResult _) (ensures_ofResult fun c hc => ?_)
  rw [← hclient c hc] at hkeeps
  refine Ensures.bind (orderly_forEach (p.orderly_initRoute files c) _) ?_
  -- the invariant of the rounds: what is kept is what the routes so far have given
  have hround : ∀ before item state,
      view state = .ofRoutes (before.map fun item => named item.1 item.2) →
        Ensures gateway (p.initRoute files c item) state fun _ last =>
          view last = .ofRoutes ((before ++ [item]).map fun item => named item.1 item.2) := by
    intro before item state hstate
    refine (ensures_initRoute hkeeps state item.1 item.2).mono fun _ last hlast => ?_
    rw [hlast, hstate, List.map_append, List.map_singleton, Routing.ofRoutes_concat]
  have hrounds := ensures_forEach (p.orderly_initRoute files c)
    (fun done state => view state = .ofRoutes (done.map fun item => named item.1 item.2))
    p.routes.entries [] start hempty hround
  refine hrounds.mono fun _ mid hmid => ?_
  refine (ensures_onlyIf (ensures_attach hkeeps mid (AdminCall.nameless_acl _))).mono
    fun _ last hlast => ?_
  exact hlast.trans hmid

end Provisioning

/-! ## Who wins -/

namespace Routing

/-- What is first under a weaker condition is first under a stronger one that it meets. -/
theorem find?_of_find? {α : Type} {weak strong : α → Bool} {xs : List α} {x : α}
    (h : xs.find? weak = some x) (hx : strong x = true)
    (himp : ∀ y, strong y = true → weak y = true) : xs.find? strong = some x := by
  obtain ⟨-, before, after, hsplit, hbefore⟩ := List.find?_eq_some_iff_append.mp h
  refine List.find?_eq_some_iff_append.mpr ⟨hx, before, after, hsplit, fun y hy => ?_⟩
  have hweak := hbefore y hy
  cases hstrong : strong y with
  | false => rfl
  | true =>
    rw [himp y hstrong] at hweak
    cases hweak

theorem toEntry_of_name {route other : Route} (h : other.name = route.name) :
    other.toEntry = route.toEntry := by
  unfold Route.toEntry
  rw [h]

/-- A route has its service and its entry if the first route with the name of its entry asks for the
same service. -/
theorem ofRoutes_gives_iff {routes : List Route} {route first : Route}
    (hfirst : (routes.find? fun other => other.toEntry.name == route.toEntry.name) = some first) :
    ((ofRoutes routes).services route.name = some route.toService ∧
      (ofRoutes routes).entries route.toEntry.name = some (route.name, route.toEntry)) ↔
        first.toService = route.toService := by
  have hservice : first.name = route.name →
      (ofRoutes routes).services route.name = some first.toService := by
    intro hname
    have himp : ∀ other : Route, (other.name == route.name) = true →
        (other.toEntry.name == route.toEntry.name) = true := by
      intro other hother
      rw [toEntry_of_name (eq_of_beq hother)]
      exact beq_self_eq_true _
    have hfound : (routes.find? fun other => other.name == route.name) = some first :=
      find?_of_find? hfirst (beq_iff_eq.mpr hname) himp
    rw [services_ofRoutes, hfound]
    rfl
  rw [entries_ofRoutes, hfirst]
  constructor
  · rintro ⟨hroute, hentry⟩
    have hname : first.name = route.name := (Prod.mk.inj (Option.some.inj hentry)).1
    rw [hservice hname] at hroute
    exact Option.some.inj hroute
  · intro hsame
    have hname : first.name = route.name := congrArg Gateway.Service.name hsame
    refine ⟨by rw [hservice hname, hsame], ?_⟩
    rw [Option.map_some, hname, toEntry_of_name hname]

/-- Each static route has its service, with its protocol, host and port, and its entry belongs to that
service. -/
def StaticWins (t : Routing) (configured : Routes) : Prop :=
  ∀ route ∈ configured.inOrder,
    t.services route.name = some ⟨route.name, route.host, route.port, route.protocol⟩ ∧
    t.entries (Text.lowercase route.name) = some (route.name, route.toEntry)

end Routing

namespace Routes

/-- The first route, in the order of the keys, whose entry has a name. -/
def first? (routes : Routes) (entry : String) : Option (String × Route) :=
  routes.entries.find? fun item => (Provisioning.named item.1 item.2).toEntry.name == entry

theorem find?_inOrder (routes : Routes) (entry : String) :
    (routes.inOrder.find? fun route => route.toEntry.name == entry) =
      (routes.first? entry).map fun item => Provisioning.named item.1 item.2 :=
  List.find?_map

theorem get?_effective {configured : Routes} {key : String} {route : Route}
    (h : configured.get? key = some route) (raw : Option String) :
    (configured.effective raw).get? key = some route := by
  rw [effective_eq, NameMap.get?_union, h, Option.some_or]

end Routes

namespace Provisioning

variable {σ : Type} {gateway : σ → Request → Reply × σ} {view : σ → Routing} {p : Provisioning}
  {files : FileSource}

/-- What comes first under the name of a static route is that route or an additional one, if the names
of static routes differ in lower case. -/
theorem first_eq_static {configured : Routes} {raw : Option String}
    (hdistinct : configured.inOrder.Pairwise fun a b => Text.lowercase a.name ≠ Text.lowercase b.name)
    {route : Route} (hroute : route ∈ configured.inOrder) {key : String} {first : Route}
    (hfirst : (configured.effective raw).first? route.toEntry.name = some (key, first))
    (hkey : configured.get? key ≠ none) : named key first = route := by
  obtain ⟨static, hstatic⟩ := Option.ne_none_iff_exists'.mp hkey
  have hmem : (key, first) ∈ (configured.effective raw).entries := List.mem_of_find?_eq_some hfirst
  have hsame : static = first := by
    have hfound := (NameMap.mem_entries_iff _).mp hmem
    rw [Routes.get?_effective hstatic raw] at hfound
    exact Option.some.inj hfound
  rw [hsame] at hstatic
  have hthere : named key first ∈ configured.inOrder :=
    List.mem_map_of_mem ((NameMap.mem_entries_iff _).mpr hstatic)
  have hmeets := List.find?_some hfirst
  have hname : Text.lowercase (named key first).name = Text.lowercase route.name := eq_of_beq hmeets
  -- no other static route has the name, so it is the same one
  have hinj := List.Pairwise.forall_of_forall_of_flip
    (R := fun a b : Route => Text.lowercase a.name = Text.lowercase b.name → a = b)
    (fun _ _ _ => rfl) (hdistinct.imp fun hne heq => absurd heq hne)
    (hdistinct.imp fun hne heq => absurd heq.symm hne)
  exact hinj hthere hroute hname

/-- In a gateway that was empty all static routes win if and only if no additional route comes first
under the lower case name of a static one, unless it asks for the same service. -/
theorem staticWins_iff {configured : Routes} {raw : Option String} {start last : σ}
    (hkeeps : KeepsRouting p.gateway.adminBase gateway view) (hempty : view start = .empty)
    (hroutes : p.routes = configured.effective raw)
    (hdistinct : configured.inOrder.Pairwise fun a b => Text.lowercase a.name ≠ Text.lowercase b.name)
    (hrun : Concludes gateway (p.init files) start (.ok ()) last) :
    (view last).StaticWins configured ↔
      ∀ route ∈ configured.inOrder, ∀ key rival,
        (configured.effective raw).first? (Text.lowercase route.name) = some (key, rival) →
          configured.get? key = none → (named key rival).toService = route.toService := by
  have hview : view last = .ofRoutes (configured.effective raw).inOrder := by
    rw [← hroutes]
    exact (ensures_init hkeeps hempty).of_concludes (p.orderly_init files) hrun
  rw [hview]
  -- a static route is among the effective ones, so that some route comes first under its name
  have hgives : ∀ route ∈ configured.inOrder, ∃ key first,
      (configured.effective raw).first? route.toEntry.name = some (key, first) ∧
        ((Routing.ofRoutes (configured.effective raw).inOrder).services route.name =
            some route.toService ∧
          (Routing.ofRoutes (configured.effective raw).inOrder).entries route.toEntry.name =
            some (route.name, route.toEntry) ↔ (named key first).toService = route.toService) := by
    intro route hroute
    obtain ⟨⟨key, static⟩, hstatic, rfl⟩ := List.mem_map.mp hroute
    have heffective : (key, static) ∈ (configured.effective raw).entries :=
      (NameMap.mem_entries_iff _).mpr
        (Routes.get?_effective ((NameMap.mem_entries_iff _).mp hstatic) raw)
    rcases hfirst : (configured.effective raw).first? (named key static).toEntry.name with _ | ⟨k, first⟩
    · have hnone := List.find?_eq_none.mp hfirst _ heffective
      exact absurd (beq_self_eq_true _) hnone
    · refine ⟨k, first, rfl, Routing.ofRoutes_gives_iff ?_⟩
      rw [Routes.find?_inOrder, hfirst]
      rfl
  constructor
  · intro hwins route hroute key rival hrival _
    obtain ⟨k, first, hfirst, hiff⟩ := hgives route hroute
    have heq := Option.some.inj (hfirst.symm.trans hrival)
    cases heq
    exact hiff.mp (hwins route hroute)
  · intro hrivals route hroute
    obtain ⟨k, first, hfirst, hiff⟩ := hgives route hroute
    apply hiff.mpr
    -- first comes either an additional route or a static one
    by_cases hkey : configured.get? k = none
    · exact hrivals route hroute k first hfirst hkey
    · rw [first_eq_static hdistinct hroute hfirst hkey]

/-- A static route whose name is not its key. -/
def staticRoutes : Routes :=
  ⟨[("zeta", ⟨"core", "http", "inside", 1⟩)], by simp⟩

/-- A static route and additional ones. -/
def mixedProvisioning (additional : String) : Provisioning where
  routes := staticRoutes.effective (some additional)
  bearerTokenFile := "token"

theorem mixed_concludes {additional : String} {items : List (String × Route)}
    (hitems : (staticRoutes.effective (some additional)).entries = items)
    (hkeys : ∀ item ∈ items, isRegistry item.1 = false) :
    ∃ last, Concludes (Ledger.gateway (mixedProvisioning additional).gateway.adminBase)
      ((mixedProvisioning additional).init registryFiles) .empty (.ok ()) last := by
  have hkeeps := Ledger.keeps (mixedProvisioning additional).gateway.adminBase
  have hinit : Establishes _ Ledger.store _ _ .always (initCondition [] _) :=
    establishes_init hkeeps registryFiles_token fun key route hitem hkey => by
      rw [hkeys (key, route) (hitems ▸ hitem)] at hkey
      cases hkey
  obtain ⟨last, hrun, -⟩ := (hinit .empty trivial).concludes (orderly_init _ registryFiles)
  exact ⟨last, hrun⟩

/-- The additional route has another name than the static one, which gets what it asks for. -/
theorem static_wins_beside_extra :
    ∃ last, Concludes (Ledger.gateway (mixedProvisioning "extra.tcp://outside:2").gateway.adminBase)
      ((mixedProvisioning "extra.tcp://outside:2").init registryFiles) .empty (.ok ()) last ∧
      last.routing.StaticWins staticRoutes := by
  have hentries : (staticRoutes.effective (some "extra.tcp://outside:2")).entries =
      [("extra", ⟨"extra", "tcp", "outside", 2⟩), ("zeta", ⟨"core", "http", "inside", 1⟩)] := by
    decide +kernel
  obtain ⟨last, hrun⟩ := mixed_concludes hentries (by decide)
  have hdistinct : staticRoutes.inOrder.Pairwise fun a b =>
      Text.lowercase a.name ≠ Text.lowercase b.name := List.pairwise_singleton _ _
  have hroutes : (mixedProvisioning "extra.tcp://outside:2").routes =
      staticRoutes.effective (some "extra.tcp://outside:2") := rfl
  refine ⟨last, hrun, (staticWins_iff (Ledger.keeps_routing _) rfl hroutes hdistinct hrun).mpr ?_⟩
  intro route hroute key rival hrival hkey
  have hfirst : (staticRoutes.effective (some "extra.tcp://outside:2")).first?
      (Text.lowercase "core") = some ("zeta", ⟨"core", "http", "inside", 1⟩) := by
    unfold Routes.first?
    rw [hentries]
    decide +kernel
  rw [List.mem_singleton.mp hroute] at hrival
  cases hfirst.symm.trans hrival
  cases hkey

/-- An additional route with the name of a static one, but another key, comes first and takes both its
service and its entry. -/
theorem static_route_displaced :
    (staticRoutes.inOrder.Pairwise fun a b => Text.lowercase a.name ≠ Text.lowercase b.name) ∧
    KeepsRouting (mixedProvisioning "core.tcp://outside:2").gateway.adminBase
      (Ledger.gateway (mixedProvisioning "core.tcp://outside:2").gateway.adminBase)
      Ledger.routing ∧
    Ledger.empty.routing = .empty ∧
    ∃ last, Concludes (Ledger.gateway (mixedProvisioning "core.tcp://outside:2").gateway.adminBase)
      ((mixedProvisioning "core.tcp://outside:2").init registryFiles) .empty (.ok ()) last ∧
      last.routing.services "core" = some ⟨"core", "outside", 2, "tcp"⟩ ∧
      ¬last.routing.StaticWins staticRoutes := by
  have hentries : (staticRoutes.effective (some "core.tcp://outside:2")).entries =
      [("core", ⟨"core", "tcp", "outside", 2⟩), ("zeta", ⟨"core", "http", "inside", 1⟩)] := by
    decide +kernel
  obtain ⟨last, hrun⟩ := mixed_concludes hentries (by decide)
  have hview : last.routing = .ofRoutes (staticRoutes.effective (some "core.tcp://outside:2")).inOrder :=
    (ensures_init (Ledger.keeps_routing _) rfl).of_concludes (orderly_init _ registryFiles) hrun
  have hservice : last.routing.services "core" = some ⟨"core", "outside", 2, "tcp"⟩ := by
    rw [hview, Routing.services_ofRoutes]
    unfold Routes.inOrder
    rw [hentries]
    decide
  refine ⟨List.pairwise_singleton _ _, Ledger.keeps_routing _, rfl, last, hrun, hservice, fun hwins => ?_⟩
  have hstatic := (hwins _ List.mem_cons_self).1
  exact absurd (hservice.symm.trans hstatic) (by decide)

end Provisioning

end GatewayProvisioning
