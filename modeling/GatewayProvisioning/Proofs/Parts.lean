import GatewayProvisioning.Admin.Provisioning
import GatewayProvisioning.Proofs.Cutting
import GatewayProvisioning.Proofs.Dialogue
import GatewayProvisioning.Proofs.Results

/-!
# The parts of an initialization

An initialization as a plain row of smaller conversations, and that each of them is orderly.
-/

namespace GatewayProvisioning

open Dialogue

namespace AdminClient

theorem orderly_remove (c : AdminClient) (collection id : String) :
    Orderly (c.remove collection id) := by
  unfold remove delete
  refine (orderly_send _).bind fun r => ?_
  split
  · exact orderly_pure ()
  · exact orderly_ofResult _

/-- A deletion that is answered with status 204 succeeds. -/
theorem runs_remove_of_reply {σ : Type} {gateway : σ → Request → Reply × σ} {c : AdminClient}
    {collection id : String} {state : σ} {response : Response}
    (hreply : (gateway state (c.request .delete (objectPath collection id))).1 = .ok response)
    (hstatus : response.status = 204) :
    Runs gateway (c.remove collection id) state [c.request .delete (objectPath collection id)]
      (.ok ()) (gateway state (c.request .delete (objectPath collection id))).2 := by
  have hdeleted : isDeleted response = true := by
    unfold isDeleted
    rw [hstatus]
    exact Bool.or_true _
  refine Runs.bind (orderly_send _) (runs_send hreply) ?_
  rw [if_pos hdeleted]
  exact runs_ofResult _ _

end AdminClient

namespace Provisioning

variable (p : Provisioning) (files : FileSource) (c : AdminClient)

/-! ## The parts in a row -/

/-- Everything about a route comes one after the other. -/
theorem initRoute_eq (key : String) (route : Route) :
    p.initRoute files c (key, route) =
      (createService c (named key route).toService).ignored >>= fun _ =>
      onlyIf (isRegistry key) (p.injectRegistryToken files c (named key route).name) >>= fun _ =>
      (createEntry c (named key route).name (named key route).toEntry).ignored >>= fun _ =>
      onlyIf p.cors.enabled
        (attach c (.cors (named key route).toEntry.name p.cors)).ignored >>= fun _ =>
      (attach c (.auth (named key route).toEntry.name p.auth)).ignored := by
  unfold initRoute onlyIf ignored
  cases isRegistry key <;> cases p.cors.enabled <;>
    simp [bind_assoc_eq, Route.toService]

theorem init_eq :
    p.init files =
      Dialogue.ofResult (p.client files) >>= fun c =>
      Dialogue.forEach (p.initRoute files c) p.routes.entries >>= fun _ =>
      onlyIf p.acl.enabled (attach c (.acl p.acl)).ignored := by
  unfold init onlyIf ignored
  cases p.acl.enabled <;> rfl

theorem reset_eq :
    p.reset files =
      Dialogue.ofResult (p.client files) >>= fun c =>
      Dialogue.forEach (emptyCollection c) resetOrder := rfl

/-! ## Access to the admin interface -/

theorem client_of_token {token : String} (h : Token.load files p.bearerTokenFile = .ok token) :
    p.client files = .ok ⟨p.gateway.adminBase, token⟩ := by
  unfold client
  rw [h]
  rfl

theorem client_of_failure {failure : Failure}
    (h : Token.load files p.bearerTokenFile = .error failure) :
    p.client files = .error failure := by
  unfold client
  rw [h]
  rfl

/-! ## Names, scopes and paths -/

theorem named_name (key : String) (route : Route) :
    (named key route).name = if route.name = "" then key else route.name := by
  unfold named
  by_cases hname : route.name = ""
  · simp [hname]
  · simp [hname]

theorem named_target (key : String) (route : Route) :
    (named key route).host = route.host ∧ (named key route).port = route.port ∧
      (named key route).protocol = route.protocol := by
  unfold named
  split <;> exact ⟨rfl, rfl, rfl⟩

theorem scope_auth (route : String) (method : AuthMethod) :
    (Plugin.auth route method).scope = .route route := by
  cases method <;> rfl

/-- The path of a plugin is the path of its collection and its id. -/
theorem objectPath_servicePlugins (name id : String) :
    AdminClient.objectPath (servicePlugins name) id =
      servicePlugins name ++ "/" ++ Url.encodeSegment id := by
  have hends : servicePlugins name =
      String.ofList (("services/" ++ Url.encodeSegment name ++ "/plugin").toList ++ ['s']) := by
    apply String.toList_inj.mp
    simp [servicePlugins]
  unfold AdminClient.objectPath
  rw [hends, Url.trimBase_concat (by decide)]

/-! ## Each part is orderly -/

theorem orderly_createService (service : Gateway.Service) : Orderly (createService c service) :=
  (orderly_send _).bind fun _ => orderly_ofResult _

theorem orderly_createEntry (service : String) (entry : Gateway.Entry) :
    Orderly (createEntry c service entry) :=
  (orderly_send _).bind fun _ => orderly_ofResult _

theorem orderly_attach (plugin : Plugin) : Orderly (attach c plugin) :=
  (orderly_send _).bind fun _ => orderly_ofResult _

theorem orderly_removeHeaderPlugin (collection : String) (plugins : List PluginEntry) :
    Orderly (removeHeaderPlugin c collection plugins) := by
  unfold removeHeaderPlugin
  split
  · exact c.orderly_remove _ _
  · exact orderly_pure ()

theorem orderly_injectRegistryToken (service : String) :
    Orderly (p.injectRegistryToken files c service) := by
  unfold injectRegistryToken AdminClient.get AdminClient.postForm
  refine (orderly_ofResult _).bind fun path => ?_
  refine (orderly_send _).bind fun listed => ?_
  refine (orderly_ofResult _).bind fun page => ?_
  refine (orderly_removeHeaderPlugin c _ _).bind fun _ => ?_
  refine (orderly_ofResult _).bind fun id => ?_
  refine (orderly_send _).bind fun r => ?_
  split
  · exact orderly_ofResult _
  · split
    · exact orderly_pure ()
    · exact orderly_ofResult _

theorem orderly_initRoute (item : String × Route) : Orderly (p.initRoute files c item) := by
  obtain ⟨key, route⟩ := item
  rw [initRoute_eq]
  refine (orderly_createService c _).ignored.bind fun _ => ?_
  refine (orderly_onlyIf (p.orderly_injectRegistryToken files c _) _).bind fun _ => ?_
  refine (orderly_createEntry c _ _).ignored.bind fun _ => ?_
  refine (orderly_onlyIf (orderly_attach c _).ignored _).bind fun _ => ?_
  exact (orderly_attach c _).ignored

theorem orderly_init : Orderly (p.init files) := by
  rw [init_eq]
  refine (orderly_ofResult _).bind fun c => ?_
  refine (orderly_forEach (p.orderly_initRoute files c) _).bind fun _ => ?_
  exact orderly_onlyIf (orderly_attach c _).ignored _

end Provisioning

end GatewayProvisioning
