import GatewayProvisioning.Proofs.Emptying
import GatewayProvisioning.Proofs.ServicePlugins

/-!
# The header step

An initialization replaces the plugin that puts the token of the registry on requests. It looks for
the old plugin on the first page of the listing only, so a plugin on a later page stays, and the new
one is refused.
-/

namespace GatewayProvisioning

open Dialogue Document

/-! ## Stages of a conversation -/

namespace Dialogue

variable {α β σ : Type} {gateway : σ → Request → Reply × σ} {start mid last : σ}

/-- Served by a gateway, a conversation comes to where another one is left of it. -/
def ComesTo (gateway : σ → Request → Reply × σ) (d : Dialogue α) (start : σ) (rest : Dialogue α)
    (mid : σ) : Prop :=
  ∃ asked, (answers gateway start asked).2 = mid ∧
    ∀ replies, d ((answers gateway start asked).1 ++ replies) =
      ⟨asked ++ (rest replies).sent, (rest replies).ended⟩

theorem comesTo_bind {d : Dialogue α} {f : α → Dialogue β} (hd : Orderly d) {asked : List Request}
    {x : α} (h : Runs gateway d start asked (.ok x) mid) :
    ComesTo gateway (d >>= f) start (f x) mid := by
  obtain ⟨hrun, hmid⟩ := h
  obtain ⟨used, hused, -, hmore⟩ := hd.ends hrun
  rw [List.append_nil] at hused
  refine ⟨asked, hmid, fun replies => ?_⟩
  rw [hused, bind_of_ok (hmore replies)]

theorem ComesTo.trans {d rest left : Dialogue α} (h : ComesTo gateway d start rest mid)
    (h' : ComesTo gateway rest mid left last) : ComesTo gateway d start left last := by
  obtain ⟨asked, rfl, hrest⟩ := h
  obtain ⟨more, rfl, hleft⟩ := h'
  refine ⟨asked ++ more, by rw [answers_append], fun replies => ?_⟩
  rw [answers_append, List.append_assoc, hrest, hleft]
  simp

theorem ComesTo.runs {d rest : Dialogue α} (h : ComesTo gateway d start rest mid)
    {requests : List Request} {result : Except Failure α}
    (hrun : Runs gateway rest mid requests result last) :
    ∃ asked, Runs gateway d start asked result last := by
  obtain ⟨asked, rfl, hrest⟩ := h
  obtain ⟨hended, rfl⟩ := hrun
  refine ⟨asked ++ requests, ?_, by rw [answers_append]⟩
  rw [answers_append, hrest, hended]

theorem runs_bind_error {d : Dialogue α} {f : α → Dialogue β} {requests : List Request}
    {failure : Failure} (h : Runs gateway d start requests (.error failure) last) :
    Runs gateway (d >>= f) start requests (.error failure) last :=
  ⟨bind_of_failed h.1, h.2⟩

theorem forEach_append {ι : Type} (f : ι → Dialogue Unit) (xs ys : List ι) :
    forEach f (xs ++ ys) = forEach f xs >>= fun _ => forEach f ys := by
  induction xs with
  | nil => exact (pure_bind_eq () fun _ => forEach f ys).symm
  | cons x xs ih =>
    show (f x >>= fun _ => forEach f (xs ++ ys)) = (f x >>= fun _ => forEach f xs) >>= _
    rw [ih, bind_assoc_eq]

end Dialogue

namespace Provisioning

variable (p : Provisioning) (files : FileSource) (c : AdminClient)

/-! ## The stages of an initialization -/

/-- What comes before the header step of a route: all about the routes before it, and its service. -/
def untilHeader (before : List (String × Route)) (key : String) (route : Route) : Dialogue Unit :=
  forEach (p.initRoute files c) before >>= fun _ =>
    (createService c (named key route).toService).ignored

/-- What comes after the header step of a route. -/
def afterHeader (key : String) (route : Route) (after : List (String × Route)) : Dialogue Unit :=
  (createEntry c (named key route).name (named key route).toEntry).ignored >>= fun _ =>
  onlyIf p.cors.enabled (attach c (.cors (named key route).toEntry.name p.cors)).ignored >>= fun _ =>
  (attach c (.auth (named key route).toEntry.name p.auth)).ignored >>= fun _ =>
  forEach (p.initRoute files c) after >>= fun _ =>
  onlyIf p.acl.enabled (attach c (.acl p.acl)).ignored

theorem orderly_untilHeader (before : List (String × Route)) (key : String) (route : Route) :
    Orderly (p.untilHeader files c before key route) :=
  (orderly_forEach (p.orderly_initRoute files c) before).bind fun _ =>
    (orderly_createService c _).ignored

variable {token : String} {before after : List (String × Route)} {key : String}
  {route : Route}

theorem init_header (hload : Token.load files p.bearerTokenFile = .ok token)
    (hroute : p.routes.entries = before ++ (key, route) :: after) (hkey : isRegistry key = true) :
    p.init files =
      p.untilHeader files ⟨p.gateway.adminBase, token⟩ before key route >>= fun _ =>
      p.injectRegistryToken files ⟨p.gateway.adminBase, token⟩ (named key route).name >>= fun _ =>
      p.afterHeader files ⟨p.gateway.adminBase, token⟩ key route after := by
  have hstep : forEach (p.initRoute files ⟨p.gateway.adminBase, token⟩) ((key, route) :: after) =
      p.initRoute files ⟨p.gateway.adminBase, token⟩ (key, route) >>= fun _ =>
        forEach (p.initRoute files ⟨p.gateway.adminBase, token⟩) after := rfl
  rw [init_eq, p.client_of_token files hload, ofResult_ok_bind, hroute, forEach_append, hstep,
    initRoute_eq, hkey]
  unfold untilHeader afterHeader
  simp only [bind_assoc_eq, onlyIf, if_true]

/-! ## The header step -/

/-- Adds the plugin that puts the token of the registry on requests. -/
def addRegistryToken (service id : String) : Dialogue Unit :=
  c.postForm (servicePlugins service) (Plugin.registryToken service id).form >>= fun r =>
    if r.status == 409 then .fail (.alreadyExists (c.url (servicePlugins service)))
    else if r.isSuccess then pure ()
    else .fail (.refused (c.url (servicePlugins service)) r.status r.body)

variable {p files} {path id : String} {service : String}

theorem injectRegistryToken_eq (hpath : p.accessTokenFile = some path)
    (hid : Token.secretId files path = .ok id) :
    p.injectRegistryToken files c service =
      c.get (servicePlugins service) >>= fun listed =>
      ofResult (c.decodeOk (Page.codec PluginEntry.codec) (servicePlugins service) listed) >>=
        fun page =>
      removeHeaderPlugin c (servicePlugins service) page.data >>= fun _ =>
      addRegistryToken c service id := by
  unfold injectRegistryToken addRegistryToken
  simp only [hpath, hid, ofResult_ok_bind]

theorem addressable_plugins (service : String) :
    Url.Addressable ["services", service, "plugins"] :=
  ⟨by simp, by simp, by simp⟩

theorem ofRequest?_pluginPage (g : Paging) (service : String) :
    ListingCall.ofRequest? c.base (c.request .get (servicePlugins service)) =
      some (.page ["services", service, "plugins"] (g.offset 0)) := by
  have hurl : c.url (servicePlugins service) = g.url c.base ["services", service, "plugins"] 0 :=
    congrArg c.url (AdminCall.collection_path (.service service))
  unfold AdminClient.request
  rw [hurl]
  exact g.ofRequest?_page c (addressable_plugins service) 0

theorem ofRequest?_pluginRemoval (service : String) (hid : id ≠ "") :
    ListingCall.ofRequest? c.base
        (c.request .delete (AdminClient.objectPath (servicePlugins service) id)) =
      some (.remove ["services", service, "plugins"] id) := by
  have hurl : c.url (AdminClient.objectPath (servicePlugins service) id) =
      Url.below c.base (["services", service, "plugins"] ++ [id]) :=
    congrArg c.url (AdminCall.plugin_path service id)
  unfold AdminClient.request
  rw [hurl]
  exact ListingCall.ofRequest?_remove c (by simp) (by simp) hid

variable {σ : Type} {gateway : σ → Request → Reply × σ} {g : Paging}
  {plugins : σ → List ServicePlugin} {c}

/-- The first page of the plugins is read, which changes nothing. -/
theorem runs_listPlugins (hkeeps : KeepsPlugins c.base gateway g service plugins) (state : σ) :
    ∃ listed mid,
      Runs gateway (c.get (servicePlugins service)) state [c.request .get (servicePlugins service)]
        (.ok listed) mid ∧
      plugins mid = plugins state ∧
      c.decodeOk (Page.codec PluginEntry.codec) (servicePlugins service) listed =
        .ok ⟨((plugins state).take g.size).map ServicePlugin.entry,
          g.next ["services", service, "plugins"] (plugins state).length 0⟩ := by
  obtain ⟨hsame, listed, hreply, hstatus, hdecode⟩ :=
    hkeeps.pages state _ 0 (ofRequest?_pluginPage c g service) (.inl rfl)
  refine ⟨listed, _, runs_send hreply, hsame, ?_⟩
  rw [Paging.entries, Nat.zero_mul, List.drop_zero, ← List.map_take, List.length_map] at hdecode
  unfold AdminClient.decodeOk Response.isOk AdminClient.decodeFrom
  rw [hstatus, hdecode]
  rfl

/-- A header plugin on the first page is deleted. If there is none nothing is done. -/
theorem runs_removeHeaderPlugin (hkeeps : KeepsPlugins c.base gateway g service plugins)
    (state : σ) {first : List ServicePlugin} (hfirst : first ⊆ plugins state) :
    (∃ plugin ∈ first, plugin.name = Plugin.headerPlugin ∧ ∃ last,
      Runs gateway (removeHeaderPlugin c (servicePlugins service)
        (first.map ServicePlugin.entry)) state
        [c.request .delete (AdminClient.objectPath (servicePlugins service) plugin.id)] (.ok ()) last ∧
      ∀ other, other ∈ plugins last ↔ other ∈ plugins state ∧ other ≠ plugin) ∨
    (∀ plugin ∈ first, plugin.name ≠ Plugin.headerPlugin) ∧
      Runs gateway (removeHeaderPlugin c (servicePlugins service)
        (first.map ServicePlugin.entry)) state [] (.ok ()) state := by
  unfold removeHeaderPlugin
  rw [List.find?_map]
  rcases hfound : first.find? _ with _ | plugin
  · refine .inr ⟨fun plugin hplugin hname => ?_, runs_ofResult _ _⟩
    have hother := List.find?_eq_none.mp hfound plugin hplugin
    exact hother (beq_iff_eq.mpr hname)
  · have hplugin := List.mem_of_find?_eq_some hfound
    have hname : plugin.name = Plugin.headerPlugin := by
      have hmatch := List.find?_some hfound
      exact beq_iff_eq.mp hmatch
    have hcall := ofRequest?_pluginRemoval c service (hkeeps.ids state plugin (hfirst hplugin))
    obtain ⟨⟨response, hreply, hstatus⟩, hleft⟩ :=
      hkeeps.removals state _ plugin (hfirst hplugin) hcall
    exact .inl ⟨plugin, hplugin, hname, _, AdminClient.runs_remove_of_reply hreply hstatus, hleft⟩

theorem runs_addRegistryToken (hkeeps : KeepsPlugins c.base gateway g service plugins)
    (id : String) {state : σ}
    (hnone : ∀ plugin ∈ plugins state, plugin.name ≠ Plugin.headerPlugin) :
    ∃ asked last, Runs gateway (addRegistryToken c service id) state asked (.ok ()) last ∧
      ∃ newId, ∀ other, other ∈ plugins last ↔ other ∈ plugins state ∨
        other = ⟨newId, Plugin.headerPlugin, [("config.add.headers", "X-Consul-Token:" ++ id)]⟩ := by
  have hcall := AdminCall.ofRequest?_attach c (AdminCall.nameless_registryToken service id)
  obtain ⟨⟨response, hreply, hstatus⟩, newId, hplugins⟩ := hkeeps.added state _ _ _ hcall hnone
  have hconflict : ¬(response.status == 409) = true := by
    rw [hstatus]
    decide
  have hsuccess : response.isSuccess = true := by
    unfold Response.isSuccess
    rw [hstatus]
    rfl
  refine ⟨[_] ++ [], _, Runs.bind (orderly_send _) (runs_send hreply) ?_, newId, hplugins⟩
  rw [if_neg hconflict, if_pos hsuccess]
  exact runs_ofResult _ _

theorem runs_addRegistryToken_taken (hkeeps : KeepsPlugins c.base gateway g service plugins)
    (id : String) {state : σ} (htaken : ∃ plugin ∈ plugins state, plugin.name = Plugin.headerPlugin) :
    ∃ asked last, Runs gateway (addRegistryToken c service id) state asked
        (.error (.alreadyExists (c.url (servicePlugins service)))) last ∧
      plugins last = plugins state := by
  have hcall := AdminCall.ofRequest?_attach c (AdminCall.nameless_registryToken service id)
  obtain ⟨⟨response, hreply, hstatus⟩, hsame⟩ := hkeeps.taken state _ _ _ hcall htaken
  have hconflict : (response.status == 409) = true := by
    rw [hstatus]
    rfl
  refine ⟨[_] ++ [], _, Runs.bind (orderly_send _) (runs_send hreply) ?_, hsame⟩
  rw [if_pos hconflict]
  exact runs_ofResult _ _

/-- No two plugins on a service have the same name. -/
theorem eq_of_name (hkeeps : KeepsPlugins c.base gateway g service plugins) {state : σ}
    {a b : ServicePlugin} (ha : a ∈ plugins state) (hb : b ∈ plugins state) (h : a.name = b.name) :
    a = b :=
  List.inj_on_of_nodup_map (hkeeps.names state) ha hb h

section

variable (hpath : p.accessTokenFile = some path) (hid : Token.secretId files path = .ok id)
  (hkeeps : KeepsPlugins c.base gateway g service plugins)

include hpath hid hkeeps

/-- A header step reads the first page, removes what is on it and adds the new plugin. -/
theorem runs_header_parts (state : σ) :
    ∃ mid, plugins mid = plugins state ∧
      ∀ {asked posted : List Request} {bare last : σ} {result : Except Failure Unit},
        Runs gateway (removeHeaderPlugin c (servicePlugins service)
          (((plugins state).take g.size).map ServicePlugin.entry)) mid asked (.ok ()) bare →
        Runs gateway (addRegistryToken c service id) bare posted result last →
          ∃ requests, Runs gateway (p.injectRegistryToken files c service) state requests result last := by
  obtain ⟨listed, mid, hlist, hsame, hpage⟩ := runs_listPlugins hkeeps state
  refine ⟨mid, hsame, fun {asked posted _ _ _} hremove hadd => ?_⟩
  refine ⟨[c.request .get (servicePlugins service)] ++ (asked ++ posted), ?_⟩
  rw [injectRegistryToken_eq c hpath hid]
  refine hlist.bind (orderly_send _) ?_
  rw [hpage, ofResult_ok_bind]
  exact hremove.bind (orderly_removeHeaderPlugin c _ _) hadd

/-- With no header plugin behind the first page the header plugin is replaced. -/
theorem runs_injectRegistryToken {state : σ}
    (hfirst : ∀ plugin ∈ (plugins state).drop g.size, plugin.name ≠ Plugin.headerPlugin) :
    ∃ requests last,
      Runs gateway (p.injectRegistryToken files c service) state requests (.ok ()) last ∧
      ∃ newId, ∀ other, other ∈ plugins last ↔
        (other ∈ plugins state ∧ other.name ≠ Plugin.headerPlugin) ∨
          other = ⟨newId, Plugin.headerPlugin, [("config.add.headers", "X-Consul-Token:" ++ id)]⟩ := by
  obtain ⟨mid, hsame, hparts⟩ := runs_header_parts hpath hid hkeeps state
  -- what is left when the old plugin has been looked for has other names
  have hleft : ∃ asked bare, Runs gateway (removeHeaderPlugin c (servicePlugins service)
        (((plugins state).take g.size).map ServicePlugin.entry)) mid asked (.ok ()) bare ∧
      ∀ other, other ∈ plugins bare ↔
        other ∈ plugins state ∧ other.name ≠ Plugin.headerPlugin := by
    have htake : (plugins state).take g.size ⊆ plugins mid := by
      rw [hsame]
      exact List.take_subset _ _
    rcases runs_removeHeaderPlugin hkeeps mid htake with
      ⟨plugin, hplugin, hname, bare, hremove, hbare⟩ | ⟨hnone, hremove⟩
    · refine ⟨_, bare, hremove, fun other => ?_⟩
      rw [hbare, hsame]
      refine and_congr_right fun hother => not_congr ?_
      constructor
      · rintro rfl
        exact hname
      · intro hheader
        exact eq_of_name hkeeps hother (List.take_subset _ _ hplugin) (hheader.trans hname.symm)
    · refine ⟨_, mid, hremove, fun other => ?_⟩
      rw [hsame]
      refine ⟨fun hother => ⟨hother, ?_⟩, And.left⟩
      rw [← List.take_append_drop g.size (plugins state)] at hother
      rcases List.mem_append.mp hother with hother | hother
      · exact hnone other hother
      · exact hfirst other hother
  obtain ⟨asked, bare, hremove, hbare⟩ := hleft
  obtain ⟨posted, last, hadd, newId, hlast⟩ :=
    runs_addRegistryToken hkeeps id fun plugin hplugin => ((hbare plugin).mp hplugin).2
  obtain ⟨requests, hrun⟩ := hparts hremove hadd
  exact ⟨requests, last, hrun, newId, fun other => by rw [hlast, hbare]⟩

/-- A header plugin behind the first page is not found, and the new one is refused. -/
theorem runs_injectRegistryToken_hidden {state : σ}
    (hhidden : ∃ plugin ∈ (plugins state).drop g.size, plugin.name = Plugin.headerPlugin) :
    ∃ requests last, Runs gateway (p.injectRegistryToken files c service) state requests
        (.error (.alreadyExists (c.url (servicePlugins service)))) last ∧
      plugins last = plugins state := by
  obtain ⟨mid, hsame, hparts⟩ := runs_header_parts hpath hid hkeeps state
  obtain ⟨hidden, hmem, hheader⟩ := hhidden
  have htaken : ∃ plugin ∈ plugins mid, plugin.name = Plugin.headerPlugin := by
    rw [hsame]
    exact ⟨hidden, List.drop_subset _ _ hmem, hheader⟩
  have htake : (plugins state).take g.size ⊆ plugins mid := by
    rw [hsame]
    exact List.take_subset _ _
  rcases runs_removeHeaderPlugin hkeeps mid htake with
    ⟨plugin, hplugin, hname, -⟩ | ⟨-, hremove⟩
  · -- names differ, so it cannot be on the first page as well
    have hnames := hkeeps.names state
    rw [← List.take_append_drop g.size (plugins state), List.map_append, List.nodup_append] at hnames
    exact absurd (hname.trans hheader.symm) (hnames.2.2 _ (List.mem_map_of_mem hplugin) _
      (List.mem_map_of_mem hmem))
  · obtain ⟨posted, last, hadd, hlast⟩ := runs_addRegistryToken_taken hkeeps id htaken
    obtain ⟨requests, hrun⟩ := hparts hremove hadd
    exact ⟨requests, last, hrun, hlast.trans hsame⟩

end

section

variable {start mid : σ} {asked : List Request}
  (hkeeps : KeepsPlugins p.gateway.adminBase gateway g (named key route).name plugins)
  (hload : Token.load files p.bearerTokenFile = .ok token)
  (hpath : p.accessTokenFile = some path) (hid : Token.secretId files path = .ok id)
  (hroute : p.routes.entries = before ++ (key, route) :: after) (hkey : isRegistry key = true)
  (hreach : Runs gateway (p.untilHeader files ⟨p.gateway.adminBase, token⟩ before key route) start
    asked (.ok ()) mid)

include hload hroute hkey hreach

theorem comesTo_header :
    ComesTo gateway (p.init files) start
      (p.injectRegistryToken files ⟨p.gateway.adminBase, token⟩ (named key route).name >>= fun _ =>
        p.afterHeader files ⟨p.gateway.adminBase, token⟩ key route after) mid := by
  rw [p.init_header files hload hroute hkey]
  exact comesTo_bind (p.orderly_untilHeader files _ before key route) hreach

include hkeeps hpath hid

theorem comesTo_afterHeader
    (hfirst : ∀ plugin ∈ (plugins mid).drop g.size, plugin.name ≠ Plugin.headerPlugin) :
    ∃ last, ComesTo gateway (p.init files) start
        (p.afterHeader files ⟨p.gateway.adminBase, token⟩ key route after) last ∧
      ∃ newId, ∀ other, other ∈ plugins last ↔
        (other ∈ plugins mid ∧ other.name ≠ Plugin.headerPlugin) ∨
          other = ⟨newId, Plugin.headerPlugin, [("config.add.headers", "X-Consul-Token:" ++ id)]⟩ := by
  have hclient : KeepsPlugins (AdminClient.mk p.gateway.adminBase token).base gateway g
      (named key route).name plugins := hkeeps
  obtain ⟨requests, last, hrun, newId, hplugins⟩ := runs_injectRegistryToken hpath hid hclient hfirst
  refine ⟨last, (comesTo_header hload hroute hkey hreach).trans ?_, newId, hplugins⟩
  exact comesTo_bind (p.orderly_injectRegistryToken files _ _) hrun

theorem concludes_hidden
    (hhidden : ∃ plugin ∈ (plugins mid).drop g.size, plugin.name = Plugin.headerPlugin) :
    ∃ last, Concludes gateway (p.init files) start (.error (.alreadyExists
        (Url.join p.gateway.adminBase [servicePlugins (named key route).name]))) last ∧
      plugins last = plugins mid := by
  have hclient : KeepsPlugins (AdminClient.mk p.gateway.adminBase token).base gateway g
      (named key route).name plugins := hkeeps
  obtain ⟨requests, last, hrun, hplugins⟩ :=
    runs_injectRegistryToken_hidden hpath hid hclient hhidden
  obtain ⟨all, hrun⟩ := (comesTo_header hload hroute hkey hreach).runs (runs_bind_error hrun)
  exact ⟨last, (concludes_iff_runs (p.orderly_init files)).mpr ⟨all, hrun⟩, hplugins⟩

end

/-- An initialization comes to the header step of the route to the registry. With no header plugin
behind the first page of the listing it gets past the step, and there is exactly one header plugin then,
with the token of the registry, beside the other plugins as they were. With a header plugin behind the
first page it fails, and leaves the plugins as they were. -/
theorem header_replaced_of_first_page {start mid : σ} {asked : List Request}
    (hkeeps : KeepsPlugins p.gateway.adminBase gateway g (named key route).name plugins)
    (hload : Token.load files p.bearerTokenFile = .ok token)
    (hpath : p.accessTokenFile = some path) (hid : Token.secretId files path = .ok id)
    (hroute : p.routes.entries = before ++ (key, route) :: after)
    (hkey : Text.equalIgnoringAsciiCase key "consul" = true)
    (hreach : Runs gateway (p.untilHeader files ⟨p.gateway.adminBase, token⟩ before key route) start
      asked (.ok ()) mid) :
    ((∀ plugin ∈ (plugins mid).drop g.size, plugin.name ≠ "request-transformer") →
      ∃ last, ComesTo gateway (p.init files) start
          (p.afterHeader files ⟨p.gateway.adminBase, token⟩ key route after) last ∧
        ∃ newId, ∀ other, other ∈ plugins last ↔
          (other ∈ plugins mid ∧ other.name ≠ "request-transformer") ∨
            other = ⟨newId, "request-transformer",
              [("config.add.headers", "X-Consul-Token:" ++ id)]⟩) ∧
    ((∃ plugin ∈ (plugins mid).drop g.size, plugin.name = "request-transformer") →
      ∃ last, Concludes gateway (p.init files) start (.error (.alreadyExists
          (Url.join p.gateway.adminBase [servicePlugins (named key route).name]))) last ∧
        plugins last = plugins mid) :=
  ⟨comesTo_afterHeader hkeeps hload hpath hid hroute hkey hreach,
    concludes_hidden hkeeps hload hpath hid hroute hkey hreach⟩

/-- Plugins among which an old header plugin is the second. -/
def mixedRow : PluginRow where
  plugins := [⟨"plugin cors", "cors", []⟩,
    ⟨"plugin request-transformer", "request-transformer",
      [("config.add.headers", "X-Consul-Token:stale")]⟩,
    ⟨"plugin acl", "acl", [("config.whitelist", "users")]⟩]
  names := by decide
  ids := by decide

/-- The route to the registry. -/
def registryRoute : Route := ⟨"", "http", "registry", 8500⟩

/-- A gateway that creates whatever is posted lets an initialization come to its header step. -/
theorem runs_untilHeader {size : Nat} (h : 0 < size) (row : PluginRow) :
    ∃ asked, Runs (PluginRow.gateway registryProvisioning.gateway.adminBase (.numbered size h) "Consul")
      (registryProvisioning.untilHeader registryFiles
        ⟨registryProvisioning.gateway.adminBase, "t"⟩ [] "Consul" registryRoute) row asked (.ok ())
      row := by
  generalize hc : AdminClient.mk registryProvisioning.gateway.adminBase "t" = c
  have hbase : registryProvisioning.gateway.adminBase = c.base := by rw [← hc]
  rw [hbase]
  have hcall := AdminCall.ofRequest?_createService c (named "Consul" registryRoute).toService
  have hreply : PluginRow.gateway c.base (.numbered size h) "Consul" row
      { c.request .post "services" with
        body := .form (named "Consul" registryRoute).toService.form } = (.ok ⟨201, ""⟩, row) := by
    unfold PluginRow.gateway
    rw [hcall, ListingCall.ofRequest?_post c.base rfl]
  have hservice : Succeeds (PluginRow.gateway c.base (.numbered size h) "Consul")
      (createService c (named "Consul" registryRoute).toService).ignored row fun _ last =>
        last = row :=
    succeeds_created (congrArg Prod.fst hreply) (.inl rfl) (congrArg Prod.snd hreply)
  obtain ⟨asked, ⟨⟩, _, hrun, rfl⟩ := hservice
  exact ⟨asked, hrun⟩

/-- An old header plugin that is the second of a page of two is replaced. -/
theorem header_replaced_on_first_page :
    Token.load registryFiles registryProvisioning.bearerTokenFile = .ok "t" ∧
    Token.secretId registryFiles "registry.json" = .ok "s" ∧
    KeepsPlugins registryProvisioning.gateway.adminBase
      (PluginRow.gateway registryProvisioning.gateway.adminBase (.numbered 2 (by decide)) "Consul")
      (.numbered 2 (by decide)) "Consul" PluginRow.plugins ∧
    ∃ last, ComesTo
        (PluginRow.gateway registryProvisioning.gateway.adminBase (.numbered 2 (by decide)) "Consul")
        (registryProvisioning.init registryFiles) mixedRow
        (registryProvisioning.afterHeader registryFiles
          ⟨registryProvisioning.gateway.adminBase, "t"⟩ "Consul" registryRoute []) last ∧
      ∃ newId, ∀ other, other ∈ last.plugins ↔
        (other ∈ mixedRow.plugins ∧ other.name ≠ "request-transformer") ∨
          other = ⟨newId, "request-transformer", [("config.add.headers", "X-Consul-Token:s")]⟩ := by
  have hsecret : Token.secretId registryFiles "registry.json" = .ok "s" :=
    ok_of_toOption (by decide +kernel)
  have hkeeps := PluginRow.keepsPlugins registryProvisioning.gateway.adminBase (by decide : 0 < 2)
    "Consul"
  have hroute : registryProvisioning.routes.entries = [] ++ [("Consul", registryRoute)] := rfl
  obtain ⟨asked, hreach⟩ := runs_untilHeader (by decide : 0 < 2) mixedRow
  have hcases := header_replaced_of_first_page hkeeps registryFiles_token rfl hsecret hroute
    (by decide) hreach
  exact ⟨registryFiles_token, hsecret, hkeeps, hcases.1 (by decide)⟩

/-- The same plugin on the second page of one each stays, and the initialization fails. -/
theorem header_kept_on_second_page :
    Token.load registryFiles registryProvisioning.bearerTokenFile = .ok "t" ∧
    Token.secretId registryFiles "registry.json" = .ok "s" ∧
    KeepsPlugins registryProvisioning.gateway.adminBase
      (PluginRow.gateway registryProvisioning.gateway.adminBase (.numbered 1 (by decide)) "Consul")
      (.numbered 1 (by decide)) "Consul" PluginRow.plugins ∧
    ∃ last, Concludes
        (PluginRow.gateway registryProvisioning.gateway.adminBase (.numbered 1 (by decide)) "Consul")
        (registryProvisioning.init registryFiles) mixedRow
        (.error (.alreadyExists "http://kong:8001/services/Consul/plugins")) last ∧
      last.plugins = mixedRow.plugins := by
  have hsecret : Token.secretId registryFiles "registry.json" = .ok "s" :=
    ok_of_toOption (by decide +kernel)
  have hkeeps := PluginRow.keepsPlugins registryProvisioning.gateway.adminBase (by decide : 0 < 1)
    "Consul"
  have hurl : Url.join registryProvisioning.gateway.adminBase [servicePlugins "Consul"] =
      "http://kong:8001/services/Consul/plugins" := by decide +kernel
  have hroute : registryProvisioning.routes.entries = [] ++ [("Consul", registryRoute)] := rfl
  obtain ⟨asked, hreach⟩ := runs_untilHeader (by decide : 0 < 1) mixedRow
  have hfails := concludes_hidden hkeeps registryFiles_token rfl hsecret hroute (by decide) hreach
    (by decide)
  rw [← hurl]
  exact ⟨registryFiles_token, hsecret, hkeeps, hfails⟩

end Provisioning

end GatewayProvisioning
