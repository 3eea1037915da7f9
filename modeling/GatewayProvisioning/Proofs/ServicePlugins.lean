import Mathlib.Data.List.Nodup
import GatewayProvisioning.Proofs.Inventory
import GatewayProvisioning.Proofs.Ledger

/-!
# Gateways that keep the plugins of a service

What is asked of a gateway that keeps plugins on a service, one of a name, and lists them in pages; and
one that keeps them as a row of names and configurations.
-/

namespace GatewayProvisioning

open Document

/-- A plugin on a service. -/
structure ServicePlugin where
  id : String
  name : String
  config : Url.Form
  deriving DecidableEq, Repr

/-- What is listed about a plugin. -/
def ServicePlugin.entry (plugin : ServicePlugin) : PluginEntry where
  id := plugin.id
  name := plugin.name

/-- A gateway keeps at most one plugin of a name on a service. It lists them in pages, deletes a
plugin that it lists, refuses a plugin whose name is taken with status 409 and adds any other one. -/
structure KeepsPlugins {σ : Type} (base : String) (gateway : σ → Request → Reply × σ)
    (paging : Paging) (service : String) (plugins : σ → List ServicePlugin) : Prop where
  names : ∀ state, ((plugins state).map ServicePlugin.name).Nodup
  ids : ∀ state, ∀ plugin ∈ plugins state, plugin.id ≠ ""
  pages : ∀ state request i,
    ListingCall.ofRequest? base request =
        some (.page ["services", service, "plugins"] (paging.offset i)) →
      paging.HasPage (plugins state).length i →
        plugins (gateway state request).2 = plugins state ∧
          ∃ response, (gateway state request).1 = .ok response ∧
            paging.Serves PluginEntry.codec ["services", service, "plugins"]
              ((plugins state).map ServicePlugin.entry) i response
  removals : ∀ state request, ∀ plugin ∈ plugins state,
    ListingCall.ofRequest? base request =
        some (.remove ["services", service, "plugins"] plugin.id) →
      (∃ response, (gateway state request).1 = .ok response ∧ response.status = 204) ∧
        ∀ other, other ∈ plugins (gateway state request).2 ↔ other ∈ plugins state ∧ other ≠ plugin
  taken : ∀ state request name config,
    AdminCall.ofRequest? base request = some (.addPlugin (.service service) name config) →
      (∃ plugin ∈ plugins state, plugin.name = name) →
        (∃ response, (gateway state request).1 = .ok response ∧ response.status = 409) ∧
          plugins (gateway state request).2 = plugins state
  added : ∀ state request name config,
    AdminCall.ofRequest? base request = some (.addPlugin (.service service) name config) →
      (∀ plugin ∈ plugins state, plugin.name ≠ name) →
        (∃ response, (gateway state request).1 = .ok response ∧ response.status = 201) ∧
          ∃ id, ∀ other, other ∈ plugins (gateway state request).2 ↔
            other ∈ plugins state ∨ other = ⟨id, name, config⟩

/-! ## A row of plugins -/

/-- Plugins of different names. The id of a plugin follows from its name. -/
structure PluginRow where
  plugins : List ServicePlugin
  names : (plugins.map ServicePlugin.name).Nodup
  ids : ∀ plugin ∈ plugins, plugin.id = "plugin " ++ plugin.name

namespace PluginRow

/-- Adds a plugin whose name is new at the end. -/
def add (row : PluginRow) (name : String) (config : Url.Form)
    (h : name ∉ row.plugins.map ServicePlugin.name) : PluginRow where
  plugins := row.plugins ++ [⟨"plugin " ++ name, name, config⟩]
  names := by
    rw [List.map_append, List.nodup_append]
    refine ⟨row.names, by simp, fun a ha b hb heq => ?_⟩
    have hname : b = name := by simpa using hb
    exact h (hname ▸ heq ▸ ha)
  ids plugin hplugin := by
    rcases List.mem_append.mp hplugin with hold | hnew
    · exact row.ids plugin hold
    · rw [List.mem_singleton.mp hnew]

/-- Deletes the plugin of an id. -/
def remove (row : PluginRow) (id : String) : PluginRow where
  plugins := row.plugins.filter fun plugin => plugin.id ≠ id
  names := row.names.sublist (List.filter_sublist.map ServicePlugin.name)
  ids plugin hplugin := row.ids plugin (List.mem_filter.mp hplugin).1

/-- Keeps the plugins of a service. Whatever else is posted is created. -/
def gateway (base : String) (g : Paging) (service : String) (row : PluginRow) (request : Request) :
    Reply × PluginRow :=
  match ListingCall.ofRequest? base request, AdminCall.ofRequest? base request with
  | some (.page names offset), _ =>
    if names = ["services", service, "plugins"] then
      (.ok ⟨200, g.text PluginEntry.codec names (row.plugins.map ServicePlugin.entry)
        (Paging.number offset)⟩, row)
    else (.ok ⟨404, ""⟩, row)
  | some (.remove names id), _ =>
    if names = ["services", service, "plugins"] then (.ok ⟨204, ""⟩, row.remove id)
    else (.ok ⟨404, ""⟩, row)
  | none, some (.addPlugin (.service other) name config) =>
    if other = service then
      if h : name ∈ row.plugins.map ServicePlugin.name then (.ok ⟨409, ""⟩, row)
      else (.ok ⟨201, ""⟩, row.add name config h)
    else (.ok ⟨201, ""⟩, row)
  | none, _ => (.ok ⟨201, ""⟩, row)

/-- Plugins with the same id have the same name, and so are the same. -/
theorem eq_of_id {row : PluginRow} {a b : ServicePlugin} (ha : a ∈ row.plugins)
    (hb : b ∈ row.plugins) (h : a.id = b.id) : a = b := by
  rw [row.ids a ha, row.ids b hb] at h
  have hchars := congrArg String.toList h
  rw [String.toList_append, String.toList_append] at hchars
  have hname : a.name = b.name := String.toList_inj.mp (List.append_cancel_left hchars)
  exact List.inj_on_of_nodup_map row.names ha hb hname

theorem gateway_of_plugin {base : String} {g : Paging} {service name : String} {config : Url.Form}
    {request : Request}
    (h : AdminCall.ofRequest? base request = some (.addPlugin (.service service) name config))
    (row : PluginRow) :
    gateway base g service row request =
      if hname : name ∈ row.plugins.map ServicePlugin.name then (.ok ⟨409, ""⟩, row)
      else (.ok ⟨201, ""⟩, row.add name config hname) := by
  have hpost : request.method = .post := by
    refine Decidable.byContradiction fun hmethod => ?_
    rcases AdminCall.call_of_not_post hmethod h with ⟨other, hcall⟩ | ⟨other, id, hcall⟩ <;> cases hcall
  unfold gateway
  rw [ListingCall.ofRequest?_post base hpost, h]
  simp

theorem keepsPlugins (base : String) {size : Nat} (h : 0 < size) (service : String) :
    KeepsPlugins base (gateway base (.numbered size h) service) (.numbered size h) service
      plugins where
  names row := row.names
  ids row plugin hplugin hempty := by
    rw [row.ids plugin hplugin] at hempty
    have hchars := congrArg String.toList hempty
    simp at hchars
  pages row request i hcall _ := by
    unfold gateway
    rw [hcall]
    refine ⟨by simp, _, by simp; rfl, ?_⟩
    rw [Paging.number_offset]
    exact Paging.serves_text _ PluginEntry.lossless _ _ _
  removals row request plugin hplugin hcall := by
    unfold gateway
    rw [hcall]
    refine ⟨⟨⟨204, ""⟩, by simp⟩, fun other => ?_⟩
    simp only [if_true]
    rw [remove, List.mem_filter]
    refine and_congr_right fun hother => ?_
    rw [decide_eq_true_iff, not_iff_not]
    exact ⟨eq_of_id hother hplugin, congrArg ServicePlugin.id⟩
  taken row request name config hcall hname := by
    obtain ⟨plugin, hplugin, rfl⟩ := hname
    rw [gateway_of_plugin hcall, dif_pos (List.mem_map_of_mem hplugin)]
    exact ⟨⟨_, rfl, rfl⟩, rfl⟩
  added row request name config hcall hname := by
    have hnew : name ∉ row.plugins.map ServicePlugin.name := by
      intro hmem
      obtain ⟨plugin, hplugin, heq⟩ := List.mem_map.mp hmem
      exact hname plugin hplugin heq
    rw [gateway_of_plugin hcall, dif_neg hnew]
    exact ⟨⟨_, rfl, rfl⟩, "plugin " ++ name, fun other => by simp [add]⟩

end PluginRow

end GatewayProvisioning
