import GatewayProvisioning.Proofs.Ledger

/-!
# Initializing twice

With a gateway that keeps what it is given, an initialization comes to its end from any state, and a
second one changes nothing but the ids of the header plugins, which are deleted and created anew.

Each part of an initialization establishes a condition on what is kept. Conditions last: what comes
later cannot break them. Where its condition holds already, a part leaves everything as it is.
-/

namespace GatewayProvisioning

open Dialogue

/-! ## Conditions that last -/

namespace Store

/-- What is there stays there. A plugin that puts the token of the registry on requests may be
replaced, but only by one with the same configuration. -/
structure Grows (token : Url.Form) (st st' : Store) : Prop where
  services : ∀ name, (st.services name).isSome → (st'.services name).isSome
  entries : ∀ name, (st.entries name).isSome → (st'.entries name).isSome
  plugins : ∀ scope name, (st.plugins scope name).isSome → (st'.plugins scope name).isSome
  headers : ∀ scope plugin, st.plugins scope Plugin.headerPlugin = some plugin →
    plugin.config = token →
      ∃ renewed, st'.plugins scope Plugin.headerPlugin = some renewed ∧ renewed.config = token

/-- The same is kept, except that the header plugins of some scopes may have other ids. -/
structure Alike (renewed : Scope → Prop) (st st' : Store) : Prop where
  routing : st'.toRouting = st.toRouting
  plugins : ∀ scope name, st'.plugins scope name = st.plugins scope name ∨
    (renewed scope ∧ name = Plugin.headerPlugin ∧ ∃ old new, st.plugins scope name = some old ∧
      st'.plugins scope name = some new ∧ new.config = old.config)

variable {token : Url.Form} {renewed : Scope → Prop} {st mid st' : Store}

theorem Grows.refl (st : Store) : Grows token st st where
  services _ h := h
  entries _ h := h
  plugins _ _ h := h
  headers _ plugin h hconfig := ⟨plugin, h, hconfig⟩

theorem Grows.trans (h : Grows token st mid) (h' : Grows token mid st') : Grows token st st' where
  services name hname := h'.services name (h.services name hname)
  entries name hname := h'.entries name (h.entries name hname)
  plugins scope name hname := h'.plugins scope name (h.plugins scope name hname)
  headers scope plugin hplugin hconfig := by
    obtain ⟨first, hfirst, hfirstConfig⟩ := h.headers scope plugin hplugin hconfig
    exact h'.headers scope first hfirst hfirstConfig

theorem Alike.refl (st : Store) : Alike renewed st st where
  routing := rfl
  plugins _ _ := .inl rfl

theorem Alike.trans (h : Alike renewed st mid) (h' : Alike renewed mid st') :
    Alike renewed st st' where
  routing := h'.routing.trans h.routing
  plugins scope name := by
    rcases h'.plugins scope name with hsame' | ⟨hscope, hname, old', new', hold', hnew', hconfig'⟩
    · rw [hsame']
      exact h.plugins scope name
    · right
      refine ⟨hscope, hname, ?_⟩
      rcases h.plugins scope name with hsame | ⟨-, -, old, new, hold, hnew, hconfig⟩
      · exact ⟨old', new', hsame ▸ hold', hnew', hconfig'⟩
      · rw [hnew, Option.some.injEq] at hold'
        subst hold'
        exact ⟨old, new', hold, hnew', hconfig'.trans hconfig⟩

end Store

/-- A condition on what is kept that lasts. -/
structure Condition (token : Url.Form) where
  holds : Store → Prop
  lasts : ∀ {st st' : Store}, st.Grows token st' → holds st → holds st'

namespace Condition

variable {token : Url.Form} {ι : Type}

/-- The condition that always holds. -/
def always : Condition token where
  holds _ := True
  lasts _ h := h

/-- Both conditions hold. -/
def both (P Q : Condition token) : Condition token where
  holds st := P.holds st ∧ Q.holds st
  lasts hgrows h := ⟨P.lasts hgrows h.1, Q.lasts hgrows h.2⟩

/-- A condition holds if something is asked for. -/
def onlyIf (b : Bool) (P : Condition token) : Condition token where
  holds st := b = true → P.holds st
  lasts hgrows h hb := P.lasts hgrows (h hb)

/-- A condition holds for each member of a list. -/
def each (P : ι → Condition token) (xs : List ι) : Condition token where
  holds st := ∀ x ∈ xs, (P x).holds st
  lasts hgrows h x hx := (P x).lasts hgrows (h x hx)

/-- What a scope names is there. -/
def has (scope : Scope) : Condition token where
  holds st := st.has scope = true
  lasts {st st'} hgrows h := by
    cases scope with
    | service name => exact hgrows.services name h
    | route name => exact hgrows.entries name h
    | global => rfl

/-- A plugin of the same scope and name is attached. -/
def attached (plugin : Plugin) : Condition token where
  holds st := (st.plugins plugin.scope plugin.name).isSome = true
  lasts hgrows h := hgrows.plugins plugin.scope plugin.name h

/-- The token of the registry is put on requests to a service. -/
def carriesToken (service : String) : Condition token where
  holds st := ∃ plugin, st.plugins (.service service) Plugin.headerPlugin = some plugin ∧
    plugin.config = token
  lasts hgrows h := by
    obtain ⟨plugin, hplugin, hconfig⟩ := h
    exact hgrows.headers _ plugin hplugin hconfig

end Condition

/-! ## Parts that establish conditions -/

/-- What is kept has changed so that a condition holds. If it held before, nothing has changed but ids
of header plugins. -/
structure Settles {token : Url.Form} (renewed : Scope → Prop) (P : Condition token)
    (st st' : Store) : Prop where
  holds : P.holds st'
  grows : st.Grows token st'
  idle : P.holds st → st.Alike renewed st'

section

variable {α β ι σ : Type} {token : Url.Form} {renewed : Scope → Prop}

theorem settles_same {P : Condition token} {st : Store} (h : P.holds st) :
    Settles renewed P st st where
  holds := h
  grows := .refl st
  idle _ := .refl st

theorem settles_new {P : Condition token} {st st' : Store} (h : P.holds st')
    (hgrows : st.Grows token st') (hnew : ¬P.holds st) : Settles renewed P st st' where
  holds := h
  grows := hgrows
  idle hold := absurd hold hnew

theorem Settles.both {P Q : Condition token} {st mid st' : Store} (h : Settles renewed P st mid)
    (h' : Settles renewed Q mid st') : Settles renewed (P.both Q) st st' where
  holds := ⟨P.lasts h'.grows h.holds, h'.holds⟩
  grows := h.grows.trans h'.grows
  idle hold := (h.idle hold.1).trans (h'.idle (Q.lasts h.grows hold.2))

/-- Where one condition holds, a conversation succeeds and establishes another one. -/
def Establishes (gateway : σ → Request → Reply × σ) (view : σ → Store) (renewed : Scope → Prop)
    (d : Dialogue α) (before after : Condition token) : Prop :=
  ∀ state, before.holds (view state) →
    Succeeds gateway d state fun _ last => Settles renewed after (view state) (view last)

variable {gateway : σ → Request → Reply × σ} {view : σ → Store}

theorem establishes_pure (x : α) (before : Condition token) :
    Establishes gateway view renewed (pure x : Dialogue α) before .always :=
  fun _ _ => succeeds_ofResult (settles_same trivial)

/-- The later part may rely on what the earlier part has established, and on what it relied on. -/
theorem Establishes.bind {d : Dialogue α} {f : α → Dialogue β}
    {before first second : Condition token} (hd : Orderly d)
    (h : Establishes gateway view renewed d before first)
    (hf : ∀ x, Establishes gateway view renewed (f x) (before.both first) second) :
    Establishes gateway view renewed (d >>= f) before (first.both second) := by
  intro state hbefore
  refine Succeeds.bind hd ((h state hbefore).mono fun x mid hmid => ?_)
  have hrely : (before.both first).holds (view mid) :=
    ⟨before.lasts hmid.grows hbefore, hmid.holds⟩
  exact (hf x mid hrely).mono fun y last hlast => hmid.both hlast

theorem Establishes.rely {d : Dialogue α} {before before' after : Condition token}
    (h : Establishes gateway view renewed d before after)
    (himp : ∀ st, before'.holds st → before.holds st) :
    Establishes gateway view renewed d before' after :=
  fun state hbefore => h state (himp _ hbefore)

theorem Establishes.congr {d : Dialogue α} {before after after' : Condition token}
    (h : Establishes gateway view renewed d before after)
    (hiff : ∀ st, after.holds st ↔ after'.holds st) :
    Establishes gateway view renewed d before after' := by
  intro state hbefore
  refine (h state hbefore).mono fun x last hlast => ?_
  exact ⟨(hiff _).mp hlast.holds, hlast.grows, fun hold => hlast.idle ((hiff _).mpr hold)⟩

theorem establishes_onlyIf {d : Dialogue Unit} {before after : Condition token} {b : Bool}
    (h : b = true → Establishes gateway view renewed d before after) :
    Establishes gateway view renewed (onlyIf b d) before (after.onlyIf b) := by
  cases b with
  | false =>
    exact (establishes_pure () before).congr fun st => by simp [Condition.always, Condition.onlyIf]
  | true => exact (h rfl).congr fun st => by simp [Condition.onlyIf]

/-- The induction is on the list: each round relies on nothing, and what it establishes lasts. -/
theorem establishes_forEach {f : ι → Dialogue Unit} (hf : ∀ x, Orderly (f x))
    {after : ι → Condition token} (xs : List ι)
    (h : ∀ x ∈ xs, Establishes gateway view renewed (f x) .always (after x)) :
    Establishes gateway view renewed (forEach f xs) .always (.each after xs) := by
  induction xs with
  | nil => exact (establishes_pure () .always).congr fun st => by simp [Condition.always, Condition.each]
  | cons x xs ih =>
    have hrest := ih fun y hy => h y (List.mem_cons_of_mem x hy)
    have hall := (h x List.mem_cons_self).bind (hf x) fun _ =>
      hrest.rely fun _ _ => trivial
    exact hall.congr fun st => by simp [Condition.both, Condition.each]

end

/-! ## What is new -/

namespace Store

variable {token : Url.Form} {renewed : Scope → Prop} {st st' : Store}

theorem grows_of_plugins (hservices : ∀ name, (st.services name).isSome → (st'.services name).isSome)
    (hentries : ∀ name, (st.entries name).isSome → (st'.entries name).isSome)
    (hplugins : st'.plugins = st.plugins) : st.Grows token st' where
  services := hservices
  entries := hentries
  plugins scope name h := by rwa [hplugins]
  headers scope plugin h hconfig := ⟨plugin, by rwa [hplugins], hconfig⟩

theorem services_addService {service : Gateway.Service}
    (h : st'.toRouting = st.toRouting.addService service) (name : String) :
    st'.services name = if name = service.name then some service else st.services name :=
  congrFun (congrArg Routing.services h) name

theorem entries_addEntry {owner : String} {entry : Gateway.Entry}
    (h : st'.toRouting = st.toRouting.addEntry owner entry) (name : String) :
    st'.entries name = if name = entry.name then some (owner, entry) else st.entries name :=
  congrFun (congrArg Routing.entries h) name

theorem grows_addService {service : Gateway.Service}
    (h : st'.toRouting = st.toRouting.addService service) (hplugins : st'.plugins = st.plugins) :
    st.Grows token st' := by
  refine grows_of_plugins (fun name hname => ?_) (fun name hname => ?_) hplugins
  · rw [services_addService h]
    split
    · rfl
    · exact hname
  · have hentries : st'.entries = st.entries := (congrArg Routing.entries h).trans rfl
    rwa [hentries]

theorem grows_addEntry {owner : String} {entry : Gateway.Entry}
    (h : st'.toRouting = st.toRouting.addEntry owner entry) (hplugins : st'.plugins = st.plugins) :
    st.Grows token st' := by
  refine grows_of_plugins (fun name hname => ?_) (fun name hname => ?_) hplugins
  · have hservices : st'.services = st.services := (congrArg Routing.services h).trans rfl
    rwa [hservices]
  · rw [entries_addEntry h]
    split
    · rfl
    · exact hname

theorem plugins_putPlugin (st : Store) (scope : Scope) (name : String) (plugin : Option KeptPlugin) :
    (st.putPlugin scope name plugin).plugins scope name = plugin :=
  if_pos ⟨rfl, rfl⟩

theorem putPlugin_none {scope : Scope} {name : String} (h : st.plugins scope name = none) :
    st.putPlugin scope name none = st := by
  refine Store.ext rfl rfl (funext fun s => funext fun n => ?_)
  change (if s = scope ∧ n = name then none else st.plugins s n) = st.plugins s n
  split
  · rename_i hplace
    rw [hplace.1, hplace.2, h]
  · rfl

theorem putPlugin_putPlugin (st : Store) (scope : Scope) (name : String)
    (first second : Option KeptPlugin) :
    (st.putPlugin scope name first).putPlugin scope name second = st.putPlugin scope name second := by
  refine Store.ext rfl rfl (funext fun s => funext fun n => ?_)
  change (if s = scope ∧ n = name then second
    else if s = scope ∧ n = name then first else st.plugins s n) = _
  split
  · rename_i hplace
    exact (if_pos hplace).symm
  · rename_i hplace
    exact (if_neg hplace).symm

/-- Any plugin may be put where there is none, and any header plugin may be replaced by one with the
configuration that is wanted. -/
theorem grows_putPlugin {scope : Scope} {name : String} {plugin : KeptPlugin}
    (h : st.plugins scope name = none ∨ (name = Plugin.headerPlugin ∧ plugin.config = token)) :
    st.Grows token (st.putPlugin scope name (some plugin)) where
  services _ hname := hname
  entries _ hname := hname
  plugins s n hplace := by
    unfold putPlugin
    dsimp only
    split
    · rfl
    · exact hplace
  headers s old hold hconfig := by
    by_cases hplace : s = scope ∧ Plugin.headerPlugin = name
    · obtain ⟨rfl, rfl⟩ := hplace
      rcases h with hnone | ⟨-, htoken⟩
      · rw [hold] at hnone
        cases hnone
      -- whatever the old plugin was, the new one carries the token
      · exact ⟨plugin, st.plugins_putPlugin _ _ _, htoken⟩
    · exact ⟨old, (if_neg hplace).trans hold, hconfig⟩

/-- Another id of a header plugin makes no difference. -/
theorem alike_putHeader {service : String} {old new : KeptPlugin}
    (hscope : renewed (.service service))
    (hold : st.plugins (.service service) Plugin.headerPlugin = some old)
    (hconfig : new.config = old.config) :
    st.Alike renewed (st.putPlugin (.service service) Plugin.headerPlugin (some new)) where
  routing := rfl
  plugins scope name := by
    by_cases hplace : scope = .service service ∧ name = Plugin.headerPlugin
    · obtain ⟨rfl, rfl⟩ := hplace
      exact .inr ⟨hscope, rfl, old, new, hold, st.plugins_putPlugin _ _ _, hconfig⟩
    · exact .inl (if_neg hplace)

end Store

theorem settles_header {token : Url.Form} {renewed : Scope → Prop} {st st' : Store}
    {service id : String} (hrenewed : renewed (.service service))
    (h : st' = st.putPlugin (.service service) Plugin.headerPlugin (some ⟨id, token⟩)) :
    Settles renewed (.carriesToken service : Condition token) st st' := by
  subst h
  refine ⟨⟨⟨id, token⟩, st.plugins_putPlugin _ _ _, rfl⟩, Store.grows_putPlugin (.inr ⟨rfl, rfl⟩), ?_⟩
  rintro ⟨old, hplugin, hconfig⟩
  exact Store.alike_putHeader hrenewed hplugin hconfig.symm

/-! ## The parts of an initialization -/

namespace Provisioning

variable {σ : Type} {gateway : σ → Request → Reply × σ} {view : σ → Store} {token : Url.Form}
  {renewed : Scope → Prop} {c : AdminClient}

/-- An object that is new or there already has been created. -/
theorem succeeds_created {state : σ} {request : Request} {path : String} {response : Response}
    {post : σ → Prop} (hreply : (gateway state request).1 = .ok response)
    (hstatus : response.status = 201 ∨ response.status = 409)
    (hpost : post (gateway state request).2) :
    Succeeds gateway (send request >>= fun r => ofResult (c.created path r)).ignored state
      fun _ last => post last := by
  have hcreated : ∃ created, c.created path response = .ok created := by
    unfold AdminClient.created Response.isCreated
    rcases hstatus with hstatus | hstatus <;> rw [hstatus]
    · exact ⟨.new, rfl⟩
    · exact ⟨.alreadyConfigured, rfl⟩
  obtain ⟨created, hcreated⟩ := hcreated
  refine Succeeds.bind ((orderly_send _).bind fun _ => orderly_ofResult _) ?_
  refine Succeeds.bind (orderly_send _) (succeeds_send hreply ?_)
  rw [hcreated]
  exact succeeds_ofResult (succeeds_ofResult hpost)

theorem establishes_createService (hkeeps : Keeps c.base gateway view) (service : Gateway.Service) :
    Establishes gateway view renewed (createService c service).ignored .always
      (.has (.service service.name) : Condition token) := by
  intro state _
  have hcall := AdminCall.ofRequest?_createService c service
  obtain ⟨response, hreply, hrouting, hplugins⟩ := hkeeps.answers state _ _ hcall
  rcases hservice : (view state).services service.name with _ | old <;>
    simp only [Routing.Answers, hservice] at hrouting
  · refine succeeds_created hreply (.inl hrouting.1) ?_
    refine settles_new ?_ (Store.grows_addService hrouting.2 hplugins) ?_
    · change ((view _).services service.name).isSome = true
      rw [Store.services_addService hrouting.2, if_pos rfl]
      rfl
    · change ¬((view state).services service.name).isSome = true
      rw [hservice]
      exact Bool.false_ne_true
  · -- a conflict is a success that changes nothing
    refine succeeds_created hreply (.inr hrouting.1) ?_
    have hsame : view (gateway state _).2 = view state :=
      Store.ext (congrArg Routing.services hrouting.2) (congrArg Routing.entries hrouting.2) hplugins
    rw [hsame]
    apply settles_same
    change ((view state).services service.name).isSome = true
    rw [hservice]
    rfl

theorem establishes_createEntry (hkeeps : Keeps c.base gateway view) (owner : String)
    (entry : Gateway.Entry) :
    Establishes gateway view renewed (createEntry c owner entry).ignored
      (.has (.service owner) : Condition token) (.has (.route entry.name)) := by
  intro state howner
  have hcall := AdminCall.ofRequest?_createEntry c owner entry
  obtain ⟨response, hreply, hrouting, hplugins, -⟩ := hkeeps.answers state _ _ hcall
  replace hrouting := hrouting howner
  rcases hentry : (view state).entries entry.name with _ | old <;>
    simp only [hentry] at hrouting
  · refine succeeds_created hreply (.inl hrouting.1) ?_
    refine settles_new ?_ (Store.grows_addEntry hrouting.2 hplugins) ?_
    · change ((view _).entries entry.name).isSome = true
      rw [Store.entries_addEntry hrouting.2, if_pos rfl]
      rfl
    · change ¬((view state).entries entry.name).isSome = true
      rw [hentry]
      exact Bool.false_ne_true
  · refine succeeds_created hreply (.inr hrouting.1) ?_
    have hsame : view (gateway state _).2 = view state :=
      Store.ext (congrArg Routing.services hrouting.2) (congrArg Routing.entries hrouting.2) hplugins
    rw [hsame]
    apply settles_same
    change ((view state).entries entry.name).isSome = true
    rw [hentry]
    rfl

theorem establishes_attach (hkeeps : Keeps c.base gateway view) {plugin : Plugin}
    (hconfig : AdminCall.Nameless plugin) :
    Establishes gateway view renewed (attach c plugin).ignored (.has plugin.scope : Condition token)
      (.attached plugin) := by
  intro state hscope
  have hcall := AdminCall.ofRequest?_attach c hconfig
  obtain ⟨response, hreply, -, hplugins⟩ := hkeeps.answers state _ _ hcall
  change (view state).has plugin.scope = true at hscope
  rcases hplugin : (view state).plugins plugin.scope plugin.name with _ | old <;>
    simp only [Store.AnswersPlugins, if_pos hscope, hplugin] at hplugins
  · obtain ⟨hstatus, id, hlast⟩ := hplugins
    refine succeeds_created hreply (.inl hstatus) ?_
    rw [hlast]
    refine settles_new ?_ (Store.grows_putPlugin (.inl hplugin)) ?_
    · change (((view state).putPlugin _ _ _).plugins plugin.scope plugin.name).isSome = true
      rw [Store.plugins_putPlugin]
      rfl
    · change ¬((view state).plugins plugin.scope plugin.name).isSome = true
      rw [hplugin]
      exact Bool.false_ne_true
  · refine succeeds_created hreply (.inr hplugins.1) ?_
    rw [hplugins.2]
    apply settles_same
    change ((view state).plugins plugin.scope plugin.name).isSome = true
    rw [hplugin]
    rfl

/-- A header plugin that is listed is deleted, and one that is not listed is not there. -/
theorem succeeds_removeHeaderPlugin (hkeeps : Keeps c.base gateway view) {state : σ}
    {service : String} {plugins : List PluginEntry}
    (hlisted : ∀ entry, entry ∈ plugins ↔ ∃ plugin,
      (view state).plugins (.service service) entry.name = some plugin ∧ plugin.id = entry.id) :
    Succeeds gateway (removeHeaderPlugin c (servicePlugins service) plugins) state fun _ last =>
      view last = (view state).putPlugin (.service service) Plugin.headerPlugin none := by
  unfold removeHeaderPlugin
  rcases hfound : plugins.find? fun plugin => plugin.name == Plugin.headerPlugin with _ | entry
  · simp only [hfound]
    refine succeeds_ofResult ?_
    have hnone : (view state).plugins (.service service) Plugin.headerPlugin = none := by
      rcases hplugin : (view state).plugins (.service service) Plugin.headerPlugin with _ | plugin
      · rfl
      · have hentry := (hlisted ⟨plugin.id, Plugin.headerPlugin⟩).mpr ⟨plugin, hplugin, rfl⟩
        have hother := List.find?_eq_none.mp hfound _ hentry
        exact absurd (beq_self_eq_true Plugin.headerPlugin) hother
    exact (Store.putPlugin_none hnone).symm
  · simp only [hfound]
    have hname : entry.name = Plugin.headerPlugin := by simpa using List.find?_some hfound
    obtain ⟨plugin, hplugin, hid⟩ := (hlisted entry).mp (List.mem_of_find?_eq_some hfound)
    have hne : entry.id ≠ "" := hid ▸ hkeeps.ids state _ _ plugin hplugin
    have hcall := AdminCall.ofRequest?_removePlugin c service hne
    obtain ⟨response, hreply, -, hplugins⟩ := hkeeps.answers state _ _ hcall
    obtain ⟨hstatus, hlast⟩ := hplugins entry.name plugin hplugin hid
    refine Succeeds.bind (orderly_send _) (succeeds_send hreply ?_)
    have hdeleted : AdminClient.isDeleted response = true := by
      unfold AdminClient.isDeleted
      rw [hstatus]
      exact Bool.or_true _
    rw [if_pos hdeleted]
    exact succeeds_ofResult (hname ▸ hlast)

variable {p : Provisioning} {files : FileSource}

/-- The header plugin of a service is created anew with the token of the registry. -/
theorem establishes_injectRegistryToken (hkeeps : Keeps c.base gateway view) {path id : String}
    (hpath : p.accessTokenFile = some path) (hid : Token.secretId files path = .ok id)
    (htoken : token = (Plugin.registryToken "" id).config) {service : String}
    (hrenewed : renewed (.service service)) :
    Establishes gateway view renewed (p.injectRegistryToken files c service)
      (.has (.service service) : Condition token) (.carriesToken service) := by
  intro state hservice
  change (view state).has (.service service) = true at hservice
  unfold injectRegistryToken
  simp only [hpath, hid, ofResult_ok_bind]
  -- the listing changes nothing
  have hlist := AdminCall.ofRequest?_listPlugins c service
  obtain ⟨listed, hreply, -, hplugins⟩ := hkeeps.answers state _ _ hlist
  simp only [Store.AnswersPlugins, if_pos hservice] at hplugins
  obtain ⟨hsame, hstatus, page, hdecoded, -, hlisted⟩ := hplugins
  refine Succeeds.bind (orderly_send _) (succeeds_send hreply ?_)
  have hpage : c.decodeOk (Page.codec PluginEntry.codec) (servicePlugins service) listed =
      .ok page := by
    unfold AdminClient.decodeOk Response.isOk AdminClient.decodeFrom
    rw [hstatus, hdecoded]
    rfl
  simp only [hpage, ofResult_ok_bind]
  -- what is listed is deleted
  generalize hmid : (gateway state _).2 = mid
  rw [hmid] at hsame
  rw [← hsame] at hlisted hservice ⊢
  refine Succeeds.bind (orderly_removeHeaderPlugin c _ _) ?_
  refine (succeeds_removeHeaderPlugin hkeeps hlisted).mono fun _ bare hbare => ?_
  -- so that the new one is stored
  have hcall := AdminCall.ofRequest?_attach c (AdminCall.nameless_registryToken service id)
  obtain ⟨response, hreply, -, hplugins⟩ := hkeeps.answers bare _ _ hcall
  have hthere : (view bare).has (Plugin.registryToken service id).scope = true := by
    rw [hbare]
    exact hservice
  have hfree : (view bare).plugins (Plugin.registryToken service id).scope
      (Plugin.registryToken service id).name = none := by
    rw [hbare]
    exact Store.plugins_putPlugin _ _ _ _
  simp only [Store.AnswersPlugins, if_pos hthere, hfree] at hplugins
  obtain ⟨hcreated, newId, hlast⟩ := hplugins
  refine Succeeds.bind (orderly_send _) (succeeds_send hreply ?_)
  have hconflict : ¬(response.status == 409) = true := by
    rw [hcreated]
    decide
  have hsuccess : response.isSuccess = true := by
    unfold Response.isSuccess
    rw [hcreated]
    rfl
  rw [if_neg hconflict, if_pos hsuccess]
  refine succeeds_ofResult ?_
  have hput : (view bare).putPlugin (Plugin.registryToken service id).scope
      (Plugin.registryToken service id).name (some ⟨newId, (Plugin.registryToken service id).config⟩) =
        (view mid).putPlugin (.service service) Plugin.headerPlugin (some ⟨newId, token⟩) := by
    rw [hbare, htoken]
    exact Store.putPlugin_putPlugin _ _ _ _ _
  exact settles_header hrenewed (hlast.trans hput)

/-- All that belongs to a route is there. -/
def routeCondition (token : Url.Form) (p : Provisioning) (key : String) (route : Route) :
    Condition token :=
  (Condition.has (.service route.name)).both <|
    (Condition.onlyIf (isRegistry key) (.carriesToken route.name)).both <|
      (Condition.has (.route route.toEntry.name)).both <|
        (Condition.onlyIf p.cors.enabled (.attached (.cors route.toEntry.name p.cors))).both <|
          .attached (.auth route.toEntry.name p.auth)

theorem establishes_initRoute (hkeeps : Keeps c.base gateway view) {key : String} {route : Route}
    (hregistry : isRegistry key = true → renewed (.service (named key route).name) ∧
      ∃ path id, p.accessTokenFile = some path ∧ Token.secretId files path = .ok id ∧
        token = (Plugin.registryToken "" id).config) :
    Establishes gateway view renewed (p.initRoute files c (key, route)) .always
      (routeCondition token p key (named key route)) := by
  rw [initRoute_eq]
  generalize named key route = configured at hregistry ⊢
  have hservice : Establishes gateway view renewed (createService c configured.toService).ignored
      (.always : Condition token) (.has (.service configured.name)) :=
    establishes_createService hkeeps configured.toService
  -- each later part finds the parents of its objects among what has been established
  refine hservice.bind (orderly_createService c _).ignored fun _ => ?_
  refine Establishes.bind (orderly_onlyIf (p.orderly_injectRegistryToken files c _) _) ?_ fun _ => ?_
  · refine establishes_onlyIf fun hkey => ?_
    obtain ⟨hrenewed, path, id, hpath, hid, htoken⟩ := hregistry hkey
    refine (establishes_injectRegistryToken hkeeps hpath hid htoken hrenewed).rely ?_
    exact fun st hthere => hthere.2
  refine Establishes.bind (orderly_createEntry c _ _).ignored ?_ fun _ => ?_
  · refine (establishes_createEntry hkeeps _ _).rely ?_
    exact fun st hthere => hthere.1.2
  refine Establishes.bind (orderly_onlyIf (orderly_attach c _).ignored _) ?_ fun _ => ?_
  · refine establishes_onlyIf fun _ => ?_
    refine (establishes_attach hkeeps (AdminCall.nameless_cors _ _)).rely ?_
    exact fun st hthere => hthere.2
  · refine (establishes_attach hkeeps (AdminCall.nameless_auth _ _)).rely ?_
    rw [scope_auth]
    exact fun st hthere => hthere.1.2

/-- All that belongs to a configuration is there. -/
def initCondition (token : Url.Form) (p : Provisioning) : Condition token :=
  (Condition.each (fun item => routeCondition token p item.1 (named item.1 item.2))
    p.routes.entries).both <|
    Condition.onlyIf p.acl.enabled (.attached (.acl p.acl))

/-- The scopes whose header plugins are created anew by each initialization. -/
def Renews (p : Provisioning) (scope : Scope) : Prop :=
  ∃ key route, (key, route) ∈ p.routes.entries ∧ isRegistry key = true ∧
    scope = .service (named key route).name

theorem establishes_init {bearer : String} (hkeeps : Keeps p.gateway.adminBase gateway view)
    (hbearer : Token.load files p.bearerTokenFile = .ok bearer)
    (hregistry : ∀ key route, (key, route) ∈ p.routes.entries → isRegistry key = true →
      ∃ path id, p.accessTokenFile = some path ∧ Token.secretId files path = .ok id ∧
        token = (Plugin.registryToken "" id).config) :
    Establishes gateway view p.Renews (p.init files) .always (initCondition token p) := by
  have hclient : p.client files = .ok ⟨p.gateway.adminBase, bearer⟩ := by
    unfold client
    rw [hbearer]
    rfl
  rw [init_eq, hclient, ofResult_ok_bind]
  refine Establishes.bind (orderly_forEach (p.orderly_initRoute files _) _) ?_ fun _ => ?_
  · refine establishes_forEach (p.orderly_initRoute files _) _ fun item hitem => ?_
    refine establishes_initRoute hkeeps fun hkey => ?_
    exact ⟨⟨item.1, item.2, hitem, hkey, rfl⟩, hregistry item.1 item.2 hitem hkey⟩
  · refine establishes_onlyIf fun _ => ?_
    refine (establishes_attach hkeeps (AdminCall.nameless_acl _)).rely ?_
    exact fun _ _ => rfl

/-- With a gateway that keeps what it is given, in any state, an initialization succeeds; a second one
succeeds as well, and what is kept after it is what was kept before, except for the ids of the plugins
that put the token of the registry on requests. -/
theorem init_twice {bearer : String} (hkeeps : Keeps p.gateway.adminBase gateway view)
    (hbearer : Token.load files p.bearerTokenFile = .ok bearer)
    (hregistry : ∀ key route, (key, route) ∈ p.routes.entries →
      Text.equalIgnoringAsciiCase key "consul" = true →
        ∃ path id, p.accessTokenFile = some path ∧ Token.secretId files path = .ok id)
    (start : σ) :
    ∃ once twice, Concludes gateway (p.init files) start (.ok ()) once ∧
      Concludes gateway (p.init files) once (.ok ()) twice ∧
      (view once).Alike p.Renews (view twice) := by
  -- all registry routes carry the same token, since there is one file for it
  have htoken : ∃ token : Url.Form, ∀ key route, (key, route) ∈ p.routes.entries →
      isRegistry key = true → ∃ path id, p.accessTokenFile = some path ∧
        Token.secretId files path = .ok id ∧ token = (Plugin.registryToken "" id).config := by
    by_cases hany : ∃ item ∈ p.routes.entries, isRegistry item.1 = true
    · obtain ⟨item, hitem, hkey⟩ := hany
      obtain ⟨path, id, hpath, hid⟩ := hregistry item.1 item.2 hitem hkey
      exact ⟨_, fun _ _ _ _ => ⟨path, id, hpath, hid, rfl⟩⟩
    · exact ⟨[], fun key route hitem hkey => absurd ⟨(key, route), hitem, hkey⟩ hany⟩
  obtain ⟨token, htoken⟩ := htoken
  have hinit := establishes_init hkeeps hbearer htoken
  obtain ⟨once, hfirst, hsettled⟩ := (hinit start trivial).concludes (p.orderly_init files)
  obtain ⟨twice, hsecond, hagain⟩ := (hinit once trivial).concludes (p.orderly_init files)
  exact ⟨once, twice, hfirst, hsecond, hagain.idle hsettled.holds⟩

/-- The route to the registry, and where the tokens for the gateway and for the registry are. -/
def registryProvisioning : Provisioning where
  routes := ⟨[("Consul", ⟨"", "http", "registry", 8500⟩)], by simp⟩
  bearerTokenFile := "token"
  accessTokenFile := some "registry.json"

/-- Both tokens. -/
def registryFiles : FileSource := fun path =>
  if path = "token" then .ok (Utf8.encode "t")
  else if path = "registry.json" then .ok (Utf8.encode "\x7b\"SecretID\":\"s\"\x7d")
  else .error .absent

theorem registryFiles_token : Token.load registryFiles "token" = .ok "t" :=
  ok_of_toOption (by decide +kernel)

/-- A gateway that puts another token on requests to the registry. -/
def staleLedger : Ledger where
  routing := Routing.empty.addService ⟨"Consul", "registry", 8500, "http"⟩
  attached := [⟨.service "Consul", "request-transformer",
    [("config.add.headers", "X-Consul-Token:stale")]⟩]

/-- The stale token is replaced by the first initialization. -/
theorem init_twice_stale_token :
    Token.load registryFiles "token" = .ok "t" ∧
    Token.secretId registryFiles "registry.json" = .ok "s" ∧
    ∃ once twice,
      Concludes (Ledger.gateway "http://kong:8001") (registryProvisioning.init registryFiles)
        staleLedger (.ok ()) once ∧
      Concludes (Ledger.gateway "http://kong:8001") (registryProvisioning.init registryFiles)
        once (.ok ()) twice ∧
      once.store.Alike registryProvisioning.Renews twice.store := by
  have hsecret : Token.secretId registryFiles "registry.json" = .ok "s" :=
    ok_of_toOption (by decide +kernel)
  have hbase : registryProvisioning.gateway.adminBase = "http://kong:8001" := by decide +kernel
  have hkeeps := Ledger.keeps registryProvisioning.gateway.adminBase
  refine ⟨registryFiles_token, hsecret, ?_⟩
  rw [← hbase]
  exact init_twice hkeeps registryFiles_token (fun _ _ _ _ => ⟨_, _, rfl, hsecret⟩) staleLedger

end Provisioning

end GatewayProvisioning
