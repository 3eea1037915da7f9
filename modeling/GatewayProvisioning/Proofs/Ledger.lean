import GatewayProvisioning.Proofs.ModelText
import GatewayProvisioning.Proofs.Store

/-!
# A gateway that keeps a ledger

A gateway that does what is asked of gateways: it keeps services and routes, and a list of the plugins
that have been attached. The id of a plugin follows from its name.
-/

namespace GatewayProvisioning

open Document

/-! ## The ledger -/

/-- What has been attached: a plugin of a name with its configuration, and what it applies to. -/
structure Attachment where
  scope : Scope
  name : String
  config : Url.Form
  deriving DecidableEq, Repr

namespace Attachment

/-- The id of a plugin. -/
def id (a : Attachment) : String :=
  "plugin " ++ a.name

/-- The plugin that is kept. -/
def plugin (a : Attachment) : KeptPlugin where
  id := a.id
  config := a.config

end Attachment

/-- The services and routes that are kept, and the plugins in the order in which they came. -/
structure Ledger where
  routing : Routing
  attached : List Attachment

namespace Ledger

/-- The ledger of a gateway that has been given nothing. -/
def empty : Ledger where
  routing := .empty
  attached := []

/-- The plugin of a scope and a name. -/
def plugin? (l : Ledger) (scope : Scope) (name : String) : Option KeptPlugin :=
  (l.attached.find? fun a => a.scope = scope ∧ a.name = name).map Attachment.plugin

/-- What the ledger says is kept. -/
def store (l : Ledger) : Store :=
  { l.routing with plugins := l.plugin? }

/-- The plugins of a service. -/
def listed (l : Ledger) (service : String) : List PluginEntry :=
  (l.attached.filter fun a => a.scope = .service service).map fun a => ⟨a.id, a.name⟩

/-- The text that lists the plugins of a service. -/
def listing (l : Ledger) (service : String) : String :=
  Json.compact ((Page.codec PluginEntry.codec).write ⟨l.listed service, none⟩)

/-- The answer to a call, and the ledger after it. -/
def answer (l : Ledger) : AdminCall → Response × Ledger
  | .addService service =>
    match l.routing.services service.name with
    | none => (⟨201, ""⟩, { l with routing := l.routing.addService service })
    | some _ => (⟨409, ""⟩, l)
  | .addEntry owner entry =>
    match l.routing.services owner, l.routing.entries entry.name with
    | none, _ => (⟨404, ""⟩, l)
    | some _, none => (⟨201, ""⟩, { l with routing := l.routing.addEntry owner entry })
    | some _, some _ => (⟨409, ""⟩, l)
  | .addPlugin scope name config =>
    if l.store.has scope then
      match l.plugin? scope name with
      | none => (⟨201, ""⟩, { l with attached := ⟨scope, name, config⟩ :: l.attached })
      | some _ => (⟨409, ""⟩, l)
    else (⟨404, ""⟩, l)
  | .listPlugins service =>
    if l.store.has (.service service) then (⟨200, l.listing service⟩, l) else (⟨404, ""⟩, l)
  | .removePlugin service id =>
    (⟨204, ""⟩,
      { l with attached := l.attached.filter fun a => ¬(a.scope = .service service ∧ a.id = id) })

/-- Answers what is known, and nothing else. -/
def gateway (base : String) (l : Ledger) (request : Request) : Reply × Ledger :=
  match AdminCall.ofRequest? base request with
  | some call => (.ok (l.answer call).1, (l.answer call).2)
  | none => (.ok ⟨404, ""⟩, l)

/-! ## It keeps what it is given -/

theorem plugin?_eq_some {l : Ledger} {scope : Scope} {name : String} {plugin : KeptPlugin}
    (h : l.plugin? scope name = some plugin) :
    ∃ a ∈ l.attached, a.scope = scope ∧ a.name = name ∧ a.plugin = plugin := by
  obtain ⟨a, hfound, hplugin⟩ := Option.map_eq_some_iff.mp h
  have hplace := List.find?_some hfound
  obtain ⟨hscope, hname⟩ := of_decide_eq_true hplace
  exact ⟨a, List.mem_of_find?_eq_some hfound, hscope, hname, hplugin⟩

theorem exists_plugin? {l : Ledger} {a : Attachment} (h : a ∈ l.attached) :
    ∃ plugin, l.plugin? a.scope a.name = some plugin ∧ plugin.id = a.id := by
  rcases hplugin : l.plugin? a.scope a.name with _ | plugin
  · have hnone := List.find?_eq_none.mp (Option.map_eq_none_iff.mp hplugin) a h
    simp at hnone
  · obtain ⟨other, -, -, hname, rfl⟩ := plugin?_eq_some hplugin
    refine ⟨_, rfl, ?_⟩
    change "plugin " ++ other.name = "plugin " ++ a.name
    rw [hname]

theorem id_inj {a other : Attachment} (h : a.id = other.id) : a.name = other.name := by
  have hchars := congrArg String.toList h
  unfold Attachment.id at hchars
  rw [String.toList_append, String.toList_append] at hchars
  exact String.toList_inj.mp (List.append_cancel_left hchars)

theorem lists_listing (l : Ledger) (service : String) :
    l.store.Lists service (l.listing service) := by
  refine ⟨⟨l.listed service, none⟩, (Page.lossless PluginEntry.lossless _).decode_text, rfl, fun entry => ?_⟩
  constructor
  · intro hentry
    obtain ⟨a, ha, rfl⟩ := List.mem_map.mp hentry
    obtain ⟨hmem, hscope⟩ := List.mem_filter.mp ha
    rw [← of_decide_eq_true hscope]
    exact exists_plugin? hmem
  · rintro ⟨plugin, hplugin, hid⟩
    obtain ⟨a, hmem, hscope, hname, rfl⟩ := plugin?_eq_some hplugin
    have hentry : entry = ⟨a.id, a.name⟩ := by
      rw [hname]
      exact congrArg (PluginEntry.mk · entry.name) hid.symm
    rw [hentry]
    apply List.mem_map_of_mem
    exact List.mem_filter.mpr ⟨hmem, decide_eq_true hscope⟩

theorem store_eq {l : Ledger} {st : Store} (hrouting : l.routing = st.toRouting)
    (hplugins : ∀ scope name, l.plugin? scope name = st.plugins scope name) : l.store = st := by
  have hfun : l.plugin? = st.plugins := funext fun scope => funext (hplugins scope)
  unfold store
  rw [hrouting, hfun]

theorem store_attach (l : Ledger) (a : Attachment) :
    ({ l with attached := a :: l.attached } : Ledger).store =
      l.store.putPlugin a.scope a.name (some a.plugin) := by
  refine store_eq rfl fun scope name => ?_
  unfold plugin? Store.putPlugin
  by_cases hplace : a.scope = scope ∧ a.name = name
  · obtain ⟨rfl, rfl⟩ := hplace
    simp
  · have hother : ¬(scope = a.scope ∧ name = a.name) := fun h => hplace ⟨h.1.symm, h.2.symm⟩
    rw [List.find?_cons_of_neg (by simpa using hplace)]
    exact (if_neg hother).symm

theorem find?_filter_kept {α : Type} {p q : α → Bool} (h : ∀ x, q x = true → p x = true)
    (xs : List α) : (xs.filter p).find? q = xs.find? q := by
  induction xs with
  | nil => rfl
  | cons x xs ih =>
    by_cases hq : q x = true
    · rw [List.filter_cons_of_pos (h x hq), List.find?_cons_of_pos hq, List.find?_cons_of_pos hq]
    · rw [List.find?_cons_of_neg hq, ← ih]
      by_cases hp : p x = true
      · rw [List.filter_cons_of_pos hp, List.find?_cons_of_neg hq]
      · rw [List.filter_cons_of_neg hp]

/-- Deleting by an id deletes by a name, since no two names have the same id. -/
theorem store_detach (l : Ledger) (service : String) (a : Attachment) :
    ({ l with attached := l.attached.filter fun other =>
      ¬(other.scope = .service service ∧ other.id = a.id) } : Ledger).store =
      l.store.putPlugin (.service service) a.name none := by
  refine store_eq rfl fun scope name => ?_
  unfold plugin? Store.putPlugin
  by_cases hplace : scope = .service service ∧ name = a.name
  · obtain ⟨rfl, rfl⟩ := hplace
    -- whatever has the name has the id, and has been deleted
    have hnone : (l.attached.filter fun other =>
        ¬(other.scope = .service service ∧ other.id = a.id)).find? (fun other =>
          other.scope = .service service ∧ other.name = a.name) = none := by
      apply List.find?_eq_none.mpr
      intro other hother hplace
      obtain ⟨hscope, hname⟩ := of_decide_eq_true hplace
      have hid : other.id = a.id := congrArg ("plugin " ++ ·) hname
      exact of_decide_eq_true (List.mem_filter.mp hother).2 ⟨hscope, hid⟩
    rw [hnone]
    simp
  · -- what is found elsewhere has another scope or another id
    have hkept : ∀ other : Attachment, decide (other.scope = scope ∧ other.name = name) = true →
        decide (¬(other.scope = .service service ∧ other.id = a.id)) = true := by
      intro other hother
      obtain ⟨rfl, rfl⟩ := of_decide_eq_true hother
      exact decide_eq_true fun h => hplace ⟨h.1, id_inj h.2⟩
    rw [find?_filter_kept hkept]
    exact (if_neg hplace).symm

theorem routing_answers (l : Ledger) (call : AdminCall) :
    l.routing.Answers (l.answer call).1.status (l.answer call).2.routing call := by
  cases call with
  | addService service =>
    rcases hservice : l.routing.services service.name with _ | old <;>
      simp [answer, Routing.Answers, hservice]
  | addEntry owner entry =>
    intro howner
    obtain ⟨service, hservice⟩ := Option.isSome_iff_exists.mp howner
    rcases hentry : l.routing.entries entry.name with _ | old <;>
      simp [answer, hservice, hentry]
  | addPlugin scope name config =>
    simp only [answer, Routing.Answers]
    split
    · split <;> rfl
    · rfl
  | listPlugins service =>
    simp only [answer, Routing.Answers]
    split <;> rfl
  | removePlugin service id => rfl

theorem plugins_answers (l : Ledger) (call : AdminCall) :
    l.store.AnswersPlugins (l.answer call).1 (l.answer call).2.store call := by
  cases call with
  | addService service =>
    simp only [answer, Store.AnswersPlugins]
    split <;> rfl
  | addEntry owner entry =>
    simp only [answer, Store.AnswersPlugins]
    refine ⟨by split <;> rfl, fun hmissing => ?_⟩
    change l.routing.services owner = none at hmissing
    rw [hmissing]
    exact ⟨rfl, rfl⟩
  | addPlugin scope name config =>
    simp only [answer, Store.AnswersPlugins]
    by_cases hscope : l.store.has scope = true
    · have hstore : l.store.plugins scope name = l.plugin? scope name := rfl
      rw [if_pos hscope, if_pos hscope, hstore]
      cases hplugin : l.plugin? scope name with
      | none => exact ⟨rfl, _, l.store_attach ⟨scope, name, config⟩⟩
      | some plugin => exact ⟨rfl, rfl⟩
    · rw [if_neg hscope, if_neg hscope]
      exact ⟨rfl, rfl⟩
  | listPlugins service =>
    simp only [answer, Store.AnswersPlugins]
    by_cases hservice : l.store.has (.service service) = true
    · rw [if_pos hservice, if_pos hservice]
      exact ⟨rfl, rfl, l.lists_listing service⟩
    · rw [if_neg hservice, if_neg hservice]
      exact ⟨rfl, rfl⟩
  | removePlugin service id =>
    intro name plugin hplugin hid
    obtain ⟨a, -, -, rfl, rfl⟩ := plugin?_eq_some hplugin
    rw [← hid]
    exact ⟨rfl, l.store_detach service a⟩

theorem gateway_of_call {base : String} {request : Request} {call : AdminCall}
    (h : AdminCall.ofRequest? base request = some call) (l : Ledger) :
    gateway base l request = (.ok (l.answer call).1, (l.answer call).2) := by
  unfold gateway
  rw [h]

theorem keeps (base : String) : Keeps base (gateway base) store where
  ids l scope name plugin hplugin hempty := by
    obtain ⟨a, -, -, -, rfl⟩ := plugin?_eq_some hplugin
    have hchars := congrArg String.toList hempty
    change ("plugin " ++ a.name).toList = [] at hchars
    simp at hchars
  answers l request call hcall := by
    rw [gateway_of_call hcall]
    exact ⟨_, rfl, l.routing_answers call, l.plugins_answers call⟩

theorem keeps_routing (base : String) : KeepsRouting base (gateway base) routing where
  answers l request call response hcall hreply := by
    rw [gateway_of_call hcall] at hreply ⊢
    cases hreply
    exact l.routing_answers call
  others l request hnone := by
    unfold gateway
    rw [hnone]

end Ledger

end GatewayProvisioning
