import GatewayProvisioning.Proofs.Digits
import GatewayProvisioning.Proofs.Parts
import GatewayProvisioning.Proofs.Segments

/-!
# What a request asks of the gateway

A gateway knows a request by its method, the names in its path and its body. Each request of an
initialization asks for what it is meant to ask for, whatever names and values it is about.

Names are read from an address as it stands in the request.
-/

namespace GatewayProvisioning

/-! ## Names in an address -/

namespace Url

/-- The name that a segment stands for. -/
def segmentName? (segment : List Char) : Option String :=
  Utf8.decode? (percentDecode (Utf8.encodeChars segment))

/-- The names in an address below a base. -/
def namesBelow? (base url : String) : Option (List String) :=
  if (trimBase base ++ ['/']).isPrefixOf url.toList then
    (splitPath false (url.toList.drop (trimBase base ++ ['/']).length)).mapM segmentName?
  else none

theorem segmentName?_encodeSegment (name : String) :
    segmentName? (encodeSegment name).toList = some name := by
  have hdecoded := percentDecode_encodeSegment name
  unfold Utf8.encode at hdecoded
  unfold segmentName?
  rw [hdecoded]
  exact Utf8.decode?_encode name

/-- Names that are put into an address are read from it again. Only the first and the last one must
not be empty, since no slash is left at either end of a path. -/
theorem namesBelow?_join (base : String) {names : List String} (hs : names ≠ [])
    (hfirst : names.head? ≠ some "") (hlast : names.getLast? ≠ some "") :
    namesBelow? base (join base [String.ofList (slashed (names.map encodeSegment))]) =
      some names := by
  have hchars : ∀ segment ∈ names.map encodeSegment, ∀ c ∈ segment.toList, isWordChar c = true := by
    intro segment hsegment
    obtain ⟨name, -, rfl⟩ := List.mem_map.mp hsegment
    exact isWordChar_encodeSegment name
  have hempty : ∀ name? : Option String, name? ≠ some "" → name?.map encodeSegment ≠ some "" := by
    intro name? hne h
    obtain ⟨name, rfl, hname⟩ := Option.map_eq_some_iff.mp h
    exact hne (congrArg some (encodeSegment_eq_empty hname))
  have hhead : (names.map encodeSegment).head? ≠ some "" := by
    rw [List.head?_map]
    exact hempty _ hfirst
  have htail : (names.map encodeSegment).getLast? ≠ some "" := by
    rw [List.getLast?_map]
    exact hempty _ hlast
  have hmap : names.map encodeSegment ≠ [] := by simpa using hs
  obtain ⟨hnil, hstart, hend⟩ := slashed_ends hhead htail hmap hchars
  have hurl : (join base [String.ofList (slashed (names.map encodeSegment))]).toList =
      (trimBase base ++ ['/']) ++ slashed (names.map encodeSegment) := by
    rw [join_row base hnil hstart hend, String.toList_ofList, List.append_assoc,
      List.singleton_append]
  have hprefix : (trimBase base ++ ['/']).isPrefixOf
      ((trimBase base ++ ['/']) ++ slashed (names.map encodeSegment)) = true :=
    List.isPrefixOf_iff_prefix.mpr (List.prefix_append _ _)
  unfold namesBelow?
  rw [hurl, if_pos hprefix, List.drop_left, splitPath_slashed false hmap hchars, List.map_map]
  exact Utf8.mapM_map_some fun name _ => segmentName?_encodeSegment name

end Url

/-! ## Calls -/

/-- What a request asks for. -/
inductive AdminCall where
  | addService (service : Gateway.Service)
  | addEntry (owner : String) (entry : Gateway.Entry)
  | addPlugin (scope : Scope) (name : String) (config : Url.Form)
  | listPlugins (service : String)
  | removePlugin (service id : String)

namespace AdminCall

/-- The port that a text writes. -/
def portOf? (text : String) : Option UInt16 :=
  if text.toList.all Text.isDigit then
    let n := Text.decimalValue text.toList
    if n < UInt16.size then some (UInt16.ofNat n) else none
  else none

/-- The service of a form. -/
def serviceOf? (fields : Url.Form) : Option Gateway.Service := do
  let name ← fields.lookup "name"
  let host ← fields.lookup "host"
  let port ← portOf? (← fields.lookup "port")
  let protocol ← fields.lookup "protocol"
  return { name, host, port, protocol }

/-- The text that a JSON value is. -/
def textOf? : Json → Option String
  | .text s => some s
  | _ => none

/-- The entry of a JSON value. -/
def entryOf? (value : Json) : Option Gateway.Entry := do
  let name ← textOf? (← value.member? "name")
  match ← value.member? "paths" with
  | .list paths => return { name, paths := ← paths.mapM textOf? }
  | _ => none

/-- The scope whose plugins are kept under names. -/
def scopeOf? : List String → Option Scope
  | ["plugins"] => some .global
  | ["services", service, "plugins"] => some (.service service)
  | ["routes", route, "plugins"] => some (.route route)
  | _ => none

/-- The plugin of a form: all fields but its name are its configuration. -/
def pluginOf? (scope : Scope) (fields : Url.Form) : Option AdminCall := do
  let name ← fields.lookup "name"
  return .addPlugin scope name (fields.filter fun field => field.1 != "name")

/-- What is asked for by posting a body under names. -/
def posted? : List String → Body → Option AdminCall
  | ["services"], .form fields => (serviceOf? fields).map .addService
  | ["services", owner, "routes"], .json value => (entryOf? value).map (.addEntry owner)
  | names, .form fields => do pluginOf? (← scopeOf? names) fields
  | _, _ => none

/-- What a request asks for under a base, if it is anything that is known. -/
def ofRequest? (base : String) (request : Request) : Option AdminCall := do
  match request.method, ← Url.namesBelow? base request.url with
  | .post, names => posted? names request.body
  | .get, ["services", service, "plugins"] => some (.listPlugins service)
  | .delete, ["services", service, "plugins", id] => some (.removePlugin service id)
  | _, _ => none

/-- Only what is posted is new. -/
theorem call_of_not_post {base : String} {request : Request} {call : AdminCall}
    (hmethod : request.method ≠ .post) (h : ofRequest? base request = some call) :
    (∃ service, call = .listPlugins service) ∨ ∃ service id, call = .removePlugin service id := by
  unfold ofRequest? at h
  obtain ⟨names, -, hnames⟩ := Option.bind_eq_some_iff.mp h
  split at hnames
  · rename_i hpost
    exact absurd hpost hmethod
  · exact .inl ⟨_, (Option.some.inj hnames).symm⟩
  · exact .inr ⟨_, _, (Option.some.inj hnames).symm⟩
  · cases hnames

/-! ## Configuration fields -/

/-- Whether no field of a configuration could be taken for the name of the plugin. -/
def Nameless (plugin : Plugin) : Prop :=
  ∀ field ∈ plugin.config, field.1 ≠ "name"

theorem configKey_ne (key : String) : "config." ++ key ≠ "name" := by
  intro h
  have hhead := congrArg (fun s => s.toList.head?) h
  simp at hhead

theorem nameless_setEach {plugin : Plugin} (h : Nameless plugin) (key : String)
    (values : List String) : Nameless (plugin.setEach key values) := by
  intro field hfield
  rcases List.mem_append.mp hfield with hfield | hfield
  · exact h field hfield
  · obtain ⟨value, -, rfl⟩ := List.mem_map.mp hfield
    exact configKey_ne key

theorem nameless_set {plugin : Plugin} (h : Nameless plugin) (key value : String) :
    Nameless (plugin.set key value) :=
  nameless_setEach h key [value]

theorem nameless_new (name : String) (scope : Scope) : Nameless { name, scope } := by
  intro field hfield
  cases hfield

theorem nameless_cors (route : String) (settings : CorsSettings) :
    Nameless (.cors route settings) := by
  unfold Plugin.cors Plugin.setList
  exact nameless_set (nameless_set (nameless_setEach (nameless_setEach (nameless_setEach
    (nameless_setEach (nameless_new _ _) _ _) _ _) _ _) _ _) _ _) _ _

theorem nameless_auth (route : String) (method : AuthMethod) : Nameless (.auth route method) := by
  cases method with
  | jwt => exact nameless_new _ _
  | oauth2 settings =>
    unfold Plugin.auth Plugin.setList
    exact nameless_set (nameless_set (nameless_set (nameless_set (nameless_setEach
      (nameless_new _ _) _ _) _ _) _ _) _ _) _ _

theorem nameless_acl (settings : AclSettings) : Nameless (.acl settings) :=
  nameless_setEach (nameless_new _ _) _ _

theorem nameless_registryToken (service id : String) : Nameless (.registryToken service id) :=
  nameless_set (nameless_new _ _) _ _

/-! ## The calls of an initialization -/

/-- The names under which the plugins of a scope are kept. -/
def scopeNames : Scope → List String
  | .service name => ["services", name, "plugins"]
  | .route name => ["routes", name, "plugins"]
  | .global => ["plugins"]

theorem path_names {path : String} {names : List String}
    (h : path.toList = Url.slashed (names.map Url.encodeSegment)) :
    path = String.ofList (Url.slashed (names.map Url.encodeSegment)) := by
  rw [← h, String.ofList_toList]

theorem services_path :
    "services" = String.ofList (Url.slashed (["services"].map Url.encodeSegment)) := by
  apply path_names
  decide

theorem encodeSegment_fixed : Url.encodeSegment "services" = "services" ∧
    Url.encodeSegment "routes" = "routes" ∧ Url.encodeSegment "plugins" = "plugins" := by
  decide

theorem serviceEntries_path (service : String) :
    Provisioning.serviceEntries service =
      String.ofList (Url.slashed (["services", service, "routes"].map Url.encodeSegment)) := by
  obtain ⟨hservices, hroutes, -⟩ := encodeSegment_fixed
  apply path_names
  simp [Provisioning.serviceEntries, Url.slashed, hservices, hroutes]

theorem collection_path (scope : Scope) :
    scope.collection = String.ofList (Url.slashed ((scopeNames scope).map Url.encodeSegment)) := by
  obtain ⟨hservices, hroutes, hplugins⟩ := encodeSegment_fixed
  apply path_names
  cases scope <;>
    simp [Scope.collection, servicePlugins, routePlugins, scopeNames, Url.slashed, hservices,
      hroutes, hplugins]

theorem plugin_path (service id : String) :
    AdminClient.objectPath (servicePlugins service) id =
      String.ofList (Url.slashed (["services", service, "plugins", id].map Url.encodeSegment)) := by
  obtain ⟨hservices, -, hplugins⟩ := encodeSegment_fixed
  apply path_names
  rw [Provisioning.objectPath_servicePlugins]
  simp [servicePlugins, Url.slashed, hservices, hplugins]

theorem portOf?_ofNat (port : UInt16) : portOf? (Decimal.ofNat port.toNat) = some port := by
  obtain ⟨hdigits, hvalue⟩ := Decimal.decimalValue_digits port.toNat
  unfold portOf? Decimal.ofNat
  rw [String.toList_ofList, if_pos hdigits, hvalue]
  exact (if_pos port.toNat_lt).trans (congrArg some (UInt16.ofNat_toNat))

theorem serviceOf?_form (service : Gateway.Service) : serviceOf? service.form = some service := by
  have hport := portOf?_ofNat service.port
  unfold serviceOf? Gateway.Service.form
  simp [List.lookup_cons, hport]

theorem entryOf?_entryBody (entry : Gateway.Entry) :
    entryOf? (Provisioning.entryBody entry) = some entry := by
  have hpaths : (entry.paths.map Json.text).mapM textOf? = some entry.paths :=
    Utf8.mapM_map_some fun _ _ => rfl
  unfold entryOf? Provisioning.entryBody Json.texts
  simp [Json.member?, textOf?, hpaths]

theorem pluginOf?_form {plugin : Plugin} (h : Nameless plugin) :
    pluginOf? plugin.scope plugin.form =
      some (.addPlugin plugin.scope plugin.name plugin.config) := by
  have hconfig : plugin.config.filter (fun field => field.1 != "name") = plugin.config :=
    List.filter_eq_self.mpr fun field hfield => by simpa using h field hfield
  unfold pluginOf? Plugin.form
  simp [hconfig]

theorem posted?_scopeNames (scope : Scope) (fields : Url.Form) :
    posted? (scopeNames scope) (.form fields) = pluginOf? scope fields := by
  cases scope <;> rfl

theorem scopeNames_ends (scope : Scope) :
    scopeNames scope ≠ [] ∧ (scopeNames scope).head? ≠ some "" ∧
      (scopeNames scope).getLast? ≠ some "" := by
  cases scope <;> simp [scopeNames]

variable (c : AdminClient)

theorem ofRequest?_createService (service : Gateway.Service) :
    ofRequest? c.base { c.request .post "services" with body := .form service.form } =
      some (.addService service) := by
  have hnames : Url.namesBelow? c.base (c.url "services") = some ["services"] := by
    unfold AdminClient.url
    rw [services_path]
    exact Url.namesBelow?_join c.base (by simp) (by simp) (by simp)
  have hservice := serviceOf?_form service
  simp [ofRequest?, AdminClient.request, AdminClient.requestTo, hnames, posted?, hservice]

theorem ofRequest?_createEntry (owner : String) (entry : Gateway.Entry) :
    ofRequest? c.base { c.request .post (Provisioning.serviceEntries owner) with
      body := .json (Provisioning.entryBody entry) } = some (.addEntry owner entry) := by
  have hnames : Url.namesBelow? c.base (c.url (Provisioning.serviceEntries owner)) =
      some ["services", owner, "routes"] := by
    unfold AdminClient.url
    rw [serviceEntries_path]
    exact Url.namesBelow?_join c.base (by simp) (by simp) (by simp)
  have hentry := entryOf?_entryBody entry
  simp [ofRequest?, AdminClient.request, AdminClient.requestTo, hnames, posted?, hentry]

theorem namesBelow?_collection (scope : Scope) :
    Url.namesBelow? c.base (c.url scope.collection) = some (scopeNames scope) := by
  obtain ⟨hne, hfirst, hlast⟩ := scopeNames_ends scope
  unfold AdminClient.url
  rw [collection_path]
  exact Url.namesBelow?_join c.base hne hfirst hlast

theorem ofRequest?_attach {plugin : Plugin} (h : Nameless plugin) :
    ofRequest? c.base { c.request .post plugin.scope.collection with body := .form plugin.form } =
      some (.addPlugin plugin.scope plugin.name plugin.config) := by
  have hnames := namesBelow?_collection c plugin.scope
  have hplugin := pluginOf?_form h
  simp [ofRequest?, AdminClient.request, AdminClient.requestTo, hnames, posted?_scopeNames, hplugin]

theorem ofRequest?_listPlugins (service : String) :
    ofRequest? c.base (c.request .get (servicePlugins service)) = some (.listPlugins service) := by
  have hnames := namesBelow?_collection c (.service service)
  unfold Scope.collection at hnames
  simp [ofRequest?, AdminClient.request, AdminClient.requestTo, hnames, scopeNames]

/-- An id that is empty would leave the path of the collection. -/
theorem ofRequest?_removePlugin (service : String) {id : String} (hid : id ≠ "") :
    ofRequest? c.base (c.request .delete (AdminClient.objectPath (servicePlugins service) id)) =
      some (.removePlugin service id) := by
  have hnames : Url.namesBelow? c.base
      (c.url (AdminClient.objectPath (servicePlugins service) id)) =
        some ["services", service, "plugins", id] := by
    unfold AdminClient.url
    rw [plugin_path]
    exact Url.namesBelow?_join c.base (by simp) (by simp) (by simpa using hid)
  simp [ofRequest?, AdminClient.request, AdminClient.requestTo, hnames]

end AdminCall

end GatewayProvisioning
