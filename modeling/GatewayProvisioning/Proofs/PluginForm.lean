import GatewayProvisioning.Gateway.Plugin
import GatewayProvisioning.Proofs.FormText

/-!
# The form of a plugin

What a plugin is attached with: its name, and then one field for each value that it was configured
with, in the order of the settings. The gateway reads back just these fields from the form, so no
text in a setting can add a field, drop one or change another.
-/

namespace GatewayProvisioning.Plugin

/-! ## Settings -/

/-- One step of a configuration: a value, or a comma separated list of values. -/
inductive Setting where
  | value (key text : String)
  | list (key items : String)
  deriving DecidableEq, Repr

/-- The items of a list: what stands between the commas, trimmed, without what is blank. -/
def listItems (items : String) : List String :=
  ((Text.splitWhere (· == ',') items.toList).map fun item => Text.trim (String.ofList item)).filter
    (· ≠ "")

/-- The fields that a setting gives: one for a value, and one for each item of a list. -/
def Setting.fields : Setting → Url.Form
  | .value key text => [("config." ++ key, text)]
  | .list key items => (listItems items).map fun item => ("config." ++ key, item)

/-- Configures a plugin with one setting. -/
def configure (p : Plugin) : Setting → Plugin
  | .value key text => p.set key text
  | .list key items => p.setList key items

/-- A plugin that is configured with settings, one after the other. -/
def configured (name : String) (scope : Scope) (settings : List Setting) : Plugin :=
  settings.foldl configure { name, scope }

theorem commaItems_eq (items : String) : Text.commaItems items = listItems items := by
  unfold Text.commaItems listItems
  induction Text.splitWhere (· == ',') items.toList with
  | nil => rfl
  | cons part parts ih =>
    have htrim : Text.trim (String.ofList part) =
        String.ofList (Text.dropBothWhile Text.isBlank part) := by
      rw [Text.trim, String.toList_ofList]
    rw [List.map_cons, List.map_cons, List.filterMap_cons, List.filter_cons, ih, htrim]
    cases Text.dropBothWhile Text.isBlank part <;> simp

theorem configure_form (p : Plugin) (setting : Setting) :
    (p.configure setting).form = p.form ++ setting.fields := by
  cases setting with
  | value key text => rfl
  | list key items =>
    rw [Setting.fields, ← commaItems_eq]
    rfl

/-- The induction is on the settings: each appends its own fields and leaves those before it. -/
theorem foldl_configure_form (p : Plugin) (settings : List Setting) :
    (settings.foldl configure p).form = p.form ++ settings.flatMap Setting.fields := by
  induction settings generalizing p with
  | nil => simp
  | cons setting settings ih =>
    rw [List.foldl_cons, ih, configure_form, List.append_assoc, List.flatMap_cons]

/-- A value for each member of a list is the list as a whole. -/
theorem foldl_value (p : Plugin) (key : String) (texts : List String) :
    (texts.map (Setting.value key)).foldl configure p = p.setEach key texts := by
  induction texts generalizing p with
  | nil => simp [setEach]
  | cons text texts ih =>
    rw [List.map_cons, List.foldl_cons, ih]
    simp [configure, set, setEach]

/-! ## The plugins of the program -/

/-- The form of a plugin that is configured with settings: its name and then their fields. -/
def settingsForm (name : String) (settings : List Setting) : Url.Form :=
  ("name", name) :: settings.flatMap Setting.fields

/-- The settings for other origins. -/
def corsSettings (s : CorsSettings) : List Setting :=
  [.list "origins" s.origins, .list "methods" s.methods, .list "headers" s.headers,
    .list "exposed_headers" s.exposedHeaders,
    .value "credentials" (if s.credentials then "true" else "false"),
    .value "max_age" (Decimal.ofNat s.maxAge.toNat)]

/-- The settings for tokens that the gateway issues. -/
def oauth2Settings (s : OAuth2Settings) : List Setting :=
  [.list "scopes" s.scope, .value "mandatory_scope" "true",
    .value "enable_client_credentials" "true", .value "global_credentials" "true",
    .value "token_expiration" (Decimal.ofNat s.tokenTtl.toNat)]

/-- What the plugin for authentication is attached with. Tokens that consumers sign need no settings. -/
def authForm : AuthMethod → Url.Form
  | .jwt => settingsForm "jwt" []
  | .oauth2 s => settingsForm "oauth2" (oauth2Settings s)

/-- What the plugin for groups is attached with: a field for each group that is let in. -/
def aclForm (s : AclSettings) : Url.Form :=
  settingsForm s.name ((listItems s.whitelist).map (Setting.value "whitelist"))

theorem configured_form (name : String) (scope : Scope) (settings : List Setting) :
    (configured name scope settings).form = settingsForm name settings :=
  foldl_configure_form _ settings

theorem cors_form (route : String) (s : CorsSettings) :
    (cors route s).form = settingsForm "cors" (corsSettings s) :=
  configured_form "cors" (.route route) (corsSettings s)

theorem auth_form (route : String) (method : AuthMethod) :
    (auth route method).form = authForm method := by
  cases method with
  | jwt => rfl
  | oauth2 s => exact configured_form "oauth2" (.route route) (oauth2Settings s)

theorem acl_eq_configured (s : AclSettings) : acl s = configured s.name .global
    ((listItems s.whitelist).map (Setting.value "whitelist")) := by
  rw [configured, foldl_value, ← commaItems_eq]
  rfl

theorem acl_form (s : AclSettings) : (acl s).form = aclForm s := by
  rw [acl_eq_configured, configured_form, aclForm]

/-! ## Read back -/

/-- For any settings with any texts, the form of a plugin is its name and then the fields of its
settings in their order, and the gateway reads back exactly that. The plugins of the program are
configured so: those for other origins, for authentication, for the token of the registry, and for
groups. Different rows of fields never have the same form. -/
theorem form_read_back :
    (∀ name scope settings,
      (configured name scope settings).form = ("name", name) :: settings.flatMap Setting.fields ∧
      Url.decodeForm (Utf8.encode (Url.encodeForm (configured name scope settings).form)) =
        (configured name scope settings).form) ∧
    (∀ route s, cors route s = configured "cors" (.route route)
      [.list "origins" s.origins, .list "methods" s.methods, .list "headers" s.headers,
        .list "exposed_headers" s.exposedHeaders,
        .value "credentials" (if s.credentials then "true" else "false"),
        .value "max_age" (Decimal.ofNat s.maxAge.toNat)]) ∧
    (∀ route, auth route .jwt = configured "jwt" (.route route) []) ∧
    (∀ route s, auth route (.oauth2 s) = configured "oauth2" (.route route)
      [.list "scopes" s.scope, .value "mandatory_scope" "true",
        .value "enable_client_credentials" "true", .value "global_credentials" "true",
        .value "token_expiration" (Decimal.ofNat s.tokenTtl.toNat)]) ∧
    (∀ service id, registryToken service id = configured "request-transformer" (.service service)
      [.value "add.headers" ("X-Consul-Token:" ++ id)]) ∧
    (∀ s, acl s = configured s.name .global
      ((listItems s.whitelist).map (Setting.value "whitelist"))) ∧
    ∀ fields others, Url.encodeForm fields = Url.encodeForm others → fields = others := by
  refine ⟨fun name scope settings => ⟨?_, Url.decodeForm_encodeForm _⟩, fun route s => rfl,
    fun route => rfl, fun route s => rfl, fun service id => ?_, fun s => ?_,
    fun fields others => Url.encodeForm_inj⟩
  · exact configured_form name scope settings
  · have hheader : registryHeader ++ ":" ++ id = "X-Consul-Token:" ++ id := by
      rw [show registryHeader ++ ":" = "X-Consul-Token:" by decide]
    rw [registryToken, hheader]
    rfl
  · exact acl_eq_configured s

/-- A value with every sign that means something in a form is one field, and a list has a field for
each of its items. -/
example :
    Url.decodeForm (Utf8.encode (Url.encodeForm (configured "cors" .global
      [.value "a" "x&name=%2B+\u00e9,", .list "b" " 1,, 2 "]).form)) =
      [("name", "cors"), ("config.a", "x&name=%2B+\u00e9,"), ("config.b", "1"), ("config.b", "2")] := by
  decide +kernel

end GatewayProvisioning.Plugin
