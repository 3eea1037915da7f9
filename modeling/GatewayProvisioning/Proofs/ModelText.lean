import GatewayProvisioning.Gateway.Certificate
import GatewayProvisioning.Gateway.Consumer
import GatewayProvisioning.Gateway.Listing
import GatewayProvisioning.Gateway.Route
import GatewayProvisioning.Gateway.Settings
import GatewayProvisioning.Proofs.Lossless

/-!
# Models as texts

Every model is read from its own text: routes and the objects of the gateway, pages of listings,
credentials and consumers, settings, and the tagged record of a method, whose settings share one
record with its kind.
-/

namespace GatewayProvisioning

open Document
open Codec (lossless_text lossless_flag lossless_uint16 lossless_uint64 lossless_optionalText
  lossless_record)

/-! ## Routes and objects of the gateway -/

theorem Route.lossless : Route.codec.Lossless :=
  lossless_record (by decide) (fun _ => rfl)
    ⟨.defaulted lossless_text, .defaulted lossless_text, .required lossless_text,
      .required lossless_uint16, trivial⟩

theorem Routes.lossless : Routes.codec.Lossless :=
  Route.lossless.map

theorem Gateway.Service.lossless : Gateway.Service.codec.Lossless :=
  lossless_record (by decide) (fun _ => rfl)
    ⟨.required lossless_text, .required lossless_text, .required lossless_uint16,
      .required lossless_text, trivial⟩

theorem Gateway.Entry.lossless : Gateway.Entry.codec.Lossless :=
  lossless_record (by decide) (fun _ => rfl)
    ⟨.required lossless_text, .required lossless_text.list, trivial⟩

/-! ## Listings -/

theorem Page.lossless {α : Type} {entry : Codec α} (h : entry.Lossless) :
    (Page.codec entry).Lossless :=
  lossless_record (show ["data", "next"].Nodup by decide) (fun _ => rfl)
    ⟨.defaulted h.list, .defaulted lossless_optionalText, trivial⟩

theorem IdEntry.lossless : IdEntry.codec.Lossless :=
  lossless_record (by decide) (fun _ => rfl)
    ⟨.required lossless_text, trivial⟩

theorem PluginEntry.lossless : PluginEntry.codec.Lossless :=
  lossless_record (by decide) (fun _ => rfl)
    ⟨.required lossless_text, .defaulted lossless_text, trivial⟩

/-! ## Consumers and certificates -/

theorem CredentialKind.lossless : CredentialKind.codec.Lossless := by
  intro kind
  refine ⟨_, Json.readsAs_text kind.name, ?_⟩
  change (do CredentialKind.ofName (← Node.readText _ _)) = _
  rw [readText_written]
  cases kind
  · rfl
  · rfl

theorem Consumer.lossless : Consumer.codec.Lossless :=
  lossless_record (by decide) (fun _ => rfl)
    ⟨.required lossless_text, .defaulted lossless_text.list, .required CredentialKind.lossless,
      trivial⟩

theorem JwtCredential.lossless : JwtCredential.codec.Lossless :=
  lossless_record (by decide) (fun _ => rfl)
    ⟨.required lossless_text, .required lossless_text, trivial⟩

theorem ClientCredential.lossless : ClientCredential.codec.Lossless :=
  lossless_record (by decide) (fun _ => rfl)
    ⟨.required lossless_text, .required lossless_text, trivial⟩

theorem AccessToken.lossless : AccessToken.codec.Lossless :=
  lossless_record (by decide) (fun _ => rfl)
    ⟨.required lossless_text, .defaulted lossless_text, .defaulted lossless_uint64, trivial⟩

theorem CertPair.lossless : CertPair.codec.Lossless :=
  lossless_record (by decide) (fun _ => rfl)
    ⟨.required lossless_text, .required lossless_text, trivial⟩

theorem CertPair.secret_lossless : CertPair.secretCodec.Lossless :=
  lossless_record (by decide) (fun _ => rfl)
    ⟨.required CertPair.lossless, trivial⟩

/-! ## Settings -/

theorem GatewaySettings.lossless : GatewaySettings.codec.Lossless :=
  lossless_record (by decide) (fun _ => rfl)
    ⟨.defaulted lossless_text, .defaulted lossless_text, .defaulted lossless_uint16,
      .defaulted lossless_text, .defaulted lossless_uint16, .defaulted lossless_uint16,
      .defaulted lossless_flag, .defaulted lossless_text, trivial⟩

theorem CorsSettings.lossless : CorsSettings.codec.Lossless :=
  lossless_record (by decide) (fun _ => rfl)
    ⟨.defaulted lossless_flag, .defaulted lossless_text, .defaulted lossless_text,
      .defaulted lossless_text, .defaulted lossless_text, .defaulted lossless_flag,
      .defaulted lossless_uint64, trivial⟩

theorem AclSettings.lossless : AclSettings.codec.Lossless :=
  lossless_record (by decide) (fun _ => rfl)
    ⟨.defaulted lossless_flag, .defaulted lossless_text, .defaulted lossless_text,
      .defaulted lossless_text, trivial⟩

theorem SecretStoreSettings.lossless : SecretStoreSettings.codec.Lossless :=
  lossless_record (by decide) (fun _ => rfl)
    ⟨.defaulted lossless_text, .defaulted lossless_text, .defaulted lossless_uint16,
      .defaulted lossless_text, .defaulted lossless_text, .defaulted lossless_text,
      .defaulted lossless_text, .defaulted lossless_flag, trivial⟩

/-! ## Methods -/

namespace OAuth2Settings

theorem fields_lossless : fields.Lossless where
  each := ⟨.defaulted lossless_text, .defaulted lossless_text, .defaulted lossless_text,
    .defaulted lossless_uint64, trivial⟩
  distinct := by decide

theorem lossless : codec.Lossless :=
  lossless_record fields_lossless.distinct (fun _ => rfl) fields_lossless.each

end OAuth2Settings

namespace AuthMethod

/-- A member that is kept for the settings as it stands. -/
structure Kept (depth : Nat) (pair : Node × Node) : Prop where
  key : ∃ name, pair.1.readText "a string" = .ok name ∧ name ≠ "method"
  checked : pair.2.check depth = .ok ()
  settled : pair.2.settled = pair.2

theorem kept_text (depth : Nat) {name s : String} (h : name ≠ "method") {pair : Node × Node}
    (hpair : Json.ReadsAsField (name, .text s) pair) : Kept depth pair := by
  obtain ⟨key, node⟩ := pair
  obtain ⟨rfl, hvalue⟩ := hpair
  obtain rfl := hvalue.unique (Json.readsAs_text s)
  refine ⟨⟨name, readText_written _ name, h⟩, ?_, rfl⟩
  simp only [Node.check, Json.read_writtenQuotation]
  rfl

theorem kept_uint64 (depth : Nat) {name : String} (h : name ≠ "method") (n : UInt64)
    {pair : Node × Node} (hpair : Json.ReadsAsField (name, .nat n.toNat) pair) : Kept depth pair := by
  obtain ⟨key, node⟩ := pair
  obtain ⟨rfl, hvalue⟩ := hpair
  obtain rfl := hvalue.unique (Json.readsAs_natural n.toNat)
  refine ⟨⟨name, readText_written _ name, h⟩, ?_, rfl⟩
  simp only [Node.check, Codec.readNumber_natural (show n.toNat < UInt64.size from n.toNat_lt)]
  rfl

/-- The members of written settings are kept as they stand. -/
theorem kept_settings (depth : Nat) (settings : OAuth2Settings) {pairs : List (Node × Node)}
    (h : List.Forall₂ Json.ReadsAsField
      (OAuth2Settings.fields.write (OAuth2Settings.toFields settings)) pairs) :
    ∀ pair ∈ pairs, Kept depth pair := by
  intro pair hpair
  obtain ⟨member, hmember, hreads⟩ := Json.exists_field_of_mem h hpair
  have hmembers : member ∈ [("resource", Json.text settings.resource),
      ("scope", .text settings.scope), ("redirect_uris", .text settings.redirectUris),
      ("token_ttl", .nat settings.tokenTtl.toNat)] := hmember
  simp only [List.mem_cons, List.not_mem_nil, or_false] at hmembers
  rcases hmembers with rfl | rfl | rfl | rfl
  · exact kept_text depth (by decide) hreads
  · exact kept_text depth (by decide) hreads
  · exact kept_text depth (by decide) hreads
  · exact kept_uint64 depth (by decide) settings.tokenTtl hreads

theorem readMembers_kept (depth : Nat) (kind : Option CredentialKind) {pairs : List (Node × Node)}
    (h : ∀ pair ∈ pairs, Kept depth pair) :
    readMembers depth .closed none kind pairs = .ok (kind, pairs) := by
  induction pairs with
  | nil => rfl
  | cons pair pairs ih =>
    obtain ⟨k, v⟩ := pair
    obtain ⟨⟨name, hkey, hname⟩, hchecked, hsettled⟩ := h (k, v) List.mem_cons_self
    have hrest := ih fun pair hpair => h pair (List.mem_cons_of_mem _ hpair)
    simp only at hkey hchecked hsettled
    rw [readMembers, hkey]
    simp only [bind, Except.bind, if_neg hname, hchecked, hrest, hsettled]
    rfl

/-- The kind of a method stands before its settings. -/
theorem readMembers_method (depth : Nat) (kind : CredentialKind) {pairs : List (Node × Node)}
    (h : ∀ pair ∈ pairs, Kept depth pair) :
    readMembers depth .closed none none ((.text (Json.writtenQuotation "method"),
      .text (Json.writtenQuotation kind.name)) :: pairs) = .ok (some kind, pairs) := by
  have hkind : CredentialKind.readName (.text (Json.writtenQuotation kind.name)) = .ok kind := by
    rw [CredentialKind.readName, readText_written]
    cases kind
    · rfl
    · rfl
  rw [readMembers, readText_written]
  simp only [bind, Except.bind, if_true, hkind, readMembers_kept depth (some kind) h]
  rfl

/-- A written method is read as its kind and the members of its settings. -/
theorem exists_node (depth : Nat) (kind : CredentialKind) {members : List (String × Json)}
    {pairs : List (Node × Node)} (h : List.Forall₂ Json.ReadsAsField members pairs)
    (hkept : ∀ pair ∈ pairs, Kept (depth - 1) pair) :
    ∃ node, Json.ReadsAs (.record (("method", .text kind.name) :: members)) node ∧
      (codec depth).read node = ofMembers pairs kind := by
  have hkind : Json.ReadsAsField ("method", .text kind.name)
      (.text (Json.writtenQuotation "method"), .text (Json.writtenQuotation kind.name)) :=
    ⟨rfl, Json.readsAs_text kind.name⟩
  refine ⟨_, Json.readsAs_record (.cons hkind h), ?_⟩
  simp only [codec, readMembers_method (depth - 1) kind hkept, bind, Except.bind]

theorem lossless (depth : Nat) : (codec depth).Lossless := by
  intro method
  cases method with
  | jwt =>
    obtain ⟨node, hwritten, hread⟩ := exists_node depth .jwt .nil fun _ hpair => by cases hpair
    exact ⟨node, hwritten, hread⟩
  | oauth2 settings =>
    obtain ⟨pairs, hpairs, hsettings⟩ :=
      OAuth2Settings.fields_lossless.readRecord (OAuth2Settings.toFields settings)
    obtain ⟨node, hwritten, hread⟩ :=
      exists_node depth .oauth2 hpairs (kept_settings (depth - 1) settings hpairs)
    refine ⟨node, hwritten, ?_⟩
    rw [hread, ofMembers, hsettings]
    rfl

end AuthMethod

/-! ## All models -/

namespace Document.Codec

/-- A codec whose texts give back what was written. -/
structure RoundTrips {α : Type} (codec : Codec α) : Prop where
  /-- Decoding undoes encoding. -/
  undone : ∀ v, codec.decode (Json.document (Json.compact (codec.write v))) = .ok v
  /-- What a text is decoded to is also what its encoding is decoded to. -/
  again : ∀ text v, codec.decode (Json.document text) = .ok v →
    codec.decode (Json.document (Json.compact (codec.write v))) = codec.decode (Json.document text)

theorem Lossless.roundTrips {α : Type} {codec : Codec α} (h : codec.Lossless) :
    codec.RoundTrips where
  undone v := (h v).decode_text
  again text v htext := by rw [htext, (h v).decode_text]

end Document.Codec

/-- Every model is decoded from its own text to what it was. -/
theorem models_roundTrip :
    Route.codec.RoundTrips ∧ Routes.codec.RoundTrips ∧
    Gateway.Service.codec.RoundTrips ∧ Gateway.Entry.codec.RoundTrips ∧
    (Page.codec IdEntry.codec).RoundTrips ∧ (Page.codec PluginEntry.codec).RoundTrips ∧
    JwtCredential.codec.RoundTrips ∧ ClientCredential.codec.RoundTrips ∧
    AccessToken.codec.RoundTrips ∧ Consumer.codec.RoundTrips ∧ CertPair.codec.RoundTrips ∧
    GatewaySettings.codec.RoundTrips ∧ (AuthMethod.codec AuthMethod.nesting).RoundTrips ∧
    OAuth2Settings.codec.RoundTrips ∧ CorsSettings.codec.RoundTrips ∧
    AclSettings.codec.RoundTrips ∧ SecretStoreSettings.codec.RoundTrips :=
  ⟨Route.lossless.roundTrips, Routes.lossless.roundTrips, Gateway.Service.lossless.roundTrips,
    Gateway.Entry.lossless.roundTrips, (Page.lossless IdEntry.lossless).roundTrips,
    (Page.lossless PluginEntry.lossless).roundTrips, JwtCredential.lossless.roundTrips,
    ClientCredential.lossless.roundTrips, AccessToken.lossless.roundTrips,
    Consumer.lossless.roundTrips, CertPair.lossless.roundTrips, GatewaySettings.lossless.roundTrips,
    (AuthMethod.lossless AuthMethod.nesting).roundTrips, OAuth2Settings.lossless.roundTrips,
    CorsSettings.lossless.roundTrips, AclSettings.lossless.roundTrips,
    SecretStoreSettings.lossless.roundTrips⟩

end GatewayProvisioning
