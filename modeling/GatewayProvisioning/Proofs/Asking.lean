import GatewayProvisioning.Admin.Consumers
import GatewayProvisioning.Admin.SecretStore
import GatewayProvisioning.Proofs.Walk

/-!
# Asking

Every operation is made of questions: a request, and a judgement of the response to it. Here each
operation is put into this form, so that what holds of a question is carried over to all of them.
-/

namespace GatewayProvisioning

open Dialogue Document

namespace Dialogue

variable {α β : Type}

/-- A request whose response decides what comes of it. -/
def ask (request : Request) (judge : Response → Except Failure α) : Dialogue α :=
  send request >>= fun r => ofResult (judge r)

theorem orderly_ask (request : Request) (judge : Response → Except Failure α) :
    Orderly (ask request judge) :=
  (orderly_send request).bind fun _ => orderly_ofResult _

/-- A judgement of what has been judged is one judgement. -/
theorem ask_bind_ofResult (request : Request) (judge : Response → Except Failure α)
    (f : α → Except Failure β) :
    (ask request judge >>= fun x => ofResult (f x)) = ask request fun r => judge r >>= f := by
  unfold ask
  rw [bind_assoc_eq]
  refine congrArg (send request >>= ·) (funext fun r => ?_)
  change (ofResult (judge r) >>= fun x => ofResult (f x)) = ofResult (judge r >>= f)
  rcases judge r with failure | x
  · exact ofResult_error_bind failure _
  · exact ofResult_ok_bind x _

/-- A question that has come to a value has a response. -/
theorem ask_value {request : Request} {judge : Response → Except Failure α} {x : α}
    {replies rest : List Reply} {sent : List Request}
    (h : ask request judge replies = ⟨sent, some (.ok x, rest)⟩) :
    ∃ r, replies = .ok r :: rest ∧ judge r = .ok x := by
  rcases replies with _ | ⟨reason | r, replies⟩
  · cases h
  · cases h
  · have hended := congrArg Progress.ended h
    obtain ⟨hjudge, hrest⟩ := Prod.mk.inj (Option.some.inj hended)
    have hrest : replies = rest := hrest
    exact ⟨r, by rw [hrest], hjudge⟩

theorem ite_ofResult (b : Bool) (result other : Except Failure α) :
    (if b then ofResult result else ofResult other) = ofResult (if b then result else other) := by
  cases b <;> rfl

end Dialogue

/-! ## Deletions and listings -/

namespace AdminClient

variable (c : AdminClient)

/-- What a deletion is, as a request and the judgement of its response. -/
theorem remove_eq (collection id : String) :
    c.remove collection id = ask (c.request .delete (objectPath collection id)) fun r =>
      if isDeleted r then .ok ()
      else .error (.notDeleted (c.url (objectPath collection id)) collection id r.status r.body) :=
  congrArg (send (c.request .delete (objectPath collection id)) >>= ·)
    (funext fun r => ite_ofResult (isDeleted r) (.ok ()) _)

/-- How a walk goes on after a page. -/
theorem walk_eq_ask {visited : List String} {url : String} (h : url ∉ visited) (ids : List String) :
    c.walk visited ids url =
      ask (c.requestTo .get url) (c.readPage url) >>= fun found =>
        match found.2 with
        | none => pure (ids ++ found.1)
        | some next => c.walk (visited ++ [url]) (ids ++ found.1) next := by
  rw [walk_of_new c h, ask, bind_assoc_eq]
  refine congrArg (send (c.requestTo .get url) >>= ·) (funext fun r => ?_)
  unfold walkOn
  rcases c.readPage url r with failure | ⟨found, _ | next⟩
  · rw [ofResult_error_bind]
    rfl
  · rw [ofResult_ok_bind]
  · rw [ofResult_ok_bind]

end AdminClient

/-! ## Consumers -/

namespace Consumers

variable (c : Consumers) (now : Int)

theorem orderly_create (name : String) : Orderly (c.create name) :=
  orderly_ask _ _

theorem orderly_join (name group : String) : Orderly (c.join name group) :=
  orderly_ask _ _

/-- A signing credential is decoded from a response that says it is new, and an application may be
there already. -/
theorem issueCredential_eq (name : String) :
    c.issueCredential name =
      match c.auth with
      | .jwt =>
        ask (c.admin.request .post (path name ++ "/jwt")) fun r =>
          if r.isCreated then
            (AdminClient.decodeFrom JwtCredential.codec (c.admin.url (path name ++ "/jwt"))
              r.body).map .jwt
          else .error (.refused (c.admin.url (path name ++ "/jwt")) r.status r.body)
      | .oauth2 settings =>
        ask { c.admin.request .post (path name ++ "/oauth2") with
            body := .form (applicationForm name settings) }
          (c.admin.created (path name ++ "/oauth2")) >>= fun _ =>
        pure (.oauth2 (.ofConsumer name)) := by
  unfold issueCredential
  cases c.auth with
  | jwt =>
    exact congrArg (send (c.admin.request .post (path name ++ "/jwt")) >>= ·)
      (funext fun r => ite_ofResult r.isCreated _ _)
  | oauth2 settings => exact (bind_assoc_eq _ _ _).symm

theorem orderly_issueCredential (name : String) : Orderly (c.issueCredential name) := by
  rw [issueCredential_eq]
  cases c.auth with
  | jwt => exact orderly_ask _ _
  | oauth2 settings => exact (orderly_ask _ _).bind fun _ => orderly_pure _

theorem requestToken_eq (client : ClientCredential) (settings : OAuth2Settings) :
    c.requestToken client settings =
      ask { method := .post, url := c.gateway.tokenEndpoint settings.resource,
            body := .form (tokenForm client settings) } fun r =>
        if r.isCreated then
          AdminClient.decodeFrom AccessToken.codec (c.gateway.tokenEndpoint settings.resource) r.body
        else .error (.refused (c.gateway.tokenEndpoint settings.resource) r.status r.body) :=
  congrArg (send _ >>= ·) (funext fun r => ite_ofResult r.isCreated _ _)

theorem orderly_exchange (material : Material) (options : TokenOptions) :
    Orderly (c.exchange now material options) := by
  unfold exchange
  split
  · exact (orderly_ofResult _).bind fun value => orderly_pure _
  · rw [requestToken_eq]
    exact orderly_ask _ _
  · exact orderly_ofResult _

theorem orderly_createToken (name : String) (options : TokenOptions) :
    Orderly (c.createToken now name options) :=
  (c.orderly_issueCredential name).bind fun material => c.orderly_exchange now material options

end Consumers

/-! ## Provisioning -/

namespace Provisioning

variable (p : Provisioning) (files : FileSource) (c : AdminClient)

theorem client_base {c : AdminClient} (h : p.client files = .ok c) : c.base = p.gateway.adminBase := by
  rcases hload : Token.load files p.bearerTokenFile with failure | token
  · rw [p.client_of_failure files hload] at h
    cases h
  · rw [p.client_of_token files hload] at h
    cases h
    rfl

theorem checkStatus_eq :
    p.checkStatus = ask { method := .get, url := p.gateway.adminBase } fun r =>
      if r.isOk then .ok () else .error (.refused p.gateway.adminBase r.status r.body) :=
  congrArg (send _ >>= ·) (funext fun r => ite_ofResult r.isOk (.ok ()) _)

/-- What the response to the new header plugin means: a conflict is no success, since the old one is
gone. -/
def replaced (c : AdminClient) (collection : String) (r : Response) : Except Failure Unit :=
  if r.status == 409 then .error (.alreadyExists (c.url collection))
  else if r.isSuccess then .ok ()
  else .error (.refused (c.url collection) r.status r.body)

/-- The header plugin is looked for, removed and posted anew, and the token is read in between. -/
theorem injectRegistryToken_questions (service : String) :
    p.injectRegistryToken files c service =
      Dialogue.ofResult (match p.accessTokenFile with
        | some path => .ok path
        | none => .error (.badConfig .noAccessTokenFile)) >>= fun path =>
      ask (c.request .get (servicePlugins service))
        (c.decodeOk (Page.codec PluginEntry.codec) (servicePlugins service)) >>= fun page =>
      removeHeaderPlugin c (servicePlugins service) page.data >>= fun _ =>
      Dialogue.ofResult (Token.secretId files path) >>= fun id =>
      ask { c.request .post (servicePlugins service) with
          body := .form (Plugin.registryToken service id).form }
        (replaced c (servicePlugins service)) := by
  have hjudge : ∀ r : Response,
      (if r.status == 409 then Dialogue.fail (.alreadyExists (c.url (servicePlugins service)))
        else if r.isSuccess then pure ()
        else .fail (.refused (c.url (servicePlugins service)) r.status r.body) : Dialogue Unit) =
      Dialogue.ofResult (replaced c (servicePlugins service) r) := by
    intro r
    unfold replaced
    rw [← ite_ofResult (r.status == 409), ← ite_ofResult r.isSuccess]
    rfl
  unfold injectRegistryToken ask
  simp only [bind_assoc_eq, hjudge]
  rfl

/-- A certificate is looked at before the token is, and the token before anything is sent. -/
theorem postCert_eq (pair : CertPair) (extraNames : String) :
    p.postCert files pair extraNames =
      Dialogue.ofResult pair.validate >>= fun _ =>
      Dialogue.ofResult (p.client files) >>= fun c =>
      ask { c.request .post certificates with
        body := .json (pair.upload (serverNames extraNames)) } fun r => .ok (uploadOutcome r) := rfl

theorem orderly_postCert (pair : CertPair) (extraNames : String) :
    Orderly (p.postCert files pair extraNames) :=
  (orderly_ofResult _).bind fun _ => (orderly_ofResult _).bind fun _ => orderly_ask _ _

end Provisioning

/-! ## The secret store -/

namespace SecretStoreSettings

variable (s : SecretStoreSettings) (files : FileSource)

theorem checkStatus_eq :
    s.checkStatus = ask { method := .get, url := s.base } fun r =>
      if r.isOk then .ok () else .error (.refused s.base r.status r.body) :=
  congrArg (send _ >>= ·) (funext fun r => ite_ofResult r.isOk (.ok ()) _)

theorem load_eq :
    s.load files =
      Dialogue.ofResult (Token.load files s.tokenFile) >>= fun token =>
      ask { method := .get, url := s.certUrl, headers := [(tokenHeader, token)] } fun r =>
        if r.isOk then AdminClient.decodeFrom CertPair.secretCodec s.certUrl r.body
        else .error (.refused s.certUrl r.status
          ("failed to read certificate at " ++ s.certPath ++ ": " ++ r.body)) :=
  congrArg (Dialogue.ofResult (Token.load files s.tokenFile) >>= ·) (funext fun _ =>
    congrArg (send _ >>= ·) (funext fun r => ite_ofResult r.isOk _ _))

end SecretStoreSettings

end GatewayProvisioning
