import Mathlib.Data.List.Infix
import GatewayProvisioning.Proofs.ModelText
import GatewayProvisioning.Proofs.Sessions
import GatewayProvisioning.Proofs.TokenFlow

/-!
# The gate before an initialization

The command that creates everything looks first whether the gateway is up and, if it has to bring the
certificate there, goes through the secret store and an upload. Only when all of this has been granted
does the initialization itself begin. The certificate goes through unchanged, and neither of the two
tokens goes where the other one belongs.

Nothing is asked of the gateway and the secret store: their replies are any row of replies.
-/

namespace GatewayProvisioning

open Dialogue PlanStep Document

/-! ## The plan of the gate -/

/-- The pair in a response of the secret store, if it is one of which no part is empty. -/
def certificate? (r : Response) : Option CertPair :=
  if r.status == 200 then
    (CertPair.secretCodec.decode (Json.document r.body)).toOption.filter fun pair =>
      pair.cert != "" && pair.key != ""
  else none

/-- Whether a response to an upload says that the certificate is there. -/
def holdsCertificate (r : Response) : Bool :=
  r.status == 200 || r.status == 201 || decide ("existing certificate".toList <:+: r.body.toList)

namespace Configuration

variable (c : Configuration) (files : FileSource)

/-- The question whether the gateway is up. -/
def statusRequest : Request where
  method := .get
  url := c.gateway.adminBase

/-- The question whether the secret store is up. -/
def storeStatusRequest : Request where
  method := .get
  url := c.secretStore.base

/-- The request for the certificate, with the token of the secret store. -/
def certificateRequest (vault : String) : Request where
  method := .get
  url := c.secretStore.certUrl
  headers := [("X-Vault-Token", vault)]

/-- The upload of a pair for the server names of the configuration. -/
def uploadRequest (token : String) (pair : CertPair) : Request :=
  c.provisioning.planned token .post "certificates" (.json (.record [("cert", .text pair.cert),
    ("key", .text pair.key), ("snis", .texts (serverNames c.secretStore.snis))]))

/-- Whether a client can be made of what it is told. -/
def opens (options : Except ConfigurationFault ClientOptions) : Bool :=
  match options with
  | .ok o => o.validate.isOk
  | .error _ => false

/-- The pair in a reply, if it is a response with one. -/
def loadedPair? : Option Reply → Option CertPair
  | some (.ok r) => certificate? r
  | _ => none

/-- The steps that bring the certificate to the gateway. The pair is in the second reply. -/
def uploadPlan (replies : List Reply) : List PlanStep :=
  .ask c.storeStatusRequest Response.isOk ::
  match Token.load files c.secretStore.tokenFile with
  | .error _ => [.need false]
  | .ok vault =>
    .ask (c.certificateRequest vault) (fun r => (certificate? r).isSome) ::
    match Token.load files c.bearerTokenFile, loadedPair? replies[1]? with
    | .ok token, some pair => [.ask (c.uploadRequest token pair) holdsCertificate]
    | _, _ => [.need false]

/-- The steps before an initialization. -/
def gatePlan (replies : List Reply) : List PlanStep :=
  [.need (opens (c.adminOptions files)), .ask c.statusRequest Response.isOk] ++
  if c.secretStore.uploadOnInit then
    .need (opens (c.secretStoreOptions files)) :: c.uploadPlan files (replies.drop 1)
  else []

/-! ## The upload follows its plan -/

/-- The pair of a response, neither part of which is empty. -/
def judgePair (s : SecretStoreSettings) (r : Response) : Except Failure CertPair :=
  (if r.isOk then AdminClient.decodeFrom CertPair.secretCodec s.certUrl r.body
    else .error (.refused s.certUrl r.status
      ("failed to read certificate at " ++ s.certPath ++ ": " ++ r.body))) >>= fun pair =>
  pair.validate >>= fun _ => .ok pair

theorem loadValidated_eq (s : SecretStoreSettings) :
    s.loadValidated files =
      Dialogue.ofResult (Token.load files s.tokenFile) >>= fun vault =>
      ask { method := .get, url := s.certUrl, headers := [(SecretStoreSettings.tokenHeader, vault)] }
        (judgePair s) := by
  have hrest : (fun pair : CertPair => Dialogue.ofResult pair.validate >>= fun _ => pure pair) =
      fun pair => Dialogue.ofResult (pair.validate >>= fun _ => .ok pair) := by
    funext pair
    rcases pair.validate with failure | _
    · exact ofResult_error_bind failure _
    · exact ofResult_ok_bind _ _
  change (s.load files >>= fun pair => Dialogue.ofResult pair.validate >>= fun _ => pure pair) = _
  rw [hrest, SecretStoreSettings.load_eq, bind_assoc_eq]
  refine congrArg (Dialogue.ofResult (Token.load files s.tokenFile) >>= ·) (funext fun vault => ?_)
  rw [ask_bind_ofResult]
  rfl

theorem validate_eq (pair : CertPair) :
    pair.validate = if (pair.cert != "" && pair.key != "") = true then .ok ()
      else .error .emptyPair := by
  unfold CertPair.validate
  by_cases hcert : pair.cert = ""
  · simp [hcert]
  · by_cases hkey : pair.key = ""
    · simp [hkey]
    · simp [hcert, hkey]

theorem judgePair_eq_ok_iff (s : SecretStoreSettings) (r : Response) (pair : CertPair) :
    judgePair s r = .ok pair ↔ certificate? r = some pair := by
  unfold judgePair certificate? Response.isOk AdminClient.decodeFrom
  by_cases hok : (r.status == 200) = true
  · rw [if_pos hok, if_pos hok]
    rcases CertPair.secretCodec.decode (Json.document r.body) with e | found
    · constructor
      · intro h
        cases h
      · intro h
        cases h
    · change (found.validate >>= fun _ => .ok found) = .ok pair ↔ _
      rw [validate_eq, Except.toOption, Option.filter]
      split
      · exact ⟨fun h => congrArg some (Except.ok.inj h), fun h => congrArg Except.ok (Option.some.inj h)⟩
      · constructor
        · intro h
          cases h
        · intro h
          cases h
  · rw [if_neg hok, if_neg hok]
    constructor
    · intro h
      cases h
    · intro h
      cases h

theorem validate_of_certificate {r : Response} {pair : CertPair} (h : certificate? r = some pair) :
    pair.validate = .ok () := by
  unfold certificate? at h
  split at h
  · rw [validate_eq, if_pos (Option.filter_eq_some_iff.mp h).2]
  · cases h

theorem holdsCertificate_iff (endpoint : String) (r : Response) :
    holdsCertificate r = true ↔
      ∃ x, acceptUpload endpoint (Provisioning.uploadOutcome r) = .ok x := by
  have hmark := Text.splitAtMark?_isSome "existing certificate".toList r.body.toList
  unfold holdsCertificate Provisioning.uploadOutcome Response.isCreated
  by_cases hcreated : (r.status == 200 || r.status == 201) = true
  · rw [if_pos hcreated, hcreated]
    exact ⟨fun _ => ⟨(), rfl⟩, fun _ => rfl⟩
  · rw [if_neg hcreated, Bool.eq_false_iff.mpr hcreated, Bool.false_or, decide_eq_true_iff, ← hmark]
    split
    · rename_i hpresent
      exact ⟨fun _ => ⟨(), rfl⟩, fun _ => hpresent⟩
    · rename_i habsent
      constructor
      · intro h
        exact absurd h habsent
      · rintro ⟨x, h⟩
        cases h

/-- The conversation that brings the certificate to the gateway. -/
def upload : Dialogue Unit :=
  c.secretStore.checkStatus >>= fun _ =>
  c.secretStore.loadValidated files >>= fun pair =>
  c.provisioning.postCert files pair c.secretStore.snis >>= fun outcome =>
  Dialogue.ofResult (acceptUpload (c.gateway.adminBase ++ "/" ++ Provisioning.certificates) outcome)

theorem orderly_upload : Orderly (c.upload files) := by
  unfold upload
  rw [SecretStoreSettings.checkStatus_eq, loadValidated_eq]
  refine (orderly_ask _ _).bind fun _ => ?_
  refine ((orderly_ofResult _).bind fun vault => orderly_ask _ _).bind fun pair => ?_
  exact (c.provisioning.orderly_postCert files pair _).bind fun outcome => orderly_ofResult _

/-- A pair with both parts is posted if there is a token for it. -/
theorem follows_posting {pair : CertPair} (h : pair.validate = .ok ()) (replies : List Reply) :
    Dialogue.Follows
      (c.provisioning.postCert files pair c.secretStore.snis >>= fun outcome =>
        Dialogue.ofResult
          (acceptUpload (c.gateway.adminBase ++ "/" ++ Provisioning.certificates) outcome))
      (match Token.load files c.bearerTokenFile, some pair with
        | .ok token, some pair => [.ask (c.uploadRequest token pair) holdsCertificate]
        | _, _ => [.need false]) replies := by
  rw [Provisioning.postCert_eq, h, ofResult_ok_bind]
  rcases hload : Token.load files c.bearerTokenFile with failure | token
  · rw [c.provisioning.client_of_failure files hload, ofResult_error_bind, ofResult_error_bind]
    exact follows_ofResult (by simp) replies
  · rw [c.provisioning.client_of_token files hload, ofResult_ok_bind, ask_bind_ofResult]
    exact follows_ask (holdsCertificate_iff _) replies

theorem follows_upload (replies : List Reply) :
    Dialogue.Follows (c.upload files) (c.uploadPlan files replies) replies := by
  unfold upload uploadPlan
  have hstatus : ∀ r : Response, r.isOk = true ↔ ∃ x,
      (if r.isOk then .ok () else .error (.refused c.secretStore.base r.status r.body) :
        Except Failure Unit) = .ok x := by
    intro r
    by_cases hok : r.isOk = true <;> simp [hok]
  rw [SecretStoreSettings.checkStatus_eq, loadValidated_eq]
  refine (follows_ask hstatus replies).bind fun _ rest _ hrest => ?_
  rcases Token.load files c.secretStore.tokenFile with failure | vault
  · rw [ofResult_error_bind, ofResult_error_bind]
    exact follows_ofResult (by simp) rest
  · rw [ofResult_ok_bind]
    have hpair : ∀ r : Response, (certificate? r).isSome = true ↔
        ∃ pair, judgePair c.secretStore r = .ok pair := by
      intro r
      rw [Option.isSome_iff_exists]
      exact exists_congr fun pair => (judgePair_eq_ok_iff _ r pair).symm
    refine (follows_ask hpair rest).bind fun pair last hvalue _ => ?_
    obtain ⟨r, hr, hjudge⟩ := ask_value hvalue
    have hfound : certificate? r = some pair := (judgePair_eq_ok_iff _ r pair).mp hjudge
    -- the plan looks for the pair in the reply after the one to the first question
    have hloaded : loadedPair? replies[1]? = some pair := by
      have hreply : replies[1]? = some (.ok r) := by
        rw [← List.head?_drop, ← show rest = replies.drop 1 from hrest, hr, List.head?_cons]
      rw [hreply]
      exact hfound
    rw [hloaded]
    exact c.follows_posting files (validate_of_certificate hfound) last

/-! ## The command goes through the gate -/

/-- Everything before the initialization itself. -/
def gate : Session Unit :=
  c.openAdmin files >>= fun _ =>
  Session.talk c.provisioning.checkStatus >>= fun _ =>
  if c.secretStore.uploadOnInit then
    c.openSecretStore files >>= fun _ => Session.talk (c.upload files)
  else pure ()

theorem uploadCertificate_eq :
    c.uploadCertificate files =
      c.openSecretStore files >>= fun _ => Session.talk (c.upload files) := by
  unfold uploadCertificate upload
  simp only [Session.talk_bind, Session.talk_ofResult]

theorem init_eq_gate :
    c.init files =
      c.gate files >>= fun _ => Session.talk (c.provisioning.init files) := by
  unfold init gate
  rw [uploadCertificate_eq]
  cases c.secretStore.uploadOnInit <;> simp

/-- A client is made before anything is said. -/
theorem follows_opening {s : Session Unit} (options : Except ConfigurationFault ClientOptions)
    (hs : s = Session.configured options >>= fun o => Session.check o.validate)
    (replies : List Reply) : Session.Follows s [.need (opens options)] replies := by
  rcases options with fault | o
  · have hrun : s.run = pure (.error (.configuration fault)) := by
      rw [hs, Session.run_bind, Session.run_configured]
      exact pure_bind_eq _ _
    exact Session.follows_of_run hrun (by simp [opens]) replies
  · have hrun : s.run = pure (o.validate.mapError .failure) := by
      rw [hs, Session.run_bind, Session.run_configured]
      exact pure_bind_eq _ _
    apply Session.follows_of_run hrun
    unfold opens
    rcases hvalid : o.validate with failure | x
    · change _ ↔ ∃ y, (.error (.failure failure) : Except CommandFault Unit) = .ok y
      simp [hvalid, Except.isOk, Except.toBool]
    · change _ ↔ ∃ y, (.ok x : Except CommandFault Unit) = .ok y
      simp [hvalid, Except.isOk, Except.toBool]

theorem follows_gate (replies : List Reply) :
    Session.Follows (c.gate files) (c.gatePlan files replies) replies := by
  have hstatus : ∀ r : Response, r.isOk = true ↔ ∃ x,
      (if r.isOk then .ok () else .error (.refused c.gateway.adminBase r.status r.body) :
        Except Failure Unit) = .ok x := by
    intro r
    by_cases hok : r.isOk = true <;> simp [hok]
  unfold gate gatePlan
  change Session.Follows _ ([.need _] ++ (.ask _ _ :: _)) replies
  refine (follows_opening (c.adminOptions files) rfl replies).bind fun _ rest _ hrest => ?_
  have hrest : rest = replies := hrest
  rw [Provisioning.checkStatus_eq]
  refine (Session.follows_talk (orderly_ask _ _) (follows_ask hstatus rest)).bind
    fun _ last _ hlast => ?_
  have hlast : last = replies.drop 1 := by rw [← hrest]; exact hlast
  rw [← hlast]
  split
  · change Session.Follows _ ([.need _] ++ c.uploadPlan files last) last
    refine (follows_opening (c.secretStoreOptions files) rfl last).bind fun _ left _ hleft => ?_
    have hleft : left = last := hleft
    rw [hleft]
    exact Session.follows_talk (c.orderly_upload files) (c.follows_upload files last)
  · exact Session.follows_pure () last

/-! ## What the files have to do with it -/

/-- A step asks for the same as another one as far as a view goes, and accepts the same. -/
def StepAlike {γ : Type} (view : Request → γ) : PlanStep → PlanStep → Prop
  | .ask r accepts, .ask r' accepts' => view r = view r' ∧ accepts = accepts'
  | .need met, .need met' => met = met'
  | _, _ => False

theorem reached_alike {γ : Type} {view : Request → γ} {xs ys : List PlanStep}
    (h : List.Forall₂ (StepAlike view) xs ys) (replies : List Reply) :
    (reached xs replies).map view = (reached ys replies).map view ∧
      passed xs replies = passed ys replies := by
  induction h generalizing replies with
  | nil => exact ⟨rfl, rfl⟩
  | @cons x y xs ys hstep _ ih =>
    rcases x with ⟨r, accepts⟩ | met
    · rcases y with ⟨r', accepts'⟩ | met'
      · obtain ⟨hview, rfl⟩ := hstep
        rcases replies with _ | ⟨reason | response, replies⟩
        · exact ⟨congrArg (fun shown => [shown]) hview, rfl⟩
        · exact ⟨congrArg (fun shown => [shown]) hview, rfl⟩
        · obtain ⟨hreached, hpassed⟩ := ih replies
          unfold reached passed
          rw [List.map_cons, List.map_cons, hview]
          split
          · exact ⟨congrArg (view r' :: ·) hreached, hpassed⟩
          · exact ⟨rfl, rfl⟩
      · exact hstep.elim
    · rcases y with ⟨r', accepts'⟩ | met'
      · exact hstep.elim
      · obtain rfl : met = met' := hstep
        obtain ⟨hreached, hpassed⟩ := ih replies
        unfold reached passed
        split
        · exact ⟨hreached, hpassed⟩
        · exact ⟨rfl, rfl⟩

/-- A request without the values of the headers in which tokens are sent. -/
def tokenless (r : Request) : Request :=
  (r.masked authorization).masked SecretStoreSettings.tokenHeader

/-- Two sources of files that differ in the tokens of the admin interface and of the secret store. -/
structure DifferInTokens (c : Configuration) (files files' : FileSource)
    (vault vault' token token' : String) : Prop where
  admin : c.adminOptions files = c.adminOptions files'
  store : c.secretStoreOptions files = c.secretStoreOptions files'
  first : Token.load files c.secretStore.tokenFile = .ok vault
  second : Token.load files' c.secretStore.tokenFile = .ok vault'
  tokens : c.provisioning.DifferInToken files files' token token'

theorem tokenless_certificateRequest (vault vault' : String) :
    tokenless (c.certificateRequest vault) = tokenless (c.certificateRequest vault') := by
  have hvault : Text.equalIgnoringAsciiCase "X-Vault-Token" "X-Vault-Token" = true := by
    unfold Text.equalIgnoringAsciiCase
    exact beq_self_eq_true _
  have hauth : Text.equalIgnoringAsciiCase "X-Vault-Token" "Authorization" = false := by
    decide +kernel
  unfold tokenless certificateRequest Request.masked authorization SecretStoreSettings.tokenHeader
  simp [hvault, hauth]

theorem tokenless_uploadRequest (token token' : String) (pair : CertPair) :
    tokenless (c.uploadRequest token pair) = tokenless (c.uploadRequest token' pair) :=
  congrArg (Request.masked SecretStoreSettings.tokenHeader)
    (AdminClient.masked_requestTo c.gateway.adminBase token token' .post _ _)

variable {c files}

theorem gatePlan_alike {files' : FileSource} {vault vault' token token' : String}
    (h : c.DifferInTokens files files' vault vault' token token') (replies : List Reply) :
    List.Forall₂ (StepAlike tokenless) (c.gatePlan files replies) (c.gatePlan files' replies) := by
  unfold gatePlan uploadPlan
  have hfirst : Token.load files c.bearerTokenFile = .ok token := h.tokens.first
  have hsecond : Token.load files' c.bearerTokenFile = .ok token' := h.tokens.second
  rw [h.admin, h.store, h.first, h.second, hfirst, hsecond]
  refine .cons rfl (.cons ⟨rfl, rfl⟩ ?_)
  split
  · refine .cons rfl (.cons ⟨rfl, rfl⟩ (.cons ⟨?_, rfl⟩ ?_))
    · exact c.tokenless_certificateRequest vault vault'
    · rcases loadedPair? (replies.drop 1)[1]? with _ | pair
      · exact .cons rfl .nil
      · exact .cons ⟨c.tokenless_uploadRequest token token' pair, rfl⟩ .nil
  · exact .nil

variable (c files)

/-- What a command sends: a question about the gateway or the secret store, the request for the
certificate with the token of the secret store, or a request to the admin interface with its token. -/
def Sends (r : Request) : Prop :=
  r = c.statusRequest ∨ r = c.storeStatusRequest ∨
  (∃ vault, Token.load files c.secretStore.tokenFile = .ok vault ∧ r = c.certificateRequest vault) ∨
  ∃ token method path body, Token.load files c.bearerTokenFile = .ok token ∧
    r = c.provisioning.planned token method path body

theorem sends_uploadPlan (replies : List Reply) :
    ∀ r ∈ requests (c.uploadPlan files replies), c.Sends files r := by
  unfold uploadPlan
  rw [requests, List.forall_mem_cons]
  refine ⟨.inr (.inl rfl), ?_⟩
  rcases hvault : Token.load files c.secretStore.tokenFile with failure | vault
  · exact List.forall_mem_nil _
  · rw [requests, List.forall_mem_cons]
    refine ⟨.inr (.inr (.inl ⟨vault, hvault, rfl⟩)), ?_⟩
    rcases htoken : Token.load files c.bearerTokenFile with failure | token
    · exact List.forall_mem_nil _
    · rcases loadedPair? replies[1]? with _ | pair
      · exact List.forall_mem_nil _
      · exact List.forall_mem_singleton.mpr (.inr (.inr (.inr ⟨token, _, _, _, htoken, rfl⟩)))

theorem sends_gatePlan (replies : List Reply) :
    ∀ r ∈ requests (c.gatePlan files replies), c.Sends files r := by
  unfold gatePlan
  rw [requests_append]
  refine List.forall_mem_append.mpr ⟨List.forall_mem_singleton.mpr (.inl rfl), ?_⟩
  split
  · exact c.sends_uploadPlan files _
  · exact List.forall_mem_nil _

theorem sends_init (replies : List Reply) :
    ∀ r ∈ (c.provisioning.init files replies).sent, c.Sends files r := by
  intro r hr
  rcases hload : Token.load files c.bearerTokenFile with failure | token
  · rw [Provisioning.init_eq, c.provisioning.client_of_failure files hload,
      ofResult_error_bind] at hr
    cases hr
  · rw [(c.provisioning.follows_init files token hload replies).1] at hr
    obtain ⟨method, path, body, hplanned⟩ := c.provisioning.initPlan_planned files token replies r
      ((prefix_reached _ replies).subset hr)
    exact .inr (.inr (.inr ⟨token, method, path, body, hload, hplanned⟩))

/-! ## The certificate as a text -/

/-- A pair that the secret store writes is the pair that is loaded. -/
theorem certificate?_written {cert key : String} (hcert : cert ≠ "") (hkey : key ≠ "") :
    certificate? ⟨200, Json.compact (.record [("data", .record [("cert", .text cert),
      ("key", .text key)])])⟩ = some ⟨cert, key⟩ := by
  have hread : CertPair.secretCodec.decode (Json.document (Json.compact (.record [("data",
      .record [("cert", .text cert), ("key", .text key)])]))) = .ok ⟨cert, key⟩ :=
    (CertPair.secret_lossless ⟨cert, key⟩).decode_text
  unfold certificate?
  rw [hread]
  simp [Except.toOption, hcert, hkey]

/-- A pair that is posted is read as it was, with the server names. -/
theorem upload_written (pair : CertPair) (names : List String) :
    Json.document (Json.compact (pair.upload names)) = ⟨Json.writtenNode (pair.upload names), false⟩ := by
  have hnames : Json.numberFreeMembers (names.map .text) = true := by
    induction names with
    | nil => rfl
    | cons name names ih => exact ih
  apply Json.document_compact
  change (true && (true && (Json.numberFreeMembers (names.map .text) && true))) = true
  rw [hnames]
  rfl

/-! ## All of it -/

/-- The run of the command, by the replies to the gate. -/
theorem init_run (replies : List Reply) :
    (passed (c.gatePlan files replies) replies = none →
      ((c.init files).run replies).sent = reached (c.gatePlan files replies) replies ∧
        Session.Unsuccessful ((c.init files).run replies) replies) ∧
    ∀ rest, passed (c.gatePlan files replies) replies = some rest →
      (c.init files).run replies =
        ⟨requests (c.gatePlan files replies) ++ (c.provisioning.init files rest).sent,
          (c.provisioning.init files rest).ended.map Session.told⟩ := by
  rw [init_eq_gate]
  have hgate := c.follows_gate files replies
  constructor
  · intro hnone
    obtain ⟨hsent, -, hfails⟩ :=
      hgate.bind_stopped (fun _ => Session.talk (c.provisioning.init files)) hnone
    exact ⟨hsent, hfails⟩
  · intro rest hpassed
    obtain ⟨_, hrun⟩ :=
      hgate.bind_passed (fun _ => Session.talk (c.provisioning.init files)) hpassed
    rw [hrun, Session.run_talk]

theorem init_first (replies : List Reply) :
    ∀ r ∈ ((c.init files).run replies).sent.head?, r = c.statusRequest := by
  intro r hr
  obtain ⟨hstopped, hpassed⟩ := c.init_run files replies
  -- what is sent begins as the plan does
  have hfirst : (requests (c.gatePlan files replies)).head? = some c.statusRequest := rfl
  rcases hgate : passed (c.gatePlan files replies) replies with _ | rest
  · obtain ⟨later, hlater⟩ := prefix_reached (c.gatePlan files replies) replies
    rw [(hstopped hgate).1] at hr
    rw [← hlater, List.head?_append, Option.mem_def.mp hr, Option.some_or] at hfirst
    exact Option.some.inj hfirst
  · rw [hpassed rest hgate] at hr
    have hhead := Option.mem_def.mp hr
    rw [List.head?_append, hfirst, Option.some_or] at hhead
    exact (Option.some.inj hhead).symm

theorem init_sends (replies : List Reply) :
    ∀ r ∈ ((c.init files).run replies).sent, c.Sends files r := by
  obtain ⟨hstopped, hpassed⟩ := c.init_run files replies
  have hplan := c.sends_gatePlan files replies
  rcases hgate : passed (c.gatePlan files replies) replies with _ | rest
  · rw [(hstopped hgate).1]
    intro r hr
    exact hplan r ((prefix_reached _ replies).subset hr)
  · rw [hpassed rest hgate]
    exact List.forall_mem_append.mpr ⟨hplan, c.sends_init files rest⟩

/-- Without the tokens nothing that is sent tells which tokens the files hold. -/
theorem init_tokenless {files' : FileSource} {vault vault' token token' : String}
    (h : c.DifferInTokens files files' vault vault' token token') (replies : List Reply) :
    ((c.init files).run replies).sent.map tokenless =
      ((c.init files').run replies).sent.map tokenless := by
  obtain ⟨hstopped, hpassed⟩ := c.init_run files replies
  obtain ⟨hstopped', hpassed'⟩ := c.init_run files' replies
  obtain ⟨hreached, hsame⟩ := reached_alike (gatePlan_alike h replies) replies
  rcases hgate : passed (c.gatePlan files replies) replies with _ | rest
  · rw [(hstopped hgate).1, (hstopped' (hsame.symm.trans hgate)).1]
    exact hreached
  · have hgate' : passed (c.gatePlan files' replies) replies = some rest := hsame.symm.trans hgate
    have hwhole := (reached_of_passed hgate).1
    have hwhole' := (reached_of_passed hgate').1
    have hview : ∀ said r r', TokenApart c.provisioning.gateway.adminBase said r r' →
        tokenless r = tokenless r' := by
      intro said r r' hlike
      exact congrArg (Request.masked SecretStoreSettings.tokenHeader) hlike.1
    have hinit := (c.provisioning.twins_init h.tokens).sent_eq hview rest
    rw [hpassed rest hgate, hpassed' rest hgate', List.map_append, List.map_append, hinit,
      ← hwhole, ← hwhole', hreached]

/-- The command goes through the gate first, whose plan begins with the question whether the gateway
is up. If all of it is granted, the initialization begins with the replies that are left, and its
result is that of the command; otherwise nothing more is sent, and the command fails. -/
theorem init_gated (replies : List Reply) :
    let gate := c.gatePlan files replies
    let run := (c.init files).run replies
    (∀ r ∈ run.sent.head?, r = c.statusRequest) ∧
    (∀ rest, passed gate replies = some rest →
      run.sent = requests gate ++ (c.provisioning.init files rest).sent ∧
      run.ended = (c.provisioning.init files rest).ended.map Session.told) ∧
    (passed gate replies = none →
      run.sent = reached gate replies ∧ Session.Unsuccessful run replies) ∧
    (∀ r ∈ run.sent, c.Sends files r) ∧
    (∀ files' vault vault' token token', c.DifferInTokens files files' vault vault' token token' →
      run.sent.map tokenless = ((c.init files').run replies).sent.map tokenless) ∧
    (∀ cert key : String, cert ≠ "" → key ≠ "" →
      certificate? ⟨200, Json.compact (.record [("data", .record [("cert", .text cert),
        ("key", .text key)])])⟩ = some ⟨cert, key⟩) ∧
    ∀ (pair : CertPair) (names : List String),
      Json.document (Json.compact (pair.upload names)) =
        ⟨Json.writtenNode (pair.upload names), false⟩ := by
  intro gate run
  obtain ⟨hstopped, hpassed⟩ := c.init_run files replies
  refine ⟨c.init_first files replies, ?_, hstopped, c.init_sends files replies, ?_,
    fun cert key => certificate?_written, upload_written⟩
  · intro rest hgate
    have hrun : run = _ := hpassed rest hgate
    rw [hrun]
    exact ⟨rfl, rfl⟩
  · intro files' vault vault' token token' hdiffer
    exact c.init_tokenless files hdiffer replies

/-- A configuration that uploads the certificate, with a token in every file. -/
def uploading : Configuration :=
  { secretStore := { uploadOnInit := true } }

/-- Replies to the gate of which the last says that a certificate is there already. -/
def granted : List Reply :=
  [.ok ⟨200, ""⟩, .ok ⟨200, ""⟩,
    .ok ⟨200, "\x7b\"data\":\x7b\"cert\":\"c\",\"key\":\"k\"\x7d\x7d"⟩,
    .ok ⟨400, "an existing certificate"⟩]

/-- After four grants the initialization begins, here with nothing to create. -/
theorem init_gated_uploading :
    let files : FileSource := fun _ => .ok (Utf8.encode "t")
    passed (uploading.gatePlan files granted) granted = some [] ∧
      ((uploading.init files).run granted).sent =
        requests (uploading.gatePlan files granted) ++ (uploading.provisioning.init files []).sent := by
  intro files
  have hpassed : passed (uploading.gatePlan files granted) granted = some [] := by
    have hlength : ((passed (uploading.gatePlan files granted) granted).map List.length) = some 0 := by
      decide +kernel
    obtain ⟨rest, hrest, hnil⟩ := Option.map_eq_some_iff.mp hlength
    rw [hrest, List.length_eq_zero_iff.mp hnil]
  have hall := init_gated uploading files granted
  exact ⟨hpassed, (hall.2.1 [] hpassed).1⟩

end Configuration

end GatewayProvisioning
