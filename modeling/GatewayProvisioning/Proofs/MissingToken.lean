import GatewayProvisioning.Proofs.InitTwice
import GatewayProvisioning.Proofs.Walk

/-!
# Missing tokens

There are two tokens: one for the gateway, which is read before anything is sent, and one for the
registry, which an initialization reads in the middle of its work. So without the first nothing is
sent. Without the second an initialization has already written to the gateway when it fails, and may
have deleted the plugin that it cannot replace.
-/

namespace GatewayProvisioning

open Dialogue Document

/-! ## Which failures a conversation can have -/

namespace Dialogue

variable {α β ι : Type} {P Q : Failure → Prop}

/-- Each failure of a conversation, on whatever replies, is one of some. -/
def FailsOnly (P : Failure → Prop) (d : Dialogue α) : Prop :=
  ∀ replies failure rest, (d replies).ended = some (.error failure, rest) → P failure

theorem FailsOnly.mono {d : Dialogue α} (h : FailsOnly P d) (himp : ∀ failure, P failure → Q failure) :
    FailsOnly Q d :=
  fun replies failure rest hended => himp failure (h replies failure rest hended)

theorem failsOnly_ofResult {result : Except Failure α}
    (h : ∀ failure, result = .error failure → P failure) : FailsOnly P (ofResult result) := by
  intro replies failure rest hended
  simp only [ofResult, Option.some.injEq, Prod.mk.injEq] at hended
  exact h failure hended.1

theorem failsOnly_pure (x : α) : FailsOnly P (pure x : Dialogue α) :=
  failsOnly_ofResult fun failure h => by cases h

theorem failsOnly_send {request : Request} (h : ∀ reason, P (.unreachable request.url reason)) :
    FailsOnly P (send request) := by
  intro replies failure rest hended
  rcases replies with _ | ⟨reason | response, replies⟩
  · cases hended
  · cases hended
    exact h reason
  · cases hended

theorem FailsOnly.bind {d : Dialogue α} {f : α → Dialogue β} (hd : FailsOnly P d)
    (hf : ∀ x, FailsOnly P (f x)) : FailsOnly P (d >>= f) := by
  intro replies failure rest hended
  rcases progress_cases d replies with ⟨sent, hs⟩ | ⟨sent, first, after, hs⟩ | ⟨sent, x, after, hs⟩
  · rw [bind_of_waiting hs] at hended
    cases hended
  · rw [bind_of_failed hs] at hended
    cases hended
    exact hd replies failure rest (congrArg Progress.ended hs)
  · rw [bind_of_ok hs] at hended
    exact hf x after failure rest hended

theorem FailsOnly.ignored {d : Dialogue α} (h : FailsOnly P d) : FailsOnly P d.ignored :=
  h.bind fun _ => failsOnly_pure ()

theorem failsOnly_onlyIf {d : Dialogue Unit} (h : FailsOnly P d) (b : Bool) :
    FailsOnly P (onlyIf b d) := by
  cases b
  · exact failsOnly_pure ()
  · exact h

theorem failsOnly_forEach {f : ι → Dialogue Unit} (h : ∀ x, FailsOnly P (f x)) (xs : List ι) :
    FailsOnly P (forEach f xs) := by
  induction xs with
  | nil => exact failsOnly_pure ()
  | cons x xs ih => exact (h x).bind fun _ => ih

theorem mem_sent_bind {d : Dialogue α} {f : α → Dialogue β} {replies : List Reply}
    {request : Request} (h : request ∈ (d replies).sent) : request ∈ ((d >>= f) replies).sent :=
  (sent_prefix_bind d f replies).subset h

theorem mem_sent_send (request : Request) (replies : List Reply) :
    request ∈ (send request replies).sent := by
  rcases replies with _ | ⟨reason | response, replies⟩ <;> exact List.mem_singleton_self request

end Dialogue

/-- The failure with which a conversation has ended, if it has failed. -/
def Progress.failure? {α : Type} (progress : Progress α) : Option Failure :=
  match progress.ended with
  | some (.error failure, _) => some failure
  | _ => none

theorem Progress.eq_of_failure? {α : Type} {progress : Progress α} {failure : Failure}
    (h : progress.failure? = some failure) :
    ∃ rest, progress = ⟨progress.sent, some (.error failure, rest)⟩ := by
  rcases progress with ⟨sent, _ | ⟨other | x, rest⟩⟩
  · cases h
  · cases h
    exact ⟨rest, rfl⟩
  · cases h

/-! ## Failures of single requests -/

/-- No token is missing. -/
def NotMissing (failure : Failure) : Prop :=
  failure.isMissingToken = false

namespace AdminClient

variable (c : AdminClient)

theorem created_failsOnly (path : String) (r : Response) :
    FailsOnly NotMissing (Dialogue.ofResult (c.created path r)) := by
  refine failsOnly_ofResult fun failure h => ?_
  unfold created at h
  split at h
  · cases h
  · split at h <;> cases h
    rfl

theorem remove_failsOnly (collection id : String) :
    FailsOnly NotMissing (c.remove collection id) := by
  unfold remove delete
  refine (failsOnly_send fun _ => rfl).bind fun r => ?_
  split
  · exact failsOnly_pure ()
  · exact failsOnly_ofResult fun failure h => by cases h; rfl

theorem decodeFrom_notMissing {α : Type} {codec : Codec α} {url body : String} {failure : Failure}
    (h : decodeFrom codec url body = .error failure) : NotMissing failure := by
  unfold decodeFrom at h
  rcases hdecode : codec.decode (Json.document body) with e | x <;> rw [hdecode] at h <;> cases h
  rfl

theorem decodeOk_notMissing {α : Type} {codec : Codec α} {path : String} {r : Response}
    {failure : Failure} (h : c.decodeOk codec path r = .error failure) : NotMissing failure := by
  unfold decodeOk at h
  split at h
  · exact decodeFrom_notMissing h
  · cases h
    rfl

theorem readPage_notMissing {url : String} {r : Response} {failure : Failure}
    (h : c.readPage url r = .error failure) : NotMissing failure := by
  unfold readPage at h
  by_cases hok : (!r.isOk) = true
  · rw [if_pos hok] at h
    cases h
    rfl
  · rw [if_neg hok] at h
    rcases hdecode : decodeFrom (Page.codec IdEntry.codec) url r.body with e | page
    · rw [hdecode] at h
      cases h
      exact decodeFrom_notMissing hdecode
    · rw [hdecode] at h
      cases h

/-- The induction is on the replies, as for every statement about a walk. -/
theorem walk_failsOnly (visited ids : List String) (url : String) :
    FailsOnly NotMissing (c.walk visited ids url) := by
  intro replies
  induction replies generalizing visited ids url with
  | nil =>
    by_cases hvisited : url ∈ visited
    · rw [walk_of_visited c hvisited]
      exact failsOnly_ofResult (fun failure h => by cases h; rfl) []
    · rw [walk_of_new c hvisited]
      intro failure rest hended
      cases hended
  | cons reply replies ih =>
    by_cases hvisited : url ∈ visited
    · rw [walk_of_visited c hvisited]
      exact failsOnly_ofResult (fun failure h => by cases h; rfl) _
    · rw [walk_of_new c hvisited]
      intro failure rest hended
      rcases reply with reason | response
      · cases hended
        rfl
      · have hsend : Dialogue.send (c.requestTo .get url) (.ok response :: replies) =
          ⟨[c.requestTo .get url], some (.ok response, replies)⟩ := rfl
        rw [bind_of_ok hsend] at hended
        unfold walkOn at hended
        rcases hpage : c.readPage url response with fault | ⟨found, _ | next⟩
        · simp only [hpage] at hended
          cases hended
          exact c.readPage_notMissing hpage
        · simp only [hpage] at hended
          cases hended
        · simp only [hpage] at hended
          exact ih _ _ _ failure rest hended

end AdminClient

/-! ## Failures of whole operations -/

/-- Nothing that has been sent is meant to change anything. -/
def WritesNothing (sent : List Request) : Prop :=
  ∀ request ∈ sent, request.method ∉ [Method.post, .put, .delete]

namespace Provisioning

variable (p : Provisioning) (files : FileSource) (c : AdminClient)

/-- If a token is missing, it is that of the registry. -/
def OnlySecretMissing (failure : Failure) : Prop :=
  failure.isMissingToken = true →
    ∃ path, p.accessTokenFile = some path ∧ Token.secretId files path = .error failure

theorem onlySecretMissing_of_notMissing {p : Provisioning} {files : FileSource} {failure : Failure}
    (h : NotMissing failure) : p.OnlySecretMissing files failure :=
  fun hmissing => absurd (h.symm.trans hmissing) Bool.false_ne_true

theorem injectRegistryToken_failsOnly (service : String) :
    FailsOnly (p.OnlySecretMissing files) (p.injectRegistryToken files c service) := by
  have hother : ∀ {failure}, NotMissing failure → p.OnlySecretMissing files failure :=
    onlySecretMissing_of_notMissing
  unfold injectRegistryToken AdminClient.get AdminClient.postForm
  rcases hpath : p.accessTokenFile with _ | path
  · simp only [ofResult_error_bind]
    exact failsOnly_ofResult fun failure h => by cases h; exact hother rfl
  · simp only [ofResult_ok_bind]
    refine (failsOnly_send fun _ => hother rfl).bind fun listed => ?_
    refine (failsOnly_ofResult fun _ h => hother (c.decodeOk_notMissing h)).bind fun page => ?_
    refine FailsOnly.bind ?_ fun _ => ?_
    · unfold removeHeaderPlugin
      split
      · exact (c.remove_failsOnly _ _).mono fun _ => hother
      · exact failsOnly_pure ()
    · refine (failsOnly_ofResult fun failure h _ => ⟨path, hpath, h⟩).bind fun id => ?_
      refine (failsOnly_send fun _ => hother rfl).bind fun r => ?_
      split
      · exact failsOnly_ofResult fun failure h => by cases h; exact hother rfl
      · split
        · exact failsOnly_pure ()
        · exact failsOnly_ofResult fun failure h => by cases h; exact hother rfl

theorem attach_failsOnly (plugin : Plugin) : FailsOnly NotMissing (attach c plugin) :=
  (failsOnly_send fun _ => rfl).bind fun r => c.created_failsOnly _ r

theorem initRoute_failsOnly (item : String × Route) :
    FailsOnly (p.OnlySecretMissing files) (p.initRoute files c item) := by
  have hother : ∀ failure, NotMissing failure → p.OnlySecretMissing files failure :=
    fun _ => onlySecretMissing_of_notMissing
  obtain ⟨key, route⟩ := item
  rw [initRoute_eq]
  refine FailsOnly.bind ?_ fun _ => ?_
  · exact (((failsOnly_send fun _ => rfl).bind fun r => c.created_failsOnly _ r).ignored).mono hother
  refine (failsOnly_onlyIf (injectRegistryToken_failsOnly p files c _) _).bind fun _ => ?_
  refine FailsOnly.bind ?_ fun _ => ?_
  · exact (((failsOnly_send fun _ => rfl).bind fun r => c.created_failsOnly _ r).ignored).mono hother
  refine FailsOnly.bind ?_ fun _ => ?_
  · exact (failsOnly_onlyIf (attach_failsOnly c _).ignored _).mono hother
  · exact (attach_failsOnly c _).ignored.mono hother

/-- The first request about a route creates its service. -/
theorem initRoute_posts (item : String × Route) (replies : List Reply) :
    ∃ request ∈ (p.initRoute files c item replies).sent, request.method = .post := by
  obtain ⟨key, route⟩ := item
  rw [initRoute_eq]
  exact ⟨_, mem_sent_bind (mem_sent_bind (mem_sent_bind (mem_sent_send _ _))), rfl⟩

/-- Once the token for the gateway is there, a missing token is that of the registry, and what has
been sent by then is not without effect. -/
theorem init_without_secret {token : String} (hload : Token.load files p.bearerTokenFile = .ok token)
    {failure : Failure} (hmissing : failure.isMissingToken = true) {replies rest : List Reply}
    {sent : List Request} (hrun : p.init files replies = ⟨sent, some (.error failure, rest)⟩) :
    (∃ path, p.accessTokenFile = some path ∧ Token.secretId files path = .error failure) ∧
      ∃ request ∈ sent, request.method = .post := by
  rw [init_eq, p.client_of_token files hload, ofResult_ok_bind] at hrun
  have hacl : FailsOnly NotMissing
      (onlyIf p.acl.enabled (attach ⟨p.gateway.adminBase, token⟩ (.acl p.acl)).ignored) :=
    failsOnly_onlyIf (attach_failsOnly _ _).ignored _
  have hroutes := failsOnly_forEach (p.initRoute_failsOnly files ⟨p.gateway.adminBase, token⟩)
    p.routes.entries
  refine ⟨(hroutes.bind fun _ => hacl.mono fun _ => onlySecretMissing_of_notMissing) _ _ _
    (congrArg Progress.ended hrun) hmissing, ?_⟩
  rcases hentries : p.routes.entries with _ | ⟨item, items⟩
  · -- without routes no token of the registry is read
    rw [hentries] at hrun
    exact absurd ((hacl _ _ _ (congrArg Progress.ended hrun)).symm.trans hmissing) Bool.false_ne_true
  · rw [hentries] at hrun
    obtain ⟨request, hrequest, hpost⟩ :=
      p.initRoute_posts files ⟨p.gateway.adminBase, token⟩ item replies
    have hsent : sent = _ := (congrArg Progress.sent hrun).symm
    rw [hsent]
    exact ⟨request, mem_sent_bind (mem_sent_bind hrequest), hpost⟩

theorem reset_failsOnly {token : String} (hload : Token.load files p.bearerTokenFile = .ok token) :
    FailsOnly NotMissing (p.reset files) := by
  rw [reset_eq, p.client_of_token files hload, ofResult_ok_bind]
  refine failsOnly_forEach (fun collection => ?_) resetOrder
  exact (AdminClient.walk_failsOnly _ _ _ _).bind fun ids =>
    failsOnly_forEach (AdminClient.remove_failsOnly _ collection) ids

theorem upload_failsOnly (pair : CertPair) (names : String) :
    FailsOnly NotMissing (c.postJson certificates (pair.upload (serverNames names)) >>= fun r =>
      pure (uploadOutcome r)) :=
  (failsOnly_send fun _ => rfl).bind fun r => failsOnly_pure (uploadOutcome r)

/-- A missing token is fatal before anything is written if and only if it is the token for the gateway.
For a reset and the upload of a certificate there is no other token, and nothing at all is sent without
it. An initialization needs the token of the registry as well, and finds it missing only after it has
begun to write. -/
theorem missing_token_writes_nothing_iff {failure : Failure}
    (hmissing : failure.isMissingToken = true) (replies : List Reply) :
    (∀ sent rest, p.init files replies = ⟨sent, some (.error failure, rest)⟩ →
      (WritesNothing sent ↔ Token.load files p.bearerTokenFile = .error failure) ∧
      (WritesNothing sent → sent = []) ∧
      (¬WritesNothing sent → ∃ path, p.accessTokenFile = some path ∧
        Token.secretId files path = .error failure)) ∧
    (∀ sent rest, p.reset files replies = ⟨sent, some (.error failure, rest)⟩ → sent = []) ∧
    ∀ pair names sent rest,
      p.postCert files pair names replies = ⟨sent, some (.error failure, rest)⟩ → sent = [] := by
  refine ⟨fun sent rest hrun => ?_, fun sent rest hrun => ?_, fun pair names sent rest hrun => ?_⟩
  · rcases hload : Token.load files p.bearerTokenFile with early | token
    · rw [init_eq, p.client_of_failure files hload, ofResult_error_bind] at hrun
      cases hrun
      exact ⟨⟨fun _ => rfl, fun _ => List.forall_mem_nil _⟩, fun _ => rfl,
        fun hwrites => absurd (List.forall_mem_nil _) hwrites⟩
    · obtain ⟨hsecret, request, hrequest, hpost⟩ := p.init_without_secret files hload hmissing hrun
      have hwrites : ¬WritesNothing sent := fun h => h request hrequest (by simp [hpost])
      exact ⟨⟨fun h => absurd h hwrites, fun h => by cases h⟩, fun h => absurd h hwrites,
        fun _ => hsecret⟩
  · rcases hload : Token.load files p.bearerTokenFile with early | token
    · rw [reset_eq, p.client_of_failure files hload, ofResult_error_bind] at hrun
      cases hrun
      rfl
    · have hother := p.reset_failsOnly files hload _ _ _ (congrArg Progress.ended hrun)
      exact absurd (hother.symm.trans hmissing) Bool.false_ne_true
  · unfold postCert at hrun
    rcases hpair : pair.validate with early | ⟨⟩
    · rw [hpair, ofResult_error_bind] at hrun
      cases hrun
      rfl
    · rw [hpair, ofResult_ok_bind] at hrun
      rcases hload : Token.load files p.bearerTokenFile with early | token
      · rw [p.client_of_failure files hload, ofResult_error_bind] at hrun
        cases hrun
        rfl
      · rw [p.client_of_token files hload, ofResult_ok_bind] at hrun
        have hother := upload_failsOnly _ pair names _ _ _ (congrArg Progress.ended hrun)
        exact absurd (hother.symm.trans hmissing) Bool.false_ne_true

/-- A token for the gateway, and a blank one for the registry. -/
def blankSecretFiles : FileSource := fun path =>
  if path = "token" then .ok (Utf8.encode "t")
  else if path = "registry.json" then .ok (Utf8.encode "\x7b\"SecretID\":\" \"\x7d")
  else .error .absent

/-- A service that is new, a header plugin that is listed, and one that has been deleted. -/
def headerReplies : List Reply :=
  [.ok ⟨201, ""⟩,
    .ok ⟨200, "\x7b\"data\":[\x7b\"id\":\"p-1\",\"name\":\"request-transformer\"\x7d],\"next\":null\x7d"⟩,
    .ok ⟨204, ""⟩]

theorem blank_secret_run :
    ∃ failure sent rest, failure.isMissingToken = true ∧
      registryProvisioning.init blankSecretFiles headerReplies =
        ⟨sent, some (.error failure, rest)⟩ ∧
      sent.map Request.method = [.post, .get, .delete] := by
  have hmethods : ((registryProvisioning.init blankSecretFiles headerReplies).sent.map
      Request.method) = [.post, .get, .delete] := by decide +kernel
  have hmissing : ((registryProvisioning.init blankSecretFiles headerReplies).failure?.map
      Failure.isMissingToken) = some true := by decide +kernel
  obtain ⟨failure, hfailure, htoken⟩ := Option.map_eq_some_iff.mp hmissing
  obtain ⟨rest, hrun⟩ := Progress.eq_of_failure? hfailure
  exact ⟨failure, _, rest, htoken, hrun, hmethods⟩

/-- The blank token of the registry is found to be one after a service has been created. -/
theorem missing_token_blank_secret :
    ∃ failure sent rest, failure.isMissingToken = true ∧
      registryProvisioning.init blankSecretFiles headerReplies =
        ⟨sent, some (.error failure, rest)⟩ ∧
      ¬WritesNothing sent ∧ ∃ path, registryProvisioning.accessTokenFile = some path ∧
        Token.secretId blankSecretFiles path = .error failure := by
  obtain ⟨failure, sent, rest, hmissing, hrun, -⟩ := blank_secret_run
  obtain ⟨hiff, -, hsecret⟩ :=
    (missing_token_writes_nothing_iff _ _ hmissing headerReplies).1 sent rest hrun
  have hload : Token.load blankSecretFiles registryProvisioning.bearerTokenFile = .ok "t" :=
    ok_of_toOption (by decide +kernel)
  have hwrites : ¬WritesNothing sent := fun h => by
    have hfailed := hiff.mp h
    rw [hload] at hfailed
    cases hfailed
  exact ⟨failure, sent, rest, hmissing, hrun, hwrites, hsecret hwrites⟩

/-- With a blank token of the registry an initialization fails for want of a token, after it has
deleted the header plugin that it cannot replace. -/
theorem header_deleted_without_secret :
    ¬∀ (p : Provisioning) (files : FileSource) (replies : List Reply) (failure : Failure)
      (sent : List Request) (rest : List Reply), failure.isMissingToken = true →
        p.init files replies = ⟨sent, some (.error failure, rest)⟩ → WritesNothing sent := by
  intro h
  obtain ⟨failure, sent, rest, hmissing, hrun, hmethods⟩ := blank_secret_run
  have hdelete : Method.delete ∈ sent.map Request.method := by
    rw [hmethods]
    decide
  obtain ⟨request, hrequest, hmethod⟩ := List.mem_map.mp hdelete
  have hread := h _ _ _ failure sent rest hmissing hrun request hrequest
  rw [hmethod] at hread
  exact hread (by decide)

end Provisioning

end GatewayProvisioning
