import GatewayProvisioning.Proofs.Sessions
import GatewayProvisioning.Proofs.Targets
import GatewayProvisioning.Proofs.ToldLifetime

/-!
# A new user

Which requests give a user to the gateway, which responses let them go on, and where the token comes
from that the user gets. The plan is written out with its methods, addresses, headers and bodies. Its
requests come in two parts. The first ones prepare the grant: the consumer, its groups and, where the
gateway issues the tokens, its application may all be there already. The last one is the grant itself,
and its response has to say something new.
-/

namespace GatewayProvisioning

open Document Dialogue PlanStep Token
open Provisioning (answeredBy created_isOk_iff)

/-! ## Rows of questions -/

namespace PlanStep

/-- Questions that accept the same responses. -/
def questions (accepts : Response → Bool) (asked : List Request) : List PlanStep :=
  asked.map (ask · accepts)

theorem requests_questions (accepts : Response → Bool) (asked : List Request) :
    requests (questions accepts asked) = asked := by
  induction asked with
  | nil => rfl
  | cons request asked ih => exact congrArg (request :: ·) ih

theorem questions_append (accepts : Response → Bool) (xs ys : List Request) :
    questions accepts (xs ++ ys) = questions accepts xs ++ questions accepts ys :=
  List.map_append

/-- Whatever is sent after a question has been sent because its response was accepted. -/
theorem accepted_of_reached {accepts : Response → Bool} {asked : List Request}
    {steps : List PlanStep} {replies : List Reply} {i : Nat} (hi : i < asked.length)
    (h : i + 1 < (reached (questions accepts asked ++ steps) replies).length) :
    ∃ r, replies[i]? = some (.ok r) ∧ accepts r = true := by
  induction asked generalizing replies i with
  | nil => cases hi
  | cons request asked ih =>
    change i + 1 < (reached (.ask request accepts :: (questions accepts asked ++ steps))
      replies).length at h
    rcases replies with _ | ⟨reason | r, replies⟩
    · simp [reached] at h
    · simp [reached] at h
    · by_cases haccept : accepts r = true
      · rw [reached, if_pos haccept, List.length_cons] at h
        rcases i with _ | i
        · exact ⟨r, rfl, haccept⟩
        · have hrest : ∃ r, replies[i]? = some (.ok r) ∧ accepts r = true :=
            ih (Nat.lt_of_succ_lt_succ hi) (Nat.lt_of_succ_lt_succ h)
          simpa using hrest
      · -- nothing is sent after a response that is not accepted
        rw [reached, if_neg haccept] at h
        simp at h

end PlanStep

namespace Dialogue

variable {α β : Type}

/-- A value of two conversations is one of the second, which begins where the first has come to one. -/
theorem value_of_bind {d : Dialogue α} {f : α → Dialogue β} {y : β} {replies rest : List Reply}
    (h : ((d >>= f) replies).ended = some (.ok y, rest)) :
    ∃ x mid, (d replies).ended = some (.ok x, mid) ∧ (f x mid).ended = some (.ok y, rest) := by
  rcases progress_cases d replies with ⟨sent, hs⟩ | ⟨sent, failure, left, hs⟩ | ⟨sent, x, mid, hs⟩
  · rw [bind_of_waiting hs] at h
    cases h
  · rw [bind_of_failed hs] at h
    cases h
  · rw [bind_of_ok hs] at h
    exact ⟨x, mid, by rw [hs], h⟩

/-- A conversation comes to a value exactly if its plan is met. -/
theorem Follows.value_iff {d : Dialogue α} {steps : List PlanStep} {replies rest : List Reply}
    (h : Follows d steps replies) :
    (∃ x, (d replies).ended = some (.ok x, rest)) ↔ passed steps replies = some rest := by
  rw [← h.2, unused]
  constructor
  · rintro ⟨x, hvalue⟩
    rw [hvalue]
  · intro hleft
    split at hleft
    · rename_i x left hvalue
      cases hleft
      exact ⟨x, hvalue⟩
    · cases hleft

/-- Each request of the plan has taken one reply. -/
theorem Follows.rest {d : Dialogue α} {steps : List PlanStep} {x : α} {replies rest : List Reply}
    (h : Follows d steps replies) (hvalue : (d replies).ended = some (.ok x, rest)) :
    rest = replies.drop (requests steps).length :=
  (reached_of_passed (h.value_iff.mp ⟨x, hvalue⟩)).2

end Dialogue

/-! ## Something new -/

/-- What a response with status 200 or 201 says. A conflict says nothing new. -/
def newly? {α : Type} (codec : Codec α) (r : Response) : Option α :=
  if r.status == 200 || r.status == 201 then (codec.decode (Json.document r.body)).toOption else none

theorem newly?_eq_some {α : Type} {codec : Codec α} {r : Response} {x : α} (url : String)
    (refusal : Failure) :
    newly? codec r = some x ↔
      (if r.isCreated then AdminClient.decodeFrom codec url r.body else .error refusal) = .ok x := by
  unfold newly? Response.isCreated AdminClient.decodeFrom
  split
  · cases codec.decode (Json.document r.body) <;> simp [Except.toOption, Except.mapError]
  · simp

namespace Consumers

variable (c : Consumers)

/-! ## The plan -/

/-- A request for a consumer: the segments of its path are `consumers`, the name and some words. -/
def planned (method : Method) (name : String) (words : List String) (body : Body := .empty) :
    Request where
  method := method
  url := String.ofList (Url.trimBase c.admin.base ++
    '/' :: Url.slashed ("consumers" :: Url.encodeSegment name :: words))
  headers := [("Authorization", "Bearer " ++ c.admin.token)]
  body := body

/-- The requests for the consumer and its groups. -/
def enrollment (name : String) (groups : List String) : List Request :=
  c.planned .put name [] ::
    groups.map fun group => c.planned .post name ["acls"] (.form [("group", group)])

/-- The request for the application of a consumer that does not sign its tokens. -/
def application (name : String) : List Request :=
  match c.auth with
  | .jwt => []
  | .oauth2 settings =>
    [c.planned .post name ["oauth2"] (.form [("name", name), ("client_id", name),
      ("client_secret", name), ("redirect_uris", settings.redirectUris)])]

/-- Where the gateway issues tokens for a resource. The address is public and encrypted. -/
def tokenAddress (resource : String) : String :=
  Url.join ("https://" ++ c.gateway.server ++ ":" ++ Decimal.ofNat c.gateway.applicationPortSsl.toNat)
    [resource, "oauth2", "token"]

/-- The grant: the gateway issues a credential to sign with, or a token. The request for a token goes
to its public address and carries no token itself. -/
def grant (name : String) : PlanStep :=
  match c.auth with
  | .jwt =>
    .ask (c.planned .post name ["jwt"]) fun r =>
      (newly? JwtCredential.codec r).any fun credential =>
        !credential.key.isEmpty && !credential.secret.isEmpty
  | .oauth2 settings =>
    .ask { method := .post, url := c.tokenAddress settings.resource,
           body := .form [("client_id", name), ("client_secret", name),
             ("grant_type", "client_credentials"), ("scope", settings.scope)] } fun r =>
      (newly? AccessToken.codec r).isSome

/-- The steps that add a user. What comes before the grant may be there already. -/
def userPlan (name : String) (groups : List String) : List PlanStep :=
  questions (answeredBy [200, 201, 409]) (c.enrollment name groups ++ c.application name) ++
    [c.grant name]

/-- The response to the grant gives a token. Either the token is signed with the secret of the
credential in the response and tells its key as account and issuer, or the response says the token. -/
inductive Grants (now : Int) (options : TokenOptions) (r : Response) (token : AccessToken) : Prop
  | signed (credential : JwtCredential) (hauth : c.auth = .jwt)
      (hissued : newly? JwtCredential.codec r = some credential)
      (hsigned : SignedWith credential.secret token.value)
      (htells : Tells token.value
        { account := credential.key, issuer := credential.key
          audience := options.audience.filter (!·.isEmpty), issuedAt := now
          expires := options.span.map (expiry now) })
      (hbearer : token.tokenType = "bearer")
  | received (settings : OAuth2Settings) (hauth : c.auth = .oauth2 settings)
      (hreceived : newly? AccessToken.codec r = some token)

/-! ## The addresses of the plan -/

/-- A name that is not empty is a segment of its own, and no slash is lost at the ends of the path. -/
theorem request_planned {name path : String} (hname : name ≠ "") {words : List String}
    (hwords : ∀ word ∈ words, word ≠ "" ∧ ∀ ch ∈ word.toList, Url.isWordChar ch = true)
    (hpath : path = String.ofList (Url.trimBase "consumers" ++
      '/' :: Url.slashed (Url.encodeSegment name :: words))) (method : Method) :
    c.admin.request method path = c.planned method name words := by
  have hconsumers : ∀ ch ∈ "consumers".toList, Url.isWordChar ch = true :=
    List.all_eq_true.mp (by decide)
  have hall : ∀ segment ∈ "consumers" :: Url.encodeSegment name :: words,
      segment ≠ "" ∧ ∀ ch ∈ segment.toList, Url.isWordChar ch = true := by
    intro segment hsegment
    rcases List.mem_cons.mp hsegment with rfl | hsegment
    · exact ⟨by decide, hconsumers⟩
    · rcases List.mem_cons.mp hsegment with rfl | hsegment
      · exact ⟨fun h => hname (Url.encodeSegment_eq_empty h), Url.isWordChar_encodeSegment name⟩
      · exact hwords segment hsegment
  obtain ⟨hnil, hfirst, hlast⟩ := Url.slashed_ends
    (fun h => (hall "" (List.mem_of_head? h)).1 rfl)
    (fun h => (hall "" (List.mem_of_getLast? h)).1 rfl) (List.cons_ne_nil _ _)
    (fun segment h => (hall segment h).2)
  have hslashed : Url.trimBase "consumers" ++ '/' :: Url.slashed (Url.encodeSegment name :: words) =
      Url.slashed ("consumers" :: Url.encodeSegment name :: words) := by
    rw [Url.slashed_cons "consumers" (List.cons_ne_nil _ _)]
    exact congrArg (· ++ _) (by decide)
  unfold AdminClient.request AdminClient.requestTo AdminClient.url planned
  rw [hpath, hslashed, Url.join_row _ hnil hfirst hlast]

theorem request_consumer {name : String} (hname : name ≠ "") :
    c.admin.request .put (path name) = c.planned .put name [] :=
  c.request_planned hname (by simp) (Operation.consumerPath_eq name) .put

/-- The words after the name are all fixed. -/
theorem request_below {name : String} (hname : name ≠ "") (back : String) {word : String}
    (hback : back.toList = '/' :: word.toList) (hword : word ∈ ["acls", "jwt", "oauth2"])
    (body : Body) :
    { c.admin.request .post (path name ++ back) with body } = c.planned .post name [word] body := by
  have hfixed : ∀ word ∈ ["acls", "jwt", "oauth2"],
      word ≠ "" ∧ word.toList.all Url.isWordChar = true := by decide
  have hwords : ∀ other ∈ [word], other ≠ "" ∧ ∀ ch ∈ other.toList, Url.isWordChar ch = true := by
    intro other hother
    obtain ⟨hne, hchars⟩ := hfixed word hword
    rw [List.mem_singleton.mp hother]
    exact ⟨hne, List.all_eq_true.mp hchars⟩
  have hpath : path name ++ back = String.ofList (Url.trimBase "consumers" ++
      '/' :: Url.slashed [Url.encodeSegment name, word]) :=
    Operation.path_after Operation.consumers_slash hback
  exact congrArg (fun request : Request => { request with body })
    (c.request_planned hname hwords hpath .post)

/-! ## The consumer and its groups -/

/-- Creates a consumer and makes it a member of groups. -/
def enroll (name : String) (groups : List String) : Dialogue Unit :=
  c.create name >>= fun _ => forEach (fun group => (c.join name group).ignored) groups

theorem addUser_eq (now : Int) (name : String) (groups : List String) (options : TokenOptions) :
    c.addUser now name groups options =
      c.enroll name groups >>= fun _ =>
      c.createToken now name options >>= fun token =>
      pure ({ name, groups, kind := c.auth.kind }, token) := by
  unfold enroll
  rw [bind_assoc_eq]
  rfl

theorem orderly_addUser (now : Int) (name : String) (groups : List String)
    (options : TokenOptions) : Orderly (c.addUser now name groups options) := by
  rw [addUser_eq]
  have hgroups := orderly_forEach (fun group => (c.orderly_join name group).ignored) groups
  have henroll : Orderly (c.enroll name groups) := (c.orderly_create name).bind fun _ => hgroups
  exact henroll.bind fun _ => (c.orderly_createToken now name options).bind fun _ => orderly_pure _

theorem follows_create {name : String} (hname : name ≠ "") (replies : List Reply) :
    Follows (c.create name) [.ask (c.planned .put name []) (answeredBy [200, 201, 409])] replies := by
  rw [← c.request_consumer hname]
  exact follows_ask (created_isOk_iff c.admin (path name)) replies

theorem follows_join {name : String} (hname : name ≠ "") (group : String) (replies : List Reply) :
    Follows (c.join name group)
      [.ask (c.planned .post name ["acls"] (.form [("group", group)]))
        (answeredBy [200, 201, 409])] replies := by
  rw [← c.request_below hname "/acls" (by decide) (by decide)]
  exact follows_ask (created_isOk_iff c.admin (path name ++ "/acls")) replies

/-- The induction is on the groups, which are joined in their order and as often as they are listed. -/
theorem follows_groups {name : String} (hname : name ≠ "") (groups : List String)
    (replies : List Reply) :
    Follows (forEach (fun group => (c.join name group).ignored) groups)
      (questions (answeredBy [200, 201, 409]) (groups.map fun group =>
        c.planned .post name ["acls"] (.form [("group", group)]))) replies := by
  induction groups generalizing replies with
  | nil => exact follows_pure () replies
  | cons group groups ih =>
    exact (c.follows_join hname group replies).ignored.bind fun _ rest _ _ => ih rest

theorem follows_enroll {name : String} (hname : name ≠ "") (groups : List String)
    (replies : List Reply) :
    Follows (c.enroll name groups)
      (questions (answeredBy [200, 201, 409]) (c.enrollment name groups)) replies :=
  (c.follows_create hname replies).bind fun _ rest _ _ => c.follows_groups hname groups rest

/-! ## The grant -/

/-- The token of a credential that is used without the gateway. -/
def signedToken (now : Int) (options : TokenOptions) : Material → Except Failure AccessToken
  | .jwt credential =>
    (signConsumer credential.key credential.secret options.audience options.span now).map
      fun value => ⟨value, "bearer", lifetime options.span⟩
  | .oauth2 _ => .error (.badCredential .wrongMaterial)

theorem signedToken_eq_ok {now : Int} {options : TokenOptions} {credential : JwtCredential}
    {token : AccessToken} :
    signedToken now options (.jwt credential) = .ok token ↔
      ∃ value, signConsumer credential.key credential.secret options.audience options.span now =
          .ok value ∧ token = ⟨value, "bearer", lifetime options.span⟩ := by
  rw [signedToken]
  rcases signConsumer credential.key credential.secret options.audience options.span now with
    failure | value
  · simp [Except.map]
  · simp [Except.map, eq_comm]

theorem signedToken_isOk_iff (now : Int) (options : TokenOptions) (credential : JwtCredential) :
    (∃ token, signedToken now options (.jwt credential) = .ok token) ↔
      (!credential.key.isEmpty && !credential.secret.isEmpty) = true := by
  simp [signedToken_eq_ok, signConsumer_eq_ok]

/-- The response to the grant of a credential, as a token. -/
def signedFrom (name : String) (now : Int) (options : TokenOptions) (r : Response) :
    Except Failure AccessToken :=
  (if r.isCreated then
    (AdminClient.decodeFrom JwtCredential.codec (c.admin.url (path name ++ "/jwt")) r.body).map .jwt
  else .error (.refused (c.admin.url (path name ++ "/jwt")) r.status r.body)) >>=
    signedToken now options

theorem signedFrom_eq_ok {name : String} {now : Int} {options : TokenOptions} {r : Response}
    {token : AccessToken} :
    c.signedFrom name now options r = .ok token ↔
      ∃ credential, newly? JwtCredential.codec r = some credential ∧
        signedToken now options (.jwt credential) = .ok token := by
  unfold signedFrom newly? Response.isCreated AdminClient.decodeFrom
  split
  · cases JwtCredential.codec.decode (Json.document r.body) <;>
      simp [Except.toOption, Except.mapError, Except.map, bind, Except.bind]
  · simp [bind, Except.bind]

/-- The response to the grant of a token. -/
def receivedFrom (settings : OAuth2Settings) (r : Response) : Except Failure AccessToken :=
  if r.isCreated then
    AdminClient.decodeFrom AccessToken.codec (c.gateway.tokenEndpoint settings.resource) r.body
  else .error (.refused (c.gateway.tokenEndpoint settings.resource) r.status r.body)

theorem createToken_of_jwt (hauth : c.auth = .jwt) {name : String} (hname : name ≠ "") (now : Int)
    (options : TokenOptions) :
    c.createToken now name options =
      ask (c.planned .post name ["jwt"]) (c.signedFrom name now options) := by
  have hexchange : ∀ material, c.exchange now material options =
      ofResult (signedToken now options material) := by
    intro material
    cases material with
    | jwt credential =>
      rw [exchange, signedToken]
      rcases signConsumer credential.key credential.secret options.audience options.span now with
        failure | value
      · exact ofResult_error_bind failure _
      · exact ofResult_ok_bind value _
    | oauth2 client =>
      unfold exchange
      rw [hauth]
      rfl
  unfold createToken
  rw [issueCredential_eq, hauth, funext hexchange]
  rw [← c.request_below hname "/jwt" (by decide) (by decide) .empty]
  exact ask_bind_ofResult _ _ _

theorem tokenEndpoint_eq (resource : String) :
    c.gateway.tokenEndpoint resource = c.tokenAddress resource := by
  rw [GatewaySettings.tokenEndpoint, GatewaySettings.root, tokenAddress,
    show "https" ++ "://" = "https://" by decide]

theorem createToken_of_oauth2 {settings : OAuth2Settings} (hauth : c.auth = .oauth2 settings)
    {name : String} (hname : name ≠ "") (now : Int) (options : TokenOptions) :
    c.createToken now name options =
      ask (c.planned .post name ["oauth2"] (.form [("name", name), ("client_id", name),
        ("client_secret", name), ("redirect_uris", settings.redirectUris)]))
        (c.admin.created (path name ++ "/oauth2")) >>= fun _ =>
      ask { method := .post, url := c.tokenAddress settings.resource,
            body := .form [("client_id", name), ("client_secret", name),
              ("grant_type", "client_credentials"), ("scope", settings.scope)] }
        (c.receivedFrom settings) := by
  have hexchange : c.exchange now (.oauth2 (.ofConsumer name)) options =
      c.requestToken (.ofConsumer name) settings := by
    unfold exchange
    rw [hauth]
  unfold createToken
  rw [issueCredential_eq, hauth]
  simp only [bind_assoc_eq, pure_bind_eq, hexchange, requestToken_eq, tokenEndpoint_eq]
  rw [← c.request_below hname "/oauth2" (by decide) (by decide)]
  rfl

theorem follows_createToken {name : String} (hname : name ≠ "") (now : Int)
    (options : TokenOptions) (replies : List Reply) :
    Follows (c.createToken now name options)
      (questions (answeredBy [200, 201, 409]) (c.application name) ++ [c.grant name]) replies := by
  unfold application grant
  cases hauth : c.auth with
  | jwt =>
    rw [c.createToken_of_jwt hauth hname]
    refine follows_ask (fun r => ?_) replies
    simp only [signedFrom_eq_ok]
    rw [exists_comm]
    simp only [exists_and_left, signedToken_isOk_iff, Option.any_eq_true]
  | oauth2 settings =>
    rw [c.createToken_of_oauth2 hauth hname]
    refine (follows_ask (created_isOk_iff c.admin _) replies).bind fun _ rest _ _ => ?_
    refine follows_ask (fun r => ?_) rest
    rw [Option.isSome_iff_exists]
    exact exists_congr fun token => newly?_eq_some _ _

/-- The reply that gives the token is the one to the grant. -/
theorem grants_of_createToken {name : String} (hname : name ≠ "") {now : Int} (hnow : IsTime now)
    {options : TokenOptions} {replies rest : List Reply} {token : AccessToken}
    (h : (c.createToken now name options replies).ended = some (.ok token, rest)) :
    ∃ r, replies[(c.application name).length]? = some (.ok r) ∧ c.Grants now options r token := by
  unfold application
  cases hauth : c.auth with
  | jwt =>
    rw [c.createToken_of_jwt hauth hname] at h
    obtain ⟨r, rfl, hjudge⟩ := ask_value (by rw [← h])
    obtain ⟨credential, hissued, hsignedToken⟩ := c.signedFrom_eq_ok.mp hjudge
    obtain ⟨value, hvalue, rfl⟩ := signedToken_eq_ok.mp hsignedToken
    obtain ⟨hsigned, htells⟩ := tells_of_signConsumer hnow hvalue
    exact ⟨r, rfl, .signed credential hauth hissued hsigned htells rfl⟩
  | oauth2 settings =>
    rw [c.createToken_of_oauth2 hauth hname] at h
    obtain ⟨_, mid, hcreated, hgrant⟩ := value_of_bind h
    obtain ⟨_, rfl, -⟩ := ask_value (by rw [← hcreated])
    obtain ⟨r, rfl, hjudge⟩ := ask_value (by rw [← hgrant])
    exact ⟨r, rfl, .received settings hauth ((newly?_eq_some _ _).mpr hjudge)⟩

/-! ## The user -/

theorem follows_addUser {name : String} (hname : name ≠ "") (groups : List String) (now : Int)
    (options : TokenOptions) (replies : List Reply) :
    Follows (c.addUser now name groups options) (c.userPlan name groups) replies := by
  rw [addUser_eq, userPlan, questions_append, List.append_assoc]
  refine (c.follows_enroll hname groups replies).bind fun _ rest _ _ => ?_
  have hpure := (c.follows_createToken hname now options rest).bind
    (f := fun token => pure ((⟨name, groups, c.auth.kind⟩ : Consumer), token))
    fun token rest' _ _ => follows_pure _ rest'
  rw [List.append_nil] at hpure
  exact hpure

/-- The user is the one that was asked for, and the token is given by the response to the grant. -/
theorem grants_of_addUser {name : String} (hname : name ≠ "") {groups : List String} {now : Int}
    (hnow : IsTime now) {options : TokenOptions} {replies rest : List Reply} {user : Consumer}
    {token : AccessToken}
    (h : (c.addUser now name groups options replies).ended = some (.ok (user, token), rest)) :
    user = { name, groups, kind := c.auth.kind } ∧
      ∃ r, replies[(c.enrollment name groups ++ c.application name).length]? = some (.ok r) ∧
        c.Grants now options r token := by
  rw [addUser_eq] at h
  obtain ⟨_, mid, henroll, hthen⟩ := value_of_bind h
  obtain ⟨granted, last, hgranted, hpure⟩ := value_of_bind hthen
  obtain ⟨rfl, rfl⟩ : (⟨name, groups, c.auth.kind⟩ : Consumer) = user ∧ granted = token := by
    obtain ⟨hvalue, -⟩ := Prod.mk.inj (Option.some.inj hpure)
    exact Prod.mk.inj (Except.ok.inj hvalue)
  obtain ⟨r, hr, hgrants⟩ := c.grants_of_createToken hname hnow hgranted
  -- the grant begins with the replies that the consumer and its groups have left
  rw [(c.follows_enroll hname groups replies).rest henroll, requests_questions,
    List.getElem?_drop, ← List.length_append] at hr
  exact ⟨rfl, r, hr, hgrants⟩

theorem length_userPlan (name : String) (groups : List String) :
    (requests (c.userPlan name groups)).length =
      (c.enrollment name groups ++ c.application name).length + 1 := by
  have hgrant : (requests [c.grant name]).length = 1 := by
    unfold grant
    cases c.auth <;> rfl
  rw [userPlan, requests_append, requests_questions, List.length_append, hgrant]

/-- To add a user is to send a prefix of its plan. Every request but the first is sent after a
response 200, 201 or 409 to the one before, and with enough replies there is an end. There is a user
exactly if all steps of the plan are met, and then it is the one that was asked for, and its token is
given by the response to the last request. -/
theorem addUser_follows_plan {name : String} (hname : name ≠ "") (groups : List String)
    (options : TokenOptions) {now : Int} (hnow : IsTime now) (replies : List Reply) :
    let plan := c.userPlan name groups
    let progress := c.addUser now name groups options replies
    progress.sent = reached plan replies ∧ progress.sent <+: requests plan ∧
    (∀ i, i + 1 < progress.sent.length →
      ∃ r, replies[i]? = some (.ok r) ∧ answeredBy [200, 201, 409] r = true) ∧
    (progress.ended = none → progress.sent.length = replies.length + 1) ∧
    (∀ rest, (∃ user, progress.ended = some (.ok user, rest)) ↔ passed plan replies = some rest) ∧
    ∀ user token rest, progress.ended = some (.ok (user, token), rest) →
      progress.sent = requests plan ∧ user = { name, groups, kind := c.auth.kind } ∧
      ∃ r, replies[(requests plan).length - 1]? = some (.ok r) ∧ c.Grants now options r token := by
  intro plan progress
  have hfollows : Follows (c.addUser now name groups options) plan replies :=
    c.follows_addUser hname groups now options replies
  have hsent : progress.sent = reached plan replies := hfollows.1
  have hprefix : progress.sent <+: requests plan := by
    rw [hsent]
    exact prefix_reached plan replies
  have hlength := c.length_userPlan name groups
  refine ⟨hsent, hprefix, ?_, ?_, fun rest => hfollows.value_iff, ?_⟩
  · intro i hi
    have hshort := hprefix.length_le
    rw [hlength] at hshort
    rw [hsent] at hi
    exact accepted_of_reached (by rw [← hsent] at hi; omega) hi
  · intro hwait
    have hprogress : c.addUser now name groups options replies = ⟨progress.sent, none⟩ := by
      rw [← hwait]
    exact ((c.orderly_addUser now name groups options).waits hprogress).1
  · intro user token rest hended
    have hpassed := hfollows.value_iff.mp ⟨_, hended⟩
    obtain ⟨huser, hgrants⟩ := c.grants_of_addUser hname hnow hended
    refine ⟨hsent.trans (reached_of_passed hpassed).1, huser, ?_⟩
    rw [hlength, Nat.add_sub_cancel]
    exact hgrants

/-- A group that is listed twice is joined twice, and the slash of a name is no slash of the path. A
token that the gateway issues is the one that its public address answers with. -/
theorem user_of_each_kind :
    (let c : Consumers := ⟨⟨"http://kong:8001/", "t"⟩, {}, .jwt⟩
    let progress := c.addUser 1700000000 "a/b" ["x", "x"] {} [.ok ⟨201, ""⟩, .ok ⟨200, ""⟩,
      .ok ⟨409, ""⟩, .ok ⟨201, "\x7b\"key\":\"k\",\"secret\":\"s\"\x7d"⟩]
    ∃ token, progress.ended = some (.ok (⟨"a/b", ["x", "x"], .jwt⟩, token), []) ∧
      progress.sent.map Request.url =
        ["http://kong:8001/consumers/a%2Fb", "http://kong:8001/consumers/a%2Fb/acls",
          "http://kong:8001/consumers/a%2Fb/acls", "http://kong:8001/consumers/a%2Fb/jwt"] ∧
      SignedWith "s" token.value) ∧
    (let c : Consumers := ⟨⟨"http://kong:8001/", "t"⟩, {}, .oauth2 {}⟩
    let progress := c.addUser 1700000000 "bob" [] {} [.ok ⟨200, ""⟩, .ok ⟨409, ""⟩,
      .ok ⟨200, "\x7b\"access_token\":\"x\",\"expires_in\":7200\x7d"⟩]
    progress.ended = some (.ok (⟨"bob", [], .oauth2⟩, ⟨"x", "bearer", 7200⟩), []) ∧
      progress.sent.map Request.url =
        ["http://kong:8001/consumers/bob", "http://kong:8001/consumers/bob/oauth2",
          "https://kong:8443/coredata/oauth2/token"]) := by
  have hnow : IsTime 1700000000 := ⟨by decide, by decide⟩
  constructor
  · intro c progress
    let issued : Response := ⟨201, "\x7b\"key\":\"k\",\"secret\":\"s\"\x7d"⟩
    let replies : List Reply := [.ok ⟨201, ""⟩, .ok ⟨200, ""⟩, .ok ⟨409, ""⟩, .ok issued]
    obtain ⟨-, -, -, -, hvalue, hgrants⟩ :=
      c.addUser_follows_plan (by decide : "a/b" ≠ "") ["x", "x"] {} hnow replies
    have hpassed : passed (c.userPlan "a/b" ["x", "x"]) replies = some [] := by decide +kernel
    have hnew : newly? JwtCredential.codec issued = some ⟨"k", "s"⟩ := by decide +kernel
    have hlast : replies[(requests (c.userPlan "a/b" ["x", "x"])).length - 1]? =
        some (.ok issued) := by decide +kernel
    obtain ⟨⟨user, token⟩, hended⟩ := (hvalue []).mpr hpassed
    obtain ⟨hsent, rfl, r, hr, hfrom⟩ := hgrants user token [] hended
    obtain rfl : r = issued := Except.ok.inj (Option.some.inj (hr.symm.trans hlast))
    refine ⟨token, hended, ?_, ?_⟩
    · change (c.addUser 1700000000 "a/b" ["x", "x"] {} replies).sent.map Request.url = _
      rw [hsent]
      decide +kernel
    · cases hfrom with
      | signed credential _ hissued hsigned =>
        rw [hnew] at hissued
        cases hissued
        exact hsigned
      | received settings hauth => cases hauth
  · intro c progress
    let issued : Response := ⟨200, "\x7b\"access_token\":\"x\",\"expires_in\":7200\x7d"⟩
    let replies : List Reply := [.ok ⟨200, ""⟩, .ok ⟨409, ""⟩, .ok issued]
    obtain ⟨-, -, -, -, hvalue, hgrants⟩ :=
      c.addUser_follows_plan (by decide : "bob" ≠ "") [] {} hnow replies
    have hpassed : passed (c.userPlan "bob" []) replies = some [] := by decide +kernel
    have hnew : newly? AccessToken.codec issued = some ⟨"x", "bearer", 7200⟩ := by decide +kernel
    have hlast : replies[(requests (c.userPlan "bob" [])).length - 1]? = some (.ok issued) := by
      decide +kernel
    obtain ⟨⟨user, token⟩, hended⟩ := (hvalue []).mpr hpassed
    obtain ⟨hsent, rfl, r, hr, hfrom⟩ := hgrants user token [] hended
    obtain rfl : r = issued := Except.ok.inj (Option.some.inj (hr.symm.trans hlast))
    have htoken : token = ⟨"x", "bearer", 7200⟩ := by
      cases hfrom with
      | signed credential hauth => cases hauth
      | received settings hauth hreceived =>
        rw [hnew] at hreceived
        exact (Option.some.inj hreceived).symm
    refine ⟨?_, ?_⟩
    · rw [← htoken]
      exact hended
    · change (c.addUser 1700000000 "bob" [] {} replies).sent.map Request.url = _
      rw [hsent]
      decide +kernel

end Consumers

end GatewayProvisioning
