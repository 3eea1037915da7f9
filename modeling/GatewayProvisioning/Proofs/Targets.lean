import GatewayProvisioning.Admin.Consumers
import GatewayProvisioning.Proofs.Parts
import GatewayProvisioning.Proofs.Segments

/-!
# Where requests about a name go

Requests about a consumer, a service, a route or any object by its id have that name as one segment of
their paths. An HTTP client reads the address of a request as a URL, which removes dot segments, so
what matters is the path of the URL that has been read.

The folder of an address is what an HTTP client reads if a slash follows it.
-/

namespace GatewayProvisioning

namespace Url

/-- The folder of a collection of words has the segments of the base and then the words. -/
theorem parse_collection {base : String} {words : List String} {b u : Url}
    (hb : parse (join base [] ++ "/") = .ok b) (hscheme : b.scheme = "http" ∨ b.scheme = "https")
    (hmarks : b.query = none ∧ b.fragment = none)
    (hwords : ∀ word ∈ words, IsWord word ∧ word ≠ "")
    (hu : parse (join base [String.ofList (slashed words)] ++ "/") = .ok u) :
    u = { b with path := .segments (b.folder ++ words ++ [""]) } := by
  have hall : ∀ word ∈ words ++ [""], IsWord word := by
    intro word hword
    rcases List.mem_append.mp hword with hword | hword
    · exact (hwords word hword).1
    · rw [List.mem_singleton.mp hword]
      exact isWord_empty
  have hchars : ∀ word ∈ words ++ [""], ∀ c ∈ word.toList, isWordChar c = true :=
    fun word hword => (hall word hword).chars
  have haddress : join base [String.ofList (slashed words)] ++ "/" =
      String.ofList (trimBase base ++ '/' :: slashed (words ++ [""])) := by
    apply String.toList_inj.mp
    by_cases hnil : words = []
    · rw [hnil, slashed, String.ofList_nil, join_empty]
      simp [slashed]
    · obtain ⟨hne, hfirst, hlast⟩ := slashed_ends
        (fun hhead => (hwords "" (List.mem_of_head? hhead)).2 rfl)
        (fun hlast => (hwords "" (List.mem_of_getLast? hlast)).2 rfl) hnil
        fun word hword => (hwords word hword).1.chars
      rw [join_row base hne hfirst hlast, slashed_append words hnil (by simp), String.toList_append,
        String.toList_ofList, String.toList_ofList]
      simp [slashed]
  have hbase : parse (String.ofList (trimBase base ++ ['/'])) = .ok b := by
    rw [← hb, join_nil]
    apply congrArg parse
    apply String.toList_inj.mp
    simp
  rw [haddress, parse_below hbase hscheme hmarks (isPathChar_slashed hchars),
    splitPath_slashed true (by simp) hchars, resolve_words _ (by simp) hall, List.reverse_reverse,
    Except.ok.injEq, ← List.append_assoc] at hu
  exact hu.symm

end Url

/-! ## Operations on a name -/

/-- An operation that has a name in the path of its request. -/
inductive Operation where
  | remove (collection : String)
  | createConsumer
  | joinGroup (group : String)
  | issueCredential
  | deleteConsumer
  | createEntry (entry : Gateway.Entry)
  | listServicePlugins
  | attachToService (plugin : String) (config : Url.Form)
  | attachToRoute (plugin : String) (config : Url.Form)

namespace Operation

open Dialogue Url

/-- The requests of an operation on a name. -/
def sent (c : Consumers) (name : String) (replies : List Reply) : Operation → List Request
  | remove collection => (c.admin.remove collection name replies).sent
  | createConsumer => (c.create name replies).sent
  | joinGroup group => (c.join name group replies).sent
  | issueCredential => (c.issueCredential name replies).sent
  | deleteConsumer => (c.delete name replies).sent
  | createEntry entry => (Provisioning.createEntry c.admin name entry replies).sent
  | listServicePlugins => (c.admin.get (servicePlugins name) replies).sent
  | attachToService plugin config =>
    (Provisioning.attach c.admin ⟨plugin, .service name, config⟩ replies).sent
  | attachToRoute plugin config =>
    (Provisioning.attach c.admin ⟨plugin, .route name, config⟩ replies).sent

/-- The collection that the name belongs to. -/
def collection : Operation → String
  | remove collection => collection
  | createConsumer | joinGroup _ | issueCredential | deleteConsumer => "consumers"
  | createEntry _ | listServicePlugins | attachToService .. => "services"
  | attachToRoute .. => "routes"

/-- The segments that follow the name. -/
def after (auth : AuthMethod) : Operation → List String
  | remove _ | createConsumer | deleteConsumer => []
  | joinGroup _ => ["acls"]
  | issueCredential => [auth.kind.name]
  | createEntry _ => ["routes"]
  | listServicePlugins | attachToService .. | attachToRoute .. => ["plugins"]

/-- On whatever replies, an operation sends a single request, whose path below the folder of the
collection is the name as one segment that is not empty, and then the fixed segments. -/
def Addresses (op : Operation) (c : Consumers) (name : String) (folder : Url) : Prop :=
  ∃ request segment, (∀ replies, op.sent c name replies = [request]) ∧
    segment ≠ "" ∧ percentDecode (Utf8.encode segment) = Utf8.encode name ∧
    Url.parse request.url = .ok { folder with
      path := .segments (folder.folder ++ segment :: op.after c.auth)
      query := none
      fragment := none }

theorem sent_of_send {α : Type} {request : Request} {f : Response → Dialogue α}
    (h : ∀ r replies, (f r replies).sent = []) (replies : List Reply) :
    ((send request >>= f) replies).sent = [request] := by
  rcases replies with _ | ⟨reason | response, rest⟩
  · rfl
  · rfl
  · rw [bind_of_ok (d := send request) rfl, h]
    rfl

theorem path_eq {path collection : String} {segments : List String}
    (h : path.toList = trimBase collection ++ '/' :: slashed segments) :
    path = String.ofList (trimBase collection ++ '/' :: slashed segments) := by
  apply String.toList_inj.mp
  rw [h, String.toList_ofList]

theorem objectPath_eq (collection id : String) :
    AdminClient.objectPath collection id =
      String.ofList (trimBase collection ++ '/' :: slashed [encodeSegment id]) := by
  apply path_eq
  unfold AdminClient.objectPath
  rw [String.toList_append, String.toList_append, String.toList_ofList, List.append_assoc]
  rfl

theorem consumers_slash : "consumers/".toList = trimBase "consumers" ++ ['/'] := by decide

theorem consumerPath_eq (name : String) :
    Consumers.path name = String.ofList (trimBase "consumers" ++ '/' :: slashed [encodeSegment name]) := by
  apply path_eq
  unfold Consumers.path
  rw [String.toList_append, consumers_slash, List.append_assoc]
  rfl

/-- A path of a collection, a name and one segment more. -/
theorem path_after {front collection name back last : String}
    (hfront : front.toList = trimBase collection ++ ['/']) (hback : back.toList = '/' :: last.toList) :
    front ++ encodeSegment name ++ back =
      String.ofList (trimBase collection ++ '/' :: slashed [encodeSegment name, last]) := by
  have hslashed : slashed [encodeSegment name, last] =
      (encodeSegment name).toList ++ '/' :: last.toList := slashed_cons _ (List.cons_ne_nil _ _)
  apply path_eq
  rw [String.toList_append, String.toList_append, hfront, hback, hslashed, List.append_assoc,
    List.append_assoc, List.singleton_append]

theorem services_slash : "services/".toList = trimBase "services" ++ ['/'] := by decide

theorem routes_slash : "routes/".toList = trimBase "routes" ++ ['/'] := by decide

theorem sent_send (request : Request) (replies : List Reply) :
    (send request replies).sent = [request] := by
  rcases replies with _ | ⟨reason | response, rest⟩ <;> rfl

/-- The kind of the credential is the last segment of the path. -/
theorem sent_issueCredential (c : Consumers) (name : String) :
    ∃ request, (∀ replies, (c.issueCredential name replies).sent = [request]) ∧
      request.url = join c.admin.base
        [String.ofList (trimBase "consumers" ++
          '/' :: slashed [encodeSegment name, c.auth.kind.name])] := by
  unfold Consumers.issueCredential
  cases c.auth with
  | jwt =>
    refine ⟨c.admin.request .post (Consumers.path name ++ "/jwt"), ?_, ?_⟩
    · exact sent_of_send fun r rest => by split <;> rfl
    · exact congrArg (join c.admin.base [·]) (path_after consumers_slash (by decide))
  | oauth2 settings =>
    refine ⟨{ c.admin.request .post (Consumers.path name ++ "/oauth2") with
      body := .form (Consumers.applicationForm name settings) }, ?_, ?_⟩
    · refine sent_of_send fun r rest => ?_
      rcases c.admin.created (Consumers.path name ++ "/oauth2") r with failure | x <;> rfl
    · have hlast : "/oauth2".toList = '/' :: "oauth2".toList := by decide
      exact congrArg (join c.admin.base [·]) (path_after consumers_slash hlast)

/-- The path of an operation is that of its collection, the name and the fixed segments. -/
theorem sent_eq (op : Operation) (c : Consumers) (name : String) :
    ∃ request, (∀ replies, op.sent c name replies = [request]) ∧
      request.url = join c.admin.base
        [String.ofList (trimBase op.collection ++
          '/' :: slashed (encodeSegment name :: op.after c.auth))] := by
  cases op with
  | remove collection =>
    refine ⟨c.admin.request .delete (AdminClient.objectPath collection name), ?_, ?_⟩
    · exact sent_of_send fun r rest => by split <;> rfl
    · exact congrArg (join c.admin.base [·]) (objectPath_eq collection name)
  | createConsumer =>
    refine ⟨c.admin.request .put (Consumers.path name), ?_, ?_⟩
    · exact sent_of_send fun r rest => rfl
    · exact congrArg (join c.admin.base [·]) (consumerPath_eq name)
  | joinGroup group =>
    refine ⟨{ c.admin.request .post (Consumers.path name ++ "/acls") with
      body := .form [("group", group)] }, ?_, ?_⟩
    · exact sent_of_send fun r rest => rfl
    · exact congrArg (join c.admin.base [·]) (path_after consumers_slash (by decide))
  | issueCredential => exact sent_issueCredential c name
  | deleteConsumer =>
    refine ⟨c.admin.request .delete (AdminClient.objectPath "consumers" name), ?_, ?_⟩
    · exact sent_of_send fun r rest => by split <;> rfl
    · exact congrArg (join c.admin.base [·]) (objectPath_eq "consumers" name)
  | createEntry entry =>
    refine ⟨{ c.admin.request .post (Provisioning.serviceEntries name) with
      body := .json (Provisioning.entryBody entry) }, ?_, ?_⟩
    · exact sent_of_send fun r rest => rfl
    · exact congrArg (join c.admin.base [·]) (path_after services_slash (by decide))
  | listServicePlugins =>
    refine ⟨c.admin.request .get (servicePlugins name), ?_, ?_⟩
    · exact sent_send _
    · exact congrArg (join c.admin.base [·]) (path_after services_slash (by decide))
  | attachToService plugin config =>
    refine ⟨{ c.admin.request .post (servicePlugins name) with
      body := .form (Plugin.form ⟨plugin, .service name, config⟩) }, ?_, ?_⟩
    · exact sent_of_send fun r rest => rfl
    · exact congrArg (join c.admin.base [·]) (path_after services_slash (by decide))
  | attachToRoute plugin config =>
    refine ⟨{ c.admin.request .post (routePlugins name) with
      body := .form (Plugin.form ⟨plugin, .route name, config⟩) }, ?_, ?_⟩
    · exact sent_of_send fun r rest => rfl
    · exact congrArg (join c.admin.base [·]) (path_after routes_slash (by decide))

/-! ## Where they go -/

theorem isWord_after (op : Operation) (auth : AuthMethod) : ∀ word ∈ op.after auth, IsWord word := by
  have hacls : IsWord "acls" := isWord_of_fixed (by decide) (by decide) (by decide)
  have hjwt : IsWord "jwt" := isWord_of_fixed (by decide) (by decide) (by decide)
  have hoauth2 : IsWord "oauth2" := isWord_of_fixed (by decide) (by decide) (by decide)
  have hroutes : IsWord "routes" := isWord_of_fixed (by decide) (by decide) (by decide)
  have hplugins : IsWord "plugins" := isWord_of_fixed (by decide) (by decide) (by decide)
  cases op <;> simp only [after, List.mem_singleton, List.not_mem_nil, forall_eq, false_implies,
    implies_true, hacls, hroutes, hplugins]
  cases auth <;> simp only [AuthMethod.kind, CredentialKind.name, hjwt, hoauth2]

theorem after_ne_empty (op : Operation) (auth : AuthMethod) : ∀ word ∈ op.after auth, word ≠ "" := by
  cases op <;> simp [after]
  cases auth <;> simp [AuthMethod.kind, CredentialKind.name]

theorem slashed_chars (op : Operation) (auth : AuthMethod) (name : String) :
    ∀ segment ∈ encodeSegment name :: op.after auth, ∀ c ∈ segment.toList, isWordChar c = true := by
  intro segment hsegment
  rcases List.mem_cons.mp hsegment with rfl | hsegment
  · exact isWordChar_encodeSegment name
  · exact (op.isWord_after auth segment hsegment).chars

/-- The address of an operation on a name that is not empty. -/
theorem sent_url (op : Operation) (c : Consumers) {name : String} (hname : name ≠ "") :
    ∃ request, (∀ replies, op.sent c name replies = [request]) ∧
      request.url = String.ofList ((join c.admin.base [op.collection]).toList ++
        '/' :: slashed (encodeSegment name :: op.after c.auth)) := by
  obtain ⟨request, hsent, hurl⟩ := op.sent_eq c name
  have hne : ∀ segment ∈ encodeSegment name :: op.after c.auth, segment ≠ "" := by
    intro segment hsegment
    rcases List.mem_cons.mp hsegment with rfl | hsegment
    · exact fun h => hname (encodeSegment_eq_empty h)
    · exact op.after_ne_empty c.auth segment hsegment
  obtain ⟨hnil, hfirst, hlast⟩ := slashed_ends
    (fun hhead => hne "" (List.mem_of_head? hhead) rfl)
    (fun hlast => hne "" (List.mem_of_getLast? hlast) rfl) (by simp) (op.slashed_chars c.auth name)
  refine ⟨request, hsent, ?_⟩
  rw [hurl, join_below _ _ hnil hfirst hlast]

/-- Where the name has left no segment, only an empty one can stand in its place. -/
theorem segment_eq_empty {front folder words : List String} {segment : String}
    (h : front ++ (if words = [] then [""] else words) = folder ++ segment :: words)
    (hlength : front.length ≤ folder.length) : segment = "" := by
  by_cases hwords : words = []
  · rw [if_pos hwords, hwords] at h
    exact (List.cons.inj (List.append_inj_right' h rfl)).1.symm
  · rw [if_neg hwords] at h
    have hcount := congrArg List.length h
    simp only [List.length_append, List.length_cons] at hcount
    omega

/-- Below the folder of its collection an operation addresses the name and nothing else, unless the
name is empty or made of one or two dots, or the folder has a query or a fragment. -/
theorem addresses_iff (op : Operation) (c : Consumers) (name : String) {folder : Url}
    (hfolder : Url.parse (join c.admin.base [op.collection] ++ "/") = .ok folder)
    (hscheme : folder.scheme = "http" ∨ folder.scheme = "https") :
    op.Addresses c name folder ↔
      folder.query = none ∧ folder.fragment = none ∧ name ≠ "" ∧ name ≠ "." ∧ name ≠ ".." := by
  have hbase : Url.parse (String.ofList ((join c.admin.base [op.collection]).toList ++ ['/'])) =
      .ok folder := by
    rw [← hfolder]
    apply congrArg Url.parse
    apply String.toList_inj.mp
    simp
  have hchars := op.slashed_chars c.auth name
  have hpath := isPathChar_slashed hchars
  constructor
  · rintro ⟨request, segment, hsent, hne, hdecoded, hparse⟩
    -- an empty name would have an empty segment
    have hname : name ≠ "" := by
      rintro rfl
      apply hne
      exact Utf8.encode_inj (percentDecode_eq_nil hdecoded)
    obtain ⟨request', hsent', hurl⟩ := op.sent_url c hname
    have hsame : request' = request := by
      have h := (hsent' []).symm.trans (hsent [])
      exact List.cons.inj h |>.1
    rw [← hsame, hurl] at hparse
    -- a mark in the folder would still be there below it
    have hmarks : folder.query = none ∧ folder.fragment = none := by
      by_cases hmarks : folder.query = none ∧ folder.fragment = none
      · exact hmarks
      · exact absurd ⟨rfl, rfl⟩ (parse_below_marked hbase hscheme hmarks hpath hparse)
    rw [parse_below hbase hscheme hmarks hpath, Except.ok.injEq] at hparse
    have hsegments : resolve folder.folder.reverse
        (splitPath true (slashed (encodeSegment name :: op.after c.auth))) =
        folder.folder ++ segment :: op.after c.auth := by
      have h := congrArg Url.path hparse
      simpa using h
    rw [splitPath_slashed true (by simp) hchars, List.map_cons] at hsegments
    have hwords := op.isWord_after c.auth
    -- dots leave no segment of their own behind
    refine ⟨hmarks.1, hmarks.2, hname, ?_, ?_⟩
    · rintro rfl
      have hdot := resolve_dot folder.folder.reverse hwords
      exact hne (segment_eq_empty (hdot.symm.trans hsegments) (by simp))
    · rintro rfl
      have hdots := resolve_doubleDot folder.folder.reverse hwords
      exact hne (segment_eq_empty (hdots.symm.trans hsegments) (by simp))
  · rintro ⟨hquery, hfragment, hname, hdot, hdots⟩
    obtain ⟨request, hsent, hurl⟩ := op.sent_url c hname
    refine ⟨request, encodeSegment name, hsent, fun h => hname (encodeSegment_eq_empty h),
      percentDecode_encodeSegment name, ?_⟩
    have hwords : ∀ word ∈ encodeSegment name :: op.after c.auth, IsWord word := by
      intro word hword
      rcases List.mem_cons.mp hword with rfl | hword
      · exact isWord_encodeSegment hdot hdots
      · exact op.isWord_after c.auth word hword
    rw [hurl, parse_below hbase hscheme ⟨hquery, hfragment⟩ hpath,
      splitPath_slashed true (by simp) hchars, resolve_words _ (by simp) hwords, List.reverse_reverse,
      hquery, hfragment]

/-- Whatever the name is, the request of an operation goes to the segments of its collection, the name
as one segment and the fixed segments, except for three names: the empty one, and those of one and
two dots. The folder of a collection of words lies that many words below the folder of the base. -/
theorem addresses_name (op : Operation) (c : Consumers) (name : String) {folder : Url}
    (hfolder : Url.parse (join c.admin.base [op.collection] ++ "/") = .ok folder)
    (hscheme : folder.scheme = "http" ∨ folder.scheme = "https") :
    (op.Addresses c name folder ↔
      folder.query = none ∧ folder.fragment = none ∧ name ≠ "" ∧ name ≠ "." ∧ name ≠ "..") ∧
    ∀ (base : Url) (words : List String), Url.parse (join c.admin.base [] ++ "/") = .ok base →
      base.scheme = "http" ∨ base.scheme = "https" → base.query = none ∧ base.fragment = none →
      (∀ word ∈ words, IsWord word ∧ word ≠ "") → op.collection = String.ofList (slashed words) →
      folder = { base with path := .segments (base.folder ++ words ++ [""]) } := by
  refine ⟨op.addresses_iff c name hfolder hscheme, ?_⟩
  intro base words hbase hweb hmarks hwords hcollection
  rw [hcollection] at hfolder
  exact parse_collection hbase hweb hmarks hwords hfolder

/-- The consumers of a gateway on the same machine. -/
def localConsumers : Consumers where
  admin := ⟨"http://[::1]:8001/admin", "token"⟩
  gateway := {}
  auth := .jwt

/-- The folder of these consumers. -/
def localFolder : Url where
  scheme := "http"
  host := some (.ipv6 [0, 0, 0, 0, 0, 0, 0, 1])
  port := some 8001
  path := .segments ["admin", "consumers", ""]

theorem localFolder_parse :
    Url.parse (join localConsumers.admin.base ["consumers"] ++ "/") = .ok localFolder := rfl

/-- A name with slashes and dots stays in its segment. -/
theorem joinGroup_climbing_name :
    (joinGroup "admin").Addresses localConsumers "../../routes" localFolder :=
  ((joinGroup "admin").addresses_name localConsumers "../../routes" localFolder_parse (.inl rfl)).1.mpr
    ⟨rfl, rfl, by decide, by decide, by decide⟩

/-- The removal of an object with an empty id goes to the collection itself, and with two dots as id
to what is above it. -/
theorem remove_dots_and_nothing :
    ¬(remove "consumers").Addresses localConsumers "" localFolder ∧
    ¬(remove "consumers").Addresses localConsumers ".." localFolder ∧
    (∃ request, (∀ replies, (remove "consumers").sent localConsumers "" replies = [request]) ∧
      Url.parse request.url =
        .ok { localFolder with path := .segments ["admin", "consumers"] }) ∧
    ∃ request, (∀ replies, (remove "consumers").sent localConsumers ".." replies = [request]) ∧
      Url.parse request.url = .ok { localFolder with path := .segments ["admin", ""] } := by
  refine ⟨fun h => ?_, fun h => ?_, ?_, ?_⟩
  · have hname := ((remove "consumers").addresses_iff _ _ localFolder_parse (.inl rfl)).mp h
    exact hname.2.2.1 rfl
  · have hname := ((remove "consumers").addresses_iff _ _ localFolder_parse (.inl rfl)).mp h
    exact hname.2.2.2.2 rfl
  · obtain ⟨request, hsent, hurl⟩ := (remove "consumers").sent_eq localConsumers ""
    refine ⟨request, hsent, ?_⟩
    rw [hurl]
    rfl
  · obtain ⟨request, hsent, hurl⟩ := (remove "consumers").sent_eq localConsumers ".."
    refine ⟨request, hsent, ?_⟩
    rw [hurl]
    rfl

end Operation

end GatewayProvisioning
