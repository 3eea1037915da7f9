import GatewayProvisioning.Gateway.Certificate
import GatewayProvisioning.Gateway.Consumer
import GatewayProvisioning.Gateway.Listing
import GatewayProvisioning.Proofs.Demands

/-!
# Answers of the gateway

Credentials, tokens, pages of listings and the pair of the secret store are read from the members of
their names. In which order these stand, and which others stand among them, does not matter; a member
that is missing without a default, that stands there twice or that is of another kind does.
-/

namespace GatewayProvisioning

open Document
open Document.Codec
open Json (IsTextOf valuesOf)

/-! ## What members say -/

variable {members : List (String × Json)}

/-- Members that give a signing credential. -/
structure JwtCredential.SaidBy (members : List (String × Json)) (c : JwtCredential) : Prop where
  key : valuesOf "key" members = [.text c.key]
  secret : valuesOf "secret" members = [.text c.secret]

/-- Members that give a token; its type is bearer and its lifetime zero if they do not say. -/
structure AccessToken.SaidBy (members : List (String × Json)) (t : AccessToken) : Prop where
  value : valuesOf "access_token" members = [.text t.value]
  tokenType : valuesOf "token_type" members = [.text t.tokenType] ∨
    (valuesOf "token_type" members = [] ∧ t.tokenType = "bearer")
  expiresIn : valuesOf "expires_in" members = [.nat t.expiresIn.toNat] ∨
    (valuesOf "expires_in" members = [] ∧ t.expiresIn = 0)

/-- Members that give an object of a listing. -/
structure IdEntry.SaidBy (members : List (String × Json)) (e : IdEntry) : Prop where
  id : valuesOf "id" members = [.text e.id]

/-- Members that give a plugin of a listing, with the empty name if they do not say. -/
structure PluginEntry.SaidBy (members : List (String × Json)) (e : PluginEntry) : Prop where
  id : valuesOf "id" members = [.text e.id]
  name : valuesOf "name" members = [.text e.name] ∨
    (valuesOf "name" members = [] ∧ e.name = "")

/-- Members that give a page, each entry by members of its own. There are no entries and no link if
they do not say. -/
structure Page.SaidBy {α : Type} (entry : List (String × Json) → α → Prop)
    (members : List (String × Json)) (p : Page α) : Prop where
  data : (∃ rows, valuesOf "data" members = [.list (rows.map .record)] ∧
      List.Forall₂ entry rows p.data) ∨
    (valuesOf "data" members = [] ∧ p.data = [])
  next : valuesOf "next" members = [.textOrNull p.next] ∨
    (valuesOf "next" members = [] ∧ p.next = none)

/-- Members that give a certificate and its key. -/
structure CertPair.SaidBy (members : List (String × Json)) (p : CertPair) : Prop where
  cert : valuesOf "cert" members = [.text p.cert]
  key : valuesOf "key" members = [.text p.key]

/-- Members of which one holds those of the pair, as in the secret store. -/
def CertPair.HeldBy (members : List (String × Json)) (p : CertPair) : Prop :=
  ∃ inner, valuesOf "data" members = [.record inner] ∧ p.SaidBy inner

theorem JwtCredential.SaidBy.understood {c : JwtCredential} (h : c.SaidBy members) :
    JwtCredential.codec.Understands (.record members) c :=
  understands_record (by decide) (c.key, c.secret, ())
    ⟨Field.told_required h.key (understands_text c.key),
      Field.told_required h.secret (understands_text c.secret), trivial⟩

theorem AccessToken.SaidBy.understood {t : AccessToken} (h : t.SaidBy members) :
    AccessToken.codec.Understands (.record members) t :=
  understands_record (by decide) (t.value, t.tokenType, t.expiresIn, ())
    ⟨Field.told_required h.value (understands_text t.value),
      Field.told_defaulted h.tokenType (understands_text t.tokenType),
      Field.told_defaulted h.expiresIn (understands_uint64 t.expiresIn), trivial⟩

theorem IdEntry.SaidBy.understood {e : IdEntry} (h : e.SaidBy members) :
    IdEntry.codec.Understands (.record members) e :=
  understands_record (by decide) (e.id, ())
    ⟨Field.told_required h.id (understands_text e.id), trivial⟩

theorem PluginEntry.SaidBy.understood {e : PluginEntry} (h : e.SaidBy members) :
    PluginEntry.codec.Understands (.record members) e :=
  understands_record (by decide) (e.id, e.name, ())
    ⟨Field.told_required h.id (understands_text e.id),
      Field.told_defaulted h.name (understands_text e.name), trivial⟩

theorem Page.SaidBy.understood {α : Type} {codec : Codec α}
    {entry : List (String × Json) → α → Prop}
    (hentry : ∀ row x, entry row x → codec.Understands (.record row) x) {p : Page α}
    (h : p.SaidBy entry members) : (Page.codec codec).Understands (.record members) p := by
  have hdata : (Field.defaulted "data" codec.list []).Told members p.data := by
    rcases h.data with ⟨rows, hrows, heach⟩ | hmissing
    · refine Field.told_defaulted (.inl hrows) (understands_list ?_)
      exact List.forall₂_map_left_iff.mpr (heach.imp hentry)
    · exact .inr ⟨hmissing.1, congrArg some hmissing.2.symm⟩
  refine understands_record ?_ (p.data, p.next, ())
    ⟨hdata, Field.told_defaulted h.next (understands_optionalText p.next), trivial⟩
  show ["data", "next"].Nodup
  decide

theorem CertPair.SaidBy.understood {p : CertPair} (h : p.SaidBy members) :
    CertPair.codec.Understands (.record members) p :=
  understands_record (by decide) (p.cert, p.key, ())
    ⟨Field.told_required h.cert (understands_text p.cert),
      Field.told_required h.key (understands_text p.key), trivial⟩

theorem CertPair.HeldBy.understood {p : CertPair} (h : p.HeldBy members) :
    CertPair.secretCodec.Understands (.record members) p := by
  obtain ⟨inner, hdata, hpair⟩ := h
  exact understands_record (by decide) (p, ())
    ⟨Field.told_required hdata hpair.understood, trivial⟩

/-! ## What is asked of members -/

/-- The demands of a signing credential. -/
def JwtCredential.demands : List Demand :=
  [.text "key" true, .text "secret" true]

/-- The demands of a token. -/
def AccessToken.demands : List Demand :=
  [.text "access_token" true, .text "token_type" false,
    ⟨"expires_in", false, Node.OtherThan [.whole]⟩]

/-- The demands of a listed id. -/
def IdEntry.demands : List Demand :=
  [.text "id" true]

/-- The demands of a listed plugin. -/
def PluginEntry.demands : List Demand :=
  [.text "id" true, .text "name" false]

/-- The demands of a page whose entries make demands of their own. -/
def Page.demands (entry : List Demand) : List Demand :=
  [⟨"data", false, fun v => v.OtherThan [.list] ∨
      ∃ rows ending, v = .list rows ending ∧ ∃ row ∈ rows, row.Breaks entry⟩,
    ⟨"next", false, Node.OtherThan [.null, .text]⟩]

/-- The demands of a certificate with its key. -/
def CertPair.demands : List Demand :=
  [.text "cert" true, .text "key" true]

/-- The demands of the record of the secret store. -/
def CertPair.secretDemands : List Demand :=
  [⟨"data", true, Node.Breaks CertPair.demands⟩]

variable {v : Node}

theorem JwtCredential.refuses (h : v.Breaks demands) : codec.Refuses v :=
  refuses_record (by decide) h ⟨Field.makes_requiredText _, Field.makes_requiredText _, rfl⟩

theorem AccessToken.refuses (h : v.Breaks demands) : codec.Refuses v :=
  refuses_record (by decide) h
    ⟨Field.makes_requiredText _, Field.makes_defaultedText _ _,
      ⟨rfl, by decide, fun _ => refuses_uint64⟩, rfl⟩

theorem IdEntry.refuses (h : v.Breaks demands) : codec.Refuses v :=
  refuses_record (by decide) h ⟨Field.makes_requiredText _, rfl⟩

theorem PluginEntry.refuses (h : v.Breaks demands) : codec.Refuses v :=
  refuses_record (by decide) h
    ⟨Field.makes_requiredText _, Field.makes_defaultedText _ _, rfl⟩

theorem Page.refuses {α : Type} {entry : Codec α} {asked : List Demand}
    (hentry : ∀ row : Node, row.Breaks asked → entry.Refuses row) (h : v.Breaks (demands asked)) :
    (codec entry).Refuses v := by
  have hdata : ∀ v : Node, (v.OtherThan [.list] ∨
      ∃ rows ending, v = .list rows ending ∧ ∃ row ∈ rows, row.Breaks asked) →
      entry.list.Refuses v := by
    rintro v (hother | ⟨rows, ending, rfl, row, hrow, hbreaks⟩)
    · exact refuses_list hother
    · exact readMembers_refused ending ⟨row, hrow, hentry row hbreaks⟩
  refine refuses_record ?_ h
    ⟨⟨rfl, (fun h => by cases h), hdata⟩, ⟨rfl, by decide, fun _ => refuses_optionalText⟩, rfl⟩
  show ["data", "next"].Nodup
  decide

theorem CertPair.refuses (h : v.Breaks demands) : codec.Refuses v :=
  refuses_record (by decide) h ⟨Field.makes_requiredText _, Field.makes_requiredText _, rfl⟩

theorem CertPair.refuses_secret (h : v.Breaks secretDemands) : secretCodec.Refuses v :=
  refuses_record (by decide) h ⟨⟨rfl, fun _ => rfl, fun _ => CertPair.refuses⟩, rfl⟩

/-! ## Answers as texts -/

/-- A codec decodes every text of members to the value that they tell, and fails on every text that
breaks one of the demands. -/
structure Document.Codec.ReadsByName {α : Type} (codec : Codec α)
    (tells : List (String × Json) → α → Prop) (demands : List Demand) : Prop where
  decodes : ∀ members text, IsTextOf (.record members) text → ∀ x, tells members x →
    codec.decode (Json.document text) = .ok x
  fails : ∀ text, (Json.document text).root.Breaks demands →
    ∃ e, codec.decode (Json.document text) = .error e

theorem Document.Codec.readsByName {α : Type} {codec : Codec α}
    {tells : List (String × Json) → α → Prop} {demands : List Demand}
    (hread : ∀ members x, tells members x → codec.Understands (.record members) x)
    (hrefuse : ∀ v : Node, v.Breaks demands → codec.Refuses v) :
    codec.ReadsByName tells demands where
  decodes members text htext x htells := by
    obtain ⟨node, hdocument, hmeans⟩ := htext.document
    rw [hdocument]
    exact decode_root (hread members x htells node hmeans)
  fails text hbreaks := (hrefuse _ hbreaks).decode

/-- The answers of the gateway are decoded by the names of their members, in any order and among any
others. A member that is missing without a default, that stands there twice or that is of another
kind makes the decoding fail. -/
theorem answers_read_by_name :
    (∀ members text, IsTextOf (.record members) text →
      ∃ pairs, Json.document text = ⟨.record pairs .closed none, false⟩ ∧
        ∀ name, Json.MeansEach (Json.valuesOf name members) (Document.valuesOf name pairs)) ∧
      JwtCredential.codec.ReadsByName JwtCredential.SaidBy JwtCredential.demands ∧
      AccessToken.codec.ReadsByName AccessToken.SaidBy AccessToken.demands ∧
      (Page.codec IdEntry.codec).ReadsByName (Page.SaidBy IdEntry.SaidBy)
        (Page.demands IdEntry.demands) ∧
      (Page.codec PluginEntry.codec).ReadsByName (Page.SaidBy PluginEntry.SaidBy)
        (Page.demands PluginEntry.demands) ∧
      CertPair.secretCodec.ReadsByName CertPair.HeldBy CertPair.secretDemands := by
  refine ⟨fun _ _ => document_valuesOf, ?_, ?_, ?_, ?_, ?_⟩
  · exact readsByName (fun _ _ => JwtCredential.SaidBy.understood) fun _ => JwtCredential.refuses
  · exact readsByName (fun _ _ => AccessToken.SaidBy.understood) fun _ => AccessToken.refuses
  · exact readsByName
      (fun _ _ => Page.SaidBy.understood fun _ _ => IdEntry.SaidBy.understood)
      fun _ => Page.refuses fun _ => IdEntry.refuses
  · exact readsByName
      (fun _ _ => Page.SaidBy.understood fun _ _ => PluginEntry.SaidBy.understood)
      fun _ => Page.refuses fun _ => PluginEntry.refuses
  · exact readsByName (fun _ _ => CertPair.HeldBy.understood) fun _ => CertPair.refuses_secret

/-! ## A token among other members -/

/-- The lifetime comes before the token, a member that nobody asks for stands between them, and the
type is left out. -/
def scopedToken : String :=
  " \x7b\"expires_in\": 7,\"scopes\":[\"a\",\x7b\x7d],\"access_token\":\"t\"\x7d\n"

theorem isTextOf_scopedToken : IsTextOf (.record [("expires_in", .nat 7),
    ("scopes", .list [.text "a", .record []]), ("access_token", .text "t")]) scopedToken := by
  have hblank : Json.Blank [' '] := by simp [Json.Blank, Json.isSpace]
  have hlifetime : Json.FieldSpelling ("expires_in", .nat 7) _ :=
    .mk (Json.textSpelling_plain (by decide)) Json.blank_nil hblank (.natural 7)
  have hscopes : Json.FieldSpelling ("scopes", .list [.text "a", .record []]) _ :=
    .mk (Json.textSpelling_plain (by decide)) Json.blank_nil Json.blank_nil
      (.list Json.blank_nil (.more (.text (Json.textSpelling_plain (by decide))) Json.blank_nil
        Json.blank_nil (.last (.emptyRecord Json.blank_nil) Json.blank_nil)))
  have hvalue : Json.FieldSpelling ("access_token", .text "t") _ :=
    .mk (Json.textSpelling_plain (by decide)) Json.blank_nil Json.blank_nil
      (.text (Json.textSpelling_plain (by decide)))
  refine ⟨[' '], _, ['\n'], hblank, by simp [Json.Blank, Json.isSpace],
    .record Json.blank_nil (.more hlifetime Json.blank_nil Json.blank_nil
      (.more hscopes Json.blank_nil Json.blank_nil (.last hvalue Json.blank_nil))), ?_⟩
  decide +kernel

/-- The kinds of the values under a name, if a document is a record. -/
def Document.Node.kindsUnder (name : String) : Node → List (Option ValueKind)
  | .record pairs .. => (Document.valuesOf name pairs).map Node.kind?
  | _ => []

/-- The lifetime is no whole number. -/
def fractionalLifetime : String :=
  "\x7b\"expires_in\":3.5,\"access_token\":\"t\"\x7d"

theorem breaks_fractionalLifetime :
    (Json.document fractionalLifetime).root.Breaks AccessToken.demands := by
  have hfloat : some .float ∈ (Json.document fractionalLifetime).root.kindsUnder "expires_in" := by
    decide +kernel
  rcases hroot : (Json.document fractionalLifetime).root with _ | _ | _ | _ | _ | _ | _ | ⟨pairs, _, _⟩
  all_goals
    rw [hroot] at hfloat
    simp only [Node.kindsUnder, List.not_mem_nil] at hfloat
  obtain ⟨v, hv, hkind⟩ := List.mem_map.mp hfloat
  refine ⟨pairs, _, _, rfl, ⟨"expires_in", false, Node.OtherThan [.whole]⟩, ?_, ?_⟩
  · simp [AccessToken.demands]
  · exact .inr (.inr ⟨v, hv, .float, hkind, by decide⟩)

/-! ## A page with entries of its own -/

/-- The entries come last, and those of the second one do not say a name. -/
def pluginPage : String :=
  "\x7b\"next\":null,\"data\":[\x7b\"name\":\"cors\",\"id\":\"p1\"\x7d,\x7b\"id\":\"p2\"\x7d]\x7d"

theorem isTextOf_pluginPage : IsTextOf (.record [("next", .null),
    ("data", .list [.record [("name", .text "cors"), ("id", .text "p1")],
      .record [("id", .text "p2")]])]) pluginPage := by
  have hmember : ∀ name value : String, name.toList.all Json.isPlain →
      value.toList.all Json.isPlain → Json.FieldSpelling (name, .text value) _ :=
    fun name value hname hvalue =>
      .mk (Json.textSpelling_plain hname) Json.blank_nil Json.blank_nil
        (.text (Json.textSpelling_plain hvalue))
  have hfirst : Json.Spelling (.record [("name", .text "cors"), ("id", .text "p1")]) _ :=
    .record Json.blank_nil (.more (hmember "name" "cors" (by decide) (by decide)) Json.blank_nil
      Json.blank_nil (.last (hmember "id" "p1" (by decide) (by decide)) Json.blank_nil))
  have hsecond : Json.Spelling (.record [("id", .text "p2")]) _ :=
    .record Json.blank_nil (.last (hmember "id" "p2" (by decide) (by decide)) Json.blank_nil)
  have hnext : Json.FieldSpelling ("next", .null) _ :=
    .mk (Json.textSpelling_plain (by decide)) Json.blank_nil Json.blank_nil .null
  have hdata : Json.FieldSpelling ("data", .list [.record [("name", .text "cors"), ("id", .text "p1")],
      .record [("id", .text "p2")]]) _ :=
    .mk (Json.textSpelling_plain (by decide)) Json.blank_nil Json.blank_nil
      (.list Json.blank_nil (.more hfirst Json.blank_nil Json.blank_nil
        (.last hsecond Json.blank_nil)))
  refine ⟨[], _, [], Json.blank_nil, Json.blank_nil,
    .record Json.blank_nil (.more hnext Json.blank_nil Json.blank_nil
      (.last hdata Json.blank_nil)), ?_⟩
  decide +kernel

/-- The members of the lists under a name, if a document is a record. -/
def Document.Node.rowsUnder (name : String) : Node → List Node
  | .record pairs .. => (Document.valuesOf name pairs).flatMap fun v =>
    match v with
    | .list rows _ => rows
    | _ => []
  | _ => []

/-- Whether a value is a record without a member of a name. -/
def Document.Node.lacks (name : String) : Node → Bool
  | .record pairs .. => (Document.valuesOf name pairs).isEmpty
  | _ => false

theorem Document.Node.exists_of_mem_rowsUnder {name : String} {v row : Node}
    (h : row ∈ v.rowsUnder name) : ∃ pairs ending badKey rows inner,
      v = .record pairs ending badKey ∧ .list rows inner ∈ Document.valuesOf name pairs ∧
        row ∈ rows := by
  cases v with
  | record pairs ending badKey =>
    obtain ⟨value, hvalue, hrow⟩ := List.mem_flatMap.mp h
    cases value with
    | list rows inner => exact ⟨pairs, ending, badKey, rows, inner, rfl, hvalue, hrow⟩
    | _ => cases hrow
  | _ => cases h

/-- The second entry has no id. -/
def pageWithoutId : String :=
  "\x7b\"data\":[\x7b\"id\":\"p1\"\x7d,\x7b\"name\":\"cors\"\x7d]\x7d"

theorem breaks_pageWithoutId :
    (Json.document pageWithoutId).root.Breaks (Page.demands PluginEntry.demands) := by
  have hrows : ((Json.document pageWithoutId).root.rowsUnder "data").any (Node.lacks "id") = true := by
    decide +kernel
  obtain ⟨row, hrow, hlacks⟩ := List.any_eq_true.mp hrows
  obtain ⟨pairs, _, _, rows, _, hroot, hlist, hmember⟩ := Node.exists_of_mem_rowsUnder hrow
  have hbreaks : row.Breaks PluginEntry.demands := by
    cases row with
    | record own _ _ =>
      have hmissing : Document.valuesOf "id" own = [] := List.isEmpty_iff.mp hlacks
      exact ⟨own, _, _, rfl, .text "id" true, List.mem_cons_self, .inl ⟨rfl, hmissing⟩⟩
    | _ => cases hlacks
  exact ⟨pairs, _, _, hroot, _, List.mem_cons_self, .inr (.inr ⟨_, hlist, .inr ⟨rows, _, rfl, row,
    hmember, hbreaks⟩⟩)⟩

/-- A token and a page are read from the texts with all that is asked for, and none from the others. -/
theorem token_and_page_read_by_name :
    AccessToken.codec.decode (Json.document scopedToken) = .ok ⟨"t", "bearer", 7⟩ ∧
      (∃ e, AccessToken.codec.decode (Json.document fractionalLifetime) = .error e) ∧
      (Page.codec PluginEntry.codec).decode (Json.document pluginPage) =
        .ok ⟨[⟨"p1", "cors"⟩, ⟨"p2", ""⟩], none⟩ ∧
      ∃ e, (Page.codec PluginEntry.codec).decode (Json.document pageWithoutId) = .error e := by
  obtain ⟨-, -, htoken, -, hpage, -⟩ := answers_read_by_name
  refine ⟨?_, htoken.fails fractionalLifetime breaks_fractionalLifetime, ?_,
    hpage.fails pageWithoutId breaks_pageWithoutId⟩
  · exact htoken.decodes _ scopedToken isTextOf_scopedToken ⟨"t", "bearer", 7⟩
      ⟨rfl, .inr ⟨rfl, rfl⟩, .inl rfl⟩
  · have hfirst : PluginEntry.SaidBy [("name", .text "cors"), ("id", .text "p1")] ⟨"p1", "cors"⟩ :=
      ⟨rfl, .inl rfl⟩
    have hsecond : PluginEntry.SaidBy [("id", .text "p2")] ⟨"p2", ""⟩ := ⟨rfl, .inr ⟨rfl, rfl⟩⟩
    exact hpage.decodes _ pluginPage isTextOf_pluginPage ⟨[⟨"p1", "cors"⟩, ⟨"p2", ""⟩], none⟩
      ⟨.inl ⟨_, rfl, .cons hfirst (.cons hsecond .nil)⟩, .inl rfl⟩

end GatewayProvisioning
