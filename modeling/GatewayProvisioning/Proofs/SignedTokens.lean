import GatewayProvisioning.Proofs.Base64Text
import GatewayProvisioning.Proofs.Cutting
import GatewayProvisioning.Proofs.Lossless
import GatewayProvisioning.Token.Admin
import GatewayProvisioning.Token.Consumer

/-!
# Tokens, taken apart

A token is three parts with dots between them, and no part holds a dot. Its header names the
algorithm, its claims are read as they were signed, and so the signed text tells apart what it was
made from.
-/

namespace GatewayProvisioning

open Document

/-! ## Numbers with a sign -/

namespace Document.Codec

/-- The number of sixty-four bits of a numeral. -/
def readInteger (n : Decimal.Numeral) : Except ReadError Int64 := do
  match ← readNumber n with
  | .natural k =>
    if k < 0x8000000000000000 then return .ofInt k
    else throw (.wrongValue (.number (.natural k)) "i64")
  | .negative k => return .ofInt (.negSucc k)
  | .float x => throw (.wrongType (.number (.float x)) "i64")

/-- Numbers of sixty-four bits with a sign. -/
def int64 : Codec Int64 where
  read v :=
    match meaning v with
    | .number n => readInteger n
    | v => .error (v.mismatch "i64")
  write n := .int n.toInt

theorem exists_numeral (n : Int64) :
    ∃ numeral, Json.ReadsAs (.int n.toInt) (.number numeral) ∧ readInteger numeral = .ok n := by
  have hbound := n.toInt_lt
  have hleast := n.le_toInt
  have hback : Int64.ofInt n.toInt = n := Int64.ofInt_toInt n
  cases hn : n.toInt with
  | ofNat k =>
    rw [hn] at hbound hback
    have hk : k < 0x8000000000000000 := by
      rw [Int.ofNat_eq_natCast] at hbound
      omega
    refine ⟨_, Json.readsAs_natural k, ?_⟩
    rw [readInteger, readNumber_natural (Nat.lt_trans hk (by decide))]
    simp only [bind, Except.bind, if_pos hk]
    exact congrArg Except.ok hback
  | negSucc k =>
    rw [hn] at hleast hback
    have hk : k < 0x8000000000000000 := by
      rw [Int.negSucc_eq] at hleast
      omega
    refine ⟨_, Json.readsAs_negative k, ?_⟩
    rw [readInteger, readNumber_negative hk]
    exact congrArg Except.ok hback

theorem lossless_int64 : int64.Lossless := fun n => by
  obtain ⟨numeral, hwritten, hread⟩ := exists_numeral n
  exact ⟨_, hwritten, hread⟩

theorem lossless_optionalInt64 : int64.optional.Lossless :=
  lossless_optional fun n => by
    obtain ⟨numeral, hwritten, hread⟩ := exists_numeral n
    exact ⟨.number numeral, hwritten, hread, rfl⟩

end Document.Codec

/-- A field that is written only if it has a value. -/
def Document.Field.unless {α : Type} (name : String) (codec : Codec α) : Field (Option α) :=
  { name, codec := codec.optional, fallback := some none, omits := Option.isNone }

theorem Document.Field.Lossless.unless {α : Type} {codec : Codec α} {name : String}
    (h : codec.optional.Lossless) : (Field.unless name codec).Lossless where
  codec := h
  omitted x homits := by
    cases x with
    | none => rfl
    | some x => cases homits

namespace Token

/-! ## Times -/

/-- A time that a claim can hold. -/
def IsTime (t : Int) : Prop :=
  0 ≤ t ∧ t ≤ lastTime

/-- The whole seconds are added up to the last time. -/
theorem expiry_eq {now : Int} (h : IsTime now) (span : Duration) :
    expiry now span = min (now + span.seconds) lastTime := by
  obtain ⟨hleast, -⟩ := h
  unfold expiry
  omega

namespace IsTime

variable {t : Int}

theorem toInt_ofInt (h : IsTime t) : (Int64.ofInt t).toInt = t := by
  obtain ⟨hleast, hlast⟩ := h
  apply Int64.toInt_ofInt_of_le
  · omega
  · exact Int.lt_of_le_of_lt hlast (by decide)

theorem write (h : IsTime t) : Codec.int64.write (.ofInt t) = .int t :=
  congrArg Json.int h.toInt_ofInt

theorem expiry (h : IsTime t) (span : Duration) : IsTime (expiry t span) := by
  rw [expiry_eq h]
  obtain ⟨hleast, hlast⟩ := h
  exact ⟨by omega, by omega⟩

end IsTime

/-! ## Claims in documents -/

namespace ConsumerClaims

/-- The members of the claims of a consumer. -/
def fields :=
  Fields.field (.required "account" .text) <|
  .field (.required "iss" .text) <|
  .field (.unless "aud" .text) <|
  .field (.required "iat" .int64) <|
  .field (.unless "exp" .int64) .none

/-- Claims from the values of their members. -/
def ofFields : String × String × Option String × Int64 × Option Int64 × Unit → ConsumerClaims
  | (account, issuer, audience, issuedAt, expires, ()) =>
    ⟨account, issuer, audience, issuedAt.toInt, expires.map Int64.toInt⟩

/-- The values of the members of claims. -/
def toFields (c : ConsumerClaims) :
    String × String × Option String × Int64 × Option Int64 × Unit :=
  (c.account, c.issuer, c.audience, .ofInt c.issuedAt, c.expires.map Int64.ofInt, ())

/-- Claims of consumers in documents. -/
def codec : Codec ConsumerClaims :=
  (Codec.record "struct ConsumerClaims" fields).along ofFields toFields

theorem fields_lossless : fields.Lossless where
  each := ⟨.required Codec.lossless_text, .required Codec.lossless_text,
    .unless Codec.lossless_optionalText, .required Codec.lossless_int64,
    .unless Codec.lossless_optionalInt64, trivial⟩
  distinct := by decide

/-- Claims whose times a claim can hold. -/
structure Timed (c : ConsumerClaims) : Prop where
  issued : IsTime c.issuedAt
  expires : ∀ t, c.expires = some t → IsTime t

variable {c : ConsumerClaims}

theorem ofFields_toFields (h : c.Timed) : ofFields (toFields c) = c := by
  obtain ⟨account, issuer, audience, issuedAt, expires⟩ := c
  have hissued := h.issued.toInt_ofInt
  cases expires with
  | none => simp_all [ofFields, toFields]
  | some t =>
    have hexpires := (h.expires t rfl).toInt_ofInt
    simp_all [ofFields, toFields]

/-- The claims are signed as they are written in documents. -/
theorem json_eq (h : c.Timed) : c.json = .record (fields.write (toFields c)) := by
  obtain ⟨account, issuer, audience, issuedAt, expires⟩ := c
  have hissued := h.issued.write
  have hexpires : memberIf "exp" Codec.int64.write (expires.map Int64.ofInt) =
      memberIf "exp" .int expires := by
    cases expires with
    | none => rfl
    | some t => exact congrArg (fun v => [("exp", v)]) (h.expires t rfl).write
  have hwritten : fields.write (toFields ⟨account, issuer, audience, issuedAt, expires⟩) =
      [("account", .text account), ("iss", .text issuer)] ++ memberIf "aud" .text audience ++
        [("iat", Codec.int64.write (.ofInt issuedAt))] ++
        memberIf "exp" Codec.int64.write (expires.map Int64.ofInt) := by
    cases audience <;> cases expires <;> rfl
  rw [hwritten, hissued, hexpires]
  rfl

end ConsumerClaims

namespace AdminClaims

/-- Claims of administrators in documents. -/
def codec : Codec AdminClaims :=
  (Codec.record "struct AdminClaims" <|
      .field (.required "iss" .text) <|
      .field (.required "iat" .int64) <|
      .field (.required "nbf" .int64) <|
      .field (.required "exp" .int64) .none).along
    (fun (issuer, issuedAt, notBefore, expires, ()) =>
      ⟨issuer, issuedAt.toInt, notBefore.toInt, expires.toInt⟩)
    (fun c => (c.issuer, .ofInt c.issuedAt, .ofInt c.notBefore, .ofInt c.expires, ()))

/-- Claims whose times a claim can hold. -/
structure Timed (c : AdminClaims) : Prop where
  issued : IsTime c.issuedAt
  notBefore : IsTime c.notBefore
  expires : IsTime c.expires

variable {c : AdminClaims}

theorem returns (h : c.Timed) : codec.Returns c := by
  apply Codec.returns_record
  · exact ⟨⟨.required Codec.lossless_text, .required Codec.lossless_int64,
      .required Codec.lossless_int64, .required Codec.lossless_int64, trivial⟩, by decide⟩
  · simp only [h.issued.toInt_ofInt, h.notBefore.toInt_ofInt, h.expires.toInt_ofInt]

theorem write_eq (h : c.Timed) : codec.write c = c.json := by
  have hwritten : codec.write c = .record [("iss", .text c.issuer),
      ("iat", Codec.int64.write (.ofInt c.issuedAt)),
      ("nbf", Codec.int64.write (.ofInt c.notBefore)),
      ("exp", Codec.int64.write (.ofInt c.expires))] := rfl
  rw [hwritten, h.issued.write, h.notBefore.write, h.expires.write]
  rfl

end AdminClaims

/-! ## Parts -/

/-- The parts of a token between its dots. -/
def parts (token : String) : List String :=
  (Text.splitWhere (· == '.') token.toList).map String.ofList

/-- The document that a part holds in base64. -/
def document? (part : String) : Option Whole :=
  (Base64.decodeUrl? part).map Json.documentOfBytes

theorem encodeUrl_no_dot (bytes : Bytes) :
    ∀ c ∈ (Base64.encodeUrl bytes).toList, (c == '.') = false := by
  have hall : Base64.urlAlphabet.all (fun c => !(c == '.')) = true := by decide +kernel
  intro c hc
  simpa using List.all_eq_true.mp hall c (Base64.encodeUrl_chars bytes c hc)

theorem parts_withSignature (algorithm : Algorithm) (claims : Json) (signature : Bytes) :
    parts (withSignature (signedText algorithm claims) signature) =
      [part (header algorithm), part claims, Base64.encodeUrl signature] := by
  have hchars : (withSignature (signedText algorithm claims) signature).toList =
      (part (header algorithm)).toList ++ '.' :: ((part claims).toList ++
        '.' :: (Base64.encodeUrl signature).toList) := by
    simp [withSignature, signedText]
  have hpart : ∀ v, Text.splitWhere (· == '.') (part v).toList = [(part v).toList] :=
    fun v => Text.splitWhere_of_none (encodeUrl_no_dot _)
  unfold parts
  rw [hchars, Text.splitWhere_append rfl, Text.splitWhere_append rfl, hpart, hpart,
    Text.splitWhere_of_none (encodeUrl_no_dot _)]
  simp

theorem document?_part {v : Json} {node : Node} (h : Json.ReadsAs v node) :
    document? (part v) = some ⟨node, false⟩ := by
  unfold document? part
  rw [Base64.decodeUrl?_encodeUrl, Option.map_some, h.documentOfBytes]

/-- What the header of a token is read as. -/
def headerNode (algorithm : Algorithm) : Node :=
  .record [(.ofText "typ", .ofText "JWT"), (.ofText "alg", .ofText algorithm.name)] .closed none

theorem document?_header (algorithm : Algorithm) :
    document? (part (header algorithm)) = some ⟨headerNode algorithm, false⟩ := by
  have hname : Json.writtenQuotation algorithm.name = .ofText algorithm.name := by
    apply Json.writtenQuotation_plain
    cases algorithm <;> decide
  have hread : Json.ReadsAs (header algorithm) (.record
      [(.text (Json.writtenQuotation "typ"), .text (Json.writtenQuotation "JWT")),
        (.text (Json.writtenQuotation "alg"), .text (Json.writtenQuotation algorithm.name))]
      .closed none) :=
    Json.readsAs_record (.cons ⟨rfl, Json.readsAs_text _⟩ (.cons ⟨rfl, Json.readsAs_text _⟩ .nil))
  rw [Json.writtenQuotation_plain (by decide), Json.writtenQuotation_plain (by decide),
    Json.writtenQuotation_plain (by decide), hname] at hread
  exact document?_part hread

/-- The names of the members of a record. -/
def memberNames : Node → List String
  | .record members _ _ => members.filterMap fun m => (m.1.readText "a string").toOption
  | _ => []

theorem memberNames_record {members : List (String × Json)} {pairs : List (Node × Node)}
    (h : List.Forall₂ Json.ReadsAsField members pairs) (ending : Ending) (badKey : Option Node) :
    memberNames (.record pairs ending badKey) = members.map (·.1) := by
  induction h with
  | nil => rfl
  | @cons member pair members pairs hmember _ ih =>
    have hname : (pair.1.readText "a string").toOption = some member.1 := by
      rw [hmember.key, readText_written]
      rfl
    simp only [memberNames] at ih ⊢
    rw [List.filterMap_cons, hname, ih, List.map_cons]

/-! ## Signed claims -/

/-- The claims of a consumer's token are read as they were signed, and a claim without a value is not
there. -/
theorem ConsumerClaims.exists_document {c : ConsumerClaims} (h : c.Timed) :
    ∃ w, document? (part c.json) = some w ∧ ConsumerClaims.codec.decode w = .ok c ∧
      ("aud" ∈ memberNames w.root ↔ c.audience.isSome = true) ∧
      ("exp" ∈ memberNames w.root ↔ c.expires.isSome = true) := by
  obtain ⟨pairs, hpairs, hread⟩ : ∃ pairs,
      List.Forall₂ Json.ReadsAsField (fields.write (toFields c)) pairs ∧
        ConsumerClaims.codec.read (.record pairs .closed none) = .ok c :=
    Codec.read_record fields_lossless (ofFields_toFields h)
  have hwritten := Json.readsAs_record hpairs
  rw [← json_eq h] at hwritten
  have hnames : memberNames (.record pairs .closed none) = (fields.write (toFields c)).map (·.1) :=
    memberNames_record hpairs .closed none
  refine ⟨_, document?_part hwritten, Codec.decode_root hread, ?_, ?_⟩
  all_goals
    rw [hnames]
    obtain ⟨account, issuer, audience, issuedAt, expires⟩ := c
    cases audience <;> cases expires <;>
      simp [fields, toFields, Fields.write, Field.required, Field.unless]

/-- Different claims are different parts. -/
theorem ConsumerClaims.eq_of_part {c other : ConsumerClaims} (h : c.Timed) (hother : other.Timed)
    (hpart : part c.json = part other.json) : c = other := by
  obtain ⟨w, hw, hread, -⟩ := ConsumerClaims.exists_document h
  obtain ⟨w', hw', hread', -⟩ := ConsumerClaims.exists_document hother
  rw [hpart, hw', Option.some.injEq] at hw
  rw [hw, hread, Except.ok.injEq] at hread'
  exact hread'

theorem AdminClaims.exists_document {c : AdminClaims} (h : c.Timed) :
    ∃ w, document? (part c.json) = some w ∧ AdminClaims.codec.decode w = .ok c := by
  obtain ⟨node, hwritten, hread⟩ := AdminClaims.returns h
  rw [AdminClaims.write_eq h] at hwritten
  exact ⟨_, document?_part hwritten, Codec.decode_root hread⟩

theorem consumerClaims_timed (key : String) (audience : Option String) (ttl : Option Duration)
    {now : Int} (h : IsTime now) : (consumerClaims key audience ttl now).Timed where
  issued := h
  expires t ht := by
    obtain ⟨span, -, rfl⟩ := Option.map_eq_some_iff.mp ht
    exact h.expiry span

theorem adminClaims_timed (issuer : String) (span : Duration) {now : Int} (h : IsTime now) :
    (adminClaims issuer span now).Timed :=
  ⟨h, h, h.expiry span⟩

theorem signConsumer_eq_ok {key secret : String} {audience : Option String} {ttl : Option Duration}
    {now : Int} {token : String} :
    signConsumer key secret audience ttl now = .ok token ↔ key ≠ "" ∧ secret ≠ "" ∧
      withSignature (signedText .hs256 (consumerClaims key audience ttl now).json)
        (hmacSha256 (Utf8.encode secret)
          (Utf8.encode (signedText .hs256 (consumerClaims key audience ttl now).json))) = token := by
  unfold signConsumer
  by_cases hkey : key = ""
  · simp [hkey]
  · by_cases hsecret : secret = ""
    · simp [hsecret]
    · simp [hkey, hsecret]

theorem signAdmin_eq_ok {algorithm : AdminAlgorithm} {pem : Bytes} {issuer : String}
    {span : Duration} {now : Int} {token : String}
    (h : signAdmin algorithm pem issuer span now = .ok token) :
    ∃ signature, token =
      withSignature (signedText algorithm.general (adminClaims issuer span now).json) signature := by
  unfold signAdmin at h
  by_cases hissuer : issuer.isEmpty = true
  · rw [if_pos hissuer] at h
    cases h
  · rw [if_neg hissuer] at h
    rcases hkey : keyText algorithm pem with fault | key
    · rw [hkey] at h
      cases h
    · rw [hkey] at h
      rcases hsignature : signatureOf algorithm key (Utf8.encode
        (signedText algorithm.general (adminClaims issuer span now).json)) with fault | signature
      · simp only [bind, Except.bind, hsignature] at h
        cases h
      · simp only [bind, Except.bind, hsignature] at h
        exact ⟨signature, (Except.ok.inj h).symm⟩

/-- A token of a consumer is taken apart into what it was signed from. Its text has three parts in
base64 without filling characters: the header, claims that are read as those of the call, and the
keyed digest of the other two. Two calls with the same signed text have the same claims. The claims
of an administrator's token are those of its call, too. -/
theorem tokens_tell_claims {key secret : String} (hkey : key ≠ "") (hsecret : secret ≠ "")
    (audience : Option String) (ttl : Option Duration) {now : Int} (hnow : IsTime now) :
    (∃ token header claims signature,
      signConsumer key secret audience ttl now = .ok token ∧
      parts token = [header, claims, signature] ∧
      (∀ part ∈ parts token, ∀ c ∈ part.toList, c ∈ Base64.urlAlphabet) ∧
      document? header = some ⟨headerNode .hs256, false⟩ ∧
      (∃ w, document? claims = some w ∧
        ConsumerClaims.codec.decode w = .ok
          { account := key, issuer := key, audience := audience.filter (!·.isEmpty), issuedAt := now,
            expires := ttl.map fun span => min (now + span.seconds) lastTime } ∧
        ("aud" ∈ memberNames w.root ↔ ∃ a, audience = some a ∧ a ≠ "") ∧
        ("exp" ∈ memberNames w.root ↔ ttl.isSome = true)) ∧
      Base64.decodeUrl? signature =
        some (hmacSha256 (Utf8.encode secret) (Utf8.encode (header ++ "." ++ claims))) ∧
      ∀ key' secret' audience' ttl' now' token', IsTime now' →
        signConsumer key' secret' audience' ttl' now' = .ok token' →
        (parts token').take 2 = [header, claims] →
        key' = key ∧ audience'.filter (!·.isEmpty) = audience.filter (!·.isEmpty) ∧ now' = now ∧
          ttl'.map (expiry now') = ttl.map (expiry now)) ∧
    ∀ algorithm pem issuer span token, signAdmin algorithm pem issuer span now = .ok token →
      ∃ header claims signature w,
        parts token = [header, claims, signature] ∧
        document? header = some ⟨headerNode algorithm.general, false⟩ ∧
        document? claims = some w ∧
        AdminClaims.codec.decode w = .ok
          { issuer, issuedAt := now, notBefore := now,
            expires := min (now + span.seconds) lastTime } := by
  constructor
  · have hclaims : consumerClaims key audience ttl now =
        { account := key, issuer := key, audience := audience.filter (!·.isEmpty), issuedAt := now,
          expires := ttl.map fun span => min (now + span.seconds) lastTime } := by
      rw [consumerClaims, funext (expiry_eq hnow)]
    refine ⟨_, _, _, _, signConsumer_eq_ok.mpr ⟨hkey, hsecret, rfl⟩, parts_withSignature _ _ _, ?_,
      document?_header _, ?_, Base64.decodeUrl?_encodeUrl _, ?_⟩
    · rw [parts_withSignature]
      intro part hpart
      simp only [List.mem_cons, List.not_mem_nil, or_false] at hpart
      rcases hpart with rfl | rfl | rfl
      all_goals exact Base64.encodeUrl_chars _
    · obtain ⟨w, hw, hread, haud, hexp⟩ :=
        ConsumerClaims.exists_document (consumerClaims_timed key audience ttl hnow)
      refine ⟨w, hw, hread.trans (congrArg Except.ok hclaims), haud.trans ?_, hexp.trans ?_⟩
      · cases audience with
        | none => simp [consumerClaims]
        | some a => simp [consumerClaims, Option.filter]
      · simp [consumerClaims]
    · intro key' secret' audience' ttl' now' token' hnow' htoken htwo
      obtain ⟨-, -, rfl⟩ := signConsumer_eq_ok.mp htoken
      rw [parts_withSignature] at htwo
      have hpart := (List.cons.inj (List.cons.inj htwo).2).1
      have hsame := ConsumerClaims.eq_of_part (consumerClaims_timed key' audience' ttl' hnow')
        (consumerClaims_timed key audience ttl hnow) hpart
      simp only [consumerClaims, ConsumerClaims.mk.injEq] at hsame
      obtain ⟨hkeys, -, haudiences, hnows, hexpiries⟩ := hsame
      exact ⟨hkeys, haudiences, hnows, hexpiries⟩
  · intro algorithm pem issuer span token htoken
    obtain ⟨signature, rfl⟩ := signAdmin_eq_ok htoken
    obtain ⟨w, hw, hread⟩ := AdminClaims.exists_document (adminClaims_timed issuer span hnow)
    refine ⟨_, _, _, w, parts_withSignature _ _ _, document?_header _, hw, ?_⟩
    rw [hread, adminClaims, expiry_eq hnow]

/-- A lifetime of all seconds that there are ends with the last time. -/
theorem tokens_tell_claims_saturated :
    ∃ token header claims signature w,
      signConsumer "clé" "s" (some "admin") (some ⟨0xFFFFFFFFFFFFFFFF, 0⟩) 1700000000 = .ok token ∧
      parts token = [header, claims, signature] ∧ document? claims = some w ∧
      ConsumerClaims.codec.decode w =
        .ok ⟨"clé", "clé", some "admin", 1700000000, some lastTime⟩ := by
  obtain ⟨⟨token, header, claims, signature, htoken, hparts, -, -, ⟨w, hw, hread, -⟩, -⟩, -⟩ :=
    tokens_tell_claims (show "clé" ≠ "" by decide) (show "s" ≠ "" by decide) (some "admin")
      (some ⟨0xFFFFFFFFFFFFFFFF, 0⟩) (show IsTime 1700000000 from ⟨by decide, by decide⟩)
  exact ⟨token, header, claims, signature, w, htoken, hparts, hw, hread⟩

end Token

end GatewayProvisioning
