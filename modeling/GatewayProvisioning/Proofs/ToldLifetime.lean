import GatewayProvisioning.Admin.Consumers
import GatewayProvisioning.Proofs.Dialogue
import GatewayProvisioning.Proofs.SignedTokens

/-!
# The lifetime that is told with a token

A token that a consumer signs itself is handed out with a lifetime in seconds, where zero stands for a
token that does not end. The lifetime is counted from the span that was asked for, and the claims from
the same span and the clock. Here the two are compared: they agree exactly if the span has a whole
second and ends before the last time that a claim can hold.
-/

namespace GatewayProvisioning

open Dialogue

/-! ## What a signed token tells -/

namespace Token

/-- A token that has been signed with a secret: its header names the algorithm, and its third part is
the keyed digest of the other two. -/
def SignedWith (secret token : String) : Prop :=
  ∃ header claims signature, parts token = [header, claims, signature] ∧
    document? header = some ⟨headerNode .hs256, false⟩ ∧
    Base64.decodeUrl? signature =
      some (hmacSha256 (Utf8.encode secret) (Utf8.encode (header ++ "." ++ claims)))

/-- The document of the claims of a token. -/
def claimsDocument? (token : String) : Option Document.Whole :=
  (parts token)[1]?.bind document?

/-- A token tells claims if they are read from it. It has a member `exp` only if they end. -/
def Tells (token : String) (claims : ConsumerClaims) : Prop :=
  ∃ w, claimsDocument? token = some w ∧ ConsumerClaims.codec.decode w = .ok claims ∧
    ("exp" ∈ memberNames w.root ↔ claims.expires.isSome = true)

/-- What a consumer has signed is verified with its secret, and tells the claims of the call. -/
theorem tells_of_signConsumer {key secret token : String} {audience : Option String}
    {span : Option Duration} {now : Int} (hnow : IsTime now)
    (h : signConsumer key secret audience span now = .ok token) :
    SignedWith secret token ∧ Tells token (consumerClaims key audience span now) := by
  obtain ⟨-, -, rfl⟩ := signConsumer_eq_ok.mp h
  have hparts := parts_withSignature .hs256 (consumerClaims key audience span now).json
    (hmacSha256 (Utf8.encode secret)
      (Utf8.encode (signedText .hs256 (consumerClaims key audience span now).json)))
  constructor
  · refine ⟨_, _, _, hparts, document?_header _, ?_⟩
    rw [Base64.decodeUrl?_encodeUrl, signedText]
  · obtain ⟨w, hw, hread, -, hexp⟩ :=
      ConsumerClaims.exists_document (consumerClaims_timed key audience span hnow)
    refine ⟨w, ?_, hread, hexp⟩
    rw [claimsDocument?, hparts, List.getElem?_cons_succ, List.getElem?_cons_zero,
      Option.bind_some, hw]

end Token

namespace Consumers

open Token

/-! ## The lifetime and the claims -/

/-- The lifetime that is told is that of the claims: zero if they have no end, and otherwise the time
from their issue to their end. -/
structure TellsLifetime (told : UInt64) (claims : ConsumerClaims) : Prop where
  endless : told = 0 ↔ claims.expires = none
  lasts : ∀ t, claims.expires = some t → (told.toNat : Int) = t - claims.issuedAt

theorem lifetime_toNat {span : Duration} (h : span.seconds < UInt64.size) :
    (lifetime (some span)).toNat = span.seconds :=
  UInt64.toNat_ofNat_of_lt' h

/-- The parts of a second are not told, and the claims end with the last time at the latest. -/
theorem tellsLifetime_iff (key : String) (audience : Option String) {span : Option Duration}
    (hspan : ∀ d, span = some d → d.seconds < UInt64.size) {now : Int} (hnow : IsTime now) :
    TellsLifetime (lifetime span) (consumerClaims key audience span now) ↔
      ∀ d, span = some d → 0 < d.seconds ∧ now + d.seconds ≤ lastTime := by
  cases span with
  | none =>
    constructor
    · intro _ d hd
      cases hd
    · intro _
      exact ⟨⟨fun _ => rfl, fun _ => rfl⟩, fun t ht => by cases ht⟩
  | some d =>
    have hseconds := lifetime_toNat (hspan d rfl)
    have hends : (consumerClaims key audience (some d) now).expires =
        some (min (now + d.seconds) lastTime) := by
      rw [← expiry_eq hnow]
      rfl
    have hzero : lifetime (some d) = 0 ↔ d.seconds = 0 := by
      rw [← UInt64.toNat_inj, hseconds]
      rfl
    constructor
    · -- a token that ends is not told to be endless, and its time is not cut short
      intro h d' hd'
      cases hd'
      have hlasts := h.lasts _ hends
      have hendless := h.endless.not.mpr (by rw [hends]; simp)
      rw [hzero] at hendless
      rw [hseconds] at hlasts
      change (d.seconds : Int) = min (now + d.seconds) lastTime - now at hlasts
      omega
    · intro h
      obtain ⟨hpos, hlast⟩ := h d rfl
      constructor
      case endless =>
        rw [hzero, hends]
        constructor
        · omega
        · intro hnone
          cases hnone
      case lasts =>
        intro t ht
        rw [hends] at ht
        cases ht
        rw [hseconds]
        change (d.seconds : Int) = min (now + d.seconds) lastTime - now
        omega

/-! ## The exchange of a credential -/

variable (c : Consumers)

/-- Nothing is asked of the gateway: a credential for signing becomes a token that tells the claims of
the call, and the lifetime is that of the span. -/
theorem exchange_jwt {credential : JwtCredential} (hkey : credential.key ≠ "")
    (hsecret : credential.secret ≠ "") (options : TokenOptions) {now : Int} (hnow : IsTime now)
    (replies : List Reply) :
    ∃ token, c.exchange now (.jwt credential) options replies =
        ⟨[], some (.ok ⟨token, "bearer", lifetime options.span⟩, replies)⟩ ∧
      SignedWith credential.secret token ∧
      Tells token (consumerClaims credential.key options.audience options.span now) := by
  obtain ⟨token, htoken⟩ : ∃ token, signConsumer credential.key credential.secret options.audience
      options.span now = .ok token := ⟨_, signConsumer_eq_ok.mpr ⟨hkey, hsecret, rfl⟩⟩
  refine ⟨token, ?_, tells_of_signConsumer hnow htoken⟩
  rw [exchange, htoken, ofResult_ok_bind]
  rfl

/-- A credential for signing becomes a token whose claims are issued now and end with the span, or
with the last time if the span goes beyond it. The lifetime that is told is the whole seconds of the
span. It agrees with the claims exactly if there is no span, or one that has a whole second and ends
with the last time or before it. -/
theorem exchange_tells_lifetime_iff {credential : JwtCredential} (hkey : credential.key ≠ "")
    (hsecret : credential.secret ≠ "") (options : TokenOptions)
    (hspan : ∀ d, options.span = some d → d.seconds < UInt64.size) {now : Int} (hnow : IsTime now)
    (replies : List Reply) :
    ∃ token claims,
      c.exchange now (.jwt credential) options replies = ⟨[], some (.ok token, replies)⟩ ∧
      Tells token.value claims ∧ claims.issuedAt = now ∧
      claims.expires = options.span.map (fun d => min (now + d.seconds) lastTime) ∧
      token.expiresIn.toNat = (options.span.map Duration.seconds).getD 0 ∧
      (TellsLifetime token.expiresIn claims ↔
        ∀ d, options.span = some d → 0 < d.seconds ∧ now + d.seconds ≤ lastTime) := by
  obtain ⟨token, hexchange, -, htells⟩ := c.exchange_jwt hkey hsecret options hnow replies
  refine ⟨_, _, hexchange, htells, rfl, ?_, ?_, tellsLifetime_iff _ _ hspan hnow⟩
  · rw [consumerClaims, funext (expiry_eq hnow)]
  · rcases hoption : options.span with _ | d
    · rfl
    · exact lifetime_toNat (hspan d hoption)

/-- An hour is told as an hour, and its half second is left out on both sides. -/
theorem hour_told_as_signed :
    ∃ token claims,
      (⟨⟨"http://kong:8001", "t"⟩, {}, .jwt⟩ : Consumers).exchange 1700000000 (.jwt ⟨"clé", "s"⟩)
        { audience := some "edge", span := some ⟨3600, 500000000⟩ } [] =
          ⟨[], some (.ok token, [])⟩ ∧
      Tells token.value claims ∧ claims.expires = some 1700003600 ∧ token.expiresIn.toNat = 3600 ∧
      TellsLifetime token.expiresIn claims := by
  have hkey : (⟨"clé", "s"⟩ : JwtCredential).key ≠ "" := by decide
  have hnow : IsTime 1700000000 := ⟨by decide, by decide⟩
  obtain ⟨token, claims, hexchange, htells, -, hends, htold, hagrees⟩ :=
    exchange_tells_lifetime_iff ⟨⟨"http://kong:8001", "t"⟩, {}, .jwt⟩ hkey (by decide)
      { audience := some "edge", span := some ⟨3600, 500000000⟩ }
      (fun d hd => by cases hd; decide) hnow []
  refine ⟨token, claims, hexchange, htells, hends, htold, hagrees.mpr fun d hd => ?_⟩
  cases hd
  decide

/-- Half a second is told as a token without end, although the token ends at once, and a span beyond
the last time is told in full, although the token ends with that time. -/
theorem half_second_told_endless :
    (∃ token claims,
      (⟨⟨"http://kong:8001", "t"⟩, {}, .jwt⟩ : Consumers).exchange 1700000000 (.jwt ⟨"k", "s"⟩)
        { span := some ⟨0, 500000000⟩ } [] = ⟨[], some (.ok token, [])⟩ ∧
      Tells token.value claims ∧ token.expiresIn = 0 ∧ claims.expires = some 1700000000 ∧
      ¬TellsLifetime token.expiresIn claims) ∧
    ∃ token claims,
      (⟨⟨"http://kong:8001", "t"⟩, {}, .jwt⟩ : Consumers).exchange 1700000000 (.jwt ⟨"k", "s"⟩)
        { span := some ⟨0xFFFFFFFFFFFFFFFF, 0⟩ } [] = ⟨[], some (.ok token, [])⟩ ∧
      Tells token.value claims ∧ token.expiresIn = 0xFFFFFFFFFFFFFFFF ∧
      claims.expires = some lastTime ∧ ¬TellsLifetime token.expiresIn claims := by
  have hkey : (⟨"k", "s"⟩ : JwtCredential).key ≠ "" := by decide
  have hnow : IsTime 1700000000 := ⟨by decide, by decide⟩
  constructor
  · obtain ⟨token, hexchange, -, htells⟩ :=
      exchange_jwt ⟨⟨"http://kong:8001", "t"⟩, {}, .jwt⟩ hkey (by decide)
        { span := some ⟨0, 500000000⟩ } hnow []
    refine ⟨_, _, hexchange, htells, rfl, rfl, fun h => ?_⟩
    have hnone := h.endless.mp rfl
    cases hnone
  · obtain ⟨token, hexchange, -, htells⟩ :=
      exchange_jwt ⟨⟨"http://kong:8001", "t"⟩, {}, .jwt⟩ hkey (by decide)
        { span := some ⟨0xFFFFFFFFFFFFFFFF, 0⟩ } hnow []
    refine ⟨_, _, hexchange, htells, rfl, rfl, fun h => ?_⟩
    have hlasts : ((lifetime (some ⟨0xFFFFFFFFFFFFFFFF, 0⟩)).toNat : Int) = lastTime - 1700000000 :=
      h.lasts lastTime rfl
    revert hlasts
    decide

end Consumers

end GatewayProvisioning
