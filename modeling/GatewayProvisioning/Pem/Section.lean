import GatewayProvisioning.Failure
import GatewayProvisioning.Pem.Base64

/-!
PEM files: sections between a line `-----BEGIN label-----` and a line `-----END label-----`, with
other text around them. Only sections of known labels are decoded.
-/

namespace GatewayProvisioning.Pem

/-- The kinds of sections that are decoded. -/
inductive Kind where
  | certificate
  | publicKey
  | rsaKey
  | privateKey
  | curveKey
  | revocations
  | request
  | echConfig
  deriving DecidableEq, Repr

/-- The label of each kind. -/
def Kind.labels : List (String × Kind) :=
  [("CERTIFICATE", .certificate), ("PUBLIC KEY", .publicKey), ("RSA PRIVATE KEY", .rsaKey),
    ("PRIVATE KEY", .privateKey), ("EC PRIVATE KEY", .curveKey), ("X509 CRL", .revocations),
    ("CERTIFICATE REQUEST", .request), ("ECHCONFIG", .echConfig)]

/-- The kind of a label. -/
def Kind.ofLabel? (label : Bytes) : Option Kind :=
  (Kind.labels.find? fun (name, _) => Utf8.encode name == label).map Prod.snd

/-- Whether a section of a kind is a private key. -/
def Kind.isPrivateKey : Kind → Bool
  | .rsaKey => true
  | .privateKey => true
  | .curveKey => true
  | _ => false

/-- A decoded section. -/
structure Section where
  kind : Kind
  content : Bytes
  deriving DecidableEq, Repr

/-! ## Lines -/

/-- Whether a byte ends a line. -/
def isLineEnd (b : UInt8) : Bool :=
  b == 0x0A || b == 0x0D

/-- The lines of a file, each with the byte that ends it. -/
def lines : Bytes → List Bytes
  | [] => []
  | b :: rest =>
    if isLineEnd b then [b] :: lines rest
    else
      match lines rest with
      | [] => [[b]]
      | line :: others => (b :: line) :: others

/-- What a line that begins a section begins with. -/
def beginMark : Bytes := Utf8.encode "-----BEGIN "

/-- What a line that ends a section begins with. -/
def endMark : Bytes := Utf8.encode "-----END "

/-- What follows a label. -/
def dashes : Bytes := Utf8.encode "-----"

/-- Whether a byte at the end of a line is a dash or may stand among dashes. -/
def isTrailer (b : UInt8) : Bool :=
  b == 0x2D || b == 0x20 || isLineEnd b

/-- The label of a line that begins a section: what stands before its five last dashes. -/
def startLabel (line : Bytes) : Except Fault Bytes :=
  let trailer := (line.reverse.takeWhile isTrailer).reverse
  if trailer.countP (· == 0x2D) = 5 then
    let before := line.length - (trailer.dropWhile (· != 0x2D)).length
    .ok ((line.take before).drop beginMark.length)
  else .error (.badStart (Utf8.decodeLossy line))

/-- Whether a line ends the section of a label. -/
def endsSection (label line : Bytes) : Bool :=
  (endMark ++ label ++ dashes).isPrefixOf line

/-! ## Sections -/

/-- The sections of a file up to the first fault, and that fault if there is one. -/
structure Scan where
  sections : List Section
  fault : Option Fault
  deriving DecidableEq, Repr

/-- A scan that begins with a section. -/
def Scan.cons (first : Section) (scan : Scan) : Scan :=
  { scan with sections := first :: scan.sections }

/-- Reads lines outside of a section, or inside one whose label and text so far are given. A line that
begins a section inside another takes its place, and the text so far stays. -/
def scanLines (open? : Option Bytes) (text : Bytes) : List Bytes → Scan
  | [] => ⟨[], open?.map fun label => .noEnd (Utf8.decodeLossy label)⟩
  | line :: rest =>
    if beginMark.isPrefixOf line then
      match startLabel line with
      | .ok label => scanLines (some label) text rest
      | .error fault => ⟨[], some fault⟩
    else
      match open? with
      | none => scanLines none text rest
      | some label =>
        if endsSection label line then
          match Kind.ofLabel? label with
          | none => scanLines none [] rest
          | some kind =>
            match decodeBase64 text with
            | .ok content => (scanLines none [] rest).cons ⟨kind, content⟩
            | .error fault => ⟨[], some (.badBase64 fault)⟩
        else scanLines (some label) (text ++ line) rest

/-- The sections of a file. -/
def scan (file : Bytes) : Scan :=
  scanLines none [] (lines file)

/-! ## Pairs -/

/-- The certificates of a file, all of whose sections must be well formed. -/
def certificates (file : Bytes) : Except Fault (List Bytes) :=
  let found := scan file
  match found.fault with
  | some fault => .error fault
  | none => .ok ((found.sections.filter (·.kind == .certificate)).map (·.content))

/-- The number of certificates in a file. -/
def countCertificates (file : Bytes) (name : String) : Except Failure Nat :=
  match certificates file with
  | .ok found => .ok found.length
  | .error fault => .error (.undecodable name (.pem fault))

/-- Whether a file holds a private key. A fault counts only before the first one. -/
def hasPrivateKey (file : Bytes) (name : String) : Except Failure Bool :=
  let found := scan file
  if found.sections.any (·.kind.isPrivateKey) then .ok true
  else
    match found.fault with
    | some fault => .error (.undecodable name (.pem fault))
    | none => .ok false

/-- Refuses a file without a certificate and a file without a private key. -/
def validatePair (cert : Bytes) (certName : String) (key : Bytes) (keyName : String) :
    Except Failure Unit := do
  if (← countCertificates cert certName) = 0 then
    throw (.undecodable certName .noCertificates)
  if !(← hasPrivateKey key keyName) then throw (.undecodable keyName .noPrivateKey)

end GatewayProvisioning.Pem
