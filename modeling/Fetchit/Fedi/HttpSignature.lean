import Fetchit.Lib.Outcome
import Fetchit.Lib.Scan
import Fetchit.Fedi.Json

/-! The two wire formats of a signed delivery: RFC 9421 and the older draft. Both sign a text of
fixed lines, among them the digest of the body; the digests of the two formats are spelled
differently. -/
namespace Fetchit.Fedi.HttpSignature
open Lib Lib.Outcome Json

/-- The hash, the RSA operations and the messages of the decoders, which come from outside. -/
structure Rsa where
  sha256 : Bytes → Bytes
  privateKey : String → Except String Bytes
  sign (privateKey message : Bytes) : Except String Bytes
  spkiPem : String → Option Bytes
  pkcs1Pem : String → Option Bytes
  parseSignature : Bytes → Except String Unit
  verify (publicKey message signature : Bytes) : Bool
  base64Error : String → String

/-- A delivery address with its query. -/
structure Destination extends Url where
  query : Option String
  deriving DecidableEq

structure SignedHeaders where
  date : String
  contentDigest : String
  signatureInput : String
  signature : String
  deriving DecidableEq

structure CavageSignedHeaders where
  date : String
  digest : String
  signature : String
  deriving DecidableEq

inductive HttpSignatureError where
  | invalidPrivateKey (reason : String)
  | missingHost (url : String)
  | signingFailed (reason : String)
  deriving DecidableEq

inductive SignatureVerifyError where
  | headerMalformed (reason : String)
  | digestMismatch
  | signatureDecodeFailed (reason : String)
  | verifyFailed
  | missingSignedHeader (name : String)
  deriving DecidableEq

def SignatureVerifyError.reasonLabel : SignatureVerifyError → String
  | .headerMalformed _ => "header_malformed"
  | .digestMismatch => "digest_mismatch"
  | .signatureDecodeFailed _ => "signature_decode"
  | .verifyFailed => "verify_failed"
  | .missingSignedHeader _ => "missing_signed_header"

def computeContentDigest (rsa : Rsa) (body : Bytes) : String :=
  "sha-256=:" ++ Base64.encode (rsa.sha256 body) ++ ":"

def computeDigestCavage (rsa : Rsa) (body : Bytes) : String :=
  "SHA-256=" ++ Base64.encode (rsa.sha256 body)

def parseRsaPublicKeyPem (rsa : Rsa) (pem : String) : Option Bytes :=
  (rsa.spkiPem pem).orElse fun _ => rsa.pkcs1Pem pem

/-- The host as it is signed: the port stands there only when it is not the default. -/
def hostFromUrl (url : Destination) : Except HttpSignatureError String := do
  let host ← okOr url.hostStr (.missingHost url.asStr)
  match url.port with
  | some port => .ok (host ++ ":" ++ toString port)
  | none => .ok host

def buildSignatureInputParams (createdUnix : Int) (keyId : String) : String :=
  "(\"@method\" \"@target-uri\" \"host\" \"date\" \"content-digest\");created=" ++
    toString createdUnix ++ ";keyid=\"" ++ keyId ++ "\";alg=\"rsa-v1_5-sha256\""

def buildSignatureBase (targetUri host date contentDigest sigParams : String) : String :=
  "\"@method\": POST\n\"@target-uri\": " ++ targetUri ++ "\n\"host\": " ++ host ++
    "\n\"date\": " ++ date ++ "\n\"content-digest\": " ++ contentDigest ++
    "\n\"@signature-params\": " ++ sigParams

def signText (rsa : Rsa) (signingKey : Bytes) (text : String) : Except HttpSignatureError String :=
  ((rsa.sign signingKey (utf8 text)).mapError .signingFailed).map Base64.encode

def signPostRfc9421WithKey (rsa : Rsa) (signingKey : Bytes) (keyId : String) (url : Destination)
    (body : Bytes) (dateHeader : String) (createdUnix : Int) :
    Except HttpSignatureError SignedHeaders := do
  let contentDigest := computeContentDigest rsa body
  let host ← hostFromUrl url
  let sigParams := buildSignatureInputParams createdUnix keyId
  let sig ← signText rsa signingKey
    (buildSignatureBase url.asStr host dateHeader contentDigest sigParams)
  .ok ⟨dateHeader, contentDigest, "sig1=" ++ sigParams, "sig1=:" ++ sig ++ ":"⟩

def buildRequestTarget (url : Destination) : String :=
  match url.query with
  | some query => "post " ++ url.path ++ "?" ++ query
  | none => "post " ++ url.path

def buildCavageBase (requestTarget host date digest : String) : String :=
  "(request-target): " ++ requestTarget ++ "\nhost: " ++ host ++ "\ndate: " ++ date ++
    "\ndigest: " ++ digest

def signPostCavageWithKey (rsa : Rsa) (signingKey : Bytes) (keyId : String) (url : Destination)
    (body : Bytes) (dateHeader : String) : Except HttpSignatureError CavageSignedHeaders := do
  let digest := computeDigestCavage rsa body
  let host ← hostFromUrl url
  let sig ← signText rsa signingKey
    (buildCavageBase (buildRequestTarget url) host dateHeader digest)
  .ok ⟨dateHeader, digest, "keyId=\"" ++ keyId ++ "\",algorithm=\"rsa-sha256\"," ++
    "headers=\"(request-target) host date digest\",signature=\"" ++ sig ++ "\""⟩

structure CavageSignatureParams where
  keyId : String
  algorithm : String
  headers : String
  signature : String
  deriving DecidableEq

/-- Separators between quotes do not split. -/
def quoteAwareSplit (separates : Char → Bool) (inQuotes : Bool) : List Char → List (List Char)
  | [] => [[]]
  | c :: rest =>
    if c != '"' && separates c && !inQuotes then
      [] :: quoteAwareSplit separates inQuotes rest
    else match quoteAwareSplit separates (if c = '"' then !inQuotes else inQuotes) rest with
      | [] => [[c]]
      | first :: others => (c :: first) :: others

def unquote : List Char → Option (List Char)
  | '"' :: inner => Scan.stripEndChars inner ['"']
  | _ => none

def readParam (params : CavageSignatureParams) (rawPart : List Char) :
    Except SignatureVerifyError CavageSignatureParams :=
  let part := Scan.trimChars rawPart
  if part.isEmpty then .ok params
  else do
    let (rawKey, rawValue) ← okOr (Scan.cutChars ['='] part)
      (.headerMalformed s!"cavage Signature parameter missing '=': {String.ofList part}")
    let key := String.ofList (Scan.trimChars rawKey)
    let value ← okOr ((unquote (Scan.trimChars rawValue)).map String.ofList)
      (.headerMalformed
        s!"cavage Signature value must be quoted: {key}={String.ofList rawValue}")
    match key with
    | "keyId" => .ok { params with keyId := value }
    | "algorithm" => .ok { params with algorithm := value }
    | "headers" => .ok { params with headers := value }
    | "signature" => .ok { params with signature := value }
    | _ => .ok params

def parseCavageSignatureHeader (headerValue : String) :
    Except SignatureVerifyError CavageSignatureParams := do
  let params ← (quoteAwareSplit (· == ',') false headerValue.toList).foldlM readParam ⟨"", "", "", ""⟩
  require (!params.signature.isEmpty)
    (.headerMalformed "cavage Signature is missing the 'signature' parameter")
  require (!params.headers.isEmpty)
    (.headerMalformed "cavage Signature is missing the 'headers' parameter")
  .ok params

def verifyText (rsa : Rsa) (publicKey : Bytes) (text encoded : String) :
    Except SignatureVerifyError Unit := do
  let sigBytes ← okOr (Base64.decode encoded) (.signatureDecodeFailed (rsa.base64Error encoded))
  (rsa.parseSignature sigBytes).mapError .signatureDecodeFailed
  require (rsa.verify publicKey (utf8 text) sigBytes) .verifyFailed

def verifySignatureRfc9421 (rsa : Rsa) (publicKey : Bytes)
    (targetUri host date contentDigest signatureInput signature : String) (body : Bytes) :
    Except SignatureVerifyError Unit := do
  require (computeContentDigest rsa body == contentDigest) .digestMismatch
  let sigParams ← okOr (Scan.stripStart signatureInput "sig1=")
    (.headerMalformed "Signature-Input must start with 'sig1='")
  let encoded ← okOr ((Scan.stripStart signature "sig1=:").bind fun rest => Scan.stripEnd rest ":")
    (.headerMalformed "Signature must be of the form 'sig1=:<base64>:'")
  verifyText rsa publicKey (buildSignatureBase targetUri host date contentDigest sigParams) encoded

def verifySignatureCavage (rsa : Rsa) (publicKey : Bytes)
    (requestTarget host date digest signatureHeader : String) (body : Bytes) :
    Except SignatureVerifyError Unit := do
  require (computeDigestCavage rsa body == digest) .digestMismatch
  let params ← parseCavageSignatureHeader signatureHeader
  verifyText rsa publicKey (buildCavageBase requestTarget host date digest) params.signature

def cavageRequiredComponents : List String := ["(request-target)", "host", "date", "digest"]

def declaredLines (method path host : String) (reqHeader : String → Option String)
    (declared : List String) : Except SignatureVerifyError (List String) :=
  declared.mapM fun name => do
    let value ← match name with
      | "(request-target)" => .ok (method ++ " " ++ path)
      | "host" => .ok host
      | other => okOr (reqHeader other) (.missingSignedHeader other)
    .ok (name ++ ": " ++ value)

def verifyForHosts (rsa : Rsa) (publicKey sigBytes : Bytes)
    (lines : String → Except SignatureVerifyError (List String)) :
    List String → Except SignatureVerifyError Unit
  | [] => .error .verifyFailed
  | host :: hosts => do
      let base ← lines host
      if rsa.verify publicKey (utf8 ("\n".intercalate base)) sigBytes then .ok ()
      else verifyForHosts rsa publicKey sigBytes lines hosts

def verifySignatureCavageDeclared (rsa : Rsa) (lowercase : String → String) (publicKey : Bytes)
    (method path : String) (hostCandidates : List String) (reqHeader : String → Option String)
    (signatureHeader : String) : Except SignatureVerifyError Unit := do
  let params ← parseCavageSignatureHeader signatureHeader
  let declared := match Scan.words params.headers.toList with
    | [] => ["date"]
    | words => words.map fun word => lowercase (String.ofList word)
  cavageRequiredComponents.forM fun required =>
    require (declared.contains required)
      (.headerMalformed ("signed header list must cover " ++ required))
  let sigBytes ← okOr (Base64.decode params.signature)
    (.signatureDecodeFailed (rsa.base64Error params.signature))
  (rsa.parseSignature sigBytes).mapError .signatureDecodeFailed
  verifyForHosts rsa publicKey sigBytes
    (fun host => declaredLines method path host reqHeader declared) hostCandidates.eraseDups

def exampleRsa : Rsa where
  sha256 := id
  privateKey := fun pem => .ok (utf8 pem)
  sign := fun privateKey _ => .ok privateKey
  spkiPem := fun pem => some (utf8 pem)
  pkcs1Pem := fun _ => none
  parseSignature := fun _ => .ok ()
  verify := fun publicKey _ signature => publicKey == signature
  base64Error := id

end Fetchit.Fedi.HttpSignature
