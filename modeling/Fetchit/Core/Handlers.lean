import Fetchit.Lib.Scan
import Fetchit.Lib.Utf8

/-! The content handlers of the viewer engine. Each looks at the first bytes of what was fetched
and says how strongly it claims them; a handler that is chosen renders the whole. -/
namespace Fetchit.Core
open Lib Lib.Utf8

inductive Confidence where
  | none
  | low
  | medium
  | high
  | definite
  deriving DecidableEq

def Confidence.rank : Confidence → Nat
  | .none => 0
  | .low => 1
  | .medium => 2
  | .high => 3
  | .definite => 4

structure ArchiveEntry where
  path : String
  size : Option Nat
  deriving DecidableEq

inductive Rendition (Value : Type) where
  | text (language : Option String) (body : String)
  | image (mime : String) (data : Bytes)
  | audio (mime : String) (data : Bytes)
  | video (mime : String) (data : Bytes)
  | json (value : Value)
  | tabular (columns : List String) (rows : List (List String))
  | archive (entries : List ArchiveEntry)
  | html (body : String)
  | etchitEnvelope (title content : String) (language : Option String)
  | encryptedEnvelope (groupHint : Option String) (ciphertextLen : Nat)
  | opaqueBinary (mime : String) (data : Bytes)
  | blocked (reason : String)
  deriving DecidableEq

inductive Error where
  | noHandlerMatched
  | render (kind reason : String)
  deriving DecidableEq

structure RenderContext where
  maxTextBytes : Nat

structure ContentHandler (Value : Type) where
  kind : String
  canHandle (head : Bytes) : Confidence
  render (bytes : Bytes) (ctx : RenderContext) : Except Error (Rendition Value)

/-! What the handlers take from libraries. -/

/-- A JSON parser's complaint, and whether it is that the input ends too early. -/
structure JsonError where
  eof : Bool
  message : String

structure Envelope where
  v : Nat
  title : String
  lang : String
  content : String

/-- The patterns of the language guess, and the lower case of a text. -/
structure LanguagePatterns where
  shebang : String → Bool
  jsonKey : String → Bool
  python : String → Bool
  kotlin : String → Bool
  js : String → Bool
  rust : String → Bool
  go : String → Bool
  sql : String → Bool
  css : String → Bool
  yaml : String → Bool
  toLowercase : String → String

structure Parsers (Value : Type) where
  json : Bytes → Except JsonError Value
  envelope : Bytes → Except String Envelope
  /-- The index of an archive; single members may fail to open. -/
  zipArchive : Bytes → Except String (List (Except String ArchiveEntry))
  infer : Bytes → Option String
  /-- The message about bytes that are not text. -/
  utf8Error : Bytes → String
  patterns : LanguagePatterns

/-! Text in general. -/

def contains (text pattern : String) : Bool := (Scan.splitOnce text pattern).isSome

def trimStart (text : String) : String := String.ofList (text.toList.dropWhile Text.isWhitespace)

def bom : Bytes := [0xEF, 0xBB, 0xBF]

def stripBom (bytes : Bytes) : Bytes :=
  if bom.isPrefixOf bytes then bytes.drop bom.length else bytes

def takeBytes : Nat → List Char → List Char
  | _, [] => []
  | max, c :: rest =>
    if c.utf8Size ≤ max then c :: takeBytes (max - c.utf8Size) rest else []

def prefixOnBoundary (text : String) (max : Nat) : String :=
  String.ofList (takeBytes max text.toList)

def getTo (text : String) (position : Nat) : Option String :=
  fromUtf8 ((utf8 text).take position) |>.filter fun _ => position ≤ text.utf8ByteSize

section
variable {Value : Type} (parsers : Parsers Value)

def decodeCapped (kind : String) (bytes : Bytes) (ctx : RenderContext) : Except Error String :=
  let stripped := stripBom bytes
  let slice := stripped.take (min ctx.maxTextBytes stripped.length)
  match fromUtf8 slice with
  | none => .error (.render kind ("invalid UTF-8: " ++ parsers.utf8Error slice))
  | some body => .ok body

def claimText (looks : String → Bool) (confidence : Confidence) (head : Bytes) : Confidence :=
  let head := stripBom head
  if head.isEmpty || head.contains 0 then .none
  else match fromUtf8 head with
    | none => .none
    | some text => if looks text then confidence else .none

/-! Markdown and the language guess. -/

def boldMarkers : List Char → Nat
  | '*' :: '*' :: rest => 1 + boldMarkers rest
  | _ :: rest => boldMarkers rest
  | [] => 0

def lineScore (line : String) : Nat :=
  let trimmed := trimStart line
  (if ["- ", "* ", "+ "].any (Text.startsWith trimmed) then 1 else 0) +
    (if Text.startsWith trimmed "> " then 1 else 0)

def looksLikeMarkdown (text : String) : Bool :=
  let lines := Text.lines text
  let hadHeading := lines.any fun line =>
    ["# ", "## ", "### ", "#### "].any (Text.startsWith (trimStart line))
  let hadFence := lines.any fun line => Text.startsWith (trimStart line) "```"
  let score := (lines.map lineScore).sum + (if contains text "](" then 1 else 0) +
    (if boldMarkers text.toList ≥ 2 then 1 else 0)
  hadHeading || hadFence || decide (score ≥ 3)

def detect (patterns : LanguagePatterns) (text : String) : Option String := do
  let sample := prefixOnBoundary text 2000
  let line ← (Text.lines sample).find? fun line => !(Text.trim line).isEmpty
  let firstLine := Text.trim line
  let lower := patterns.toLowercase firstLine
  let trimmed := Text.trim text
  let bracketed := (Text.startsWith trimmed "\x7b" && (Scan.stripEnd trimmed "\x7d").isSome) ||
    (Text.startsWith trimmed "[" && (Scan.stripEnd trimmed "]").isSome)
  if patterns.shebang firstLine then
    if contains lower "python" then some "python"
    else if contains lower "node" || contains lower "deno" then some "javascript"
    else some "bash"
  else if bracketed && patterns.jsonKey (prefixOnBoundary trimmed 500) then some "json"
  else if patterns.python firstLine then some "python"
  else if patterns.kotlin firstLine then some "kotlin"
  else if patterns.js firstLine then some "javascript"
  else if patterns.rust firstLine then some "rust"
  else if patterns.go firstLine then some "go"
  else if patterns.sql firstLine then some "sql"
  else if patterns.css (prefixOnBoundary sample 800) then some "css"
  else if patterns.yaml (prefixOnBoundary sample 500) then some "yaml"
  else none

/-! The handlers for text. -/

def textHandler : ContentHandler Value where
  kind := "text/plain"
  canHandle head :=
    let head := stripBom head
    if head.isEmpty then .medium
    else if head.contains 0 then .none
    else if (fromUtf8 head).isSome then .medium
    else .none
  render bytes ctx := do
    let body ← decodeCapped parsers "text/plain" bytes ctx
    .ok (.text (detect parsers.patterns body) body)

def markdownHandler : ContentHandler Value where
  kind := "text/markdown"
  canHandle := claimText looksLikeMarkdown .high
  render bytes ctx := do
    let body ← decodeCapped parsers "text/markdown" bytes ctx
    .ok (.text (some "markdown") body)

def looksLikeHtml (text : String) : Bool :=
  let trimmed := trimStart text
  let head := Text.asciiLower ((getTo trimmed 256).getD trimmed)
  Text.startsWith head "<!doctype html" || Text.startsWith head "<html" ||
    Text.startsWith head "<?xml" || contains head "<html"

def htmlHandler : ContentHandler Value where
  kind := "text/html"
  canHandle := claimText looksLikeHtml .definite
  render bytes ctx := do
    let body ← decodeCapped parsers "text/html" bytes ctx
    .ok (.html body)

def splitRecordChars : (inQuote : Bool) → (buf : List Char) → List Char → List (List Char)
  | _, buf, [] => [buf]
  | true, buf, '"' :: '"' :: rest => splitRecordChars true (buf ++ ['"']) rest
  | true, buf, '"' :: rest => splitRecordChars false buf rest
  | false, buf, '"' :: rest => splitRecordChars true buf rest
  | false, buf, ',' :: rest => buf :: splitRecordChars false [] rest
  | inQuote, buf, other :: rest => splitRecordChars inQuote (buf ++ [other]) rest

def splitRecord (line : String) : List String :=
  (splitRecordChars false [] line.toList).map String.ofList

def minRows : Nat := 3

def minColumns : Nat := 2

def looksLikeCsv (text : String) : Bool :=
  match ((Text.lines text).filter fun line => !line.isEmpty).take 10 with
  | [] => false
  | first :: rest =>
    let firstCols := (splitRecord first).length
    decide (minRows ≤ (first :: rest).length) && decide (minColumns ≤ firstCols) &&
      (first :: rest).all fun line => (splitRecord line).length == firstCols

def csvHandler : ContentHandler Value where
  kind := "text/csv"
  canHandle := claimText looksLikeCsv .high
  render bytes _ :=
    let stripped := stripBom bytes
    match fromUtf8 stripped with
    | none => .error (.render "text/csv" ("invalid UTF-8: " ++ parsers.utf8Error stripped))
    | some text =>
      match (Text.lines text).filter fun line => !line.isEmpty with
      | [] => .ok (.tabular [] [])
      | first :: rows => .ok (.tabular (splitRecord first) (rows.map splitRecord))

def looksLikeJson (head : Bytes) : Bool :=
  match fromUtf8 head with
  | none => false
  | some text =>
    let trimmed := trimStart text
    Text.startsWith trimmed "\x7b" || Text.startsWith trimmed "["

def jsonHandler : ContentHandler Value where
  kind := "application/json"
  canHandle head :=
    if !looksLikeJson head then .none
    else match parsers.json head with
      | .ok _ => .high
      | .error error => if error.eof then .high else .none
  render bytes _ :=
    match parsers.json bytes with
    | .error error => .error (.render "application/json" ("not valid JSON: " ++ error.message))
    | .ok value => .ok (.json value)

def etchitEnvelopeHandler : ContentHandler Value where
  kind := "etchit/envelope-v1"
  canHandle head :=
    match fromUtf8 head with
    | none => .none
    | some text =>
      let trimmed := trimStart text
      if !Text.startsWith trimmed "\x7b" then .none
      else if contains trimmed "\"v\"" && contains trimmed "\"meta\"" &&
          contains trimmed "\"content\"" then .definite
      else .none
  render bytes _ :=
    match parsers.envelope bytes with
    | .error message =>
      .error (.render "etchit/envelope-v1" ("envelope JSON parse failed: " ++ message))
    | .ok envelope =>
      if envelope.v ≠ 1 then
        .error (.render "etchit/envelope-v1"
          ("unsupported envelope version: " ++ toString envelope.v))
      else
        let language := if envelope.lang.isEmpty then
            if looksLikeMarkdown envelope.content then some "markdown" else none
          else some envelope.lang
        .ok (.etchitEnvelope envelope.title envelope.content language)

/-! The handlers for other formats. -/

def mlsMagic : Bytes := utf8 "saorsa-mls/v1\n"

def maxHeaderBytes : Nat := 4096

def mlsHeaders (rest : Bytes) (offset : Nat) (groupHint : Option String) :
    Except Error (Option String × Nat) :=
  match _found : ((rest.drop offset).take (maxHeaderBytes - offset)).findIdx? (· == 10) with
  | none => .error (.render "saorsa-mls/envelope-v1" "no blank line ends the header block")
  | some newline =>
    if newline = 0 then .ok (groupHint, offset + 1)
    else match fromUtf8 ((rest.drop offset).take newline) with
      | none => .error (.render "saorsa-mls/envelope-v1" "header line is not UTF-8")
      | some line =>
        let hint := match groupHint, Scan.stripStart line "group=" with
          | none, some value => if value.isEmpty then none else some value
          | hint, _ => hint
        mlsHeaders rest (offset + newline + 1) hint
termination_by maxHeaderBytes - offset
decreasing_by
  have inside := (List.findIdx?_eq_some_iff_getElem.mp _found).1
  rw [List.length_take] at inside
  omega

def mlsEnvelopeHandler : ContentHandler Value where
  kind := "saorsa-mls/envelope-v1"
  canHandle head := if mlsMagic.isPrefixOf head then .definite else .none
  render bytes _ :=
    if mlsMagic.isPrefixOf bytes then do
      let rest := bytes.drop mlsMagic.length
      let (groupHint, offset) ← mlsHeaders rest 0 none
      .ok (.encryptedEnvelope groupHint (rest.length - offset))
    else .error (.render "saorsa-mls/envelope-v1" "missing saorsa-mls/v1 magic")

def brandAt (head : Bytes) (position : Nat) (brand : String) : Bool :=
  decide (head.length ≥ 12) && (head.drop position).take 4 == utf8 brand

def imageMime (head : Bytes) : Option String :=
  if ([0x89, 0x50, 0x4E, 0x47, 0x0D, 0x0A, 0x1A, 0x0A] : Bytes).isPrefixOf head then
    some "image/png"
  else if ([0xFF, 0xD8, 0xFF] : Bytes).isPrefixOf head then some "image/jpeg"
  else if (utf8 "GIF87a").isPrefixOf head || (utf8 "GIF89a").isPrefixOf head then
    some "image/gif"
  else if (utf8 "RIFF").isPrefixOf head && brandAt head 8 "WEBP" then some "image/webp"
  else if (utf8 "BM").isPrefixOf head then some "image/bmp"
  else if brandAt head 4 "ftyp" &&
      ["heic", "heix", "hevc", "hevx", "mif1", "msf1"].any (brandAt head 8) then
    some "image/heic"
  else none

def looksLikeMp3Frame : Bytes → Bool
  | first :: second :: _ => first == 0xFF && (second &&& 0xE0) == 0xE0
  | _ => false

def audioMime (head : Bytes) : Option String :=
  if (utf8 "ID3").isPrefixOf head || looksLikeMp3Frame head then some "audio/mpeg"
  else if (utf8 "fLaC").isPrefixOf head then some "audio/flac"
  else if (utf8 "OggS").isPrefixOf head then some "audio/ogg"
  else if (utf8 "RIFF").isPrefixOf head && brandAt head 8 "WAVE" then some "audio/wav"
  else none

def videoMime (head : Bytes) : Option String :=
  if brandAt head 4 "ftyp" then some "video/mp4"
  else if ([0x1A, 0x45, 0xDF, 0xA3] : Bytes).isPrefixOf head then some "video/webm"
  else if (utf8 "RIFF").isPrefixOf head && brandAt head 8 "AVI " then some "video/x-msvideo"
  else none

def mediaHandler (kind : String) (detectMime : Bytes → Option String)
    (rendition : String → Bytes → Rendition Value) : ContentHandler Value where
  kind := kind
  canHandle head := if (detectMime head).isSome then .definite else .none
  render bytes _ :=
    .ok (rendition ((detectMime (bytes.take 64)).getD "application/octet-stream") bytes)

def imageHandler : ContentHandler Value := mediaHandler "image/*" imageMime .image

def audioHandler : ContentHandler Value := mediaHandler "audio/*" audioMime .audio

def videoHandler : ContentHandler Value := mediaHandler "video/*" videoMime .video

def archiveEntries (first : Nat) : List (Except String ArchiveEntry) →
    Except Error (List ArchiveEntry)
  | [] => .ok []
  | .error message :: _ =>
    .error (.render "application/zip" ("zip entry " ++ toString first ++ ": " ++ message))
  | .ok entry :: rest => do
      let entries ← archiveEntries (first + 1) rest
      .ok (entry :: entries)

def zipHandler : ContentHandler Value where
  kind := "application/zip"
  canHandle head :=
    if ([0x50, 0x4B, 0x03, 0x04] : Bytes).isPrefixOf head ||
        ([0x50, 0x4B, 0x05, 0x06] : Bytes).isPrefixOf head then .definite
    else .none
  render bytes _ :=
    match parsers.zipArchive bytes with
    | .error message => .error (.render "application/zip" ("zip parse failed: " ++ message))
    | .ok members => do
        let entries ← archiveEntries 0 members
        .ok (.archive entries)

def binaryHandler : ContentHandler Value where
  kind := "application/octet-stream"
  canHandle _ := .low
  render bytes _ :=
    .ok (.opaqueBinary ((parsers.infer (bytes.take 64)).getD "application/octet-stream") bytes)

/-! The registry. -/

def sniffBytes : Nat := 4096

abbrev HandlerRegistry (Value : Type) := List (ContentHandler Value)

def better (head : Bytes) (best : Option (Confidence × ContentHandler Value))
    (handler : ContentHandler Value) : Option (Confidence × ContentHandler Value) :=
  let confidence := handler.canHandle head
  if confidence = .none then best
  else match best with
    | none => some (confidence, handler)
    | some (strongest, chosen) =>
      if confidence.rank ≤ strongest.rank then some (strongest, chosen)
      else some (confidence, handler)

def choose (registry : HandlerRegistry Value) (head : Bytes) : Option (ContentHandler Value) :=
  (registry.foldl (better head) none).map (·.2)

def render (registry : HandlerRegistry Value) (bytes : Bytes) (ctx : RenderContext) :
    Except Error (Rendition Value) :=
  match choose registry (bytes.take sniffBytes) with
  | none => .error .noHandlerMatched
  | some chosen => chosen.render bytes ctx

/-- The context of a gated rendering: the denylist's answer for an address, and the address. -/
structure RenderingContext where
  isBlocked : Option (String → Bool)
  addrHex : Option String

def renderWithContext (registry : HandlerRegistry Value) (bytes : Bytes) (ctx : RenderContext)
    (rendering : RenderingContext) : Except Error (Rendition Value) :=
  match rendering.isBlocked, rendering.addrHex with
  | some isBlocked, some addr =>
    if isBlocked addr then .ok (.blocked ("xor_name: " ++ addr)) else render registry bytes ctx
  | _, _ => render registry bytes ctx

def defaultRegistry : HandlerRegistry Value :=
  [etchitEnvelopeHandler parsers, mlsEnvelopeHandler, imageHandler, audioHandler, videoHandler,
    zipHandler parsers, htmlHandler parsers, jsonHandler parsers, csvHandler parsers,
    markdownHandler parsers, textHandler parsers, binaryHandler parsers]

end

/-! Libraries that recognise nothing. -/

def noPatterns : LanguagePatterns where
  shebang _ := false
  jsonKey _ := false
  python _ := false
  kotlin _ := false
  js _ := false
  rust _ := false
  go _ := false
  sql _ := false
  css _ := false
  yaml _ := false
  toLowercase text := text

def noParsers : Parsers Unit where
  json _ := .error ⟨false, "expected value"⟩
  envelope _ := .error "expected value"
  zipArchive _ := .error "invalid Zip archive"
  infer _ := none
  utf8Error _ := "invalid utf-8 sequence"
  patterns := noPatterns

end Fetchit.Core
