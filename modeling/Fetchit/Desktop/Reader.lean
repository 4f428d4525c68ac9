import Fetchit.Core.Handlers
import Fetchit.Trust.Index

/-! The content paths of the desktop shell: the rendering command, the handler of the custom URI
schemes, the local media server and the extraction of archive members. They share the two caches;
only the rendering command asks the denylist. -/
namespace Fetchit.Desktop
open Lib Fetchit.Core

abbrev Address := Vector UInt8 32

def toHex (addr : Address) : String := Text.hexEncode addr.toList

/-- What the paths take from libraries: the content type guess, the hex decoder's complaint, and
the archive reader, which gives no more than the asked number of bytes of a member. -/
structure Tools where
  infer : Bytes → Option String
  hexError : String → String
  readEntry (archive : Bytes) (path : String) (limit : Nat) : Except Error Bytes

section
variable (tools : Tools)

def parseAddress (text : String) : Except String Address :=
  if text.utf8ByteSize ≠ 64 then
    .error ("invalid Autonomi address: expected 64 hex characters, got " ++
      toString text.utf8ByteSize)
  else match Text.hexDecode text with
    | none => .error ("invalid Autonomi address: not valid hex: " ++ tools.hexError text)
    | some bytes =>
      if size : bytes.length = 32 then .ok ⟨bytes.toArray, size⟩
      else .error ("invalid Autonomi address: not valid hex: " ++ tools.hexError text)

/-- The shell's state, as far as content is concerned. -/
structure AppState where
  cache : Address → Option Bytes
  diskEnabled : Bool
  disk : Address → Option Bytes
  readerDenylist : Option Trust.DenylistIndexes

/-- The answer of the network, and whether the eviction after a write drops the new entry. -/
structure Download where
  answer : Except String Bytes
  evicted : Bool

namespace AppState

def putCache (state : AppState) (addr : Address) (bytes : Bytes) : AppState :=
  { state with cache := Function.update state.cache addr (some bytes) }

def putDisk (state : AppState) (addr : Address) (bytes : Bytes) (evicted : Bool) : AppState :=
  if state.diskEnabled then
    { state with disk := Function.update state.disk addr (if evicted then none else some bytes) }
  else state

def getDisk (state : AppState) (addr : Address) : Option Bytes :=
  if state.diskEnabled then state.disk addr else none

def cachedBytes (state : AppState) (addr : Address) : Option Bytes × AppState :=
  match state.cache addr with
  | some bytes => (some bytes, state)
  | none =>
    match state.getDisk addr with
    | some bytes => (some bytes, state.putCache addr bytes)
    | none => (none, state)

def cacheBytes (state : AppState) (addr : Address) (bytes : Bytes) (evicted : Bool) : AppState :=
  (state.putCache addr bytes).putDisk addr bytes evicted

def fetchBytes (state : AppState) (addr : Address) (download : Download) :
    Except String Bytes × AppState :=
  match download.answer with
  | .error message => (.error message, state)
  | .ok bytes =>
    if state.diskEnabled then
      let state := state.putDisk addr bytes download.evicted
      match state.getDisk addr with
      | none => (.error "download finished but the cache slot was empty", state)
      | some bytes => (.ok bytes, state.putCache addr bytes)
    else (.ok bytes, state.putCache addr bytes)

def viewBytes (state : AppState) (addr : Address) (download : Download) :
    Except String Bytes × AppState :=
  match state.cachedBytes addr with
  | (some bytes, state) => (.ok bytes, state)
  | (none, state) => state.fetchBytes addr download

def resolveBytes (state : AppState) (addr : Address) (download : Download) :
    Except String Bytes × AppState :=
  match state.cachedBytes addr with
  | (some bytes, state) => (.ok bytes, state)
  | (none, state) =>
    match download.answer with
    | .error message => (.error message, state)
    | .ok bytes => (.ok bytes, state.cacheBytes addr bytes download.evicted)

def renderingContext (state : AppState) (addrHex : String) : RenderingContext where
  isBlocked := state.readerDenylist.map fun indexes value => indexes.isBlocked .xorName value
  addrHex := some addrHex

end AppState

def errorText : Error → String
  | .noHandlerMatched => "no handler matched the fetched bytes"
  | .render kind reason => "handler '" ++ kind ++ "' failed to render: " ++ reason

def defaultContext : RenderContext := ⟨16 * 1024 * 1024⟩

variable {Value : Type} (parsers : Parsers Value)

def fetchAndRender (state : AppState) (addr : String) (download : Download) (cancelled : Bool) :
    Except String (Rendition Value) × AppState :=
  match parseAddress tools addr with
  | .error message => (.error message, state)
  | .ok parsed =>
    if cancelled then (.error "fetch cancelled", state)
    else
      match state.viewBytes parsed download with
      | (.error message, state) => (.error message, state)
      | (.ok bytes, state) =>
        ((renderWithContext (defaultRegistry parsers) bytes defaultContext
          (state.renderingContext (toHex parsed))).mapError errorText, state)

def maxExtractBytes : Nat := 256 * 1024 * 1024

def extractEntry (archive : Bytes) (path : String) : Except Error Bytes := do
  let out ← tools.readEntry archive path (maxExtractBytes + 1)
  if out.length > maxExtractBytes then
    .error (.render "application/zip" ("entry " ++ Text.quoted path ++ " exceeds the " ++
      toString maxExtractBytes ++ "-byte extract cap"))
  else .ok out

def extractArchiveEntry (state : AppState) (addr path : String) (download : Download) :
    Except String Bytes × AppState :=
  match parseAddress tools addr with
  | .error message => (.error message, state)
  | .ok parsed =>
    match state.resolveBytes parsed download with
    | (.error message, state) => (.error message, state)
    | (.ok bytes, state) => ((extractEntry tools bytes path).mapError errorText, state)

/-! Requests for bytes. -/

def sniffMime (bytes : Bytes) : String := (tools.infer bytes).getD "application/octet-stream"

def usizeLimit : Nat := 2 ^ 64

def rangeEnd (text : String) (total : Nat) : Option Nat :=
  if text.isEmpty then if total = 0 then none else some (total - 1)
  else Scan.parseUnsigned usizeLimit text.toList

def parseRange (header : String) (total : Nat) : Option (Nat × Nat) := do
  let spec ← Scan.stripStart header "bytes="
  let (first, last) ← Scan.splitOnce spec "-"
  let start ← Scan.parseUnsigned usizeLimit first.toList
  let stop ← rangeEnd last total
  if start > stop || stop ≥ total then none else some (start, stop)

def slice (bytes : Bytes) (start stop : Nat) : Bytes := (bytes.drop start).take (stop + 1 - start)

def contentRange (start stop total : Nat) : String :=
  "bytes " ++ toString start ++ "-" ++ toString stop ++ "/" ++ toString total

def firstPart (path : String) : String :=
  String.ofList (path.toList.takeWhile fun c => c ∉ ['/', '?', '#'])

def trimSlashes (path : String) : String := String.ofList (path.toList.dropWhile (· == '/'))

def looksLikeAddress (text : String) : Bool :=
  text.utf8ByteSize == 64 && text.toList.all Text.isHexDigit

structure Response where
  status : Nat
  headers : List (String × String)
  body : Bytes

def wholeResponse (mime : String) (bytes : Bytes) : Response where
  status := 200
  headers := [("content-type", mime), ("content-length", toString bytes.length),
    ("accept-ranges", "bytes"), ("access-control-allow-origin", "*")]
  body := bytes

/-- A range that begins at the first byte is answered with the whole. -/
def build (bytes : Bytes) (range : Option String) : Response :=
  let mime := sniffMime tools bytes
  match range.bind fun header => parseRange header bytes.length with
  | some (start, stop) =>
    if start = 0 then wholeResponse mime bytes
    else
      { status := 206
        headers := [("content-type", mime), ("content-length", toString (stop - start + 1)),
          ("accept-ranges", "bytes"),
          ("content-range", contentRange start stop bytes.length),
          ("access-control-allow-origin", "*")]
        body := slice bytes start stop }
  | none => wholeResponse mime bytes

def protocolError (status : Nat) (message : String) : Response where
  status
  headers := [("content-type", "text/plain; charset=utf-8"), ("access-control-allow-origin", "*")]
  body := utf8 message

/-- The path wins over the host when both look like addresses. -/
def extractAddr (host path : String) : Option Address :=
  (([trimSlashes path, host].map firstPart).find? looksLikeAddress).bind fun head =>
    (parseAddress tools head).toOption

def protocolServe (state : AppState) (host path : String) (range : Option String)
    (download : Download) : Response × AppState :=
  match extractAddr tools host path with
  | none => (protocolError 400 "fetchit:// requires a 64-hex address", state)
  | some addr =>
    match state.resolveBytes addr download with
    | (.error message, state) => (protocolError 502 message, state)
    | (.ok bytes, state) => (build tools bytes range, state)

/-! The media server writes its answers itself. -/

/-- The head of an answer with content: the announced length, and the range if it is a part. -/
structure Head where
  mime : String
  length : Nat
  range : Option (Nat × Nat × Nat)
  deriving DecidableEq

/-- What the server writes to the socket. -/
inductive Reply where
  | content (head : Head) (body : Bytes)
  | simple (status : Nat) (reason body : String)
  | corsPreflight
  deriving DecidableEq

def serveComplete (method : String) (range : Option String) (bytes : Bytes) : Reply :=
  let mime := sniffMime tools bytes
  if method = "HEAD" then .content ⟨mime, bytes.length, none⟩ []
  else match range.bind fun header => parseRange header bytes.length with
    | some (start, stop) =>
      .content ⟨mime, stop - start + 1, some (start, stop, bytes.length)⟩
        (slice bytes start stop)
    | none => .content ⟨mime, bytes.length, none⟩ bytes

def stripHeaderCi (line name : String) : Option String := do
  let (head, rest) ← Scan.splitOnce line ":"
  if Text.eqIgnoreAsciiCase (Text.trim head) name then some (Text.trim rest) else none

/-- What a request to the media server asks for, or the answer to one that asks for nothing. -/
def mediaTarget (request : String) : Except Reply (String × Option String × Address) :=
  let lines := Text.lines request
  let parts := (Scan.words (lines.head?.getD "").toList).map String.ofList
  let method := parts.head?.getD ""
  let rawPath := (parts.drop 1).head?.getD ""
  if method ∉ ["GET", "HEAD", "OPTIONS"] then .error (.simple 405 "Method Not Allowed" "")
  else if method = "OPTIONS" then .error .corsPreflight
  else
    let range := (((lines.drop 1).takeWhile fun line => !line.isEmpty).filterMap fun line =>
      stripHeaderCi line "range").getLast?
    let addrPart := firstPart (trimSlashes rawPath)
    if !looksLikeAddress addrPart then
      .error (.simple 400 "Bad Request" "address must be 64-hex")
    else match parseAddress tools addrPart with
      | .error _ => .error (.simple 400 "Bad Request" "invalid address")
      | .ok addr => .ok (method, range, addr)

/-- The media server on the text of a request. `progressive` is the answer from a download that is
still going on, or why there is none. -/
def mediaServe (state : AppState) (request : String)
    (progressive : (method : String) → (range : Option String) → Address → Except String Reply) :
    Reply × AppState :=
  match mediaTarget tools request with
  | .error reply => (reply, state)
  | .ok (method, range, addr) =>
    match state.cachedBytes addr with
    | (some bytes, state) => (serveComplete tools method range bytes, state)
    | (none, state) =>
      match progressive method range addr with
      | .error message => (.simple 502 "Bad Gateway" message, state)
      | .ok reply => (reply, state)

/-! The bytes that a path gives out. -/

/-- The bytes that a cache holds. -/
def AppState.held (state : AppState) (addr : Address) : Option Bytes :=
  (state.cache addr).or (state.getDisk addr)

/-- The bytes that a cache holds or else the network answers with. -/
def AppState.obtained (state : AppState) (addr : Address) (download : Download) : Option Bytes :=
  (state.held addr).or download.answer.toOption

def Response.HasContent (response : Response) : Prop :=
  (response.status = 200 ∨ response.status = 206) ∧ response.body ≠ []

def Reply.body : Reply → Bytes
  | .content _ body => body
  | _ => []

theorem fst_cachedBytes (state : AppState) (addr : Address) :
    (state.cachedBytes addr).1 = state.held addr := by
  unfold AppState.cachedBytes AppState.held
  cases state.cache addr with
  | some bytes => rfl
  | none => cases state.getDisk addr <;> rfl

theorem fst_resolveBytes (state : AppState) (addr : Address) (download : Download) :
    (state.resolveBytes addr download).1.toOption = state.obtained addr download := by
  unfold AppState.resolveBytes AppState.obtained
  rw [← fst_cachedBytes]
  rcases state.cachedBytes addr with ⟨_ | bytes, after⟩
  · cases download.answer <;> rfl
  · rfl

theorem slice_ne_nil (parsed : parseRange header bytes.length = some (start, stop)) :
    slice bytes start stop ≠ [] ∧ bytes ≠ [] := by
  simp only [parseRange, Option.bind_eq_bind, Option.bind_eq_some_iff] at parsed
  obtain ⟨_, _, ⟨_, _⟩, _, _, _, _, _, inside⟩ := parsed
  split at inside
  · cases inside
  · cases inside
    rename_i within
    simp only [Bool.or_eq_true, decide_eq_true_eq] at within
    have positive : 0 < (slice bytes start stop).length := by
      simp only [slice, List.length_take, List.length_drop]
      omega
    exact ⟨List.ne_nil_of_length_pos positive, List.ne_nil_of_length_pos (by omega)⟩

theorem build_hasContent (bytes : Bytes) (range : Option String) :
    (build tools bytes range).HasContent ↔ bytes ≠ [] := by
  unfold build Response.HasContent
  dsimp only
  split
  · rename_i start stop ranged
    obtain ⟨header, _, parsed⟩ := Option.bind_eq_some_iff.mp ranged
    have part := slice_ne_nil parsed
    split
    · simp [wholeResponse]
    · simp [part]
  · simp [wholeResponse]

theorem body_serveComplete (method : String) (range : Option String) (bytes : Bytes) :
    (serveComplete tools method range bytes).body ≠ [] ↔ method ≠ "HEAD" ∧ bytes ≠ [] := by
  unfold serveComplete
  dsimp only
  split
  · simp [Reply.body, *]
  · rename_i get
    split
    · rename_i ranged
      obtain ⟨header, _, parsed⟩ := Option.bind_eq_some_iff.mp ranged
      simp [Reply.body, slice_ne_nil parsed, get]
    · simp [Reply.body, get]

/-! The denylist. -/

def AppState.Denies (state : AppState) (addr : Address) : Prop :=
  ∃ indexes, state.readerDenylist = some indexes ∧
    indexes.isBlocked .xorName (toHex addr) = true

section
variable (state : AppState) (addr : Address)

theorem readerDenylist_cachedBytes :
    (state.cachedBytes addr).2.readerDenylist = state.readerDenylist := by
  unfold AppState.cachedBytes
  split
  · rfl
  · split <;> rfl

theorem readerDenylist_putDisk (bytes : Bytes) (evicted : Bool) :
    (state.putDisk addr bytes evicted).readerDenylist = state.readerDenylist := by
  unfold AppState.putDisk
  split <;> rfl

theorem readerDenylist_fetchBytes (download : Download) :
    (state.fetchBytes addr download).2.readerDenylist = state.readerDenylist := by
  unfold AppState.fetchBytes
  split
  · rfl
  · split
    · dsimp only
      split <;> exact readerDenylist_putDisk ..
    · rfl

theorem readerDenylist_viewBytes (download : Download) :
    (state.viewBytes addr download).2.readerDenylist = state.readerDenylist := by
  unfold AppState.viewBytes
  have kept := readerDenylist_cachedBytes state addr
  split
  · next found => rwa [found] at kept
  · next found =>
    rw [found] at kept
    exact (readerDenylist_fetchBytes ..).trans kept

end

theorem viewBytes_error {state after : AppState}
    (failed : state.viewBytes addr download = (.error message, after)) :
    download.answer = .error message ∨
      message = "download finished but the cache slot was empty" := by
  unfold AppState.viewBytes at failed
  split at failed
  · cases failed
  · unfold AppState.fetchBytes at failed
    split at failed
    · next found =>
      cases failed
      exact .inl found
    · split at failed
      · dsimp only at failed
        split at failed
        · cases failed
          exact .inr rfl
        · cases failed
      · cases failed

theorem renderWithContext_denied {state : AppState} (denied : state.Denies addr)
    (registry : HandlerRegistry Value) (bytes : Bytes) (ctx : RenderContext) :
    renderWithContext registry bytes ctx (state.renderingContext (toHex addr)) =
      .ok (.blocked ("xor_name: " ++ toHex addr)) := by
  obtain ⟨indexes, installed, blocked⟩ := denied
  simp [renderWithContext, AppState.renderingContext, installed, blocked]

theorem denied_address_blocked (state : AppState) (text : String) (addr : Address)
    (parsed : parseAddress tools text = .ok addr) (denied : state.Denies addr)
    (download : Download) (cancelled : Bool) :
    (fetchAndRender tools parsers state text download cancelled).1 =
        .ok (.blocked ("xor_name: " ++ toHex addr)) ∨
      ∃ message, (fetchAndRender tools parsers state text download cancelled).1 = .error message ∧
        (message = "fetch cancelled" ∨ download.answer = .error message ∨
          message = "download finished but the cache slot was empty") := by
  unfold fetchAndRender
  rw [parsed]
  dsimp only
  by_cases cut : cancelled
  · rw [if_pos cut]
    exact .inr ⟨_, rfl, .inl rfl⟩
  · rw [if_neg cut]
    have kept := readerDenylist_viewBytes state addr download
    rcases viewed : state.viewBytes addr download with ⟨bytes, after⟩
    rw [viewed] at kept
    cases bytes with
    | error message => exact .inr ⟨message, rfl, .inr (viewBytes_error viewed)⟩
    | ok bytes =>
      left
      have still : after.Denies addr := by
        unfold AppState.Denies
        rw [kept]
        exact denied
      dsimp only
      rw [renderWithContext_denied still]
      rfl

theorem protocolServe_hasContent {host path : String}
    (named : extractAddr tools host path = some addr) (state : AppState) (range : Option String)
    (download : Download) :
    (protocolServe tools state host path range download).1.HasContent ↔
      ∃ bytes ∈ state.obtained addr download, bytes ≠ [] := by
  rw [← fst_resolveBytes]
  unfold protocolServe
  rw [named]
  dsimp only
  rcases state.resolveBytes addr download with ⟨_ | bytes, after⟩
  · simp [protocolError, Response.HasContent, Except.toOption]
  · simp [build_hasContent, Except.toOption]

theorem extractArchiveEntry_eq_ok {text : String} (named : parseAddress tools text = .ok addr)
    (state : AppState) (path : String) (download : Download) :
    (extractArchiveEntry tools state text path download).1 = .ok out ↔
      ∃ bytes ∈ state.obtained addr download, extractEntry tools bytes path = .ok out := by
  rw [← fst_resolveBytes]
  unfold extractArchiveEntry
  rw [named]
  dsimp only
  rcases state.resolveBytes addr download with ⟨_ | bytes, after⟩
  · simp [Except.toOption]
  · simp [Except.toOption, Outcome.mapError_eq_ok]

theorem body_mediaServe {request : String}
    (named : mediaTarget tools request = .ok (method, range, addr)) (state : AppState)
    (progressive : String → Option String → Address → Except String Reply) :
    (mediaServe tools state request progressive).1.body ≠ [] ↔
      (∃ bytes ∈ state.held addr, method ≠ "HEAD" ∧ bytes ≠ []) ∨
        state.held addr = none ∧ ∃ reply, progressive method range addr = .ok reply ∧
          reply.body ≠ [] := by
  rw [← fst_cachedBytes]
  unfold mediaServe
  rw [named]
  dsimp only
  rcases state.cachedBytes addr with ⟨_ | bytes, after⟩
  · cases progressive method range addr <;> simp [Reply.body]
  · simp [body_serveComplete]

end

/-! The address of zeros, blocked and in the memory cache. -/

def zeros : String := String.ofList (List.replicate 64 '0')

def zeroAddress : Address := Vector.replicate 32 0

def bareTools : Tools := ⟨fun _ => none, fun _ => "", fun archive _ _ => .ok archive⟩

def deniedZeros : AppState where
  cache := fun _ => some [1, 2, 3]
  diskEnabled := false
  disk := fun _ => none
  readerDenylist := some { Trust.DenylistIndexes.empty with xorNames := {zeros} }

def noDownload : Download := ⟨.error "offline", false⟩

theorem parseAddress_zeros : parseAddress bareTools zeros = .ok zeroAddress := by decide +kernel

theorem denies_zeros : deniedZeros.Denies zeroAddress :=
  ⟨_, rfl, by decide +kernel⟩

end Fetchit.Desktop
