import Fetchit.Core.Handlers

/-! Whether a text is shown as text. Handlers decide on the first 4096 bytes and render up to a cap
in bytes, and both cuts may fall inside a character. -/
namespace Fetchit.Core
open Lib Lib.Utf8

section Choice

variable {Value : Type} {head : Bytes}

theorem choose_of_refusal {handler : ContentHandler Value}
    (refuses : handler.canHandle head = .none) (rest : HandlerRegistry Value) :
    choose (handler :: rest) head = choose rest head := by
  unfold choose
  rw [List.foldl_cons, better, if_pos refuses]

theorem choose_of_refusals {others : HandlerRegistry Value}
    (refuse : ∀ handler ∈ others, handler.canHandle head = .none) (rest : HandlerRegistry Value) :
    choose (others ++ rest) head = choose rest head := by
  induction others with
  | nil => rfl
  | cons handler others ih =>
    rw [List.cons_append, choose_of_refusal (refuse handler List.mem_cons_self)]
    exact ih fun other mem => refuse other (List.mem_cons_of_mem _ mem)

/-- A later handler is chosen only if its claim is stronger. -/
theorem choose_of_claim {handler : ContentHandler Value} (claims : handler.canHandle head ≠ .none)
    (rest : HandlerRegistry Value)
    (most : ∀ other ∈ rest, (other.canHandle head).rank ≤ (handler.canHandle head).rank) :
    choose (handler :: rest) head = some handler := by
  have stays : rest.foldl (better head) (some (handler.canHandle head, handler)) =
      some (handler.canHandle head, handler) := by
    induction rest with
    | nil => rfl
    | cons other rest ih =>
      have weaker : better head (some (handler.canHandle head, handler)) other =
          some (handler.canHandle head, handler) := by
        unfold better
        dsimp only
        rw [if_pos (most other List.mem_cons_self), ite_self]
      rw [List.foldl_cons, weaker]
      exact ih fun other mem => most other (List.mem_cons_of_mem _ mem)
  unfold choose
  rw [List.foldl_cons, better, if_neg claims]
  exact congrArg (Option.map (·.2)) stays

/-- A handler that no later one outbids is chosen if it claims the head at all. -/
theorem choose_cons {handler chosen : ContentHandler Value} {rest : HandlerRegistry Value}
    (most : handler.canHandle head ≠ .none →
      ∀ other ∈ rest, (other.canHandle head).rank ≤ (handler.canHandle head).rank)
    (otherwise : choose rest head = some chosen) :
    choose (handler :: rest) head =
      some (if handler.canHandle head ≠ .none then handler else chosen) := by
  by_cases claims : handler.canHandle head ≠ .none
  · rw [if_pos claims, choose_of_claim claims rest (most claims)]
  · rw [if_neg claims, choose_of_refusal (not_not.mp claims), otherwise]

end Choice

section Texts

def bomChar : Char := Char.ofNat 0xFEFF

theorem utf8_bomChar : utf8 (String.ofList [bomChar]) = bom := by
  decide

def withoutBom (text : String) : String :=
  if text.toList.head? = some bomChar then String.ofList text.toList.tail else text

theorem stripBom_utf8 (text : String) : stripBom (utf8 text) = utf8 (withoutBom text) := by
  unfold withoutBom stripBom
  by_cases marked : text.toList.head? = some bomChar
  · have split : text = String.ofList [bomChar] ++ String.ofList text.toList.tail := by
      apply String.toList_inj.mp
      rw [String.toList_append, String.toList_ofList, String.toList_ofList,
        List.singleton_append, List.cons_head?_tail marked]
    rw [if_pos marked]
    generalize String.ofList text.toList.tail = rest at split
    subst split
    rw [utf8_append, utf8_bomChar, if_pos (List.isPrefixOf_iff_prefix.mpr (List.prefix_append ..)),
      List.drop_left]
  · rw [if_neg marked, if_neg]
    intro starts
    obtain ⟨rest, bytes⟩ := List.isPrefixOf_iff_prefix.mp starts
    have front : fromUtf8 ((utf8 text).take bom.length) = some (String.ofList [bomChar]) := by
      rw [← bytes, List.take_left, ← utf8_bomChar, fromUtf8_utf8]
    obtain ⟨back, rfl⟩ := append_of_take front
    apply marked
    rw [String.toList_append]
    rfl

theorem take_of_boundary (cut : Boundary text (min position text.utf8ByteSize)) :
    ∃ front back, text = front ++ back ∧ (utf8 text).take position = utf8 front := by
  obtain ⟨front, back, split, size⟩ := cut
  refine ⟨front, back, split, ?_⟩
  rw [List.take_eq_take_min, utf8_length, ← size, split, utf8_append,
    List.take_left' (utf8_length front)]

end Texts

section Rendering

variable {Value : Type} {parsers : Parsers Value} {text : String} {ctx : RenderContext}

def Rendition.readable : Rendition Value → Bool
  | .text .. | .html _ | .json _ | .tabular .. | .etchitEnvelope .. => true
  | _ => false

def otherHandlers (parsers : Parsers Value) : List (ContentHandler Value) :=
  [mlsEnvelopeHandler, imageHandler, audioHandler, videoHandler, zipHandler parsers]

theorem textHandler_claims (parsers : Parsers Value) (nul : Char.ofNat 0 ∉ front.toList) :
    (textHandler parsers).canHandle (utf8 front) = .medium := by
  unfold textHandler
  dsimp only
  rw [stripBom_utf8]
  split
  · rfl
  · rw [if_neg, fromUtf8_utf8]
    · rfl
    · intro zero
      apply nul
      have inside := zero_mem_utf8 (List.contains_iff_mem.mp zero)
      unfold withoutBom at inside
      split at inside
      · rw [String.toList_ofList] at inside
        exact List.mem_of_mem_tail inside
      · exact inside

/-! When a handler renders a text. -/

def Shows (handler : ContentHandler Value) (text : String) (ctx : RenderContext) : Prop :=
  ∃ rendition, handler.render (utf8 text) ctx = .ok rendition ∧ rendition.readable = true

/-- The cap falls between characters. -/
def CapFits (text : String) (ctx : RenderContext) : Prop :=
  Boundary (withoutBom text) (min ctx.maxTextBytes (withoutBom text).utf8ByteSize)

theorem shows_iff_capFits {kind : String} {wrap : String → Rendition Value}
    {handler : ContentHandler Value} (text : String) (ctx : RenderContext)
    (readable : ∀ body, (wrap body).readable = true)
    (renders : ∀ bytes ctx, handler.render bytes ctx =
      decodeCapped parsers kind bytes ctx >>= fun body => .ok (wrap body)) :
    Shows handler text ctx ↔ CapFits text ctx := by
  unfold Shows CapFits
  rw [renders, decodeCapped, stripBom_utf8, utf8_length]
  constructor
  · rintro ⟨rendition, rendered, _⟩
    cases read : fromUtf8 ((utf8 (withoutBom text)).take
        (min ctx.maxTextBytes (withoutBom text).utf8ByteSize)) with
    | none =>
      rw [read] at rendered
      cases rendered
    | some body =>
      have boundary := boundary_of_take read
      rwa [Nat.min_eq_left (Nat.min_le_right _ _)] at boundary
  · intro cap
    obtain ⟨front, read⟩ := fromUtf8_take cap
    rw [read]
    exact ⟨wrap front, rfl, readable front⟩

section
variable (parsers : Parsers Value) (text : String) (ctx : RenderContext)

theorem shows_html : Shows (htmlHandler parsers) text ctx ↔ CapFits text ctx :=
  shows_iff_capFits text ctx (fun _ => rfl) fun _ _ => rfl

theorem shows_markdown : Shows (markdownHandler parsers) text ctx ↔ CapFits text ctx :=
  shows_iff_capFits text ctx (fun _ => rfl) fun _ _ => rfl

theorem shows_text : Shows (textHandler parsers) text ctx ↔ CapFits text ctx :=
  shows_iff_capFits text ctx (fun _ => rfl) fun _ _ => rfl

end

theorem shows_csv (parsers : Parsers Value) (text : String) (ctx : RenderContext) :
    Shows (csvHandler parsers) text ctx := by
  unfold Shows csvHandler
  dsimp only
  rw [stripBom_utf8, fromUtf8_utf8]
  dsimp only
  split <;> exact ⟨_, rfl, rfl⟩

theorem shows_json :
    Shows (jsonHandler parsers) text ctx ↔ ∃ value, parsers.json (utf8 text) = .ok value := by
  unfold Shows jsonHandler
  dsimp only
  cases parsers.json (utf8 text) with
  | error error => simp
  | ok value => exact iff_of_true ⟨_, rfl, rfl⟩ ⟨value, rfl⟩

theorem shows_envelope :
    Shows (etchitEnvelopeHandler parsers) text ctx ↔
      ∃ envelope, parsers.envelope (utf8 text) = .ok envelope ∧ envelope.v = 1 := by
  unfold Shows etchitEnvelopeHandler
  dsimp only
  cases parsers.envelope (utf8 text) with
  | error message => simp
  | ok envelope =>
    dsimp only
    split
    · rename_i other
      simp [other]
    · rename_i first
      exact iff_of_true ⟨_, rfl, rfl⟩ ⟨envelope, rfl, not_not.mp first⟩

/-- The handler that is chosen for a text can render it: an envelope is of the first version, JSON
parses, a table always renders, and the cap of any other text fits. -/
def ChosenRenders (parsers : Parsers Value) (text : String) (ctx : RenderContext) : Prop :=
  let claims := fun handler : ContentHandler Value =>
    handler.canHandle ((utf8 text).take sniffBytes) ≠ .none
  if claims (etchitEnvelopeHandler parsers) then
    ∃ envelope, parsers.envelope (utf8 text) = .ok envelope ∧ envelope.v = 1
  else if claims (htmlHandler parsers) then CapFits text ctx
  else if claims (jsonHandler parsers) then ∃ value, parsers.json (utf8 text) = .ok value
  else if claims (csvHandler parsers) then True
  else CapFits text ctx

/-! How strong the claims are. -/

theorem claimText_eq (looks : String → Bool) (confidence : Confidence) (head : Bytes) :
    claimText looks confidence head = .none ∨ claimText looks confidence head = confidence := by
  unfold claimText
  dsimp only
  split
  · exact .inl rfl
  · split
    · exact .inl rfl
    · split
      · exact .inr rfl
      · exact .inl rfl

theorem rank_claimText (looks : String → Bool) (confidence : Confidence) (head : Bytes) :
    (claimText looks confidence head).rank ≤ confidence.rank := by
  rcases claimText_eq looks confidence head with none | claimed
  · rw [none]
    exact Nat.zero_le _
  · rw [claimed]

theorem envelope_claims (claims : (etchitEnvelopeHandler parsers).canHandle head ≠ .none) :
    (etchitEnvelopeHandler parsers).canHandle head = .definite := by
  unfold etchitEnvelopeHandler at claims ⊢
  dsimp only at claims ⊢
  split at claims
  · exact absurd rfl claims
  · split at claims
    · exact absurd rfl claims
    · split at claims
      · simp [*]
      · exact absurd rfl claims

theorem json_claims (claims : (jsonHandler parsers).canHandle head ≠ .none) :
    (jsonHandler parsers).canHandle head = .high := by
  unfold jsonHandler at claims ⊢
  dsimp only at claims ⊢
  split at claims
  · exact absurd rfl claims
  · split at claims
    · simp [*]
    · split at claims
      · simp [*]
      · exact absurd rfl claims

theorem rank_le_definite (confidence : Confidence) :
    confidence.rank ≤ Confidence.definite.rank := by
  cases confidence <;> decide

theorem choose_text (parsers : Parsers Value)
    (unclaimed : ∀ handler ∈ otherHandlers parsers, handler.canHandle head = .none)
    (text : (textHandler parsers).canHandle head = .medium) :
    choose (defaultRegistry parsers) head = some
      (if (etchitEnvelopeHandler parsers).canHandle head ≠ .none then etchitEnvelopeHandler parsers
      else if (htmlHandler parsers).canHandle head ≠ .none then htmlHandler parsers
      else if (jsonHandler parsers).canHandle head ≠ .none then jsonHandler parsers
      else if (csvHandler parsers).canHandle head ≠ .none then csvHandler parsers
      else if (markdownHandler parsers).canHandle head ≠ .none then markdownHandler parsers
      else textHandler parsers) := by
  have weaker : ∀ other ∈ [csvHandler parsers, markdownHandler parsers, textHandler parsers,
      binaryHandler parsers], (other.canHandle head).rank ≤ Confidence.high.rank := by
    intro other mem
    simp only [List.mem_cons, List.not_mem_nil, or_false] at mem
    rcases mem with rfl | rfl | rfl | rfl
    · exact rank_claimText ..
    · exact rank_claimText ..
    · rw [text]
      decide
    · exact (by decide : Confidence.low.rank ≤ Confidence.high.rank)
  have registry : defaultRegistry parsers = etchitEnvelopeHandler parsers ::
      (otherHandlers parsers ++ [htmlHandler parsers, jsonHandler parsers, csvHandler parsers,
        markdownHandler parsers, textHandler parsers, binaryHandler parsers]) := rfl
  rw [registry]
  refine choose_cons (fun claims other _ => ?_) ?_
  · rw [envelope_claims claims]
    exact rank_le_definite _
  rw [choose_of_refusals unclaimed]
  refine choose_cons (fun claims other _ => ?_) ?_
  · rw [show (htmlHandler parsers).canHandle head = .definite from
      (claimText_eq ..).resolve_left claims]
    exact rank_le_definite _
  refine choose_cons (fun claims other mem => ?_) ?_
  · rw [json_claims claims]
    exact weaker other mem
  refine choose_cons (fun claims other mem => ?_) ?_
  · rw [show (csvHandler parsers).canHandle head = .high from
      (claimText_eq ..).resolve_left claims]
    exact weaker other (List.mem_cons_of_mem _ mem)
  refine choose_cons (fun claims other mem => ?_) ?_
  · rw [show (markdownHandler parsers).canHandle head = .high from
      (claimText_eq ..).resolve_left claims]
    exact weaker other (List.mem_cons_of_mem _ (List.mem_cons_of_mem _ mem))
  apply choose_of_claim (by rw [text]; nofun)
  intro other mem
  rw [List.mem_singleton.mp mem, text]
  exact (by decide : Confidence.low.rank ≤ Confidence.medium.rank)

theorem claimText_unreadable
    (unreadable : fromUtf8 (stripBom head) = none) : claimText looks confidence head = .none := by
  unfold claimText
  dsimp only
  split
  · rfl
  · rw [unreadable]

theorem stripBom_unreadable (unreadable : fromUtf8 head = none) :
    fromUtf8 (stripBom head) = none := by
  unfold stripBom
  split
  · rename_i marked
    obtain ⟨rest, bytes⟩ := List.isPrefixOf_iff_prefix.mp marked
    rw [← bytes, List.drop_left]
    cases read : fromUtf8 rest with
    | none => rfl
    | some text =>
      have whole : head = utf8 (String.ofList [bomChar] ++ text) := by
        rw [utf8_append, utf8_bomChar, utf8_of_fromUtf8 read, bytes]
      rw [whole, fromUtf8_utf8] at unreadable
      cases unreadable
  · exact unreadable

theorem textHandler_unreadable (parsers : Parsers Value)
    (unreadable : fromUtf8 (stripBom head) = none) :
    (textHandler parsers).canHandle head = .none := by
  unfold textHandler
  dsimp only
  split
  · rename_i empty
    rw [List.isEmpty_iff.mp empty] at unreadable
    cases unreadable
  · split
    · rfl
    · rw [unreadable]
      rfl

theorem cut_text_opaque (parsers : Parsers Value) (text : String) (ctx : RenderContext)
    (unclaimed : ∀ handler ∈ otherHandlers parsers,
      handler.canHandle ((utf8 text).take sniffBytes) = .none)
    (long : sniffBytes ≤ text.utf8ByteSize) (cut : ¬ Boundary text sniffBytes) :
    ∃ mime, render (defaultRegistry parsers) (utf8 text) ctx =
      .ok (.opaqueBinary mime (utf8 text)) := by
  have unreadable : fromUtf8 ((utf8 text).take sniffBytes) = none := by
    cases read : fromUtf8 ((utf8 text).take sniffBytes) with
    | none => rfl
    | some front =>
      have boundary := boundary_of_take read
      rw [Nat.min_eq_left long] at boundary
      exact absurd boundary cut
  have stripped := stripBom_unreadable unreadable
  have refuse : ∀ handler ∈ [htmlHandler parsers, jsonHandler parsers, csvHandler parsers,
      markdownHandler parsers, textHandler parsers],
      handler.canHandle ((utf8 text).take sniffBytes) = .none := by
    intro handler mem
    simp only [List.mem_cons, List.not_mem_nil, or_false] at mem
    rcases mem with rfl | rfl | rfl | rfl | rfl
    · exact claimText_unreadable stripped
    · simp [jsonHandler, looksLikeJson, unreadable]
    · exact claimText_unreadable stripped
    · exact claimText_unreadable stripped
    · exact textHandler_unreadable parsers stripped
  have registry : defaultRegistry parsers = etchitEnvelopeHandler parsers ::
      (otherHandlers parsers ++ ([htmlHandler parsers, jsonHandler parsers, csvHandler parsers,
        markdownHandler parsers, textHandler parsers] ++ [binaryHandler parsers])) := rfl
  have choice : choose (defaultRegistry parsers) ((utf8 text).take sniffBytes) =
      some (binaryHandler parsers) := by
    rw [registry, choose_of_refusal (by simp [etchitEnvelopeHandler, unreadable]),
      choose_of_refusals unclaimed, choose_of_refusals refuse]
    apply choose_of_claim
    · intro refused
      cases refused
    · exact List.forall_mem_nil _
  unfold render
  rw [choice]
  exact ⟨_, rfl⟩

/-- A text that no handler for other formats claims is shown as text or as a structure read from
it if and only if the end of the first 4096 bytes falls between characters and the handler that is
chosen can render the whole. -/
theorem text_renders_iff (parsers : Parsers Value) (text : String) (ctx : RenderContext)
    (nul : Char.ofNat 0 ∉ text.toList)
    (unclaimed : ∀ handler ∈ otherHandlers parsers,
      handler.canHandle ((utf8 text).take sniffBytes) = .none) :
    (∃ rendition, render (defaultRegistry parsers) (utf8 text) ctx = .ok rendition ∧
      rendition.readable = true) ↔
      Boundary text (min sniffBytes text.utf8ByteSize) ∧ ChosenRenders parsers text ctx := by
  by_cases headCut : Boundary text (min sniffBytes text.utf8ByteSize)
  · rw [and_iff_right headCut]
    obtain ⟨front, back, split, head⟩ := take_of_boundary headCut
    have claimed : (textHandler parsers).canHandle ((utf8 text).take sniffBytes) = .medium := by
      rw [head]
      apply textHandler_claims
      intro inside
      apply nul
      rw [split, String.toList_append]
      exact List.mem_append_left _ inside
    unfold render
    rw [choose_text parsers unclaimed claimed]
    change Shows _ text ctx ↔ _
    unfold ChosenRenders
    dsimp only
    split_ifs
    · exact shows_envelope
    · exact shows_html parsers text ctx
    · exact shows_json
    · exact iff_true_intro (shows_csv parsers text ctx)
    · exact shows_markdown parsers text ctx
    · exact shows_text parsers text ctx
  · have long : sniffBytes ≤ text.utf8ByteSize := by
      by_contra short
      rw [Nat.min_eq_right (by omega)] at headCut
      exact headCut (boundary_end text)
    rw [Nat.min_eq_left long] at headCut ⊢
    obtain ⟨mime, shown⟩ := cut_text_opaque parsers text ctx unclaimed long headCut
    refine iff_of_false ?_ fun cut => headCut cut.1
    rintro ⟨rendition, rendered, readable⟩
    rw [shown] at rendered
    cases rendered
    cases readable

end Rendering

/-- A word is shown as text, and a table under any cap. -/
theorem words_render :
    (∃ rendition, render (defaultRegistry noParsers) (utf8 "word") ⟨4⟩ = .ok rendition ∧
      rendition.readable = true) ∧
    ∃ rendition, render (defaultRegistry noParsers) (utf8 "a,b\nc,d\ne,f") ⟨0⟩ = .ok rendition ∧
      rendition.readable = true := by
  constructor
  · refine (text_renders_iff noParsers "word" ⟨4⟩ (by decide) (by decide +kernel)).mpr
      ⟨boundary_end "word", ?_⟩
    unfold ChosenRenders
    rw [if_neg (by decide +kernel), if_neg (by decide +kernel), if_neg (by decide +kernel),
      if_neg (by decide +kernel)]
    exact boundary_end "word"
  · refine (text_renders_iff noParsers "a,b\nc,d\ne,f" ⟨0⟩ (by decide) (by decide +kernel)).mpr
      ⟨boundary_end _, ?_⟩
    unfold ChosenRenders
    rw [if_neg (by decide +kernel), if_neg (by decide +kernel), if_neg (by decide +kernel),
      if_pos (by decide +kernel)]
    trivial

/-! A letter that is not ASCII, after so many that are. -/

def eAcute : Char := Char.ofNat 0xE9

def accented (letters : Nat) : String := String.ofList (List.replicate letters 'a' ++ [eAcute])

theorem utf8_letters (letters : Nat) :
    utf8 (String.ofList (List.replicate letters 'a')) = List.replicate letters 97 := by
  rw [utf8_eq_flatMap, String.toList_ofList, List.flatMap_replicate]
  exact List.flatten_replicate_singleton

theorem utf8_accented (letters : Nat) :
    utf8 (accented letters) = List.replicate letters 97 ++ [0xC3, 0xA9] := by
  unfold accented
  rw [String.ofList_append, utf8_append, utf8_letters]
  congr 1

theorem not_boundary_accented (letters : Nat) : ¬ Boundary (accented letters) (letters + 1) := by
  rintro ⟨front, back, split, size⟩
  have chars : front.toList <+: List.replicate letters 'a' ++ [eAcute] := by
    refine ⟨back.toList, ?_⟩
    rw [← String.toList_append, ← split]
    exact String.toList_ofList
  rcases List.prefix_concat_iff.mp chars with whole | inside
  · have same : front = accented letters := by
      apply String.toList_inj.mp
      rw [whole]
      exact String.toList_ofList.symm
    rw [same, ← utf8_length, utf8_accented] at size
    exact absurd size (by simp)
  · obtain ⟨rest, plain⟩ := inside
    obtain ⟨length, letters, _⟩ := List.append_eq_replicate_iff.mp plain
    have same : front = String.ofList (List.replicate front.toList.length 'a') := by
      apply String.toList_inj.mp
      rw [String.toList_ofList]
      exact letters
    rw [same, ← utf8_length, utf8_letters, List.length_replicate] at size
    omega

/-- Such a text is opaque after 4095 letters, and a cap of one byte makes its rendering fail. An
envelope of another version is claimed and not rendered. -/
theorem texts_not_shown :
    (∀ (Value : Type) (parsers : Parsers Value) ctx,
      (∀ handler ∈ otherHandlers parsers,
        handler.canHandle ((utf8 (accented 4095)).take sniffBytes) = .none) ∧
      ∃ mime, render (defaultRegistry parsers) (utf8 (accented 4095)) ctx =
        .ok (.opaqueBinary mime (utf8 (accented 4095)))) ∧
    render (defaultRegistry noParsers) (utf8 (accented 0)) ⟨1⟩ =
      .error (.render "text/plain" "invalid UTF-8: invalid utf-8 sequence") ∧
    render (defaultRegistry { noParsers with envelope := fun _ => .ok ⟨2, "", "", ""⟩ })
      (utf8 "\x7b\"v\":2,\"meta\":\x7b\x7d,\"content\":\"\"\x7d") ⟨100⟩ =
        .error (.render "etchit/envelope-v1" "unsupported envelope version: 2") := by
  refine ⟨?_, by decide +kernel, by decide +kernel⟩
  intro Value parsers ctx
  have unclaimed : ∀ handler ∈ otherHandlers parsers,
      handler.canHandle ((utf8 (accented 4095)).take sniffBytes) = .none := by
    rw [utf8_accented]
    have closed : ∀ handler ∈ otherHandlers noParsers, handler.canHandle
        ((List.replicate 4095 (97 : UInt8) ++ [0xC3, 0xA9]).take sniffBytes) = .none := by
      decide +kernel
    -- none of these claims depends on the parsers
    simp only [otherHandlers, List.forall_mem_cons] at closed ⊢
    obtain ⟨mls, image, audio, video, zip, _⟩ := closed
    exact ⟨mls, image, audio, video, zip, fun _ mem => (List.not_mem_nil mem).elim⟩
  refine ⟨unclaimed, cut_text_opaque parsers _ ctx unclaimed ?_ (not_boundary_accented 4095)⟩
  rw [← utf8_length, utf8_accented, List.length_append, List.length_replicate]
  decide

end Fetchit.Core
