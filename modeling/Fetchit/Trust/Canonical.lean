import Fetchit.Bridge.Inbound
import Fetchit.Outbox.Bubble
import Fetchit.Trust.Index
import Fetchit.Trust.Server

/-! The values of the denylist as keys. What is listed is canonical text, and so is what a gate or
a revocation looks up, so they meet only if canonical text stays as it is. -/
namespace Fetchit.Trust
open Lib Lib.Outcome Outbox

/-- The gate of the chat client. A text that cannot be made canonical is denied. -/
def checkActorUrlDenylist (isBlockedActor : String → Bool) (actorUrl : String) :
    Except SendError Unit :=
  match canonicalizeUrlValue actorUrl with
  | .error _ => .error (.deniedActor actorUrl)
  | .ok canonical => if isBlockedActor canonical then .error (.deniedActor actorUrl) else .ok ()

def EntryKind.scheme : EntryKind → Option String
  | .xorName | .agentId => none
  | .relayUrl => some "wss://"
  | .actorUrl => some "https://"

/-- A URL has kept its scheme, and no slash of it is left to strip. -/
def TargetIdentity.Stable (target : TargetIdentity) : Prop :=
  ∀ scheme ∈ target.kind.scheme,
    Text.startsWith target.value scheme = true ∧ strippedSlash target.value = none

theorem canonicalizeUrlValue_eq_ok :
    canonicalizeUrlValue value = .ok canonical ↔ value.utf8ByteSize ≤ maxUrlValueLen ∧
      (∀ c ∈ ['@', '?', '#'], containsChar (afterScheme value) c = false) ∧
      (strippedSlash value).getD value = canonical := by
  simp [canonicalizeUrlValue, bind_eq_ok, and_assoc]

theorem tryNew_url (url : kind.scheme = some scheme) :
    TargetIdentity.tryNew kind value = .ok target ↔
      Text.startsWith (Text.asciiLower value) scheme = true ∧
        canonicalizeUrlValue (Text.asciiLower value) = .ok target.value ∧ target.kind = kind := by
  obtain ⟨own, text⟩ := target
  cases kind with
  | xorName | agentId => cases url
  | relayUrl | actorUrl =>
    cases url
    simp only [TargetIdentity.tryNew, bind_eq_ok, require_eq_ok]
    constructor
    · rintro ⟨_, starts, canonical, done, built⟩
      cases built
      exact ⟨starts, done, rfl⟩
    · rintro ⟨starts, done, rfl⟩
      exact ⟨(), starts, text, done, rfl⟩

theorem tryNew_hex (hex : kind.scheme = none) :
    TargetIdentity.tryNew kind value = .ok target ↔
      ((Text.asciiLower value).utf8ByteSize == 64 &&
        (Text.asciiLower value).toList.all Text.isHexDigit) = true ∧
      target = ⟨kind, Text.asciiLower value⟩ := by
  cases kind with
  | xorName | agentId => simp [TargetIdentity.tryNew, bind_eq_ok, eq_comm (b := target)]
  | relayUrl | actorUrl => cases hex

theorem afterScheme_eq (url : EntryKind.scheme kind = some scheme)
    (split : text.toList = scheme.toList ++ rest) : (afterScheme text).toList = rest := by
  unfold afterScheme Scan.splitOnce
  rw [split]
  cases kind <;> cases url <;> simp [Scan.cutChars]

theorem canonicalizeUrlValue_stable (url : EntryKind.scheme kind = some scheme)
    (done : canonicalizeUrlValue value = .ok canonical)
    (kept : Text.startsWith canonical scheme = true) (bare : strippedSlash canonical = none) :
    canonicalizeUrlValue canonical = .ok canonical := by
  obtain ⟨small, plain, result⟩ := canonicalizeUrlValue_eq_ok.mp done
  cases stripped : strippedSlash value with
  | none =>
    rw [stripped] at result
    exact result ▸ done
  | some rest =>
    rw [stripped, Option.getD_some] at result
    subst result
    have slash := strippedSlash_append stripped
    obtain ⟨path, split⟩ := List.isPrefixOf_iff_prefix.mp kept
    have whole : value = rest ++ "/" := String.toList_injective (by simp [← slash])
    have after : (afterScheme value).toList = path ++ ['/'] :=
      afterScheme_eq url (by rw [← slash, ← split, List.append_assoc])
    refine canonicalizeUrlValue_eq_ok.mpr ⟨?_, ?_, by rw [bare, Option.getD_none]⟩
    · rw [whole, String.utf8ByteSize_append] at small
      omega
    · intro c bad
      have before := plain c bad
      unfold containsChar at before ⊢
      rw [afterScheme_eq url split.symm]
      simp_all

theorem tryNew_canonical (accepted : TargetIdentity.tryNew kind value = .ok target) :
    target.kind = kind ∧ Text.asciiLower target.value = target.value := by
  cases url : kind.scheme with
  | none => simp [((tryNew_hex url).mp accepted).2]
  | some scheme =>
    obtain ⟨_, done, own⟩ := (tryNew_url url).mp accepted
    rw [← (canonicalizeUrlValue_eq_ok.mp done).2.2]
    exact ⟨own, asciiLower_canonical value⟩

theorem tryNew_again_iff (accepted : TargetIdentity.tryNew kind value = .ok target) :
    TargetIdentity.tryNew kind target.value = .ok target ↔ target.Stable := by
  obtain ⟨own, lower⟩ := tryNew_canonical accepted
  unfold TargetIdentity.Stable
  cases url : kind.scheme with
  | none =>
    obtain ⟨hex, built⟩ := (tryNew_hex url).mp accepted
    rw [tryNew_hex url]
    simpa [url, built] using hex
  | some scheme =>
    obtain ⟨_, done, _⟩ := (tryNew_url url).mp accepted
    rw [tryNew_url url, lower]
    simp only [own, url, Option.mem_some_iff, forall_eq', and_true]
    refine and_congr_right fun kept => ⟨fun again => ?_, canonicalizeUrlValue_stable url done kept⟩
    have result := (canonicalizeUrlValue_eq_ok.mp again).2.2
    cases stripped : strippedSlash target.value with
    | none => rfl
    | some rest =>
      rw [stripped] at result
      exact absurd result (strippedSlash_ne stripped)

theorem strippedSlash_eq_some : strippedSlash text = some rest ↔
    rest.toList ++ ['/'] = text.toList ∧ '/' ∈ (afterScheme rest).toList := by
  unfold strippedSlash
  rw [Option.filter_eq_some_iff, Scan.stripEnd_eq_some, containsChar, List.contains_iff_mem]
  rfl

theorem front_of_strippedSlash (url : EntryKind.scheme kind = some scheme)
    (split : text.toList = scheme.toList ++ path) (hosted : path ≠ [])
    (stripped : strippedSlash text = some rest) :
    ∃ front, path = front ++ ['/'] ∧ rest.toList = scheme.toList ++ front ∧ '/' ∈ front := by
  obtain ⟨slash, inside⟩ := strippedSlash_eq_some.mp stripped
  obtain ⟨front, last, rfl⟩ := List.eq_nil_or_concat path |>.resolve_left hosted
  rw [split, List.concat_eq_append, ← List.append_assoc] at slash
  obtain ⟨kept, ⟨⟩⟩ := List.append_inj' slash rfl
  rw [afterScheme_eq url kept] at inside
  exact ⟨front, List.concat_eq_append .., kept, inside⟩

theorem strippedSlash_eq_none (url : EntryKind.scheme kind = some scheme)
    (split : text.toList = scheme.toList ++ path) (hosted : path ≠ []) :
    strippedSlash text = none ↔ ∀ front, path = front ++ ['/'] → '/' ∉ front := by
  constructor
  · rintro bare front rfl slash
    have stripped : strippedSlash text = some (String.ofList (scheme.toList ++ front)) := by
      refine strippedSlash_eq_some.mpr ⟨by simp [split], ?_⟩
      rwa [afterScheme_eq url String.toList_ofList]
    rw [bare] at stripped
    cases stripped
  · intro plain
    by_contra found
    obtain ⟨rest, stripped⟩ := Option.ne_none_iff_exists'.mp found
    obtain ⟨front, ends, _, inside⟩ := front_of_strippedSlash url split hosted stripped
    exact plain front ends inside

/-- After the scheme there is something, and it does not end in two slashes with a slash before
them. -/
def EntryKind.Plain (kind : EntryKind) (value : String) : Prop :=
  ∀ scheme ∈ kind.scheme, ∃ path, (Text.asciiLower value).toList = scheme.toList ++ path ∧
    path ≠ [] ∧ ∀ front, path = front ++ ['/', '/'] → '/' ∉ front

theorem stable_iff_plain (accepted : TargetIdentity.tryNew kind value = .ok target) :
    target.Stable ↔ kind.Plain value := by
  obtain ⟨own, _⟩ := tryNew_canonical accepted
  unfold TargetIdentity.Stable EntryKind.Plain
  cases url : kind.scheme with
  | none => simp [own, url]
  | some scheme =>
    obtain ⟨starts, done, _⟩ := (tryNew_url url).mp accepted
    obtain ⟨path, split⟩ := List.isPrefixOf_iff_prefix.mp starts
    have result := (canonicalizeUrlValue_eq_ok.mp done).2.2
    simp only [own, url, Option.mem_some_iff, forall_eq', ← split, List.append_cancel_left_eq,
      exists_eq_left']
    by_cases hosted : path = []
    · -- the slash that is stripped belongs to the scheme
      have bare : Text.asciiLower value = scheme :=
        String.toList_injective (by rw [← split, hosted, List.append_nil])
      rw [← result, bare]
      refine iff_of_false ?_ fun plain => plain.1 hosted
      cases kind <;> cases url <;> decide +kernel
    cases stripped : strippedSlash (Text.asciiLower value) with
    | none =>
      rw [stripped, Option.getD_none] at result
      have plain := (strippedSlash_eq_none url split.symm hosted).mp stripped
      rw [← result]
      refine iff_of_true ⟨starts, stripped⟩ ⟨hosted, ?_⟩
      rintro front rfl
      exact absurd (List.mem_append_right front (List.mem_singleton_self '/'))
        (plain (front ++ ['/']) (by simp))
    | some rest =>
      rw [stripped, Option.getD_some] at result
      obtain ⟨front, rfl, kept, inside⟩ :=
        front_of_strippedSlash url split.symm hosted stripped
      rw [← result, strippedSlash_eq_none url kept (List.ne_nil_of_mem inside)]
      constructor
      · rintro ⟨_, bare⟩
        refine ⟨by simp, fun first same => bare first ?_⟩
        exact List.append_cancel_right (same.trans (List.append_assoc first ['/'] ['/']).symm)
      · rintro ⟨_, plain⟩
        refine ⟨List.isPrefixOf_iff_prefix.mpr ⟨front, kept.symm⟩, fun first same => plain first ?_⟩
        rw [same, List.append_assoc]
        rfl

/-- A value becomes its own key exactly when it is plain. Then a revocation of the value as listed
removes the entry, and both gates block an actor of that id. -/
theorem canonical_keys_stable (accepted : TargetIdentity.tryNew kind value = .ok target) :
    (TargetIdentity.tryNew kind target.value = .ok target ↔ kind.Plain value) ∧
      (kind.Plain value →
        (∀ (snapshot : Snapshot) (now : Nat), ∃ change,
          (AdminRequest.revoke kind target.value).change now = .ok change ∧
            (snapshot.apply change).entry target = none) ∧
        (kind = .actorUrl → ∀ (indexes : DenylistIndexes) (values : List String),
          target.value ∈ values →
            let blocked := (indexes.replace .actorUrl values).2.isBlocked .actorUrl
            Bridge.isBlockedActor (some blocked) target.value = true ∧
              checkActorUrlDenylist blocked target.value =
                .error (.deniedActor target.value))) := by
  have again := (tryNew_again_iff accepted).trans (stable_iff_plain accepted)
  refine ⟨again, fun plain => ⟨fun snapshot now => ?_, ?_⟩⟩
  · refine ⟨.revoke target, ?_, ?_⟩
    · simp [AdminRequest.change, again.mpr plain]
    · rw [entry_apply]
      exact if_pos rfl
  · rintro rfl indexes values listed blocked
    obtain ⟨_, done, _⟩ := (tryNew_url rfl).mp (again.mpr plain)
    have hit : blocked target.value = true :=
      (isBlocked_replace ..).mpr (List.mem_map_of_mem listed)
    rw [(tryNew_canonical accepted).2] at done
    unfold Bridge.isBlockedActor checkActorUrlDenylist
    simp only [done, hit]
    simp

theorem trailing_slash_stripped_once :
    TargetIdentity.tryNew .actorUrl "https://h/p/" = .ok ⟨.actorUrl, "https://h/p"⟩ ∧
      TargetIdentity.tryNew .actorUrl "https://h/p" = .ok ⟨.actorUrl, "https://h/p"⟩ := by
  have accepted : TargetIdentity.tryNew .actorUrl "https://h/p/" =
      .ok ⟨.actorUrl, "https://h/p"⟩ := by
    decide +kernel
  refine ⟨accepted, (canonical_keys_stable accepted).1.mpr ?_⟩
  rintro scheme ⟨⟩
  refine ⟨['h', '/', 'p', '/'], by decide +kernel, by decide, ?_⟩
  intro front same
  have ends := congrArg List.reverse same
  simp at ends

/-- One of two trailing slashes is stripped, and the other by a second pass: the entry of the actor
cannot be revoked and blocks nobody. A scheme without a host is stripped of its own slash. -/
theorem double_slash_unstable :
    let listed : DenylistEntry := ⟨⟨.actorUrl, "https://h/p/"⟩, 0, .spam⟩
    let snapshot := Snapshot.default.apply (.deny listed)
    let blocked := (DenylistIndexes.empty.replace .actorUrl ["https://h/p/"]).2.isBlocked .actorUrl
    (AdminRequest.deny .actorUrl "https://h/p//" .spam).change 0 = .ok (.deny listed) ∧
      (AdminRequest.revoke .actorUrl "https://h/p/").change 0 =
        .ok (.revoke ⟨.actorUrl, "https://h/p"⟩) ∧
      (snapshot.apply (.revoke ⟨.actorUrl, "https://h/p"⟩)).entry listed.target = some listed ∧
      Bridge.isBlockedActor (some blocked) "https://h/p/" = false ∧
      checkActorUrlDenylist blocked "https://h/p/" = .ok () ∧
      TargetIdentity.tryNew .actorUrl "https://" = .ok ⟨.actorUrl, "https:/"⟩ ∧
      TargetIdentity.tryNew .actorUrl "https:/" = .error "ActorUrl must be https://" := by
  decide +kernel

end Fetchit.Trust
