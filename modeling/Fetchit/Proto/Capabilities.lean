import Mathlib.Data.Finset.Insert
import Fetchit.Lib.Bytes

/-! The capability claims of a token and the session limits they resolve to. Caps, tenants and
features accumulate over the claims; a region claim replaces the one before it. -/
namespace Fetchit.Proto.Capabilities
open Lib

inductive Region where
  | nyc
  | sfo
  | fra
  | sgp
  | other (tag : String)
  deriving DecidableEq

inductive FeatureFlag where
  | encryptedBackup
  | voice
  | video
  | fileTransfer
  | auditPublish
  | auditConsume
  | unknown (tag : UInt32)
  deriving DecidableEq

def FeatureFlag.isUnknown : FeatureFlag → Bool
  | .unknown _ => true
  | _ => false

inductive Capability where
  | maxEnvelopesPerMin (n : Nat)
  | maxEnvelopeBytes (n : Nat)
  | maxGroupSize (n : Nat)
  | allowedRegions (set : Finset Region)
  | adminFor (tenant : String)
  | feature (flag : FeatureFlag)
  | unknown (tag : UInt8) (payload : Bytes)
  deriving DecidableEq

structure EffectiveCapabilities where
  maxEnvelopesPerMin : Nat
  maxEnvelopeBytes : Nat
  maxGroupSize : Nat
  allowedRegions : Option (Finset Region)
  adminFor : Finset String
  features : Finset FeatureFlag
  deriving DecidableEq

namespace EffectiveCapabilities

def defaultProfile : EffectiveCapabilities := ⟨60, 1572864, 10, none, ∅, ∅⟩

def apply (eff : EffectiveCapabilities) : Capability → EffectiveCapabilities
  | .maxEnvelopesPerMin n => { eff with maxEnvelopesPerMin := max eff.maxEnvelopesPerMin n }
  | .maxEnvelopeBytes n => { eff with maxEnvelopeBytes := max eff.maxEnvelopeBytes n }
  | .maxGroupSize n => { eff with maxGroupSize := max eff.maxGroupSize n }
  | .allowedRegions set => { eff with allowedRegions := some set }
  | .adminFor tenant => { eff with adminFor := insert tenant eff.adminFor }
  | .feature flag =>
    { eff with features := if flag.isUnknown then eff.features else insert flag eff.features }
  | .unknown _ _ => eff

def fromClaims (claims : List Capability) : EffectiveCapabilities :=
  claims.foldl apply defaultProfile

def permitsRegion (eff : EffectiveCapabilities) (region : Region) : Bool :=
  eff.allowedRegions.all fun set => region ∈ set

end EffectiveCapabilities

open EffectiveCapabilities

def RegionsAgree (claims : List Capability) : Prop :=
  ∀ first second, .allowedRegions first ∈ claims → .allowedRegions second ∈ claims → first = second

theorem apply_comm
    (agree : ∀ set other, first = .allowedRegions set → second = .allowedRegions other →
      set = other) (eff : EffectiveCapabilities) :
    (eff.apply first).apply second = (eff.apply second).apply first := by
  cases first <;> cases second <;> simp [apply, max_right_comm, Finset.insert_comm] at agree ⊢
  · exact agree.symm
  · split <;> split <;> simp [Finset.insert_comm]

theorem fromClaims_append (claims : List Capability) (claim : Capability) :
    fromClaims (claims ++ [claim]) = (fromClaims claims).apply claim := by
  simp [fromClaims]

theorem allowedRegions_fromClaims (claims : List Capability) :
    (∀ set, .allowedRegions set ∉ claims) ∧ (fromClaims claims).allowedRegions = none ∨
      ∃ set, .allowedRegions set ∈ claims ∧ (fromClaims claims).allowedRegions = some set := by
  induction claims using List.reverseRecOn with
  | nil => simp [fromClaims, defaultProfile]
  | append_singleton claims claim ih =>
    rw [fromClaims_append]
    cases claim <;> simp [apply, ih]

/-- The order of the claims does not matter exactly when the region claims agree; then a region
is permitted when no claim restricts the regions or one of them contains it. -/
theorem fromClaims_order_independent (claims : List Capability) :
    ((∀ order, claims.Perm order → fromClaims order = fromClaims claims) ↔ RegionsAgree claims) ∧
      (RegionsAgree claims → ∀ region, (fromClaims claims).permitsRegion region = true ↔
        (∀ set, .allowedRegions set ∉ claims) ∨
          ∃ set, .allowedRegions set ∈ claims ∧ region ∈ set) := by
  refine ⟨⟨?_, ?_⟩, ?_⟩
  · -- Either of two region claims can be moved to the end, where it decides the regions.
    intro same first second mem mem'
    have last : ∀ set, .allowedRegions set ∈ claims →
        (fromClaims claims).allowedRegions = some set := by
      intro set mem
      rw [← same (claims.erase (.allowedRegions set) ++ [.allowedRegions set])
        ((List.perm_cons_erase mem).trans (List.perm_append_singleton _ _).symm),
        fromClaims_append]
      rfl
    exact Option.some.inj ((last first mem).symm.trans (last second mem'))
  · intro agree order perm
    apply (perm.foldl_eq' _ _).symm
    rintro first mem second mem' eff
    apply apply_comm
    rintro set other rfl rfl
    exact agree set other mem mem'
  · intro agree region
    rcases allowedRegions_fromClaims claims with ⟨none, resolved⟩ | ⟨set, mem, resolved⟩
    · simp [permitsRegion, resolved, none]
    · simp only [permitsRegion, resolved, Option.all_some, decide_eq_true_eq]
      constructor
      · intro inside
        exact .inr ⟨set, mem, inside⟩
      · rintro (none | ⟨other, mem', inside⟩)
        · exact absurd mem (none set)
        · rwa [agree set other mem mem']

theorem one_region_claim_permits :
    (fromClaims [.allowedRegions {.nyc}, .maxGroupSize 100]).permitsRegion .fra = true ↔
      (∀ set, .allowedRegions set ∉ [Capability.allowedRegions {.nyc}, .maxGroupSize 100]) ∨
        ∃ set, .allowedRegions set ∈ [Capability.allowedRegions {.nyc}, .maxGroupSize 100] ∧
          .fra ∈ set :=
  (fromClaims_order_independent _).2 (by simp [RegionsAgree]) .fra

/-- The last of two region claims decides, so the order decides whether Frankfurt is permitted,
although one of the claims contains it. -/
theorem last_region_claim_decides :
    fromClaims [.allowedRegions {.fra}, .allowedRegions {.nyc}] ≠
        fromClaims [.allowedRegions {.nyc}, .allowedRegions {.fra}] ∧
      (fromClaims [.allowedRegions {.fra}, .allowedRegions {.nyc}]).permitsRegion .fra = false := by
  decide

end Fetchit.Proto.Capabilities
