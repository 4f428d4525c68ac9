import Fetchit.Lib.Bytes

/-! Encodings that can be read back from the front of a byte string. Such encodings may be
written one after another, and a list of them behind its length. -/
namespace Fetchit.Lib.Framing

variable {α β ε : Type}

/-- The value and what follows it can be told from the bytes. -/
structure Decodes (encodes : α → Bytes → Prop) : Prop where
  read : ∀ {first second : α} {bytes bytes' rest rest' : Bytes}, encodes first bytes →
    encodes second bytes' → bytes ++ rest = bytes' ++ rest' → first = second ∧ rest = rest'

def Then (encodes : α → Bytes → Prop) (encodes' : β → Bytes → Prop) (values : α × β)
    (bytes : Bytes) : Prop :=
  ∃ front back, encodes values.1 front ∧ encodes' values.2 back ∧ bytes = front ++ back

inductive Sequence (encodes : α → Bytes → Prop) : List α → Bytes → Prop where
  | nil : Sequence encodes [] []
  | cons {value : α} {values : List α} {front back : Bytes} :
      encodes value front → Sequence encodes values back →
        Sequence encodes (value :: values) (front ++ back)

def Fixed (width value : Nat) (bytes : Bytes) : Prop :=
  value < 256 ^ width ∧ bytes = bigEndian width value

def Counted (encodes : α → Bytes → Prop) (values : List α) (bytes : Bytes) : Prop :=
  Then (Fixed 4) (Sequence encodes) (values.length, values) bytes

def Field (field bytes : Bytes) : Prop := lengthPrefixed 4 field = some bytes

def TextField (text : String) (bytes : Bytes) : Prop := Field (utf8 text) bytes

def Flag (flag : Bool) (bytes : Bytes) : Prop := bytes = [if flag then 1 else 0]

variable {encodes : α → Bytes → Prop} {encodes' : β → Bytes → Prop}

theorem Then.intro (h : encodes first front)
    (h' : encodes' second back) : Then encodes encodes' (first, second) (front ++ back) :=
  ⟨front, back, h, h', rfl⟩

theorem decodes_field : Decodes Field := ⟨lengthPrefixed_append_inj⟩

theorem decodes_textField : Decodes TextField := by
  constructor
  intro first second bytes bytes' rest rest' h h' same
  obtain ⟨same, follows⟩ := lengthPrefixed_append_inj h h' same
  exact ⟨utf8_injective same, follows⟩

theorem decodes_fixed (width : Nat) : Decodes (Fixed width) := by
  constructor
  rintro first second _ _ rest rest' ⟨fits, rfl⟩ ⟨fits', rfl⟩ same
  obtain ⟨same, follows⟩ := List.append_inj same (by simp)
  exact ⟨bigEndian_inj fits fits' same, follows⟩

theorem decodes_flag : Decodes Flag := by
  constructor
  rintro first second _ _ rest rest' rfl rfl same
  cases first <;> cases second <;> simp_all

section
variable (h : Decodes encodes)
include h

theorem Decodes.inj
    (written : encodes first bytes) (written' : encodes second bytes) : first = second :=
  (h.read written written' (rfl : bytes ++ [] = bytes ++ [])).1

theorem Decodes.next (h' : Decodes encodes') :
    Decodes (Then encodes encodes') := by
  constructor
  rintro ⟨a, b⟩ ⟨a', b'⟩ _ _ rest rest' ⟨x, y, hx, hy, rfl⟩ ⟨x', y', hx', hy', rfl⟩ same
  rw [List.append_assoc, List.append_assoc] at same
  obtain ⟨rfl, same⟩ := h.read hx hx' same
  obtain ⟨rfl, same⟩ := h'.read hy hy' same
  exact ⟨rfl, same⟩

theorem Decodes.sequence (written : Sequence encodes values bytes)
    (written' : Sequence encodes values' bytes') (lengths : values.length = values'.length)
    (same : bytes ++ rest = bytes' ++ rest') : values = values' ∧ rest = rest' := by
  induction written generalizing values' bytes' with
  | nil =>
    cases written' with
    | nil => exact ⟨rfl, same⟩
    | cons => cases lengths
  | cons front _ ih =>
    cases written' with
    | nil => cases lengths
    | cons front' back' =>
      rw [List.append_assoc, List.append_assoc] at same
      obtain ⟨rfl, same⟩ := h.read front front' same
      obtain ⟨rfl, same⟩ := ih back' (Nat.succ.inj lengths) same
      exact ⟨rfl, same⟩

theorem Decodes.counted : Decodes (Counted encodes) := by
  constructor
  rintro first second _ _ rest rest' ⟨x, y, hx, hy, rfl⟩ ⟨x', y', hx', hy', rfl⟩ same
  rw [List.append_assoc, List.append_assoc] at same
  obtain ⟨lengths, same⟩ := (decodes_fixed 4).read hx hx' same
  exact h.sequence hy hy' lengths same

end

theorem sequence_of_foldlM {push : Bytes → α → Except ε Bytes}
    (written : values.foldlM push out = .ok result)
    (pushes : ∀ value ∈ values, ∀ out result, push out value = .ok result →
      ∃ bytes, encodes value bytes ∧ result = out ++ bytes) :
    ∃ bytes, Sequence encodes values bytes ∧ result = out ++ bytes := by
  induction values generalizing out with
  | nil =>
    cases written
    exact ⟨[], .nil, (List.append_nil _).symm⟩
  | cons value values ih =>
    cases pushed : push out value with
    | error error => simp [pushed, bind, Except.bind] at written
    | ok middle =>
      simp only [List.foldlM_cons, pushed] at written
      obtain ⟨front, encoded, rfl⟩ := pushes value List.mem_cons_self _ _ pushed
      obtain ⟨back, rest, rfl⟩ :=
        ih written fun other mem => pushes other (List.mem_cons_of_mem _ mem)
      exact ⟨front ++ back, .cons encoded rest, List.append_assoc _ _ _⟩

end Fetchit.Lib.Framing
