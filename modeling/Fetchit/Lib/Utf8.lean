import Fetchit.Lib.Text

/-! Text read from bytes. A cut of a text's bytes reads as text exactly if it falls between two
characters. -/
namespace Fetchit.Lib.Utf8

def fromUtf8 (bytes : Bytes) : Option String := String.fromUTF8? bytes.toByteArray

theorem toByteArray_utf8 (text : String) : (utf8 text).toByteArray = text.toByteArray := by
  apply ByteArray.ext
  simp [utf8]

@[simp] theorem fromUtf8_utf8 (text : String) : fromUtf8 (utf8 text) = some text := by
  unfold fromUtf8 String.fromUTF8?
  rw [toByteArray_utf8, dif_pos text.isValidUTF8]
  rfl

variable {text : String} {position : Nat}

theorem utf8_of_fromUtf8 (h : fromUtf8 bytes = some text) :
    utf8 text = bytes := by
  unfold fromUtf8 String.fromUTF8? at h
  split at h
  · cases h
    simp [utf8, String.fromUTF8]
  · cases h

theorem fromUtf8_eq_some :
    fromUtf8 bytes = some text ↔ bytes = utf8 text := by
  constructor
  · exact fun h => (utf8_of_fromUtf8 h).symm
  · rintro rfl
    exact fromUtf8_utf8 text

@[simp] theorem utf8_append (front back : String) :
    utf8 (front ++ back) = utf8 front ++ utf8 back := by
  simp [utf8]

theorem utf8_eq_flatMap (text : String) :
    utf8 text = text.toList.flatMap String.utf8EncodeChar := by
  unfold utf8
  rw [String.toUTF8_eq_toByteArray, ← String.ofList_toList (s := text),
    String.toByteArray_ofList]
  simp [List.utf8Encode]

theorem zero_mem_utf8 (h : 0 ∈ utf8 text) : Char.ofNat 0 ∈ text.toList := by
  rw [utf8_eq_flatMap] at h
  obtain ⟨c, mem, byte⟩ := List.mem_flatMap.mp h
  have wraps {n : Nat} (zero : (0 : UInt8) = UInt8.ofNat n) : n % 256 = 0 := by
    have value := congrArg UInt8.toNat zero
    exact value.symm
  have nul : c.val.toNat = 0 := by
    unfold String.utf8EncodeChar at byte
    dsimp only at byte
    -- every byte of a longer encoding has its high bit set
    split at byte
    · have value := wraps (List.mem_singleton.mp byte)
      omega
    · split at byte
      · simp only [List.mem_cons, List.not_mem_nil, or_false] at byte
        rcases byte with byte | byte <;> have value := wraps byte <;> omega
      · split at byte
        · simp only [List.mem_cons, List.not_mem_nil, or_false] at byte
          rcases byte with byte | byte | byte <;> have value := wraps byte <;> omega
        · simp only [List.mem_cons, List.not_mem_nil, or_false] at byte
          rcases byte with byte | byte | byte | byte <;> have value := wraps byte <;> omega
  have same : c = Char.ofNat 0 := by
    apply Char.ext
    apply UInt32.toNat_inj.mp
    rw [nul]
    rfl
  exact same ▸ mem

def Boundary (text : String) (position : Nat) : Prop :=
  ∃ front back, text = front ++ back ∧ front.utf8ByteSize = position

theorem boundary_end (text : String) : Boundary text text.utf8ByteSize :=
  ⟨text, "", by simp, rfl⟩

theorem fromUtf8_take (boundary : Boundary text position) :
    ∃ front, fromUtf8 ((utf8 text).take position) = some front := by
  obtain ⟨front, back, rfl, rfl⟩ := boundary
  refine ⟨front, fromUtf8_eq_some.mpr ?_⟩
  rw [utf8_append, List.take_left' (utf8_length front)]

section
variable (read : fromUtf8 ((utf8 text).take position) = some front)
include read

theorem append_of_take :
    ∃ back, text = front ++ back := by
  have taken := utf8_of_fromUtf8 read
  have size : front.utf8ByteSize = min position text.utf8ByteSize := by
    rw [← utf8_length, taken, List.length_take, utf8_length]
  have cut : text.toByteArray.extract 0 front.utf8ByteSize = front.toByteArray := by
    apply ByteArray.ext
    apply Array.toList_inj.mp
    rw [ByteArray.data_extract, Array.toList_extract]
    have bytes : front.toByteArray.data.toList = (utf8 text).take position := taken
    rw [bytes, size]
    exact List.take_eq_take_min.symm
  have valid : String.Pos.Raw.IsValid text ⟨front.utf8ByteSize⟩ := by
    rw [String.Pos.Raw.isValid_iff_isValidUTF8_extract_zero]
    refine ⟨?_, cut ▸ front.isValidUTF8⟩
    change front.utf8ByteSize ≤ text.utf8ByteSize
    omega
  obtain ⟨start, back, split, ends⟩ := String.Pos.Raw.isValid_iff_exists_append.mp valid
  have length : front.utf8ByteSize = start.utf8ByteSize := congrArg String.Pos.Raw.byteIdx ends
  have same : utf8 start = utf8 front := by
    have bytes := congrArg (List.take front.utf8ByteSize) (congrArg utf8 split)
    rw [utf8_append, List.take_left' ((utf8_length start).trans length.symm), size,
      ← utf8_length text, ← List.take_eq_take_min] at bytes
    rw [← bytes, taken]
  exact ⟨back, utf8_injective same ▸ split⟩

theorem boundary_of_take :
    Boundary text (min position text.utf8ByteSize) := by
  obtain ⟨back, split⟩ := append_of_take read
  refine ⟨front, back, split, ?_⟩
  rw [← utf8_length, utf8_of_fromUtf8 read, List.length_take, utf8_length]

end

end Fetchit.Lib.Utf8
