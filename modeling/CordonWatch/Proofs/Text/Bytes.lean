/-!
# The order of bytes

Strings are compared by code point, and so compare as their bytes do: of two
characters, the bytes of the one with the less code point come first, whatever
follows them (`encode_append_lt`).
-/

namespace CordonWatch.Text

/-- The bytes of a string. -/
def bytes (s : String) : List UInt8 := s.toByteArray.data.toList

/-- The bytes of a character by how many they are. -/
theorem encode_cases (c : Char) :
    (c.toNat < 0x80 ∧ String.utf8EncodeChar c = [c.toNat].map UInt8.ofNat) ∨
    (0x80 ≤ c.toNat ∧ c.toNat < 0x800 ∧ String.utf8EncodeChar c
      = [192 + c.toNat / 64, 128 + c.toNat % 64].map UInt8.ofNat) ∨
    (0x800 ≤ c.toNat ∧ c.toNat < 0x10000 ∧ String.utf8EncodeChar c
      = [224 + c.toNat / 4096, 128 + c.toNat / 64 % 64, 128 + c.toNat % 64].map UInt8.ofNat) ∨
    (0x10000 ≤ c.toNat ∧ c.toNat < 0x110000 ∧ String.utf8EncodeChar c
      = [240 + c.toNat / 262144, 128 + c.toNat / 4096 % 64, 128 + c.toNat / 64 % 64,
          128 + c.toNat % 64].map UInt8.ofNat) := by
  have hvalid : c.toNat < 0x110000 := by
    have := c.valid
    simp only [UInt32.isValidChar, Nat.isValidChar] at this
    show c.val.toNat < _
    omega
  rw [String.utf8EncodeChar.eq_1, show c.val.toNat = c.toNat from rfl]
  generalize c.toNat = n at hvalid
  split
  · exact Or.inl ⟨by omega, rfl⟩
  split
  · have hlead : n / 64 % 32 + 192 = 192 + n / 64 := by omega
    refine Or.inr (Or.inl ⟨by omega, by omega, ?_⟩)
    rw [hlead, Nat.add_comm (n % 64)]
    rfl
  split
  · have hlead : n / 4096 % 16 + 224 = 224 + n / 4096 := by omega
    refine Or.inr (Or.inr (Or.inl ⟨by omega, by omega, ?_⟩))
    rw [hlead, Nat.add_comm (n / 64 % 64), Nat.add_comm (n % 64)]
    rfl
  · have hlead : n / 262144 % 8 + 240 = 240 + n / 262144 := by omega
    refine Or.inr (Or.inr (Or.inr ⟨by omega, hvalid, ?_⟩))
    rw [hlead, Nat.add_comm (n / 4096 % 64), Nat.add_comm (n / 64 % 64), Nat.add_comm (n % 64)]
    rfl

/-- Of two characters, the bytes of the one with the less code point come first. -/
theorem encode_append_lt {c d : Char} (h : c < d) (l l' : List UInt8) :
    String.utf8EncodeChar c ++ l < String.utf8EncodeChar d ++ l' := by
  have hlt : c.toNat < d.toNat := h
  -- The less character has no more bytes than the other one. With fewer its first byte is
  -- less, and with as many the first byte that differs is a digit of the code points.
  rcases encode_cases c with
      ⟨hc, hbytes⟩ | ⟨hc, hc', hbytes⟩ | ⟨hc, hc', hbytes⟩ | ⟨hc, hc', hbytes⟩ <;>
    rcases encode_cases d with
      ⟨hd, hbytes'⟩ | ⟨hd, hd', hbytes'⟩ | ⟨hd, hd', hbytes'⟩ | ⟨hd, hd', hbytes'⟩ <;>
    rw [hbytes, hbytes'] <;>
    simp only [List.map_cons, List.map_nil, List.cons_append, List.cons_lt_cons_iff,
      UInt8.lt_iff_toNat_lt, ← UInt8.toNat_inj, UInt8.toNat_ofNat'] <;>
    simp (disch := omega) only [Nat.mod_eq_of_lt] <;> omega

/-- Characters in a row are compared by the first that differ, and so are their bytes. -/
theorem flatMap_encode_lt {l l' : List Char} (h : l < l') :
    l.flatMap String.utf8EncodeChar < l'.flatMap String.utf8EncodeChar := by
  induction l generalizing l' with
  | nil =>
    cases l' with
    | nil => exact absurd h (List.not_lt_nil [])
    | cons d rest' =>
      obtain ⟨b, _, hbytes⟩ := List.exists_cons_of_ne_nil (@String.utf8EncodeChar_ne_nil d)
      rw [List.flatMap_nil, List.flatMap_cons, hbytes]
      exact List.nil_lt_cons b _
  | cons c rest ih =>
    cases l' with
    | nil => exact absurd h (List.not_lt_nil _)
    | cons d rest' =>
      rw [List.flatMap_cons, List.flatMap_cons]
      rcases List.cons_lt_cons_iff.mp h with hhead | ⟨rfl, hrest⟩
      · exact encode_append_lt hhead _ _
      · exact List.append_left_lt (ih hrest)

/-- Strings compare as their bytes do. -/
theorem bytes_lt_iff (s t : String) : bytes s < bytes t ↔ s < t := by
  have hbytes : ∀ u : String, bytes u = u.toList.flatMap String.utf8EncodeChar := by
    intro u
    rw [bytes, ← String.utf8Encode_toList, List.utf8Encode, List.data_toByteArray]
  rw [hbytes, hbytes, String.lt_iff]
  constructor
  · intro h
    refine Classical.byContradiction fun hnot => ?_
    by_cases hlt : t.toList < s.toList
    · exact List.lt_asymm h (flatMap_encode_lt hlt)
    · rw [List.le_antisymm hlt hnot] at h
      exact List.lt_irrefl _ h
  · exact flatMap_encode_lt

end CordonWatch.Text
