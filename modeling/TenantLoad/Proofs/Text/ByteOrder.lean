import Mathlib.Data.String.Basic
import Mathlib.Data.List.Lex
import Mathlib.Data.Char
import Mathlib.Order.Monotone.Basic

/-!
# The order of texts by bytes

Texts are compared character by character.  Since UTF-8 keeps the order of
characters, with none of its sequences at the front of another, the bytes of
texts compare in the same way.
-/

namespace TenantLoad
namespace Text

/-- The bytes of a text. -/
def bytes (text : String) : List UInt8 := text.toUTF8.data.toList

theorem bytes_eq_flatMap (text : String) :
    bytes text = text.toList.flatMap String.utf8EncodeChar := by
  rw [bytes, String.toUTF8_eq_toByteArray, ← String.utf8Encode_toList, List.utf8Encode,
    List.data_toByteArray]

theorem ofNat_lt_ofNat_iff
    {value other : Nat}
    (isByte : value < 256)
    (isByteToo : other < 256) :
    UInt8.ofNat value < UInt8.ofNat other ↔ value < other := by
  rw [UInt8.lt_iff_toNat_lt, UInt8.toNat_ofNat_of_lt' isByte, UInt8.toNat_ofNat_of_lt' isByteToo]

theorem ofNat_eq_ofNat_iff
    {value other : Nat}
    (isByte : value < 256)
    (isByteToo : other < 256) :
    UInt8.ofNat value = UInt8.ofNat other ↔ value = other := by
  rw [← UInt8.toNat_inj, UInt8.toNat_ofNat_of_lt' isByte, UInt8.toNat_ofNat_of_lt' isByteToo]

/-- Numbers are compared by their digits to the base 64, the last one at last. -/
theorem div_mod_lt_of_lt
    {value other : Nat}
    (less : value < other) :
    value / 64 < other / 64 ∨ value / 64 = other / 64 ∧ value % 64 < other % 64 := by
  omega

/-- The bytes of an earlier character come first, whatever follows. -/
theorem utf8EncodeChar_append_lt
    {character other : Char}
    (earlier : character < other)
    (rest otherRest : List UInt8) :
    String.utf8EncodeChar character ++ rest < String.utf8EncodeChar other ++ otherRest := by
  have codes : character.val.toNat < other.val.toNat := earlier
  have bound : other.val.toNat < 0x110000 := other.valid.elim (by omega) And.right
  unfold String.utf8EncodeChar
  generalize character.val.toNat = code at *
  generalize other.val.toNat = otherCode at *
  -- All bytes but the first have one digit each, so the digits are compared from the last one up.
  have last := div_mod_lt_of_lt codes
  have third : code / 64 < otherCode / 64 → _ := div_mod_lt_of_lt
  have second : code / 4096 < otherCode / 4096 → _ := div_mod_lt_of_lt
  simp only [Nat.div_div_eq_div_mul, Nat.reduceMul] at third second
  have lead : code / 262144 % 8 = code / 262144 := by omega
  have otherLead : otherCode / 262144 % 8 = otherCode / 262144 := by omega
  dsimp only
  split_ifs <;>
    simp (disch := omega) only [List.cons_append, List.nil_append, List.cons_lt_cons_iff,
      ofNat_lt_ofNat_iff, ofNat_eq_ofNat_iff] <;>
    omega

theorem utf8EncodeChar_ne_nil (character : Char) : String.utf8EncodeChar character ≠ [] := by
  apply List.ne_nil_of_length_pos
  rw [String.length_utf8EncodeChar]
  exact character.utf8Size_pos

theorem flatMap_utf8EncodeChar_lt
    {characters others : List Char}
    (earlier : characters < others) :
    characters.flatMap String.utf8EncodeChar < others.flatMap String.utf8EncodeChar := by
  induction characters generalizing others with
  | nil =>
      cases others with
      | nil => exact absurd earlier (List.lt_irrefl _)
      | cons other others =>
          rw [List.flatMap_nil, List.flatMap_cons]
          obtain ⟨first, more, bytes_eq⟩ := List.exists_cons_of_ne_nil (utf8EncodeChar_ne_nil other)
          rw [bytes_eq, List.cons_append]
          exact List.nil_lt_cons _ _
  | cons character characters inductionHypothesis =>
      cases others with
      | nil => exact absurd earlier (List.not_lt_nil _)
      | cons other others =>
          rw [List.flatMap_cons, List.flatMap_cons]
          rcases List.cons_lt_cons_iff.mp earlier with first | ⟨rfl, later⟩
          · exact utf8EncodeChar_append_lt first _ _
          · exact List.append_left_lt (inductionHypothesis later)

theorem bytes_lt_bytes
    {text other : String}
    (earlier : text < other) :
    bytes text < bytes other := by
  rw [bytes_eq_flatMap, bytes_eq_flatMap]
  exact flatMap_utf8EncodeChar_lt (String.lt_iff.mp earlier)

/-- Texts are in order exactly if their bytes are. -/
theorem bytes_lt_bytes_iff
    {text other : String} :
    bytes text < bytes other ↔ text < other := by
  refine ⟨?_, bytes_lt_bytes⟩
  intro earlier
  rcases lt_trichotomy text other with isLess | rfl | isGreater
  · exact isLess
  · exact absurd earlier (List.lt_irrefl _)
  · exact absurd (bytes_lt_bytes isGreater) (List.lt_asymm earlier)

end Text
end TenantLoad
