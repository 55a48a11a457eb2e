import TenantLoad.Url.Percent
import Mathlib.Data.List.Basic

/-!
# Percent encoding is read back

Where the percent sign is among the characters that are encoded, the written
form of every text stands for that text alone, whatever else is encoded.  Of the
characters that are encoded only the percent sign and hexadecimal digits occur
in a written form.
-/

namespace TenantLoad
namespace Url
namespace Percent

variable {reserved : Reserved}

/-! ## Bytes -/

/-- A digit is read as the value that it is written for. -/
theorem hexValue?_upperHexDigit
    (value : Nat) :
    hexValue? (upperHexDigit value) = some (value % 16) := by
  have digits : ∀ digit < 16, hexValue? (upperHexDigit digit) = some digit := by decide
  have same : upperHexDigit (value % 16) = upperHexDigit value := by
    simp [upperHexDigit]
  rw [← same]
  exact digits _ (Nat.mod_lt _ (by decide))

/-- A byte is read back from its written form. -/
theorem decodeBytes_encodeByte
    (byte : UInt8)
    (rest : List Char) :
    decodeBytes (encodeByte byte ++ rest) = byte :: decodeBytes rest := by
  have small : byte.toNat / 16 < 16 := by
    have := byte.toNat_lt
    omega
  have whole : UInt8.ofNat (16 * (byte.toNat / 16) + byte.toNat % 16) = byte := by
    rw [Nat.div_add_mod, UInt8.ofNat_toNat]
  simp only [encodeByte, List.cons_append, List.nil_append, decodeBytes,
    hexValue?_upperHexDigit, Nat.mod_eq_of_lt small, whole]

/-- A character that is no percent sign stands for itself. -/
theorem decodeBytes_cons_of_ne
    {character : Char}
    (plain : character ≠ '%')
    (rest : List Char) :
    decodeBytes (character :: rest) = String.utf8EncodeChar character ++ decodeBytes rest := by
  rw [decodeBytes]
  rintro high low tail same -
  exact plain same

/-! ## Texts -/

/-- A text is read back byte by byte. -/
theorem decodeBytes_encode
    (encodesPercent : reserved '%' = true)
    (text : List Char) :
    decodeBytes (encode reserved text) = text.flatMap String.utf8EncodeChar := by
  have bytesFirst : ∀ (bytes : List UInt8) (rest : List Char),
      decodeBytes (bytes.flatMap encodeByte ++ rest) = bytes ++ decodeBytes rest := by
    intro bytes rest
    induction bytes with
    | nil => rfl
    | cons byte bytes inductionHypothesis =>
        rw [List.flatMap_cons, List.append_assoc, decodeBytes_encodeByte, inductionHypothesis,
          List.cons_append]
  induction text with
  | nil => rfl
  | cons character text inductionHypothesis =>
      rw [encode, List.flatMap_cons, List.flatMap_cons, ← inductionHypothesis, encodeChar]
      split
      · rename_i isPlain
        have plain : character ≠ '%' := by
          rintro rfl
          simp [encodesPercent] at isPlain
        exact decodeBytes_cons_of_ne plain _
      · exact bytesFirst ..

/-- The written form of a text stands for the text. -/
theorem decode?_encode
    (encodesPercent : reserved '%' = true)
    (text : List Char) :
    decode? (encode reserved text) = some text := by
  have valid : (⟨(text.flatMap String.utf8EncodeChar).toArray⟩ : ByteArray) = text.utf8Encode :=
    ByteArray.ext List.data_toByteArray.symm
  rw [decode?, decodeBytes_encode encodesPercent, valid, String.fromUTF8?,
    dif_pos ByteArray.isValidUTF8_utf8Encode, Option.map_some]
  exact congrArg some String.toList_ofList

/-! ## Characters of the written form -/

/-- The characters that bytes are written with. -/
def isEscape (character : Char) : Bool := character == '%' || (hexValue? character).isSome

/-- A written form is made of characters of the text that are not encoded and of
those that bytes are written with. -/
theorem mem_encode
    {text : List Char}
    {character : Char}
    (member : character ∈ encode reserved text) :
    character ∈ text ∧ reserved character = false ∨ isEscape character = true := by
  obtain ⟨source, inText, inSource⟩ := List.mem_flatMap.mp member
  rw [encodeChar] at inSource
  split at inSource
  · rename_i isPlain
    obtain rfl := List.mem_singleton.mp inSource
    exact Or.inl ⟨inText, by simpa using (Bool.and_eq_true_iff.mp isPlain).2⟩
  · obtain ⟨byte, -, inByte⟩ := List.mem_flatMap.mp inSource
    simp only [encodeByte, List.mem_cons, List.not_mem_nil, or_false] at inByte
    refine Or.inr ?_
    rcases inByte with rfl | rfl | rfl
    · rfl
    · simp [isEscape, hexValue?_upperHexDigit]
    · simp [isEscape, hexValue?_upperHexDigit]

end Percent
end Url
end TenantLoad
