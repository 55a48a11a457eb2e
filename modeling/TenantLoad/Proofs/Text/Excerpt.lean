import TenantLoad.Text.Excerpt
import Mathlib.Data.List.Basic

/-!
# Where a message is cut

An excerpt can be taken from the bytes of a message.  It ends at the offset at
which the first character that is left out begins, so the bytes before it are
whole characters whatever the message.  An excerpt that is shortened again at
the same limit stays as it is.
-/

namespace TenantLoad
namespace Text

/-- A text shows a message within a limit: all of it, or as many of its first
characters as the limit allows and three dots. -/
inductive Shows (limit : Nat) (message : String) : String → Prop
  | whole (fits : message.length ≤ limit) : Shows limit message message
  | cut
      {kept left : String}
      (split : message = kept ++ left)
      (full : kept.length = limit)
      (more : left ≠ "") : Shows limit message (kept ++ "...")

/-- The offsets in bytes at which characters begin, the first of them at the
given one. -/
def charOffsets (offset : Nat) : List Char → List Nat
  | [] => []
  | character :: rest => offset :: charOffsets (offset + character.utf8Size) rest

/-- The offset in bytes of the first character beyond the limit. -/
def cutOffset? (limit : Nat) (message : String) : Option Nat :=
  (charOffsets 0 message.toList)[limit]?

/-- The excerpt of a message by its bytes; there is none where a character
would be split. -/
def excerptOfBytes? (limit : Nat) (message : String) : Option String :=
  match cutOffset? limit message with
  | none => some message
  | some cut => (String.fromUTF8? (message.toUTF8.extract 0 cut)).map fun kept => kept ++ "..."

variable {limit : Nat} {message : String}

/-! ## Offsets -/

/-- A character begins behind the bytes of those before it. -/
theorem getElem?_charOffsets
    (offset : Nat)
    (characters : List Char)
    (place : Nat) :
    (charOffsets offset characters)[place]? =
      if place < characters.length then
        some (offset + (characters.take place).utf8Encode.size)
      else none := by
  induction characters generalizing offset place with
  | nil => rfl
  | cons character rest inductionHypothesis =>
      cases place with
      | zero => simp [charOffsets, List.utf8Encode_nil]
      | succ place =>
          have size : [character].utf8Encode.size = character.utf8Size := by
            rw [List.utf8Encode_singleton, List.size_toByteArray, String.length_utf8EncodeChar]
          rw [charOffsets, List.getElem?_cons_succ, inductionHypothesis, List.take_succ_cons,
            List.utf8Encode_cons, ByteArray.size_append, size]
          simp [Nat.add_assoc]

/-- The bytes of the first characters of a message can be read. -/
theorem fromUTF8?_extract_utf8Encode
    (kept left : List Char) :
    String.fromUTF8? ((String.ofList (kept ++ left)).toUTF8.extract 0 kept.utf8Encode.size) =
      some (String.ofList kept) := by
  have first : (String.ofList (kept ++ left)).toUTF8.extract 0 kept.utf8Encode.size =
      kept.utf8Encode := by
    rw [String.toUTF8_eq_toByteArray, String.toByteArray_ofList, List.utf8Encode_append]
    exact ByteArray.extract_append_eq_left rfl
  rw [first, String.fromUTF8?, dif_pos ByteArray.isValidUTF8_utf8Encode]
  rfl

/-! ## Excerpts -/

/-- An excerpt is what the bytes of the message before the cut give. -/
theorem excerptOfBytes?_eq_excerpt
    (limit : Nat)
    (message : String) :
    excerptOfBytes? limit message = some (excerpt limit message) := by
  unfold excerptOfBytes? cutOffset? excerpt excerptChars
  rw [getElem?_charOffsets, Nat.zero_add]
  by_cases fits : message.toList.length ≤ limit
  · rw [if_neg (Nat.not_lt.mpr fits), if_pos fits, String.ofList_toList]
  · have cut := fromUTF8?_extract_utf8Encode (message.toList.take limit) (message.toList.drop limit)
    rw [List.take_append_drop, String.ofList_toList] at cut
    simp only [if_pos (Nat.lt_of_not_le fits), if_neg fits, cut, Option.map_some,
      String.ofList_append]

/-- An excerpt shows the message within the limit. -/
theorem shows_excerpt
    (limit : Nat)
    (message : String) :
    Shows limit message (excerpt limit message) := by
  unfold excerpt excerptChars
  split
  · rename_i fits
    rw [String.ofList_toList]
    exact .whole fits
  · rename_i long
    have split : message =
        String.ofList (message.toList.take limit) ++ String.ofList (message.toList.drop limit) := by
      rw [← String.ofList_append, List.take_append_drop, String.ofList_toList]
    rw [String.ofList_append]
    refine .cut split ?_ ?_
    · simp [← String.length_toList]
      omega
    · simp [← String.toList_inj]
      omega

/-- Shortening an excerpt again at the same limit changes nothing. -/
theorem excerpt_excerpt
    (limit : Nat)
    (message : String) :
    excerpt limit (excerpt limit message) = excerpt limit message := by
  unfold excerpt
  rw [String.toList_ofList]
  congr 1
  unfold excerptChars
  split
  · rfl
  · rename_i long
    have kept : (message.toList.take limit).length = limit :=
      List.length_take_of_le (Nat.le_of_not_le long)
    rw [if_neg (by simp [kept]), List.take_append_of_le_length (Nat.le_of_eq kept.symm),
      List.take_take, Nat.min_self]

end Text
end TenantLoad
