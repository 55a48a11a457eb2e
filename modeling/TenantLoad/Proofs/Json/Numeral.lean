import TenantLoad.Json.Printer
import TenantLoad.Json.Written
import Mathlib.Algebra.Order.Ring.Nat
import Mathlib.Data.List.TakeWhile

/-!
# Numbers in JSON text

A numeral is read as far as it goes, so it is read in the same way wherever it
stands before something that no numeral goes on with.  Whole numbers and finite
floats are written as numerals.
-/

namespace TenantLoad

/-- The characters of a text with others pushed behind it. -/
theorem Text.toList_pushn
    (text : String)
    (character : Char)
    (count : Nat) :
    (text.pushn character count).toList = text.toList ++ List.replicate count character := by
  rw [String.pushn_eq_repeat_push]
  induction count with
  | zero => simp [Nat.repeat]
  | succ count inductionHypothesis =>
      rw [Nat.repeat, String.toList_push, inductionHypothesis, List.replicate_succ',
        List.append_assoc]

namespace Json

open Written

/-- The parts of a numeral. -/
structure Numeral where
  negative : Bool
  whole : List Char
  fraction : List Char
  /-- The exponent, if there is one, with whether it is negative. -/
  exponent : Option (Bool × List Char)

namespace Numeral

/-- The text of a fraction, none if there are no digits. -/
def fractionChars : List Char → List Char
  | [] => []
  | digits => '.' :: digits

def exponentChars : Option (Bool × List Char) → List Char
  | none => []
  | some (true, digits) => 'e' :: '-' :: digits
  | some (false, digits) => 'e' :: '+' :: digits

def chars (numeral : Numeral) : List Char :=
  (if numeral.negative then ['-'] else []) ++
    (numeral.whole ++ (fractionChars numeral.fraction ++ exponentChars numeral.exponent))

def IsDigits (digits : List Char) : Prop := ∀ digit ∈ digits, digit.isDigit = true

/-- No digits are missing, and only zero starts with a zero. -/
structure Valid (numeral : Numeral) : Prop where
  whole : IsDigits numeral.whole
  filled : numeral.whole ≠ []
  leading : numeral.whole.head? = some '0' → numeral.whole = ['0']
  fraction : IsDigits numeral.fraction
  exponent : ∀ sign digits, numeral.exponent = some (sign, digits) → IsDigits digits ∧ digits ≠ []

/-- What no numeral goes on with. -/
def Stops (rest : List Char) : Prop :=
  ∀ next ∈ rest.head?, next.isDigit = false ∧ next ≠ '.' ∧ next ≠ 'e' ∧ next ≠ 'E'

variable {numeral : Numeral} {digits rest : List Char}

theorem stops_nil : Stops [] := by
  rintro _ ⟨⟩

theorem takeWhile_digits
    (isDigits : IsDigits digits)
    (stops : ∀ next ∈ rest.head?, next.isDigit = false) :
    (digits ++ rest).takeWhile Char.isDigit = digits := by
  induction digits with
  | nil =>
      cases rest with
      | nil => rfl
      | cons next rest => simp [stops next rfl]
  | cons digit digits inductionHypothesis =>
      obtain ⟨isDigit, more⟩ := List.forall_mem_cons.mp isDigits
      rw [List.cons_append, List.takeWhile_cons_of_pos isDigit, inductionHypothesis more]

theorem dropWhile_digits
    (isDigits : IsDigits digits)
    (stops : ∀ next ∈ rest.head?, next.isDigit = false) :
    (digits ++ rest).dropWhile Char.isDigit = rest := by
  have whole := List.takeWhile_append_dropWhile (p := Char.isDigit) (l := digits ++ rest)
  rw [takeWhile_digits isDigits stops] at whole
  exact List.append_cancel_left whole

theorem parseExponent_append
    {exponent : Option (Bool × List Char)}
    (valid : ∀ sign digits, exponent = some (sign, digits) → IsDigits digits ∧ digits ≠ [])
    (stops : Stops rest) :
    parseExponent (exponentChars exponent ++ rest) = some (exponent, rest) := by
  have noDigit : ∀ next ∈ rest.head?, next.isDigit = false := fun next first => (stops next first).1
  match exponent with
  | none =>
      rw [exponentChars, List.nil_append]
      unfold parseExponent
      split
      · exact absurd rfl (stops _ rfl).2.2.1
      · exact absurd rfl (stops _ rfl).2.2.2
      · rfl
  | some (sign, digits) =>
      obtain ⟨isDigits, filled⟩ := valid sign digits rfl
      cases sign <;>
        simp only [exponentChars, List.cons_append, parseExponent,
          takeWhile_digits isDigits noDigit, dropWhile_digits isDigits noDigit]

theorem parseFraction_append
    {fraction : List Char}
    (isDigits : IsDigits fraction)
    (noDigit : ∀ next ∈ rest.head?, next.isDigit = false)
    (noPoint : ∀ next ∈ rest.head?, next ≠ '.') :
    parseFraction (fractionChars fraction ++ rest) = some (fraction, rest) := by
  cases fraction with
  | nil =>
      rw [fractionChars, List.nil_append]
      unfold parseFraction
      split
      · exact absurd rfl (noPoint _ rfl)
      · rfl
  | cons digit digits =>
      simp only [fractionChars, List.cons_append, parseFraction]
      rw [← List.cons_append, takeWhile_digits isDigits noDigit, dropWhile_digits isDigits noDigit]

/-- An exponent starts with a character that no fraction goes on with. -/
theorem head_exponentChars_append
    {next : Char}
    (exponent : Option (Bool × List Char))
    (stops : Stops rest)
    (first : next ∈ (exponentChars exponent ++ rest).head?) :
    next.isDigit = false ∧ next ≠ '.' := by
  match exponent with
  | none => exact ⟨(stops next first).1, (stops next first).2.1⟩
  | some (true, _) | some (false, _) =>
      cases first
      exact ⟨rfl, by decide⟩

theorem head_fractionChars_append
    {next : Char}
    (fraction : List Char)
    (noDigit : ∀ next ∈ rest.head?, next.isDigit = false)
    (first : next ∈ (fractionChars fraction ++ rest).head?) :
    next.isDigit = false := by
  cases fraction with
  | nil => exact noDigit next first
  | cons _ _ =>
      cases first
      rfl

/-- A numeral is read as its parts, and nothing of what follows it. -/
theorem parseNumber_append
    (valid : numeral.Valid)
    (stops : Stops rest) :
    parseNumber (numeral.chars ++ rest) =
      some (.number (Written.numberOf? numeral.negative numeral.whole numeral.fraction
        numeral.exponent), rest) := by
  obtain ⟨negative, whole, fraction, exponent⟩ := numeral
  obtain ⟨isWhole, filled, leading, isFraction, isExponent⟩ := valid
  dsimp only at *
  have afterFraction : ∀ next ∈ (exponentChars exponent ++ rest).head?, next.isDigit = false :=
    fun next first => (head_exponentChars_append exponent stops first).1
  have noPoint : ∀ next ∈ (exponentChars exponent ++ rest).head?, next ≠ '.' :=
    fun next first => (head_exponentChars_append exponent stops first).2
  have afterWhole : ∀ next ∈ (fractionChars fraction ++ (exponentChars exponent ++ rest)).head?,
      next.isDigit = false :=
    fun next first => head_fractionChars_append fraction afterFraction first
  obtain ⟨digit, digits, rfl⟩ := List.exists_cons_of_ne_nil filled
  have notMinus : digit ≠ '-' := by
    rintro rfl
    exact absurd (isWhole '-' (List.mem_cons_self ..)) (by decide)
  have taken := takeWhile_digits isWhole afterWhole
  have dropped := dropWhile_digits isWhole afterWhole
  have fractionRead := parseFraction_append isFraction afterFraction noPoint
  have exponentRead := parseExponent_append isExponent stops
  rw [List.cons_append] at taken dropped
  -- Only a numeral that goes on after a leading zero is refused.
  have refused : ∀ more, digit :: digits = '0' :: more → more = [] := by
    intro more same
    have alone := leading (by rw [same]; rfl)
    rw [same] at alone
    exact (List.cons.inj alone).2
  unfold parseNumber
  cases negative <;>
    simp only [chars, Bool.false_eq_true, if_true, if_false, List.nil_append, List.cons_append,
      List.append_assoc, List.cons.injEq, notMinus, false_and, imp_self, implies_true, taken,
      dropped, fractionRead, exponentRead, Option.pure_def, Option.bind_eq_bind, Option.bind_some,
      Option.bind_none]
  all_goals
    split
    · next none => cases none
    · next same => rw [same]
    · next more notAlone same => exact absurd (refused _ same) notAlone
    · rfl

end Numeral

/-! ## Tokens -/

/-- A token is a numeral. -/
def IsNumeral (token : List Char) : Prop :=
  ∃ numeral : Numeral, numeral.Valid ∧ numeral.chars = token

/-- The number that a token is read as, if it is one within range. -/
def tokenNumber? (token : List Char) : Option Number :=
  match parseNumber token with
  | some (.number value, []) => value
  | _ => none

/-- A numeral is read wherever it stands as it is read alone. -/
theorem IsNumeral.parseNumber_append
    {token rest : List Char}
    (isNumeral : IsNumeral token)
    (stops : Numeral.Stops rest) :
    parseNumber (token ++ rest) = some (.number (tokenNumber? token), rest) := by
  obtain ⟨numeral, valid, rfl⟩ := isNumeral
  have alone := numeral.parseNumber_append valid Numeral.stops_nil
  rw [List.append_nil] at alone
  rw [numeral.parseNumber_append valid stops, tokenNumber?, alone]

/-! ## Whole numbers -/

theorem isDigits_toDigits (value : Nat) : Numeral.IsDigits (Nat.toDigits 10 value) :=
  fun _ => Nat.isDigit_of_mem_toDigits (by decide) (by decide)

theorem eq_zero_of_digitChar : ∀ digit < 10, Nat.digitChar digit = '0' → digit = 0 := by
  decide

/-- Only zero is written with a leading zero. -/
theorem eq_zero_of_head_toDigits
    {value : Nat}
    (leading : (Nat.toDigits 10 value).head? = some '0') :
    value = 0 := by
  induction value using Nat.strongRecOn with
  | ind value inductionHypothesis =>
      rw [Nat.toDigits_eq_if (by decide)] at leading
      by_cases single : value < 10
      · rw [if_pos single] at leading
        exact eq_zero_of_digitChar value single (Option.some.inj leading)
      · rw [if_neg single, List.head?_append, Option.or_of_isSome (by simp)] at leading
        have zero := inductionHypothesis (value / 10) (by omega) leading
        omega

theorem toDigits_eq_of_head
    {value : Nat}
    (leading : (Nat.toDigits 10 value).head? = some '0') :
    Nat.toDigits 10 value = ['0'] := by
  rw [eq_zero_of_head_toDigits leading]
  rfl

/-- A whole number that is not negative is written as its digits. -/
def Numeral.ofNat (value : Nat) : Numeral := ⟨false, Nat.toDigits 10 value, [], none⟩

theorem Numeral.valid_ofNat (value : Nat) : (ofNat value).Valid where
  whole := isDigits_toDigits value
  filled := Nat.toDigits_ne_nil
  leading := toDigits_eq_of_head
  fraction := List.forall_mem_nil _
  exponent := by rintro _ _ ⟨⟩

theorem Numeral.chars_ofNat (value : Nat) : (ofNat value).chars = Nat.toDigits 10 value := by
  simp [ofNat, chars, fractionChars, exponentChars]

/-- A sign in front of a numeral makes another one. -/
theorem IsNumeral.cons_minus
    {token : List Char}
    {numeral : Numeral}
    (valid : numeral.Valid)
    (unsigned : numeral.negative = false)
    (isToken : numeral.chars = token) :
    IsNumeral ('-' :: token) := by
  refine ⟨{ numeral with negative := true },
    ⟨valid.whole, valid.filled, valid.leading, valid.fraction, valid.exponent⟩, ?_⟩
  rw [← isToken]
  simp [Numeral.chars, unsigned]

theorem isNumeral_integer (value : Int) : IsNumeral (toString value).toList := by
  rw [Int.toString_eq_repr, Int.repr_eq_if, Nat.repr_eq_ofList_toDigits,
    Nat.repr_eq_ofList_toDigits]
  split
  · rw [String.toList_ofList]
    exact ⟨.ofNat _, Numeral.valid_ofNat _, Numeral.chars_ofNat _⟩
  · rw [String.toList_append, String.toList_ofList]
    exact .cons_minus (Numeral.valid_ofNat (-value).toNat) rfl
      ((Numeral.chars_ofNat _).trans String.toList_ofList.symm)

theorem digitsValue_toDigits (value : Nat) : digitsValue (Nat.toDigits 10 value) = value := by
  have read := Nat.ofDigitChars_ten_toDigits (n := value)
  rw [Nat.ofDigitChars_eq_foldl] at read
  simpa only [digitsValue, Nat.mul_comm 10] using read

/-- A count that fits a word is read back. -/
theorem tokenNumber?_natural
    {value : Nat}
    (fits : value < 2 ^ 64) :
    tokenNumber? (toString (value : Int)).toList = some (.integer value) := by
  have token : (toString (value : Int)).toList = (Numeral.ofNat value).chars ++ [] := by
    rw [Int.toString_eq_repr, Int.repr_eq_if, if_pos (Int.natCast_nonneg value), Int.toNat_natCast,
      Nat.repr_eq_ofList_toDigits, String.toList_ofList, Numeral.chars_ofNat, List.append_nil]
  have number : Written.numberOf? false (Nat.toDigits 10 value) [] none =
      some (.integer value) := by
    have isWord : (([] : List Char).isEmpty && (none : Option (Bool × List Char)).isNone &&
        decide (value < 0x10000000000000000)) = true := decide_eq_true fits
    rw [Written.numberOf?, digitsValue_toDigits]
    exact if_pos isWord
  rw [tokenNumber?, token, Numeral.parseNumber_append (Numeral.valid_ofNat value) Numeral.stops_nil]
  exact number

end Json

/-! ## Floats -/

namespace Decimal

/-- Only zero has no digits but zero, and no exponent then. -/
def Scientific.IsPlainZero (value : Scientific) : Prop :=
  value.coefficient = 0 → value.exponent = 0

theorem Scientific.coefficient_normalize_ne_zero
    {value : Scientific}
    (nonzero : value.coefficient ≠ 0) :
    value.normalize.coefficient ≠ 0 := by
  have stripped : ∀ (steps : Nat) (value : Scientific), value.coefficient ≠ 0 →
      (normalize.go steps value).coefficient ≠ 0 := by
    intro steps
    induction steps with
    | zero => exact fun _ nonzero => nonzero
    | succ steps inductionHypothesis =>
        intro value nonzero
        rw [normalize.go]
        split
        · next endsInZero =>
            apply inductionHypothesis
            dsimp only
            omega
        · exact nonzero
  exact stripped _ value nonzero

namespace Neighbourhood

variable {interval : Neighbourhood} {exponent : Int} {value : Scientific}

/-- An interval above zero does not hold zero. -/
theorem contains_zero
    (above : 0 < interval.lower)
    (exponent : Int) :
    interval.contains 0 exponent = false := by
  have scaled : 0 < interval.lower * Nat.pow 10 (-exponent).toNat :=
    Nat.mul_pos above (Nat.pow_pos (by decide))
  unfold contains
  split <;> simp only [Nat.zero_mul, Bool.and_eq_false_iff, decide_eq_false_iff_not] <;> omega

theorem coefficient_ne_zero_of_onGrid?
    (above : 0 < interval.lower)
    (found : interval.onGrid? exponent = some value) :
    value.coefficient ≠ 0 := by
  have next (below : Nat) : below + 1 ≠ 0 := Nat.succ_ne_zero below
  have isHeld {below : Nat} (held : interval.contains below exponent = true) : below ≠ 0 := by
    rintro rfl
    rw [contains_zero above] at held
    cases held
  unfold onGrid? at found
  dsimp only at found
  split at found
  · next held _ => cases found; exact isHeld held
  · cases found; exact next _
  · cases found
  · next held _ =>
      split at found
      · cases found; exact isHeld held
      · cases found; exact next _

theorem isPlainZero_onGrids
    (above : 0 < interval.lower)
    (leading : Int)
    (grids digits : Nat) :
    (interval.onGrids leading grids digits).IsPlainZero := by
  induction grids generalizing digits with
  | zero => exact fun _ => rfl
  | succ grids inductionHypothesis =>
      rw [onGrids]
      split
      · next found =>
          intro isZero
          exact absurd isZero (Scientific.coefficient_normalize_ne_zero
            (coefficient_ne_zero_of_onGrid? above found))
      · exact inductionHypothesis (digits + 1)

end Neighbourhood

theorem isPlainZero_shortest (binary : Binary) : (shortest binary).IsPlainZero := by
  unfold shortest
  split
  · exact fun _ => rfl
  · next nonzero =>
      apply Neighbourhood.isPlainZero_onGrids
      apply Nat.mul_pos _ (Nat.pow_pos (by decide))
      split <;> omega

namespace Layout

open Json (IsNumeral Numeral toDigits_eq_of_head isDigits_toDigits)

variable {value : Scientific}

theorem toList_zeros (count : Nat) : (zeros count).toList = List.replicate count '0' :=
  Text.toList_pushn "" '0' count

theorem isDigits_zeros (count : Nat) : Numeral.IsDigits (List.replicate count '0') := by
  intro digit isZero
  rw [List.eq_of_mem_replicate isZero]
  rfl

theorem isDigits_append
    {digits more : List Char}
    (isDigits : Numeral.IsDigits digits)
    (isMore : Numeral.IsDigits more) :
    Numeral.IsDigits (digits ++ more) :=
  List.forall_mem_append.mpr ⟨isDigits, isMore⟩

/-- A text is a numeral without a sign. -/
def IsUnsigned (text : String) : Prop :=
  ∃ numeral : Numeral, numeral.Valid ∧ numeral.negative = false ∧ numeral.chars = text.toList

/-- Digits on both sides of a point are a numeral. -/
theorem isUnsigned_of_point
    {whole fraction : List Char}
    {text : String}
    (isWhole : Numeral.IsDigits whole)
    (filled : whole ≠ [])
    (leading : whole.head? = some '0' → whole = ['0'])
    (isFraction : Numeral.IsDigits fraction)
    (filledToo : fraction ≠ [])
    (isText : text.toList = whole ++ '.' :: fraction) :
    IsUnsigned text := by
  obtain ⟨digit, digits, rfl⟩ := List.exists_cons_of_ne_nil filledToo
  refine ⟨⟨false, whole, digit :: digits, none⟩,
    ⟨isWhole, filled, leading, isFraction, by rintro _ _ ⟨⟩⟩, rfl, ?_⟩
  simp [Numeral.chars, Numeral.fractionChars, Numeral.exponentChars, isText]

theorem isUnsigned_plainText
    (isPlainZero : value.IsPlainZero) :
    IsUnsigned (jsonLayout.plainText value) := by
  have isDigits : Numeral.IsDigits value.digits := isDigits_toDigits value.coefficient
  have filled : value.digits ≠ [] := Nat.toDigits_ne_nil
  have leading (first : value.digits.head? = some '0') : value.exponent = 0 :=
    isPlainZero (Json.eq_zero_of_head_toDigits first)
  unfold plainText
  dsimp only
  split
  · refine isUnsigned_of_point (isDigits_append isDigits (isDigits_zeros value.exponent.toNat))
      (by simp [filled]) ?_ (isDigits_zeros 1) (by decide) ?_
    · intro first
      rw [List.head?_append, Option.or_of_isSome (by simp [filled])] at first
      rw [leading first, Int.toNat_zero, List.replicate_zero, List.append_nil]
      exact toDigits_eq_of_head first
    · simp [toList_zeros, jsonLayout]
  · next part =>
      split
      · next inside =>
          set cut := value.digits.length - (-value.exponent).toNat with cut_eq
          have isWhole : Numeral.IsDigits (value.digits.take cut) :=
            fun digit member => isDigits digit (List.mem_of_mem_take member)
          have isFraction : Numeral.IsDigits (value.digits.drop cut) :=
            fun digit member => isDigits digit (List.mem_of_mem_drop member)
          refine isUnsigned_of_point isWhole
            (List.ne_nil_of_length_pos (by rw [List.length_take]; omega)) ?_ isFraction
            (List.ne_nil_of_length_pos (by rw [List.length_drop]; omega)) (by simp)
          intro first
          rw [List.head?_take, if_neg (by omega)] at first
          exact absurd (leading first) (by omega)
      · refine isUnsigned_of_point (isDigits_zeros 1) (by decide) (fun _ => rfl)
          (isDigits_append
            (isDigits_zeros ((-value.exponent).toNat - value.digits.length)) isDigits)
          (by simp [filled]) ?_
        simp [toList_zeros]

/-- One digit, more of them behind a point, and an exponent are a numeral. -/
theorem isUnsigned_exponentText (value : Scientific) :
    IsUnsigned (jsonLayout.exponentText value) := by
  have isDigits : Numeral.IsDigits value.digits := isDigits_toDigits value.coefficient
  have filled : value.digits ≠ [] := Nat.toDigits_ne_nil
  obtain ⟨digit, fraction, digits_eq⟩ := List.exists_cons_of_ne_nil filled
  obtain ⟨isDigit, isFraction⟩ := List.forall_mem_cons.mp (digits_eq ▸ isDigits)
  refine ⟨⟨false, [digit], fraction, some (decide (value.leadingExponent < 0),
      Nat.toDigits 10 value.leadingExponent.natAbs)⟩, ?_, rfl, ?_⟩
  · refine ⟨List.forall_mem_singleton.mpr isDigit, List.cons_ne_nil _ _, ?_, isFraction, ?_⟩
    · intro first
      rw [Option.some.inj first]
    · rintro _ _ ⟨⟩
      exact ⟨isDigits_toDigits _, Nat.toDigits_ne_nil⟩
  · unfold exponentText
    dsimp only
    by_cases below : value.leadingExponent < 0 <;> cases fraction <;>
      simp [Numeral.chars, Numeral.fractionChars, Numeral.exponentChars, digits_eq, below,
        jsonLayout]

end Layout
end Decimal

/-- A finite float is written as a numeral. -/
theorem Json.isNumeral_realText
    {value : Float}
    (finite : Decimal.isFinite value.toBits = true) :
    IsNumeral (realText value).toList := by
  have unsigned : Decimal.Layout.IsUnsigned (Decimal.jsonLayout.magnitudeText
      (Decimal.shortest (Decimal.Binary.ofBits value.toBits))) := by
    unfold Decimal.Layout.magnitudeText
    split
    · exact Decimal.Layout.isUnsigned_plainText (Decimal.isPlainZero_shortest _)
    · exact Decimal.Layout.isUnsigned_exponentText _
  have isNumber : Decimal.isNotANumber value.toBits = false := by
    simp_all [Decimal.isFinite, Decimal.isNotANumber]
  obtain ⟨numeral, valid, isUnsigned, isText⟩ := unsigned
  rw [realText, if_pos finite, Decimal.Layout.text, if_neg (by simp [isNumber]), if_pos finite,
    Decimal.Layout.finiteText]
  split
  · rw [String.toList_append]
    exact .cons_minus valid isUnsigned isText
  · rw [String.toList_append]
    exact ⟨numeral, valid, isText⟩

end TenantLoad
