import TenantLoad.Proofs.Json.Numeral

/-!
# JSON text is read back

A value is spelled by its tokens with blanks between them, and every spelling
of it is read in the same way.  The compact and the indented text are two of
its spellings, so they are read as the same.
-/

namespace TenantLoad
namespace Json

open Written

/-! ## Strings -/

theorem hexValue?_headD_toDigits :
    ∀ digit < 16, hexValue? ((Nat.toDigits 16 digit).headD '0') = some digit := by
  decide

theorem hexValue?_hexDigit (value : Nat) : hexValue? (hexDigit value) = some (value % 16) :=
  hexValue?_headD_toDigits (value % 16) (Nat.mod_lt _ (by decide))

/-- The four digits of a small code are read back. -/
theorem parseHex4_hexDigit
    {code : Nat}
    (small : code < 256)
    (rest : List Char) :
    parseHex4 ('0' :: '0' :: hexDigit (code / 16) :: hexDigit code :: rest) =
      some (code, rest) := by
  have zero : hexValue? '0' = some 0 := rfl
  have whole : ((0 * 16 + 0) * 16 + code / 16 % 16) * 16 + code % 16 = code := by omega
  simp only [parseHex4, zero, hexValue?_hexDigit, Option.bind_eq_bind, Option.bind_some,
    Option.pure_def, whole]

/-- A character of a string is read back from its written form. -/
theorem parseString_escapeChar
    (steps : Nat)
    (characters : List Char)
    (character : Char)
    (rest : List Char) :
    parseString (steps + 1) (some characters) (escapeChar character ++ rest) =
      parseString steps (some (character :: characters)) rest := by
  unfold escapeChar
  split_ifs with quote backslash backspace formFeed lineFeed carriageReturn tab control
  · subst quote
    rfl
  · subst backslash
    rfl
  · subst backspace
    rfl
  · subst formFeed
    rfl
  · subst lineFeed
    rfl
  · subst carriageReturn
    rfl
  · subst tab
    rfl
  · have notLeading : isLeadingSurrogate character.toNat = false := by
      simp only [isLeadingSurrogate, Bool.and_eq_false_iff, decide_eq_false_iff_not]
      omega
    have notTrailing : isTrailingSurrogate character.toNat = false := by
      simp only [isTrailingSurrogate, Bool.and_eq_false_iff, decide_eq_false_iff_not]
      omega
    simp [parseString, parseHex4_hexDigit (Nat.lt_trans control (by decide)), notLeading,
      notTrailing, Char.ofNat_toNat]
  · simp [parseString, backslash, control]

theorem parseString_flatMap_escapeChar
    {steps : Nat}
    {characters : List Char}
    (enough : characters.length < steps)
    (before rest : List Char) :
    parseString steps (some before) (characters.flatMap escapeChar ++ '"' :: rest) =
      some (some (String.ofList (before.reverse ++ characters)), rest) := by
  induction characters generalizing steps before with
  | nil =>
      obtain ⟨steps, rfl⟩ := Nat.exists_eq_succ_of_ne_zero (Nat.ne_of_gt enough)
      simp [parseString]
  | cons character characters inductionHypothesis =>
      obtain ⟨steps, rfl⟩ := Nat.exists_eq_succ_of_ne_zero (Nat.ne_of_gt (Nat.zero_lt_of_lt enough))
      rw [List.flatMap_cons, List.append_assoc, parseString_escapeChar,
        inductionHypothesis (Nat.lt_of_succ_lt_succ enough), List.reverse_cons, List.append_assoc]
      rfl

theorem length_escapeChar_pos (character : Char) : 0 < (escapeChar character).length := by
  unfold escapeChar
  split_ifs <;> simp

theorem length_le_length_flatMap_escapeChar (characters : List Char) :
    characters.length ≤ (characters.flatMap escapeChar).length := by
  induction characters with
  | nil => exact Nat.le_refl _
  | cons character characters inductionHypothesis =>
      have positive := length_escapeChar_pos character
      rw [List.flatMap_cons, List.length_append, List.length_cons]
      omega

theorem toList_quote (text : String) :
    (quote text).toList = '"' :: (text.toList.flatMap escapeChar ++ ['"']) := by
  rw [quote, String.toList_ofList]
  rfl

/-- A string is read back from its quoted form, and nothing of what follows it. -/
theorem parseQuoted_quote_append
    (text : String)
    (rest : List Char) :
    parseQuoted ((quote text).toList ++ rest) = some (some text, rest) := by
  have enough := length_le_length_flatMap_escapeChar text.toList
  rw [toList_quote, List.cons_append, List.append_assoc, List.singleton_append]
  simp only [parseQuoted]
  rw [parseString_flatMap_escapeChar]
  · simp
  · simp only [List.length_append]
    omega

/-! ## Spellings -/

/-- Characters that are blanks only. -/
def IsBlank (gap : List Char) : Prop := ∀ character ∈ gap, isBlank character = true

mutual

/-- A text is made of the tokens of a value, with blanks between them. -/
inductive Spells : Json → List Char → Prop where
  | null : Spells .null "null".toList
  | true : Spells (.boolean true) "true".toList
  | false : Spells (.boolean false) "false".toList
  | integer (value : Int) : Spells (.integer value) (toString value).toList
  | real
      {value : Float}
      (finite : Decimal.isFinite value.toBits = true) :
      Spells (.real value) (realText value).toList
  | notFinite
      {value : Float}
      (infinite : Decimal.isFinite value.toBits = false) :
      Spells (.real value) "null".toList
  | text (value : String) : Spells (.text value) (quote value).toList
  | emptyList : Spells (.list []) ['[', ']']
  | list
      {items : List Json}
      {gap text : List Char}
      (blank : IsBlank gap)
      (spells : SpellsItems items text) :
      Spells (.list items) ('[' :: (gap ++ text))
  | emptyObject : Spells (.object []) ['\x7b', '\x7d']
  | object
      {members : List (String × Json)}
      {gap text : List Char}
      (blank : IsBlank gap)
      (spells : SpellsMembers members text) :
      Spells (.object members) ('\x7b' :: (gap ++ text))

/-- A text is made of the items of a list and of what closes it. -/
inductive SpellsItems : List Json → List Char → Prop where
  | last
      {item : Json}
      {text gap : List Char}
      (spells : Spells item text)
      (blank : IsBlank gap) :
      SpellsItems [item] (text ++ (gap ++ [']']))
  | more
      {item : Json}
      {items : List Json}
      {text gap more : List Char}
      (spells : Spells item text)
      (blank : IsBlank gap)
      (spellsMore : SpellsItems items more) :
      SpellsItems (item :: items) (text ++ ',' :: (gap ++ more))

/-- A text is made of the members of an object and of what closes it. -/
inductive SpellsMembers : List (String × Json) → List Char → Prop where
  | last
      {name : String}
      {value : Json}
      {space text gap : List Char}
      (blankSpace : IsBlank space)
      (spells : Spells value text)
      (blank : IsBlank gap) :
      SpellsMembers [(name, value)]
        ((quote name).toList ++ ':' :: (space ++ (text ++ (gap ++ ['\x7d']))))
  | more
      {name : String}
      {value : Json}
      {members : List (String × Json)}
      {space text gap more : List Char}
      (blankSpace : IsBlank space)
      (spells : Spells value text)
      (blank : IsBlank gap)
      (spellsMore : SpellsMembers members more) :
      SpellsMembers ((name, value) :: members)
        ((quote name).toList ++ ':' :: (space ++ (text ++ ',' :: (gap ++ more))))

end

mutual

/-- What a text of a value is read as. -/
def written : Json → Written
  | .null => .null
  | .boolean value => .boolean value
  | .integer value => .number (tokenNumber? (toString value).toList)
  | .real value =>
    if Decimal.isFinite value.toBits then .number (tokenNumber? (realText value).toList) else .null
  | .text value => .text (some value)
  | .list items => .list (writtenItems items)
  | .object members => .object (writtenMembers members)

def writtenItems : List Json → List Written
  | [] => []
  | item :: items => item.written :: writtenItems items

def writtenMembers : List (String × Json) → List (Option String × Written)
  | [] => []
  | (name, value) :: members => (some name, value.written) :: writtenMembers members

end

/-! ## Reading -/

variable {value : Json} {items : List Json} {members : List (String × Json)}
  {text gap rest : List Char} {steps : Nat}

theorem skipBlanks_append
    (blank : IsBlank gap)
    (rest : List Char) :
    skipBlanks (gap ++ rest) = skipBlanks rest :=
  List.dropWhile_append_of_pos blank

/-- A token starts with neither a blank nor a closing bracket. -/
def Opens (text : List Char) : Prop :=
  ∃ first more, text = first :: more ∧ isBlank first = false ∧ first ≠ ']' ∧ first ≠ '\x7d'

theorem Opens.append (opens : Opens text) (rest : List Char) : Opens (text ++ rest) := by
  obtain ⟨first, more, rfl, atFirst⟩ := opens
  exact ⟨first, more ++ rest, rfl, atFirst⟩

/-- Steps that are enough for a text are some. -/
theorem Opens.steps_ne_zero
    (opens : Opens text)
    (enough : 2 * text.length ≤ steps) :
    steps ≠ 0 := by
  obtain ⟨first, more, rfl, -⟩ := opens
  rw [List.length_cons] at enough
  omega

theorem Opens.skipBlanks_eq (opens : Opens text) : skipBlanks text = text := by
  obtain ⟨first, more, rfl, notBlank, -⟩ := opens
  exact List.dropWhile_cons_of_neg (by simp [notBlank])

theorem IsNumeral.exists_cons
    {token : List Char}
    (isNumeral : IsNumeral token) :
    ∃ first more, token = first :: more ∧ (first = '-' ∨ first.isDigit = true) := by
  obtain ⟨⟨negative, whole, fraction, exponent⟩, valid, rfl⟩ := isNumeral
  obtain ⟨digit, digits, rfl⟩ := List.exists_cons_of_ne_nil valid.filled
  cases negative with
  | true => exact ⟨'-', _, rfl, .inl rfl⟩
  | false => exact ⟨digit, _, rfl, .inr (valid.whole digit (List.mem_cons_self ..))⟩

theorem IsNumeral.opens
    {token : List Char}
    (isNumeral : IsNumeral token) :
    Opens token := by
  obtain ⟨first, more, rfl, starts⟩ := isNumeral.exists_cons
  refine ⟨first, more, rfl, ?_, ?_, ?_⟩
  · rw [← Bool.not_eq_true]
    simp only [isBlank, Bool.or_eq_true, decide_eq_true_eq]
    rintro (((rfl | rfl) | rfl) | rfl) <;> exact absurd starts (by decide)
  · rintro rfl
    exact absurd starts (by decide)
  · rintro rfl
    exact absurd starts (by decide)

/-- What starts as a numeral is read as a number. -/
theorem parseValue_eq_parseNumber
    {first : Char}
    (starts : first = '-' ∨ first.isDigit = true)
    (steps : Nat)
    (more : List Char) :
    parseValue (steps + 1) (first :: more) = parseNumber (first :: more) := by
  rw [parseValue]
  all_goals
    rintro _ ⟨⟩
    exact absurd starts (by decide)

theorem IsNumeral.parseValue_append
    {token : List Char}
    (isNumeral : IsNumeral token)
    (stops : Numeral.Stops rest)
    (steps : Nat) :
    parseValue (steps + 1) (token ++ rest) = some (.number (tokenNumber? token), rest) := by
  rw [← isNumeral.parseNumber_append stops]
  obtain ⟨first, more, rfl, starts⟩ := isNumeral.exists_cons
  exact parseValue_eq_parseNumber starts steps (more ++ rest)

theorem opens_quote (text : String) : Opens (quote text).toList :=
  ⟨'"', _, toList_quote text, by decide, by decide, by decide⟩

/-- A spelling starts with its first token. -/
theorem Spells.opens (spells : Spells value text) : Opens text := by
  cases spells with
  | null | true | false | notFinite | emptyList | list | emptyObject | object =>
      exact ⟨_, _, rfl, by decide, by decide, by decide⟩
  | integer value => exact (isNumeral_integer value).opens
  | real finite => exact (isNumeral_realText finite).opens
  | text value => exact opens_quote value

theorem SpellsItems.opens (spells : SpellsItems items text) : Opens text := by
  cases spells with
  | last spells => exact spells.opens.append _
  | more spells => exact spells.opens.append _

theorem SpellsMembers.opens (spells : SpellsMembers members text) : Opens text := by
  cases spells with
  | last | more => exact (opens_quote _).append _

theorem parseValue_quote_append
    (text : String)
    (rest : List Char)
    (steps : Nat) :
    parseValue (steps + 1) ((quote text).toList ++ rest) = some (.text (some text), rest) := by
  have read := parseQuoted_quote_append text rest
  rw [toList_quote, List.cons_append] at read ⊢
  rw [parseValue, read]
  rfl

/-- No numeral goes on with a blank. -/
theorem stops_append
    (blank : IsBlank gap)
    (stops : Numeral.Stops rest) :
    Numeral.Stops (gap ++ rest) := by
  cases gap with
  | nil => exact stops
  | cons first more =>
      rintro _ ⟨⟩
      have isBlank := (List.forall_mem_cons.mp blank).1
      simp only [Written.isBlank, Bool.or_eq_true, decide_eq_true_eq] at isBlank
      rcases isBlank with ((rfl | rfl) | rfl) | rfl <;> decide

theorem stops_cons
    {mark : Char}
    (isMark : mark = ',' ∨ mark = ']' ∨ mark = '\x7d')
    (rest : List Char) :
    Numeral.Stops (mark :: rest) := by
  rintro _ ⟨⟩
  rcases isMark with rfl | rfl | rfl <;> decide

theorem skipBlanks_cons
    {mark : Char}
    (isMark : isBlank mark = false)
    (rest : List Char) :
    skipBlanks (mark :: rest) = mark :: rest :=
  List.dropWhile_cons_of_neg (by simp [isMark])

theorem skipBlanks_append_cons
    {mark : Char}
    (blank : IsBlank gap)
    (isMark : isBlank mark = false)
    (rest : List Char) :
    skipBlanks (gap ++ mark :: rest) = mark :: rest := by
  rw [skipBlanks_append blank, skipBlanks_cons isMark]

mutual

/-- A spelling of a value is read as what the value is read as, and nothing of what follows it.  Two
steps for each character are enough: one is taken for every value and one for every item or member. -/
theorem Spells.parseValue_append
    {value : Json}
    {text rest : List Char}
    {steps : Nat}
    (spells : Spells value text)
    (enough : 2 * text.length ≤ steps)
    (stops : Numeral.Stops rest) :
    parseValue steps (text ++ rest) = some (value.written, rest) := by
  obtain ⟨steps, rfl⟩ := Nat.exists_eq_succ_of_ne_zero (spells.opens.steps_ne_zero enough)
  cases spells with
  | null | true | false => rfl
  | notFinite infinite =>
      rw [written, if_neg (by simp [infinite])]
      rfl
  | integer value => exact (isNumeral_integer value).parseValue_append stops steps
  | real finite =>
      rw [(isNumeral_realText finite).parseValue_append stops steps, written, if_pos finite]
  | text value => exact parseValue_quote_append value rest steps
  | emptyList | emptyObject => rfl
  | @list items gap text blank spells =>
      have enoughInside : 2 * text.length ≤ steps := by
        simp only [List.length_cons, List.length_append] at enough
        omega
      have read := spells.parseItems_append enoughInside [] rest
      obtain ⟨first, more, rfl, notBlank, notClosed, -⟩ := spells.opens
      rw [List.cons_append, List.append_assoc, parseValue, List.cons_append,
        skipBlanks_append_cons blank notBlank]
      split
      · next same => exact absurd (List.cons.inj same).1 notClosed
      · exact read
  | @object members gap text blank spells =>
      have enoughInside : 2 * text.length ≤ steps := by
        simp only [List.length_cons, List.length_append] at enough
        omega
      have read := spells.parseMembers_append enoughInside [] rest
      obtain ⟨first, more, rfl, notBlank, -, notClosed⟩ := spells.opens
      rw [List.cons_append, List.append_assoc, parseValue, List.cons_append,
        skipBlanks_append_cons blank notBlank]
      split
      · next same => exact absurd (List.cons.inj same).1 notClosed
      · exact read

theorem SpellsItems.parseItems_append
    {items : List Json}
    {text : List Char}
    {steps : Nat}
    (spells : SpellsItems items text)
    (enough : 2 * text.length ≤ steps)
    (before : List Written)
    (rest : List Char) :
    parseItems steps before (text ++ rest) =
      some (.list (before.reverse ++ writtenItems items), rest) := by
  obtain ⟨steps, rfl⟩ := Nat.exists_eq_succ_of_ne_zero (spells.opens.steps_ne_zero enough)
  cases spells with
  | @last item text gap spells blank =>
      have enoughInside : 2 * text.length ≤ steps := by
        simp only [List.length_append, List.length_singleton] at enough
        omega
      have stops := stops_append blank (stops_cons (.inr (.inl rfl)) rest)
      have read := spells.parseValue_append enoughInside stops
      simp only [List.append_assoc, List.singleton_append]
      rw [parseItems, read]
      simp only [skipBlanks_append_cons blank (show isBlank ']' = false by decide)]
      rw [List.reverse_cons]
      rfl
  | @more item items text gap more spells blank spellsMore =>
      simp only [List.length_append, List.length_cons] at enough
      have enoughInside : 2 * text.length ≤ steps := by omega
      have enoughMore : 2 * more.length ≤ steps := by omega
      have stops := stops_cons (.inl rfl) (gap ++ (more ++ rest))
      have read := spells.parseValue_append enoughInside stops
      have readMore := spellsMore.parseItems_append enoughMore (item.written :: before) rest
      simp only [List.append_assoc, List.cons_append]
      rw [parseItems, read]
      simp only [skipBlanks_cons (show isBlank ',' = false by decide)]
      rw [skipBlanks_append blank, (spellsMore.opens.append rest).skipBlanks_eq, readMore,
        List.reverse_cons, List.append_assoc]
      rfl

theorem SpellsMembers.parseMembers_append
    {members : List (String × Json)}
    {text : List Char}
    {steps : Nat}
    (spells : SpellsMembers members text)
    (enough : 2 * text.length ≤ steps)
    (before : List (Option String × Written))
    (rest : List Char) :
    parseMembers steps before (text ++ rest) =
      some (.object (before.reverse ++ writtenMembers members), rest) := by
  obtain ⟨steps, rfl⟩ := Nat.exists_eq_succ_of_ne_zero (spells.opens.steps_ne_zero enough)
  cases spells with
  | @last name value space text gap blankSpace spells blank =>
      have enoughInside : 2 * text.length ≤ steps := by
        simp only [List.length_append, List.length_cons] at enough
        omega
      have stops := stops_append blank (stops_cons (.inr (.inr rfl)) rest)
      have read := spells.parseValue_append enoughInside stops
      simp only [List.append_assoc, List.cons_append, List.nil_append]
      rw [parseMembers, parseQuoted_quote_append]
      simp only [skipBlanks_cons (show isBlank ':' = false by decide)]
      rw [skipBlanks_append blankSpace, (spells.opens.append _).skipBlanks_eq, read]
      simp only [skipBlanks_append_cons blank (show isBlank '\x7d' = false by decide)]
      rw [List.reverse_cons]
      rfl
  | @more name value members space text gap more blankSpace spells blank spellsMore =>
      simp only [List.length_append, List.length_cons] at enough
      have enoughInside : 2 * text.length ≤ steps := by omega
      have enoughMore : 2 * more.length ≤ steps := by omega
      have stops := stops_cons (.inl rfl) (gap ++ (more ++ rest))
      have read := spells.parseValue_append enoughInside stops
      have readMore := spellsMore.parseMembers_append enoughMore
        ((some name, value.written) :: before) rest
      simp only [List.append_assoc, List.cons_append]
      rw [parseMembers, parseQuoted_quote_append]
      simp only [skipBlanks_cons (show isBlank ':' = false by decide)]
      rw [skipBlanks_append blankSpace, (spells.opens.append _).skipBlanks_eq, read]
      simp only [skipBlanks_cons (show isBlank ',' = false by decide)]
      rw [skipBlanks_append blank, (spellsMore.opens.append rest).skipBlanks_eq, readMore,
        List.reverse_cons, List.append_assoc]
      rfl

end

/-- Every spelling of a value is read, and all of them as the same. -/
theorem parse?_of_spells
    {value : Json}
    {text : String}
    (spells : Spells value text.toList) :
    Written.parse? text = some value.written := by
  have read := spells.parseValue_append (Nat.le_add_right _ 2) Numeral.stops_nil
  rw [List.append_nil] at read
  unfold Written.parse?
  dsimp only
  rw [spells.opens.skipBlanks_eq, read]
  rfl

/-! ## Writing -/

theorem isBlank_nil : IsBlank [] := List.forall_mem_nil _

theorem isBlank_newline (level : Nat) : IsBlank (newline level).toList := by
  intro character member
  rw [newline, Text.toList_pushn, List.mem_append] at member
  rcases member with isBreak | isSpace
  · rw [List.mem_singleton.mp isBreak]
    rfl
  · rw [List.eq_of_mem_replicate isSpace]
    rfl

theorem spells_real (value : Float) : Spells (.real value) (realText value).toList := by
  cases finite : Decimal.isFinite value.toBits with
  | true => exact .real finite
  | false =>
      rw [realText, if_neg (by simp [finite])]
      exact .notFinite finite

/-- What stands behind an item up to the end of a list of items. -/
def FollowsItem (items : List Json) (more : List Char) : Prop :=
  ∀ ⦃item text⦄, Spells item text → SpellsItems (item :: items) (text ++ more)

theorem followsItem_nil (blank : IsBlank gap) : FollowsItem [] (gap ++ [']']) :=
  fun _ _ spells => .last spells blank

theorem followsItem_cons
    {more : List Char}
    (blank : IsBlank gap)
    (spells : Spells value text)
    (follows : FollowsItem items more) :
    FollowsItem (value :: items) (',' :: (gap ++ (text ++ more))) :=
  fun _ _ spellsFirst => .more spellsFirst blank (follows spells)

/-- What stands behind the value of a member up to the end of an object. -/
def FollowsMember (members : List (String × Json)) (more : List Char) : Prop :=
  ∀ ⦃name value space text⦄, IsBlank space → Spells value text →
    SpellsMembers ((name, value) :: members)
      ((quote name).toList ++ ':' :: (space ++ (text ++ more)))

theorem followsMember_nil (blank : IsBlank gap) : FollowsMember [] (gap ++ ['\x7d']) :=
  fun _ _ _ _ blankSpace spells => .last blankSpace spells blank

theorem followsMember_cons
    {name : String}
    {space more : List Char}
    (blank : IsBlank gap)
    (blankSpace : IsBlank space)
    (spells : Spells value text)
    (follows : FollowsMember members more) :
    FollowsMember ((name, value) :: members)
      (',' :: (gap ++ ((quote name).toList ++ ':' :: (space ++ (text ++ more))))) :=
  fun _ _ _ _ blankFirst spellsFirst =>
    .more blankFirst spellsFirst blank (follows blankSpace spells)

mutual

/-- The compact text is a spelling. -/
theorem exists_spells_compact (value : Json) (out : String) :
    ∃ text, Spells value text ∧ (appendCompact out value).toList = out.toList ++ text := by
  match value with
  | .null => exact ⟨_, .null, String.toList_append⟩
  | .boolean true => exact ⟨_, .true, String.toList_append⟩
  | .boolean false => exact ⟨_, .false, String.toList_append⟩
  | .integer value => exact ⟨_, .integer value, String.toList_append⟩
  | .real value => exact ⟨_, spells_real value, String.toList_append⟩
  | .text value => exact ⟨_, .text value, String.toList_append⟩
  | .list [] => exact ⟨_, .emptyList, String.toList_append⟩
  | .list (item :: rest) =>
      obtain ⟨text, spells, isText⟩ := exists_spells_compact item (out ++ "[")
      obtain ⟨more, follows, isMore⟩ :=
        exists_followsItem_compact rest (appendCompact (out ++ "[") item)
      refine ⟨_, .list isBlank_nil (follows spells), ?_⟩
      rw [appendCompact, isMore, isText]
      simp
  | .object [] => exact ⟨_, .emptyObject, String.toList_append⟩
  | .object ((name, value) :: rest) =>
      obtain ⟨text, spells, isText⟩ :=
        exists_spells_compact value (out ++ "\x7b" ++ quote name ++ ":")
      obtain ⟨more, follows, isMore⟩ := exists_followsMember_compact rest
        (appendCompact (out ++ "\x7b" ++ quote name ++ ":") value)
      refine ⟨_, .object isBlank_nil (follows isBlank_nil spells), ?_⟩
      rw [appendCompact, isMore, isText]
      simp

theorem exists_followsItem_compact (items : List Json) (out : String) :
    ∃ more, FollowsItem items more ∧
      (appendCompactItems out items ++ "]").toList = out.toList ++ more := by
  match items with
  | [] => exact ⟨_, followsItem_nil isBlank_nil, String.toList_append⟩
  | item :: rest =>
      obtain ⟨text, spells, isText⟩ := exists_spells_compact item (out ++ ",")
      obtain ⟨more, follows, isMore⟩ :=
        exists_followsItem_compact rest (appendCompact (out ++ ",") item)
      refine ⟨_, followsItem_cons isBlank_nil spells follows, ?_⟩
      rw [appendCompactItems, isMore, isText]
      simp

theorem exists_followsMember_compact (members : List (String × Json)) (out : String) :
    ∃ more, FollowsMember members more ∧
      (appendCompactMembers out members ++ "\x7d").toList = out.toList ++ more := by
  match members with
  | [] => exact ⟨_, followsMember_nil isBlank_nil, String.toList_append⟩
  | (name, value) :: rest =>
      obtain ⟨text, spells, isText⟩ := exists_spells_compact value (out ++ "," ++ quote name ++ ":")
      obtain ⟨more, follows, isMore⟩ := exists_followsMember_compact rest
        (appendCompact (out ++ "," ++ quote name ++ ":") value)
      refine ⟨_, followsMember_cons isBlank_nil isBlank_nil spells follows, ?_⟩
      rw [appendCompactMembers, isMore, isText]
      simp

end

theorem isBlank_space : IsBlank [' '] := List.forall_mem_singleton.mpr rfl

mutual

/-- The indented text is a spelling at every level. -/
theorem exists_spells_pretty (level : Nat) (value : Json) (out : String) :
    ∃ text, Spells value text ∧ (appendPretty level out value).toList = out.toList ++ text := by
  match value with
  | .null => exact ⟨_, .null, String.toList_append⟩
  | .boolean true => exact ⟨_, .true, String.toList_append⟩
  | .boolean false => exact ⟨_, .false, String.toList_append⟩
  | .integer value => exact ⟨_, .integer value, String.toList_append⟩
  | .real value => exact ⟨_, spells_real value, String.toList_append⟩
  | .text value => exact ⟨_, .text value, String.toList_append⟩
  | .list [] => exact ⟨_, .emptyList, String.toList_append⟩
  | .list (item :: rest) =>
      obtain ⟨text, spells, isText⟩ :=
        exists_spells_pretty (level + 1) item (out ++ "[" ++ newline (level + 1))
      obtain ⟨more, follows, isMore⟩ := exists_followsItem_pretty level rest
        (appendPretty (level + 1) (out ++ "[" ++ newline (level + 1)) item)
      refine ⟨_, .list (isBlank_newline (level + 1)) (follows spells), ?_⟩
      rw [appendPretty, isMore, isText]
      simp
  | .object [] => exact ⟨_, .emptyObject, String.toList_append⟩
  | .object ((name, value) :: rest) =>
      obtain ⟨text, spells, isText⟩ := exists_spells_pretty (level + 1) value
        (out ++ "\x7b" ++ newline (level + 1) ++ quote name ++ ": ")
      obtain ⟨more, follows, isMore⟩ := exists_followsMember_pretty level rest
        (appendPretty (level + 1)
          (out ++ "\x7b" ++ newline (level + 1) ++ quote name ++ ": ") value)
      refine ⟨_, .object (isBlank_newline (level + 1)) (follows isBlank_space spells), ?_⟩
      rw [appendPretty, isMore, isText]
      simp

theorem exists_followsItem_pretty (level : Nat) (items : List Json) (out : String) :
    ∃ more, FollowsItem items more ∧
      (appendPrettyItems (level + 1) out items ++ newline level ++ "]").toList =
        out.toList ++ more := by
  match items with
  | [] =>
      refine ⟨_, followsItem_nil (isBlank_newline level), ?_⟩
      simp [appendPrettyItems]
  | item :: rest =>
      obtain ⟨text, spells, isText⟩ :=
        exists_spells_pretty (level + 1) item (out ++ "," ++ newline (level + 1))
      obtain ⟨more, follows, isMore⟩ := exists_followsItem_pretty level rest
        (appendPretty (level + 1) (out ++ "," ++ newline (level + 1)) item)
      refine ⟨_, followsItem_cons (isBlank_newline (level + 1)) spells follows, ?_⟩
      rw [appendPrettyItems, isMore, isText]
      simp

theorem exists_followsMember_pretty (level : Nat) (members : List (String × Json)) (out : String) :
    ∃ more, FollowsMember members more ∧
      (appendPrettyMembers (level + 1) out members ++ newline level ++ "\x7d").toList =
        out.toList ++ more := by
  match members with
  | [] =>
      refine ⟨_, followsMember_nil (isBlank_newline level), ?_⟩
      simp [appendPrettyMembers]
  | (name, value) :: rest =>
      obtain ⟨text, spells, isText⟩ := exists_spells_pretty (level + 1) value
        (out ++ "," ++ newline (level + 1) ++ quote name ++ ": ")
      obtain ⟨more, follows, isMore⟩ := exists_followsMember_pretty level rest
        (appendPretty (level + 1) (out ++ "," ++ newline (level + 1) ++ quote name ++ ": ") value)
      refine ⟨_, followsMember_cons (isBlank_newline (level + 1)) isBlank_space spells follows, ?_⟩
      rw [appendPrettyMembers, isMore, isText]
      simp

end

theorem parse?_compact (value : Json) : Written.parse? value.compact = some value.written := by
  obtain ⟨text, spells, isText⟩ := exists_spells_compact value ""
  apply parse?_of_spells
  rw [compact, isText]
  exact spells

theorem parse?_pretty (value : Json) : Written.parse? value.pretty = some value.written := by
  obtain ⟨text, spells, isText⟩ := exists_spells_pretty 0 value ""
  apply parse?_of_spells
  rw [pretty, isText]
  exact spells

end Json
end TenantLoad
