import TenantLoad.Pattern.Search

/-!
# Searching finds the matches

`Spans` is what a pattern means on the positions of a text: it leads from where
a stretch starts to where the stretch ends.  Every constructor of a pattern has
an equation for it, and a search computes the same on sets of positions.  Only
repetitions need an argument: rounds that do not advance can be left out, so no
more rounds than there are positions lead anywhere new.
-/

namespace TenantLoad
namespace Pattern

/-- No repetition asks for more rounds than it allows. -/
def Bounded : Pattern → Prop
  | .sequence first second | .either first second => first.Bounded ∧ second.Bounded
  | .repetition body least most => body.Bounded ∧ ∀ bound, most = some bound → least ≤ bound
  | _ => True

/-- A stretch of a text that starts and ends at the given positions matches a
pattern. -/
def Spans (text : List Char) (pattern : Pattern) (start finish : Nat) : Prop :=
  ∃ before stretch after, text = before ++ (stretch ++ after) ∧ before.length = start ∧
    before.length + stretch.length = finish ∧ Matches pattern before stretch after

/-- So many steps of a relation lead from one position to another. -/
inductive Steps (relation : Nat → Nat → Prop) : Nat → Nat → Nat → Prop where
  | none (place : Nat) : Steps relation 0 place place
  | more {rounds start next finish : Nat}
      (step : relation start next)
      (rest : Steps relation rounds next finish) :
      Steps relation (rounds + 1) start finish

variable {text : List Char} {pattern first second body : Pattern} {start finish : Nat}

/-! ## Matches -/

theorem matches_folded_iff
    {expected : Char}
    {before stretch after : List Char} :
    Matches (.folded expected) before stretch after ↔
      ∃ found, stretch = [found] ∧ Text.fold found = Text.fold expected := by
  constructor
  · intro matched
    cases matched with
    | folded same => exact ⟨_, rfl, same⟩
  · rintro ⟨found, rfl, same⟩
    exact .folded same

theorem matches_either_iff
    {before stretch after : List Char} :
    Matches (.either first second) before stretch after ↔
      Matches first before stretch after ∨ Matches second before stretch after := by
  constructor
  · intro matched
    cases matched with
    | left isFirst => exact .inl isFirst
    | right isSecond => exact .inr isSecond
  · rintro (isFirst | isSecond)
    · exact .left isFirst
    · exact .right isSecond

/-! ## Steps -/

namespace Steps

variable {relation : Nat → Nat → Prop} {rounds more place : Nat}

theorem eq_of_zero
    (steps : Steps relation 0 start finish) :
    start = finish := by
  cases steps
  rfl

theorem succ_iff :
    Steps relation (rounds + 1) start finish ↔
      ∃ next, relation start next ∧ Steps relation rounds next finish := by
  constructor
  · intro steps
    cases steps with
    | more step rest => exact ⟨_, step, rest⟩
  · rintro ⟨next, step, rest⟩
    exact .more step rest

theorem add_iff :
    Steps relation (rounds + more) start finish ↔
      ∃ next, Steps relation rounds start next ∧ Steps relation more next finish := by
  induction rounds generalizing start with
  | zero =>
      rw [Nat.zero_add]
      constructor
      · exact fun steps => ⟨start, .none start, steps⟩
      · rintro ⟨next, none, steps⟩
        rwa [none.eq_of_zero]
  | succ rounds inductionHypothesis =>
      rw [Nat.add_right_comm, succ_iff]
      constructor
      · rintro ⟨next, step, rest⟩
        obtain ⟨between, earlier, later⟩ := inductionHypothesis.mp rest
        exact ⟨between, .more step earlier, later⟩
      · rintro ⟨between, earlier, later⟩
        obtain ⟨next, step, rest⟩ := succ_iff.mp earlier
        exact ⟨next, step, inductionHypothesis.mpr ⟨between, rest, later⟩⟩

/-- Steps that do not lead back do not need more rounds than the way is long. -/
theorem shorten
    (ahead : ∀ start finish, relation start finish → start ≤ finish)
    (steps : Steps relation rounds start finish) :
    start ≤ finish ∧
      ∃ fewer, fewer ≤ rounds ∧ fewer ≤ finish - start ∧ Steps relation fewer start finish := by
  induction steps with
  | none place => exact ⟨Nat.le_refl _, 0, Nat.le_refl _, Nat.zero_le _, .none place⟩
  | @more rounds start next finish step rest inductionHypothesis =>
      obtain ⟨restAhead, fewer, within, short, shorter⟩ := inductionHypothesis
      have stepAhead := ahead start next step
      refine ⟨Nat.le_trans stepAhead restAhead, ?_⟩
      by_cases still : start = next
      · subst still
        exact ⟨fewer, by omega, short, shorter⟩
      · exact ⟨fewer + 1, by omega, by omega, .more step shorter⟩

end Steps

/-! ## Stretches -/

namespace Spans

/-- A stretch stands within its text. -/
theorem within
    (spans : Spans text pattern start finish) :
    start ≤ finish ∧ finish ≤ text.length := by
  obtain ⟨before, stretch, after, rfl, rfl, rfl, _⟩ := spans
  simp only [List.length_append]
  omega

/-- Two stretches, one behind the other. -/
theorem join
    {next : Nat}
    (spans : Spans text first start next)
    (spansNext : Spans text second next finish) :
    ∃ before left right after, text = before ++ (left ++ right ++ after) ∧
      before.length = start ∧ before.length + (left ++ right).length = finish ∧
      Matches first before left (right ++ after) ∧
      Matches second (before ++ left) right after := by
  obtain ⟨before, left, rest, split, rfl, rfl, isFirst⟩ := spans
  obtain ⟨beforeNext, right, after, splitNext, reached, rfl, isSecond⟩ := spansNext
  have same : (before ++ left) ++ rest = beforeNext ++ (right ++ after) := by
    rw [List.append_assoc, ← split, splitNext]
  obtain ⟨rfl, rfl⟩ := List.append_inj same (by rw [List.length_append, reached])
  refine ⟨before, left, right, after, ?_, rfl, ?_, isFirst, isSecond⟩
  · rw [split, List.append_assoc]
  · simp only [List.length_append]
    omega

theorem empty_iff :
    Spans text .empty start finish ↔ start = finish ∧ start ≤ text.length := by
  constructor
  · rintro ⟨before, stretch, after, rfl, rfl, rfl, isEmpty⟩
    cases isEmpty
    simp
  · rintro ⟨rfl, inside⟩
    exact ⟨text.take start, [], text.drop start, by simp, by simp [inside], by simp [inside],
      .empty⟩

/-- A pattern of single characters spans the characters that satisfy its
condition. -/
theorem char_iff
    {condition : Char → Bool}
    (isChar : ∀ before stretch after, Matches pattern before stretch after ↔
      ∃ character, stretch = [character] ∧ condition character = true) :
    Spans text pattern start finish ↔
      finish = start + 1 ∧ ∃ character, text[start]? = some character ∧
        condition character = true := by
  constructor
  · rintro ⟨before, stretch, after, rfl, rfl, rfl, matched⟩
    obtain ⟨character, rfl, holds⟩ := (isChar ..).mp matched
    exact ⟨by simp, character, by simp, holds⟩
  · rintro ⟨rfl, character, found, holds⟩
    obtain ⟨inside, here⟩ := List.getElem?_eq_some_iff.mp found
    refine ⟨text.take start, [character], text.drop (start + 1), ?_, ?_, ?_,
      (isChar ..).mpr ⟨character, rfl, holds⟩⟩
    · rw [← here, List.singleton_append, List.getElem_cons_drop, List.take_append_drop]
    · rw [List.length_take]
      omega
    · rw [List.length_take, List.length_singleton]
      omega

theorem oneOf_iff
    {set : CharSet} :
    Spans text (.oneOf set) start finish ↔
      finish = start + 1 ∧ ∃ character, text[start]? = some character ∧
        set.contains character = true := by
  refine char_iff ?_
  intro before stretch after
  constructor
  · intro matched
    cases matched with
    | oneOf member => exact ⟨_, rfl, member⟩
  · rintro ⟨character, rfl, member⟩
    exact .oneOf member

theorem folded_iff
    {expected : Char} :
    Spans text (.folded expected) start finish ↔
      finish = start + 1 ∧ ∃ character, text[start]? = some character ∧
        (Text.fold character == Text.fold expected) = true := by
  refine char_iff ?_
  intro before stretch after
  rw [matches_folded_iff]
  simp only [beq_iff_eq]

theorem assertion_iff
    {condition : Assertion} :
    Spans text (.assertion condition) start finish ↔
      start = finish ∧ start ≤ text.length ∧
        condition.holds (text.take start).getLast? (text.drop start).head? = true := by
  constructor
  · rintro ⟨before, stretch, after, rfl, rfl, rfl, matched⟩
    cases matched with
    | assertion holds => simpa using holds
  · rintro ⟨rfl, inside, holds⟩
    exact ⟨text.take start, [], text.drop start, by simp, by simp [inside], by simp [inside],
      .assertion holds⟩

theorem sequence_iff :
    Spans text (.sequence first second) start finish ↔
      ∃ next, Spans text first start next ∧ Spans text second next finish := by
  constructor
  · rintro ⟨before, stretch, after, rfl, rfl, rfl, matched⟩
    cases matched with
    | @sequence _ _ _ left right _ isFirst isSecond =>
        refine ⟨before.length + left.length,
          ⟨before, left, right ++ after, by simp, rfl, rfl, isFirst⟩,
          ⟨before ++ left, right, after, by simp, by simp, ?_, isSecond⟩⟩
        simp only [List.length_append]
        omega
  · rintro ⟨next, isFirst, isSecond⟩
    obtain ⟨before, left, right, after, split, starts, ends, matchesFirst, matchesSecond⟩ :=
      isFirst.join isSecond
    exact ⟨before, left ++ right, after, split, starts, ends,
      .sequence matchesFirst matchesSecond⟩

theorem either_iff :
    Spans text (.either first second) start finish ↔
      Spans text first start finish ∨ Spans text second start finish := by
  simp only [Spans, matches_either_iff, and_or_left, exists_or]

/-- A stretch of a repetition is one of so many rounds. -/
theorem exists_rounds
    {before stretch after : List Char}
    (matched : Matches pattern before stretch after) :
    ∀ {body : Pattern} {least : Nat} {most : Option Nat}, pattern = .repetition body least most →
      text = before ++ (stretch ++ after) →
        ∃ rounds, least ≤ rounds ∧ (∀ bound, most = some bound → rounds ≤ bound) ∧
          Steps (Spans text body) rounds before.length (before.length + stretch.length) := by
  induction matched with
  | empty | oneOf | folded | assertion | sequence | left | right =>
      intro body least most isRepetition
      cases isRepetition
  | stop =>
      intro body least most isRepetition _
      cases isRepetition
      exact ⟨0, Nat.le_refl _, fun _ _ => Nat.zero_le _, .none _⟩
  | @more body least before left right after isBody isRest _ restHypothesis =>
      intro body least most isRepetition split
      cases isRepetition
      obtain ⟨rounds, enough, _, steps⟩ := restHypothesis rfl (by simp [split])
      refine ⟨rounds + 1, by omega, by simp, .more ⟨before, left, right ++ after, by simp [split],
        rfl, rfl, isBody⟩ ?_⟩
      simpa [Nat.add_assoc] using steps
  | @moreBounded body least most before left right after isBody isRest _ restHypothesis =>
      intro body least most isRepetition split
      cases isRepetition
      obtain ⟨rounds, enough, few, steps⟩ := restHypothesis rfl (by simp [split])
      have fewer := few _ rfl
      refine ⟨rounds + 1, by omega, by simpa using fewer, .more ⟨before, left, right ++ after,
        by simp [split], rfl, rfl, isBody⟩ ?_⟩
      simpa [Nat.add_assoc] using steps

/-- So many rounds are a stretch of a repetition that allows them. -/
theorem of_steps
    {rounds least : Nat}
    {most : Option Nat}
    (inside : start ≤ text.length)
    (enough : least ≤ rounds)
    (few : ∀ bound, most = some bound → rounds ≤ bound)
    (steps : Steps (Spans text body) rounds start finish) :
    Spans text (.repetition body least most) start finish := by
  induction steps generalizing least most with
  | none place =>
      obtain rfl := Nat.le_zero.mp enough
      exact ⟨text.take place, [], text.drop place, by simp, by simp [inside], by simp [inside],
        .stop⟩
  | @more rounds start next finish step rest inductionHypothesis =>
      have insideNext := step.within.2
      cases most with
      | none =>
          have isRest : Spans text (.repetition body (least - 1) none) next finish :=
            inductionHypothesis insideNext (by omega) (by simp)
          obtain ⟨before, left, right, after, split, starts, ends, matchesBody, matchesRest⟩ :=
            step.join isRest
          exact ⟨before, left ++ right, after, split, starts, ends, .more matchesBody matchesRest⟩
      | some bound =>
          have within := few bound rfl
          obtain ⟨bound, rfl⟩ := Nat.exists_eq_add_one_of_ne_zero (by omega : bound ≠ 0)
          have isRest : Spans text (.repetition body (least - 1) (some bound)) next finish :=
            inductionHypothesis insideNext (by omega) (by simp; omega)
          obtain ⟨before, left, right, after, split, starts, ends, matchesBody, matchesRest⟩ :=
            step.join isRest
          exact ⟨before, left ++ right, after, split, starts, ends,
            .moreBounded matchesBody matchesRest⟩

theorem repetition_iff
    {least : Nat}
    {most : Option Nat} :
    Spans text (.repetition body least most) start finish ↔
      start ≤ text.length ∧ ∃ rounds, least ≤ rounds ∧
        (∀ bound, most = some bound → rounds ≤ bound) ∧
          Steps (Spans text body) rounds start finish := by
  constructor
  · intro spans
    refine ⟨Nat.le_trans spans.within.1 spans.within.2, ?_⟩
    obtain ⟨before, stretch, after, split, rfl, rfl, matched⟩ := spans
    exact exists_rounds matched rfl split
  · rintro ⟨inside, rounds, enough, few, steps⟩
    exact of_steps inside enough few steps

end Spans

/-! ## Sets of positions -/

/-- A set holds positions of a text only. -/
def Inside (text : List Char) (positions : Nat) : Prop :=
  ∀ place, positions.testBit place = true → place ≤ text.length

/-- A relation leads from positions of a text to positions of the text. -/
def Stays (text : List Char) (relation : Nat → Nat → Prop) : Prop :=
  ∀ start finish, start ≤ text.length → relation start finish → finish ≤ text.length

/-- A step on sets of positions takes every position of a text to those that the relation
leads to. -/
def Takes (text : List Char) (relation : Nat → Nat → Prop) (step : Nat → Nat) : Prop :=
  ∀ positions, Inside text positions → ∀ finish,
    (step positions).testBit finish = true ↔
      ∃ start, positions.testBit start = true ∧ relation start finish

theorem Spans.stays (text : List Char) (pattern : Pattern) : Stays text (Spans text pattern) :=
  fun _ _ _ spans => spans.within.2

theorem Stays.steps
    {relation : Nat → Nat → Prop}
    (stays : Stays text relation)
    (count : Nat) :
    Stays text (Steps relation count) := by
  intro start finish inside steps
  induction steps with
  | none => exact inside
  | more step _ inductionHypothesis => exact inductionHypothesis (stays _ _ inside step)

theorem testBit_bit_iff
    {condition : Prop}
    [Decidable condition]
    {index place : Nat} :
    (if condition then 1 <<< index else 0).testBit place = true ↔
      condition ∧ place = index := by
  split
  · rename_i holds
    simp [holds, Nat.one_shiftLeft, Nat.testBit_two_pow, eq_comm]
  · rename_i fails
    simp [fails]

theorem testBit_charPositions
    (condition : Char → Bool)
    (index : Nat)
    (text : List Char)
    (place : Nat) :
    (charPositions condition index text).testBit place = true ↔
      ∃ offset character, place = index + offset ∧ text[offset]? = some character ∧
        condition character = true := by
  induction text generalizing index with
  | nil => simp [charPositions]
  | cons first rest inductionHypothesis =>
      rw [charPositions, Nat.testBit_or, Bool.or_eq_true, testBit_bit_iff, inductionHypothesis]
      constructor
      · rintro (⟨holds, rfl⟩ | ⟨offset, character, rfl, found, holds⟩)
        · exact ⟨0, first, rfl, rfl, holds⟩
        · exact ⟨offset + 1, character, by omega, found, holds⟩
      · rintro ⟨offset, character, rfl, found, holds⟩
        cases offset with
        | zero =>
            cases found
            exact .inl ⟨holds, rfl⟩
        | succ offset => exact .inr ⟨offset, character, by omega, found, holds⟩

theorem testBit_gapPositions
    (condition : Option Char → Option Char → Bool)
    (index : Nat)
    (before text : List Char)
    (place : Nat) :
    (gapPositions condition index before.getLast? text).testBit place = true ↔
      ∃ offset, place = index + offset ∧ offset ≤ text.length ∧
        condition (before ++ text.take offset).getLast? (text.drop offset).head? = true := by
  induction text generalizing index before with
  | nil =>
      rw [gapPositions, testBit_bit_iff]
      constructor
      · rintro ⟨holds, rfl⟩
        exact ⟨0, rfl, Nat.le_refl _, by simpa using holds⟩
      · rintro ⟨offset, rfl, inside, holds⟩
        obtain rfl := Nat.le_zero.mp inside
        exact ⟨by simpa using holds, rfl⟩
  | cons first rest inductionHypothesis =>
      have next := inductionHypothesis (index + 1) (before ++ [first])
      rw [List.getLast?_concat] at next
      rw [gapPositions, Nat.testBit_or, Bool.or_eq_true, testBit_bit_iff, next]
      constructor
      · rintro (⟨holds, rfl⟩ | ⟨offset, rfl, inside, holds⟩)
        · exact ⟨0, rfl, Nat.zero_le _, by simpa using holds⟩
        · exact ⟨offset + 1, by omega, Nat.succ_le_succ inside, by simpa using holds⟩
      · rintro ⟨offset, rfl, inside, holds⟩
        cases offset with
        | zero => exact .inl ⟨by simpa using holds, rfl⟩
        | succ offset =>
            exact .inr ⟨offset, by omega, Nat.le_of_succ_le_succ inside, by simpa using holds⟩

theorem testBit_allPositions
    (text : List Char)
    (place : Nat) :
    (allPositions text).testBit place = true ↔ place ≤ text.length := by
  rw [allPositions, Nat.one_shiftLeft, Nat.testBit_two_pow_sub_one, decide_eq_true_eq,
    Nat.lt_succ_iff]

theorem inside_allPositions (text : List Char) : Inside text (allPositions text) :=
  fun place => (testBit_allPositions text place).mp

namespace Takes

variable {relation other : Nat → Nat → Prop} {step next : Nat → Nat}

theorem congr
    (takes : Takes text relation step)
    (same : ∀ start finish, start ≤ text.length →
      (relation start finish ↔ other start finish)) :
    Takes text other step := by
  intro positions inside finish
  rw [takes positions inside finish]
  constructor
  · rintro ⟨start, isThere, leads⟩
    exact ⟨start, isThere, (same start finish (inside start isThere)).mp leads⟩
  · rintro ⟨start, isThere, leads⟩
    exact ⟨start, isThere, (same start finish (inside start isThere)).mpr leads⟩

/-- Positions of a text are taken to positions of the text. -/
theorem inside
    {positions : Nat}
    (takes : Takes text relation step)
    (stays : Stays text relation)
    (isInside : Inside text positions) :
    Inside text (step positions) := by
  intro finish reached
  obtain ⟨start, isThere, leads⟩ := (takes positions isInside finish).mp reached
  exact stays start finish (isInside start isThere) leads

theorem comp
    (takes : Takes text relation step)
    (stays : Stays text relation)
    (takesNext : Takes text other next) :
    Takes text (fun start finish => ∃ between, relation start between ∧ other between finish)
      fun positions => next (step positions) := by
  intro positions inside finish
  rw [takesNext _ (takes.inside stays inside)]
  constructor
  · rintro ⟨between, reached, later⟩
    obtain ⟨start, isThere, earlier⟩ := (takes positions inside between).mp reached
    exact ⟨start, isThere, between, earlier, later⟩
  · rintro ⟨start, isThere, between, earlier, later⟩
    exact ⟨between, (takes positions inside between).mpr ⟨start, isThere, earlier⟩, later⟩

/-- A mask leaves the positions that it holds. -/
theorem mask
    {allowed : Nat}
    {holds : Nat → Prop}
    (isAllowed : ∀ place, allowed.testBit place = true ↔ holds place) :
    Takes text (fun start finish => start = finish ∧ holds start)
      fun positions => positions &&& allowed := by
  intro positions _ finish
  rw [Nat.testBit_and, Bool.and_eq_true, isAllowed]
  constructor
  · rintro ⟨isThere, holdsHere⟩
    exact ⟨finish, isThere, rfl, holdsHere⟩
  · rintro ⟨start, isThere, rfl, holdsHere⟩
    exact ⟨isThere, holdsHere⟩

/-- A mask and a shift lead from the positions of the mask one further. -/
theorem maskShift
    {allowed : Nat}
    {holds : Nat → Prop}
    (isAllowed : ∀ place, allowed.testBit place = true ↔ holds place) :
    Takes text (fun start finish => finish = start + 1 ∧ holds start)
      fun positions => (positions &&& allowed) <<< 1 := by
  intro positions _ finish
  rw [Nat.testBit_shiftLeft, Bool.and_eq_true, decide_eq_true_eq, Nat.testBit_and,
    Bool.and_eq_true, isAllowed]
  constructor
  · rintro ⟨positive, isThere, holdsThere⟩
    exact ⟨finish - 1, isThere, by omega, holdsThere⟩
  · rintro ⟨start, isThere, rfl, holdsThere⟩
    exact ⟨by omega, isThere, holdsThere⟩

/-- So many applications of a step take so many steps. -/
theorem iterate
    (takes : Takes text relation step)
    (stays : Stays text relation)
    (count : Nat) :
    Takes text (Steps relation count) (Pattern.iterate step count) := by
  induction count with
  | zero =>
      intro positions _ finish
      constructor
      · exact fun isThere => ⟨finish, isThere, .none finish⟩
      · rintro ⟨start, isThere, steps⟩
        exact steps.eq_of_zero ▸ isThere
  | succ count inductionHypothesis =>
      have further := takes.comp stays inductionHypothesis
      intro positions inside finish
      simp only [Steps.succ_iff, ← further positions inside finish, Pattern.iterate]
      split
      · rename_i empty
        subst empty
        rw [further 0 inside finish]
        simp
      · rfl

/-- What is grown so many times holds what up to so many steps lead to. -/
theorem accumulate
    (takes : Takes text relation step)
    (stays : Stays text relation)
    (count : Nat) :
    Takes text (fun start finish => ∃ rounds, rounds ≤ count ∧ Steps relation rounds start finish)
      (Pattern.accumulate step count) := by
  induction count with
  | zero =>
      intro positions _ finish
      constructor
      · exact fun isThere => ⟨finish, isThere, 0, Nat.le_refl _, .none finish⟩
      · rintro ⟨start, isThere, rounds, few, steps⟩
        obtain rfl := Nat.le_zero.mp few
        exact steps.eq_of_zero ▸ isThere
  | succ count inductionHypothesis =>
      intro positions inside finish
      have grown (place : Nat) : (positions ||| step positions).testBit place = true ↔
          positions.testBit place = true ∨
            ∃ start, positions.testBit start = true ∧ relation start place := by
        rw [Nat.testBit_or, Bool.or_eq_true, takes positions inside]
      simp only [Pattern.accumulate]
      split
      · rename_i closed
        -- Nothing is new after one step, so nothing is after more of them.
        have holds : ∀ rounds start finish, Steps relation rounds start finish →
            positions.testBit start = true → positions.testBit finish = true := by
          intro rounds start finish steps
          induction steps with
          | none => exact id
          | @more _ start next _ step _ inductionHypothesis =>
              intro isThere
              refine inductionHypothesis ?_
              rw [← closed, grown]
              exact .inr ⟨start, isThere, step⟩
        constructor
        · exact fun isThere => ⟨finish, isThere, 0, Nat.zero_le _, .none finish⟩
        · rintro ⟨start, isThere, rounds, _, steps⟩
          exact holds rounds start finish steps isThere
      · have insideGrown : Inside text (positions ||| step positions) := by
          intro place isThere
          rcases (grown place).mp isThere with isOld | ⟨start, isStart, leads⟩
          · exact inside place isOld
          · exact stays start place (inside start isStart) leads
        rw [inductionHypothesis _ insideGrown finish]
        constructor
        · rintro ⟨start, isThere, rounds, few, steps⟩
          rcases (grown start).mp isThere with isOld | ⟨first, isFirst, leads⟩
          · exact ⟨start, isOld, rounds, by omega, steps⟩
          · exact ⟨first, isFirst, rounds + 1, by omega, .more leads steps⟩
        · rintro ⟨start, isThere, rounds, few, steps⟩
          cases steps with
          | none => exact ⟨_, (grown _).mpr (.inl isThere), 0, Nat.zero_le _, .none _⟩
          | @more rounds _ next _ step rest =>
              exact ⟨next, (grown next).mpr (.inr ⟨start, isThere, step⟩), rounds, by omega, rest⟩

end Takes

/-! ## Searches -/

/-- A search takes the positions where stretches may start to those where they end. -/
theorem takes_run
    (text : List Char)
    (bounded : pattern.Bounded) :
    Takes text (Spans text pattern) ((plan text pattern).run (text.length + 1)) := by
  induction pattern with
  | empty =>
      refine (Takes.mask (testBit_allPositions text)).congr ?_
      exact fun start finish _ => Spans.empty_iff.symm
  | oneOf set =>
      refine (Takes.maskShift (testBit_charPositions set.contains 0 text)).congr ?_
      intro start finish _
      rw [Spans.oneOf_iff]
      simp
  | folded expected =>
      refine (Takes.maskShift (testBit_charPositions
        (fun found => Text.fold found == Text.fold expected) 0 text)).congr ?_
      intro start finish _
      rw [Spans.folded_iff]
      simp
  | assertion condition =>
      refine (Takes.mask (testBit_gapPositions
        (fun before after => condition.holds before after) 0 [] text)).congr ?_
      intro start finish _
      rw [Spans.assertion_iff]
      simp
  | sequence first second ofFirst ofSecond =>
      refine ((ofFirst bounded.1).comp (Spans.stays text first) (ofSecond bounded.2)).congr ?_
      exact fun start finish _ => Spans.sequence_iff.symm
  | either first second ofFirst ofSecond =>
      intro positions inside finish
      rw [plan, Plan.run, Nat.testBit_or, Bool.or_eq_true,
        ofFirst bounded.1 positions inside finish, ofSecond bounded.2 positions inside finish]
      simp only [Spans.either_iff, and_or_left, exists_or]
  | repetition body least most ofBody =>
      have takes := ofBody bounded.1
      have stays := Spans.stays text body
      have first := takes.iterate stays least
      cases most with
      | none =>
          refine (first.comp (stays.steps least)
            (takes.accumulate stays (text.length + 1))).congr ?_
          intro start finish inside
          rw [Spans.repetition_iff]
          constructor
          · rintro ⟨between, earlier, rounds, _, later⟩
            exact ⟨inside, least + rounds, Nat.le_add_right .., by simp,
              Steps.add_iff.mpr ⟨between, earlier, later⟩⟩
          · rintro ⟨_, rounds, enough, _, steps⟩
            obtain ⟨rounds, rfl⟩ := Nat.exists_eq_add_of_le enough
            obtain ⟨between, earlier, later⟩ := Steps.add_iff.mp steps
            obtain ⟨_, fewer, _, short, shorter⟩ :=
              later.shorten fun start finish spans => spans.within.1
            have reached := stays.steps _ start finish inside steps
            exact ⟨between, earlier, fewer, by omega, shorter⟩
      | some bound =>
          refine (first.comp (stays.steps least) (takes.accumulate stays (bound - least))).congr ?_
          have ordered := bounded.2 bound rfl
          intro start finish inside
          rw [Spans.repetition_iff]
          constructor
          · rintro ⟨between, earlier, rounds, few, later⟩
            exact ⟨inside, least + rounds, Nat.le_add_right .., by simp; omega,
              Steps.add_iff.mpr ⟨between, earlier, later⟩⟩
          · rintro ⟨_, rounds, enough, few, steps⟩
            have fewEnough := few bound rfl
            obtain ⟨rounds, rfl⟩ := Nat.exists_eq_add_of_le enough
            obtain ⟨between, earlier, later⟩ := Steps.add_iff.mp steps
            exact ⟨between, earlier, rounds, by omega, later⟩

/-- A search finds out whether a stretch of a text matches. -/
theorem isMatch_iff_occurs
    (bounded : pattern.Bounded)
    (text : List Char) :
    isMatch pattern text = true ↔ Occurs pattern text := by
  have reaches := takes_run text bounded _ (inside_allPositions text)
  rw [isMatch, bne_iff_ne]
  constructor
  · intro found
    obtain ⟨finish, reached⟩ := Nat.exists_testBit_of_ne_zero found
    obtain ⟨start, _, before, stretch, after, split, _, _, matched⟩ := (reaches finish).mp reached
    exact ⟨before, stretch, after, by rw [split, List.append_assoc], matched⟩
  · rintro ⟨before, stretch, after, rfl, matched⟩ none
    have spans : Spans (before ++ stretch ++ after) pattern before.length
        (before.length + stretch.length) :=
      ⟨before, stretch, after, List.append_assoc .., rfl, rfl, matched⟩
    have reached := (reaches _).mpr
      ⟨_, (testBit_allPositions ..).mpr (Nat.le_trans spans.within.1 spans.within.2), spans⟩
    rw [none, Nat.zero_testBit] at reached
    cases reached

end Pattern
end TenantLoad
