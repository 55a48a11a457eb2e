import TenantLoad.Payload.Generate
import TenantLoad.Proofs.Quantity
import TenantLoad.Proofs.Random.Range

/-!
# Generated payloads conform to the schema

The columns, the rows and the searches of a tenant are written down apart from
each other.  Whatever raw words a source gives, a row has exactly the columns as
its fields, each with a value that its column admits, and a search filters by
such values.

What is drawn is reasoned about by `Yields`: a property of every value that a
draw may give, which follows the steps of the draw.  A cost is a float; that it is
a whole number of cents is said of the same rule in exact arithmetic.
-/

namespace TenantLoad

namespace Random
namespace Draw

variable {Source : Type} {Value Next : Type}

/-- Whatever the source, the value that is drawn has a property. -/
def Yields (draw : StateM Source Value) (Holds : Value → Prop) : Prop :=
  ∀ source, Holds (draw source).1

variable {draw : StateM Source Value} {Holds : Value → Prop} {HoldsNext : Next → Prop}

theorem yields_pure
    {value : Value}
    (holds : Holds value) :
    Yields (pure value : StateM Source Value) Holds :=
  fun _ => holds

theorem Yields.bind
    (yields : Yields draw Holds)
    {next : Value → StateM Source Next}
    (step : ∀ value, Holds value → Yields (next value) HoldsNext) :
    Yields (draw >>= next) HoldsNext := by
  intro source
  exact step (draw source).1 (yields source) (draw source).2

theorem yields_any (draw : StateM Source Value) : Yields draw fun _ => True := fun _ => trivial

variable [Words Source]

theorem yields_long_shiftRight :
    Yields (long : StateM Source UInt64) fun value => (value >>> 12).toNat < fractions := by
  intro source
  have bound := (Words.nextLong source).1.toNat_lt
  rw [long, UInt64.toNat_shiftRight, Nat.shiftRight_eq_div_pow, fractions]
  have shift : (12 : UInt64).toNat % 64 = 12 := rfl
  rw [shift]
  omega

/-! ## Parts of an interval in exact arithmetic -/

section Within

variable {low high scale : ℚ} {part : Nat}

theorem largestFraction_pos : (0 : ℚ) < largestFraction := by
  norm_num [largestFraction, fractions]

/-- A scale that fits is not lowered. -/
theorem fitScale_of_le
    (fits : scale * largestFraction + low ≤ high)
    (steps : Nat) :
    fitScale low high scale steps = scale := by
  cases steps with
  | zero => rfl
  | succ steps =>
      rw [fitScale, if_neg]
      rw [Quantity.less_rat]
      exact not_lt.mpr fits

/-- Without rounding the largest part ends the interval. -/
theorem within_eq
    (low high : ℚ)
    (part : Nat) :
    within low high part =
      part / Quantity.ofNat fractions * ((high - low) / largestFraction) + low := by
  have fits : (high - low) / largestFraction * largestFraction + low ≤ high := by
    rw [div_mul_cancel₀ _ largestFraction_pos.ne', sub_add_cancel]
  rw [within, fitScale_of_le fits]
  rfl

theorem within_mem_Icc
    (ordered : low ≤ high)
    (inside : part < fractions) :
    within low high part ∈ Set.Icc low high := by
  have width : 0 ≤ high - low := sub_nonneg.mpr ordered
  have atMost : (part : ℚ) ≤ (fractions - 1 : Nat) := Nat.cast_le.mpr (by omega)
  have share : (part : ℚ) / Quantity.ofNat fractions ≤ largestFraction :=
    div_le_div_of_nonneg_right atMost (Nat.cast_nonneg fractions)
  have scaled : (part : ℚ) / Quantity.ofNat fractions * ((high - low) / largestFraction) ≤
      high - low := by
    calc (part : ℚ) / Quantity.ofNat fractions * ((high - low) / largestFraction)
        ≤ largestFraction * ((high - low) / largestFraction) :=
          mul_le_mul_of_nonneg_right share (div_nonneg width largestFraction_pos.le)
      _ = high - low := mul_div_cancel₀ _ largestFraction_pos.ne'
  have nonneg : (0 : ℚ) ≤ part / Quantity.ofNat fractions * ((high - low) / largestFraction) :=
    mul_nonneg (div_nonneg (Nat.cast_nonneg _) (Nat.cast_nonneg _))
      (div_nonneg width largestFraction_pos.le)
  rw [within_eq]
  constructor
  · linarith
  · linarith

end Within

end Draw
end Random

/-! ## Schemas -/

namespace Api

/-- The values that a column may hold. -/
inductive Column.Admits (column : Column) : Json → Prop where
  | text
      (isText : column.type = .text)
      (text : String) :
      column.Admits (.text text)
  | choice
      (isChoice : column.type = .choice)
      {values : List String}
      (restricted : column.values = some values)
      {text : String}
      (listed : text ∈ values) :
      column.Admits (.text text)
  | number
      (isNumber : column.type = .number)
      (value : Float) :
      column.Admits (.real value)
  | truth
      (isTruth : column.type = .truth)
      (value : Bool) :
      column.Admits (.boolean value)

/-- A row of a table: its fields are the columns, and it has a value of each of
them that the column admits. -/
structure IsRowOf (columns : List Column) (row : Json) : Prop where
  fields : ∃ members, row = .object members ∧
    (members.map Prod.fst).Perm (columns.map Column.name)
  admitted : ∀ column ∈ columns, ∃ value, row.member? column.name = some value ∧
    column.Admits value

/-- A condition that compares a column with a value that the column admits. -/
def Filter.IsOf (columns : List Column) (filter : Filter) : Prop :=
  filter.operation = "eq" ∧
    ∃ column ∈ columns, filter.field = column.name ∧ column.Admits filter.value

end Api

namespace Payload

open TenantLoad.Random TenantLoad.Random.Draw

/-- What a row of an index is. -/
structure IsRow (index : Nat) (row : Json) : Prop where
  isRowOf : Api.IsRowOf columns row
  /-- The title names the index and the status of the row itself. -/
  title : ∃ status, row.member? "status" = some (.text status) ∧
    row.member? "title" = some (.text s!"Work item {index} - {status}")
  /-- In exact arithmetic the cost is a whole number of cents from 10 to 5000. -/
  cost : ∃ part cents : Nat, part < fractions ∧ row.member? "cost" = some (.real (costOf part)) ∧
    1000 ≤ cents ∧ cents ≤ 500000 ∧ (costOf part : ℚ) = cents / 100
  /-- Only complete items are completed. -/
  completed : row.member? "completed" = some (.boolean true) →
    row.member? "status" = some (.text "complete")

/-- What a search is. -/
structure IsSearch (search : Api.Search) : Prop where
  isOf : ∀ filter ∈ search.filters, filter.IsOf columns
  distinct : (search.filters.map Api.Filter.field).Nodup
  few : search.filters.length ≤ 3
  pageNumber : search.pageNumber ≤ 4
  pageSize : search.pageSize ∈ pageSizes
  sortField : search.sortField ∈ sortFields

/-! ## Draws -/

variable {Source : Type} [Words Source]

theorem yields_pick
    {Item : Type}
    [Inhabited Item]
    {items : List Item}
    (filled : items ≠ [])
    (fits : items.length ≤ 2 ^ 64) :
    Yields (pick items : StateM Source Item) fun item => item ∈ items := by
  have positive := List.length_pos_of_ne_nil filled
  have inside : Yields (natBetween 0 (items.length - 1) : StateM Source Nat)
      fun index => index < items.length := by
    intro source
    have inRange := natBetween_mem_range source (Nat.zero_le (items.length - 1)) (by omega)
    omega
  refine inside.bind ?_
  intro index inside
  apply yields_pure
  rw [List.getD_eq_getElem?_getD, List.getElem?_eq_getElem inside]
  exact List.getElem_mem inside

/-- A status other than that of finished work is not completed. -/
theorem yields_completed (status : String) :
    Yields (completed status : StateM Source Bool) fun isCompleted =>
      isCompleted = true → status = completeStatus := by
  intro source
  unfold completed
  split
  · exact fun _ => ‹_›
  · rintro ⟨⟩

/-- A filter that is drawn is one of its column. -/
theorem yields_maybeFilter
    {draw : StateM Source Json}
    (column : Api.Column)
    (probability : Float)
    (known : column ∈ columns)
    (yields : Yields draw column.Admits) :
    Yields (maybeFilter probability column.name draw) fun filters =>
      (∀ filter ∈ filters, filter.IsOf columns) ∧
        (filters.map Api.Filter.field).Sublist [column.name] := by
  refine Yields.bind (yields_any _) ?_
  intro shown _
  cases shown with
  | false => exact yields_pure ⟨List.forall_mem_nil _, List.nil_sublist _⟩
  | true =>
      refine yields.bind ?_
      intro value admits
      apply yields_pure
      refine ⟨?_, List.Sublist.refl _⟩
      rw [List.forall_mem_singleton]
      exact ⟨rfl, column, known, rfl, admits⟩

theorem yields_pickText
    {column : Api.Column}
    {items : List String}
    (isChoice : column.type = .choice)
    (restricted : column.values = some items)
    (filled : items ≠ [])
    (fits : items.length ≤ 2 ^ 64) :
    Yields (pickText items : StateM Source Json) column.Admits := by
  refine (yields_pick filled fits).bind ?_
  intro item listed
  exact yields_pure (.choice isChoice restricted listed)

theorem yields_pickTruth
    {column : Api.Column}
    (isTruth : column.type = .truth) :
    Yields (pickTruth : StateM Source Json) column.Admits :=
  (yields_any _).bind fun value _ => yields_pure (.truth isTruth value)

/-! ## Costs -/

/-- In exact arithmetic a cost is a whole number of cents within the range. -/
theorem exists_cents
    {part : Nat}
    (inside : part < fractions) :
    ∃ cents : Nat, 1000 ≤ cents ∧ cents ≤ 500000 ∧ (costOf part : ℚ) = cents / 100 := by
  have ordered : (Quantity.ofNat 10 : ℚ) ≤ Quantity.ofNat 5000 := by norm_num
  obtain ⟨atLeast, atMost⟩ := within_mem_Icc ordered inside
  set amount : ℚ := within (Quantity.ofNat 10) (Quantity.ofNat 5000) part with amount_eq
  simp only [Quantity.ofNat_rat, Nat.cast_ofNat] at atLeast atMost
  refine ⟨⌊amount * 100 + 1 / 2⌋₊, ?_, ?_, ?_⟩
  · apply Nat.le_floor
    push_cast
    linarith
  · apply Nat.lt_succ_iff.mp
    rw [Nat.floor_lt (by linarith)]
    push_cast
    linarith
  · rw [costOf, ← amount_eq, toHundredths, Quantity.ofNat_rat, Nat.cast_ofNat,
      Quantity.round_of_nonneg (by linarith)]

/-! ## Rows and searches -/

/-- The fields of a row in the order of their names. -/
theorem sorted_row (title status category cost completed : Json) :
    Json.sorted [("title", title), ("status", status), ("category", category), ("cost", cost),
      ("completed", completed)] =
    .object [("category", category), ("completed", completed), ("cost", cost),
      ("status", status), ("title", title)] := by
  have statusFirst : "status" < "title" := by decide
  have categoryFirst : "category" < "status" := by decide
  have costSecond : ¬ "cost" < "category" ∧ "cost" ≠ "category" ∧ "cost" < "status" := by decide
  have completedSecond :
      ¬ "completed" < "category" ∧ "completed" ≠ "category" ∧ "completed" < "cost" := by decide
  simp only [Json.sorted, Json.sortMembers, Json.insertMember, List.foldl_cons, List.foldl_nil,
    statusFirst, categoryFirst, costSecond, completedSecond, if_true, if_false]

theorem yields_row (index : Nat) : Yields (row index : StateM Source Json) (IsRow index) := by
  refine (yields_pick (by decide) (by decide)).bind ?_
  intro status isStatus
  refine (yields_pick (by decide) (by decide)).bind ?_
  intro category isCategory
  have drawn : Yields (cost : StateM Source Float)
      fun value => ∃ part, part < fractions ∧ value = costOf part :=
    yields_long_shiftRight.bind fun _ inside => yields_pure ⟨_, inside, rfl⟩
  refine drawn.bind ?_
  rintro _ ⟨part, inside, rfl⟩
  refine (yields_completed status).bind ?_
  intro completed onlyComplete
  apply yields_pure
  rw [sorted_row]
  obtain ⟨cents, atLeast, atMost, isCents⟩ := exists_cents inside
  have names : ["category", "completed", "cost", "status", "title"].Perm
    (columns.map Api.Column.name) := by decide
  refine
    { isRowOf := ⟨⟨_, rfl, names⟩, ?_⟩
      title := ⟨status, rfl, rfl⟩
      cost := ⟨part, cents, inside, rfl, atLeast, atMost, isCents⟩
      completed := ?_ }
  · simp only [columns, List.forall_mem_cons, List.not_mem_nil, false_implies, implies_true,
      and_true]
    exact ⟨⟨_, rfl, .text rfl _⟩, ⟨_, rfl, .choice rfl rfl isStatus⟩,
      ⟨_, rfl, .choice rfl rfl isCategory⟩, ⟨_, rfl, .number rfl _⟩, ⟨_, rfl, .truth rfl _⟩⟩
  · intro isCompleted
    cases isCompleted
    rw [onlyComplete rfl]
    rfl

theorem yields_search : Yields (search : StateM Source Api.Search) IsSearch := by
  refine (yields_maybeFilter columns[1] 0.7 (List.getElem_mem _)
    (yields_pickText rfl rfl (by decide) (by decide))).bind ?_
  rintro byStatus ⟨ofStatus, statusField⟩
  refine (yields_maybeFilter columns[2] 0.4 (List.getElem_mem _)
    (yields_pickText rfl rfl (by decide) (by decide))).bind ?_
  rintro byCategory ⟨ofCategory, categoryField⟩
  refine (yields_maybeFilter columns[4] 0.3 (List.getElem_mem _)
    (yields_pickTruth rfl)).bind ?_
  rintro byCompleted ⟨ofCompleted, completedField⟩
  have number : Yields (smallBetween 0 4 : StateM Source Nat) fun number => number ≤ 4 :=
    fun source => (smallBetween_mem_range source (by decide) (by decide)).2
  refine number.bind ?_
  intro pageNumber atMost
  refine (yields_pick (by decide) (by decide)).bind ?_
  intro pageSize isSize
  refine (yields_pick (by decide) (by decide)).bind ?_
  intro sortField isField
  refine (yields_any _).bind ?_
  intro ascending _
  apply yields_pure
  have fields : ((byStatus ++ byCategory ++ byCompleted).map Api.Filter.field).Sublist
      ["status", "category", "completed"] := by
    rw [List.map_append, List.map_append]
    exact (statusField.append categoryField).append completedField
  refine
    { isOf := ?_
      distinct := fields.nodup (by decide)
      few := ?_
      pageNumber := atMost
      pageSize := isSize
      sortField := isField }
  · intro filter isFilter
    rcases List.mem_append.mp isFilter with early | isFilter
    · rcases List.mem_append.mp early with isFilter | isFilter
      · exact ofStatus filter isFilter
      · exact ofCategory filter isFilter
    · exact ofCompleted filter isFilter
  · simpa using fields.length_le

/-- Whatever raw words a source gives, and however many of them its patience lets a draw refuse, a
row is one of the schema and tells its own index and status, and a search filters by distinct
columns of the schema. -/
theorem payloads_conform (source : Source) :
    (∀ index, IsRow index (row index source).1) ∧ IsSearch (search source).1 :=
  ⟨fun index => yields_row index source, yields_search source⟩

end Payload
end TenantLoad
