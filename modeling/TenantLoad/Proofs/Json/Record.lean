import TenantLoad.Json.Record
import Mathlib.Data.List.Forall2

/-!
# What is read of a record

A record gives its fields by name or by position.  `Gives` says which fields
these are, and the other relations say what a field is read as, so the shape of
a record can be told without the way in which it is read.
-/

namespace TenantLoad

/-- Reading item by item gives values side by side with the items. -/
theorem mapM_eq_some_iff
    {Item Value : Type}
    {read : Item → Option Value}
    {items : List Item}
    {values : List Value} :
    items.mapM read = some values ↔
      List.Forall₂ (fun item value => read item = some value) items values := by
  induction items generalizing values with
  | nil => simp [eq_comm]
  | cons item items inductionHypothesis =>
      simp only [List.mapM_cons, Option.bind_eq_bind, Option.bind_eq_some_iff, Option.pure_def,
        Option.some.injEq, inductionHypothesis, List.forall₂_cons_left_iff]
      constructor
      · rintro ⟨value, isRead, rest, others, rfl⟩
        exact ⟨value, rest, isRead, others, rfl⟩
      · rintro ⟨value, rest, isRead, others, rfl⟩
        exact ⟨value, isRead, rest, others, rfl⟩

namespace Json

/-! ## Members by name -/

section Members

variable {Data : Type}

/-- The member of a name is the first one that has it. -/
theorem lookup_eq_head?_filter
    (name : String)
    (members : List (String × Data)) :
    members.lookup name =
      ((members.filter fun member => member.1 == name).head?).map Prod.snd := by
  induction members with
  | nil => rfl
  | cons member members inductionHypothesis =>
      rw [List.lookup_cons, List.filter_cons, inductionHypothesis, BEq.comm]
      cases member.1 == name <;> rfl

theorem lookup_map_values
    {Value : Type}
    (convert : Data → Value)
    (name : String)
    (members : List (String × Data)) :
    (members.map fun member => (member.1, convert member.2)).lookup name =
      (members.lookup name).map convert := by
  induction members with
  | nil => rfl
  | cons member members inductionHypothesis =>
      rw [List.map_cons, List.lookup_cons, List.lookup_cons, inductionHypothesis]
      cases name == member.1 <;> rfl

theorem length_filter_map_values
    {Value : Type}
    (convert : Data → Value)
    (name : String)
    (members : List (String × Data)) :
    ((members.map fun member => (member.1, convert member.2)).filter
        fun member => member.1 == name).length =
      (members.filter fun member => member.1 == name).length := by
  rw [List.filter_map, List.length_map]
  rfl

/-- Members are picked by their names if no name occurs twice. -/
theorem pickMembers?_eq_some_iff
    {names : List String}
    {members : List (String × Data)}
    {fields : List (Option Data)} :
    pickMembers? names members = some fields ↔
      (∀ name ∈ names, (members.filter fun member => member.1 == name).length ≤ 1) ∧
        names.map (fun name => members.lookup name) = fields := by
  rw [pickMembers?, mapM_eq_some_iff, ← List.forall₂_eq_eq_eq, List.forall₂_map_left_iff,
    ← List.forall₂_and_left]
  refine iff_of_eq (congrArg (fun picks => List.Forall₂ picks names fields) ?_)
  funext name field
  rw [lookup_eq_head?_filter]
  generalize (members.filter fun member => member.1 == name) = found
  match found with
  | [] | [_] | _ :: _ :: _ => simp

/-- Members have names if all of them can be read. -/
theorem nameMembers?_eq_some_iff
    {members : List (Option String × Data)}
    {named : List (String × Data)} :
    Nested.nameMembers? members = some named ↔
      members = named.map fun member => (some member.1, member.2) := by
  have one : ∀ (member : Option String × Data) (known : String × Data),
      (member.1.map fun name => (name, member.2)) = some known ↔
        member = (some known.1, known.2) := by
    rintro ⟨name, value⟩ ⟨known, same⟩
    cases name <;> simp
  rw [Nested.nameMembers?, mapM_eq_some_iff]
  simp only [one]
  rw [← List.forall₂_eq_eq_eq, List.forall₂_map_right_iff]

end Members

/-! ## Records -/

/-- How a record gives its fields of some names. -/
inductive Gives (names : List String) : Nested → List (Option Nested) → Prop
  /-- By name: none of these names occurs twice, and members of other names do not
  matter. -/
  | byName
      (levels : Nat)
      (members : List (String × Written))
      (once : ∀ name ∈ names, (members.filter fun member => member.1 == name).length ≤ 1) :
      Gives names ⟨levels + 1, .object (members.map fun member => (some member.1, member.2))⟩
        (names.map fun name => (members.lookup name).map (Nested.mk levels))
  /-- By position: the last ones may be left out. -/
  | byPosition
      (levels : Nat)
      (items : List Written)
      (few : items.length ≤ names.length) :
      Gives names ⟨levels + 1, .list items⟩
        (items.map (fun item => some ⟨levels, item⟩) ++
          List.replicate (names.length - items.length) none)

variable {names : List String} {data : Nested} {fields : List (Option Nested)}

/-- The fields that are read are those that the record gives. -/
theorem fields?_eq_some_iff :
    Source.fields? names data = some fields ↔ Gives names data fields := by
  constructor
  · intro isRead
    match data with
    | ⟨levels + 1, .object members⟩ =>
        simp only [Source.fields?, Option.bind_eq_some_iff, nameMembers?_eq_some_iff,
          pickMembers?_eq_some_iff, lookup_map_values, length_filter_map_values] at isRead
        obtain ⟨named, rfl, once, rfl⟩ := isRead
        exact .byName levels named once
    | ⟨levels + 1, .list items⟩ =>
        simp only [Source.fields?, padItems?, List.length_map, List.map_map] at isRead
        split at isRead
        · rename_i few
          cases isRead
          exact .byPosition levels items few
        · cases isRead
    | ⟨0, _⟩ => cases isRead
    | ⟨_ + 1, .null⟩ | ⟨_ + 1, .boolean _⟩ | ⟨_ + 1, .number _⟩ | ⟨_ + 1, .text _⟩ => cases isRead
  · intro gives
    cases gives with
    | byName levels members once =>
        simp only [Source.fields?, Option.bind_eq_some_iff, nameMembers?_eq_some_iff,
          pickMembers?_eq_some_iff, lookup_map_values, length_filter_map_values]
        exact ⟨members, rfl, once, rfl⟩
    | byPosition levels items few =>
        simp only [Source.fields?, padItems?, List.length_map, List.map_map, if_pos few]
        rfl

/-- As many fields are given as there are names. -/
theorem Gives.length_eq
    (gives : Gives names data fields) :
    fields.length = names.length := by
  cases gives with
  | byName => exact List.length_map ..
  | byPosition levels items few =>
      rw [List.length_append, List.length_map, List.length_replicate]
      omega

/-- A record of two names gives two fields. -/
theorem Gives.exists_pair_iff
    {first second : String}
    {Holds : List (Option Nested) → Prop} :
    (∃ fields, Gives [first, second] data fields ∧ Holds fields) ↔
      ∃ one two, Gives [first, second] data [one, two] ∧ Holds [one, two] := by
  constructor
  · rintro ⟨fields, gives, holds⟩
    obtain ⟨one, two, rfl⟩ := List.length_eq_two.mp gives.length_eq
    exact ⟨one, two, gives, holds⟩
  · rintro ⟨one, two, gives, holds⟩
    exact ⟨_, gives, holds⟩

/-- A record of three names gives three fields. -/
theorem Gives.exists_triple_iff
    {first second third : String}
    {Holds : List (Option Nested) → Prop} :
    (∃ fields, Gives [first, second, third] data fields ∧ Holds fields) ↔
      ∃ one two three, Gives [first, second, third] data [one, two, three] ∧
        Holds [one, two, three] := by
  constructor
  · rintro ⟨fields, gives, holds⟩
    obtain ⟨one, two, three, rfl⟩ := List.length_eq_three.mp gives.length_eq
    exact ⟨one, two, three, gives, holds⟩
  · rintro ⟨one, two, three, gives, holds⟩
    exact ⟨_, gives, holds⟩

/-! ## Fields -/

/-- The data is a text. -/
def IsText (data : Nested) (text : String) : Prop := data.written = .text (some text)

/-- The data is a truth value. -/
def IsBoolean (data : Nested) (value : Bool) : Prop := data.written = .boolean value

/-- The data is a whole number within bounds. -/
def IsInteger (least most : Int) (data : Nested) (value : Int) : Prop :=
  data.written = .number (some (.integer value)) ∧ least ≤ value ∧ value ≤ most

/-- The data is a list, and so are the values that its items have. -/
def IsList (data : Nested) (values : List Json) : Prop :=
  ∃ levels items, data = ⟨levels + 1, .list items⟩ ∧
    List.Forall₂ (fun item value => Written.value? levels item = some value) items values

/-- A field that may be absent or null has a value or none. -/
inductive Optionally {Value : Type} (Holds : Nested → Value → Prop) :
    Option Nested → Option Value → Prop
  | absent : Optionally Holds none none
  | null (levels : Nat) : Optionally Holds (some ⟨levels, .null⟩) none
  | present
      {data : Nested}
      {value : Value}
      (notNull : data.written ≠ .null)
      (holds : Holds data value) :
      Optionally Holds (some data) (some value)

theorem text?_eq_some_iff
    {text : String} :
    Source.text? data = some text ↔ IsText data text := by
  obtain ⟨levels, written⟩ := data
  cases written <;> simp [Source.text?, IsText]

theorem boolean?_eq_some_iff
    {value : Bool} :
    Source.boolean? data = some value ↔ IsBoolean data value := by
  obtain ⟨levels, written⟩ := data
  cases written <;> simp [Source.boolean?, IsBoolean]

theorem integer?_eq_some_iff
    {least most value : Int} :
    Source.integer? least most data = some value ↔ IsInteger least most data value := by
  obtain ⟨levels, written⟩ := data
  unfold IsInteger
  match written with
  | .number (some (.integer own)) =>
      simp only [Source.integer?, Option.ite_none_right_eq_some, Option.some.injEq,
        Written.number.injEq, Number.integer.injEq]
      constructor
      · rintro ⟨within, rfl⟩
        exact ⟨rfl, within⟩
      · rintro ⟨rfl, within⟩
        exact ⟨within, rfl⟩
  | .number none | .number (some (.real _)) | .null | .boolean _ | .text _ | .list _ | .object _ =>
      simp [Source.integer?]

theorem list?_eq_some_iff
    {values : List Json} :
    Source.list? Nested.value? data = some values ↔ IsList data values := by
  simp only [Source.list?, Option.bind_eq_some_iff, mapM_eq_some_iff]
  constructor
  · rintro ⟨items, isList, areRead⟩
    match data with
    | ⟨levels + 1, .list own⟩ =>
        cases isList
        exact ⟨levels, own, rfl, List.forall₂_map_left_iff.mp areRead⟩
    | ⟨0, _⟩ | ⟨_ + 1, .null⟩ | ⟨_ + 1, .boolean _⟩ | ⟨_ + 1, .number _⟩ | ⟨_ + 1, .text _⟩
    | ⟨_ + 1, .object _⟩ => cases isList
  · rintro ⟨levels, items, rfl, areRead⟩
    exact ⟨_, rfl, List.forall₂_map_left_iff.mpr areRead⟩

theorem defaulted?_optional?_eq_some_iff
    {Value : Type}
    {read : Nested → Option Value}
    {field : Option Nested}
    {value : Option Value} :
    Source.defaulted? none (Source.optional? read) field = some value ↔
      Optionally (fun data value => read data = some value) field value := by
  match field with
  | none =>
      constructor
      · rintro ⟨⟩
        exact .absent
      · rintro ⟨⟩
        rfl
  | some ⟨levels, .null⟩ =>
      constructor
      · rintro ⟨⟩
        exact .null levels
      · intro optionally
        cases optionally with
        | null => rfl
        | present notNull => exact absurd rfl notNull
  | some ⟨levels, .boolean _⟩ | some ⟨levels, .number _⟩ | some ⟨levels, .text _⟩
  | some ⟨levels, .list _⟩ | some ⟨levels, .object _⟩ =>
      simp only [Source.defaulted?, Source.optional?, Source.present?, Option.bind_some,
        Option.map_eq_some_iff]
      constructor
      · rintro ⟨own, isRead, rfl⟩
        exact .present (by simp) isRead
      · intro optionally
        cases optionally with
        | present notNull isRead => exact ⟨_, isRead, rfl⟩

theorem defaulted?_list?_eq_some_iff
    {field : Option Nested}
    {values : List Json} :
    Source.defaulted? [] (Source.list? Nested.value?) field = some values ↔
      field = none ∧ values = [] ∨ ∃ listed, field = some listed ∧ IsList listed values := by
  cases field with
  | none => simp [Source.defaulted?, eq_comm]
  | some listed => simp [Source.defaulted?, list?_eq_some_iff]

end Json
end TenantLoad
