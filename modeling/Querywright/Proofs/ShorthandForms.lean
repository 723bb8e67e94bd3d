import Querywright.Proofs.ConditionForms
import Querywright.Proofs.OperatorSpelling

/-! Short forms of a condition beside the long ones: a lone value stands for equality, and behind an
operator that takes several values one row of them stands for the values themselves. -/
namespace Querywright

/-- A single collection, which behind the operator would itself be taken for the values. -/
def IsLoneCollection (values : List Value) : Prop :=
  ∃ value items, values = [value] ∧ value.collectedItems? = some items

section Spreading

variable {items : List Value} {row value : Value}

theorem spreadRow_row (isRow : row.rowItems? = some items) : spreadRow [row] = items := by
  rw [spreadRow_single, isRow, Option.getD_some]

theorem spreadCollection_collection (holds : value.collectedItems? = some items) :
    spreadCollection [value] = items := by
  rw [spreadCollection_single, holds, Option.getD_some]

theorem collectedItems?_row (isRow : row.rowItems? = some items) :
    row.collectedItems? = some items := by
  cases row <;> cases isRow <;> rfl

theorem spreadCollection_apart (apart : ¬ IsLoneCollection items) :
    spreadCollection items = items := by
  match items with
  | [] => rfl
  | [value] =>
    rw [spreadCollection_single]
    cases holds : value.collectedItems? with
    | some inner => exact absurd ⟨value, inner, rfl, holds⟩ apart
    | none => rfl
  | first :: second :: rest => exact spreadCollection_several first second rest

theorem sizeOf_of_asExpression {value other : Value} (bound : value.asExpression = .literal other) :
    sizeOf other ≤ sizeOf value := by
  cases value with
  | null => cases bound
  | expression inner =>
    cases bound
    rw [Value.expression.sizeOf_spec, Expression.literal.sizeOf_spec]
    omega
  | _ =>
    cases bound
    exact Nat.le_refl _

theorem sizeOf_of_collection (holds : value.collectedItems? = some items) :
    sizeOf items < sizeOf value := by
  cases value <;> cases holds <;> simp

end Spreading

theorem keyword_equals : Text.keyword "=" = "=" := by
  decide +kernel

namespace ConditionBody

variable {column operator keyword : String} {values items : List Value} {row : Value} {negated : Bool}

theorem build_named (named : Text.isBlankText column = false) (rest : List Value) :
    build (.text column :: rest) = columnOf column rest := by
  rw [build, named, if_neg Bool.false_ne_true]

theorem columnOf_lone (bare : Placeholder.count column = 0) (value : Value) :
    columnOf column [value] = .ok (.comparison column "=" value.asExpression) := by
  simp only [columnOf, bare, Nat.lt_irrefl, if_false]

/-- An operator of which a keyword is left is applied to the values behind it. -/
theorem columnOf_keyword (bare : Placeholder.count column = 0)
    (known : Text.keyword operator = keyword) (some : keyword ≠ "") (given : values ≠ []) :
    columnOf column (.text operator :: values) = operatorOf column operator values := by
  rw [columnOf_operator bare given, Text.unblank_of_keyword known some,
    if_neg Bool.false_ne_true]

theorem operatorOf_equals (value : Value) :
    operatorOf column "=" [value] = .ok (.comparison column "=" value.asExpression) := by
  rw [operatorOf_lone (by rw [keyword_equals]; rfl) (by rw [keyword_equals]; rfl), keyword_equals]

theorem membershipOf_spread (taken : spreadCollection values = items) (some : items ≠ []) :
    membershipOf column negated values =
      .ok (.membership column negated (items.map Value.asExpression)) := by
  rw [membershipOf, taken]
  cases items with
  | nil => exact absurd rfl some
  | cons first rest => rfl

theorem rangeOf_row (isRow : row.rowItems? = some items) (several : 2 ≤ items.length) :
    rangeOf column negated [row] = rangeOf column negated items := by
  match items with
  | first :: second :: rest => rw [rangeOf, rangeOf, spreadRow_row isRow, spreadRow_several]

theorem rangeOf_outcome (column : String) (negated : Bool) (items : List Value) :
    (∃ body, rangeOf column negated items = .ok body) ∨
      ∃ reason, rangeOf column negated items = .error reason ∧ reason.family = .invalidBetween := by
  rw [rangeOf]
  split
  · exact .inl ⟨_, rfl⟩
  · exact .inr ⟨_, rfl, rfl⟩

/-- A single collection is spread where it stands for the values, and bound where it is one of them. -/
theorem membershipOf_collection (lone : IsLoneCollection items) :
    membershipOf column negated items ≠
      .ok (.membership column negated (items.map Value.asExpression)) := by
  obtain ⟨value, inner, rfl, holds⟩ := lone
  rw [membershipOf, spreadCollection_collection holds]
  have bound : value.asExpression = .literal value := by
    cases value <;> first | rfl | cases holds
  intro same
  cases inner with
  | nil => cases same
  | cons first rest =>
    have operands := (ConditionBody.membership.inj (Except.ok.inj same)).2.2
    rw [List.map_cons, List.map_cons, bound, List.cons.injEq] at operands
    have above := sizeOf_of_asExpression operands.1
    have below := sizeOf_of_collection holds
    rw [List.cons.sizeOf_spec] at below
    omega

theorem membershipOf_row_iff (isRow : row.rowItems? = some items) (some : items ≠ []) :
    (∃ body, membershipOf column negated [row] = .ok body ∧
      membershipOf column negated items = .ok body) ↔ ¬ IsLoneCollection items := by
  rw [membershipOf_spread (spreadCollection_collection (collectedItems?_row isRow)) some]
  constructor
  · rintro ⟨body, short, long⟩ lone
    cases short
    exact membershipOf_collection lone long
  · intro apart
    exact ⟨_, rfl, membershipOf_spread (spreadCollection_apart apart) some⟩

end ConditionBody

/-- Behind a column an operator of which a keyword is left is applied to the values. -/
theorem Condition.build_keyword (connector : Connector) {column operator keyword : String}
    (values : List Value) (named : Text.isBlankText column = false)
    (bare : Placeholder.count column = 0) (known : Text.keyword operator = keyword)
    (some : keyword ≠ "") (given : values ≠ []) :
    Condition.build connector (.text column :: .text operator :: values) =
      (ConditionBody.operatorOf column operator values).map (Condition.mk connector) := by
  rw [Condition.build, ConditionBody.build_named named,
    ConditionBody.columnOf_keyword bare known some given]

theorem Condition.built_alike_iff (connector : Connector) (first second : Except Error ConditionBody) :
    (∃ condition, first.map (Condition.mk connector) = .ok condition ∧
      second.map (Condition.mk connector) = .ok condition) ↔
        ∃ body, first = .ok body ∧ second = .ok body := by
  constructor
  · rintro ⟨condition, one, other⟩
    obtain ⟨body, built, rfl⟩ := map_success one
    obtain ⟨besides, rebuilt, same⟩ := map_success other
    exact ⟨body, built, (Condition.mk.inj same).2 ▸ rebuilt⟩
  · rintro ⟨body, rfl, rfl⟩
    exact ⟨_, rfl, rfl⟩

theorem membershipOperator_ne_empty (negated : Bool) : membershipOperator negated ≠ "" := by
  cases negated <;> decide

theorem rangeOperator_ne_empty (negated : Bool) : rangeOperator negated ≠ "" := by
  cases negated <;> decide

/-- The short forms of a condition are built like the long ones. A row that stands for the values of
a membership is taken like them unless it has a single collection in it, which behind the operator
would be taken for the row. -/
theorem shorthand_forms (connector : Connector) (column : String)
    (named : Text.isBlankText column = false) (bare : Placeholder.count column = 0) :
    (∀ value, ∃ condition,
      Condition.build connector [.text column, value] = .ok condition ∧
      Condition.build connector [.text column, .text "=", value] = .ok condition) ∧
    (∀ operator negated items row, Text.keyword operator = membershipOperator negated →
      items ≠ [] → row.rowItems? = some items →
      ((∃ condition,
        Condition.build connector [.text column, .text operator, row] = .ok condition ∧
        Condition.build connector (.text column :: .text operator :: items) = .ok condition) ↔
          ¬ IsLoneCollection items)) ∧
    ∀ operator negated items row, Text.keyword operator = rangeOperator negated →
      2 ≤ items.length → row.rowItems? = some items →
      (∃ condition,
        Condition.build connector [.text column, .text operator, row] = .ok condition ∧
        Condition.build connector (.text column :: .text operator :: items) = .ok condition) ∨
      ∃ reason, reason.family = .invalidBetween ∧
        Condition.build connector [.text column, .text operator, row] = .error reason ∧
        Condition.build connector (.text column :: .text operator :: items) = .error reason := by
  refine ⟨fun value => ?_, ?_, ?_⟩
  · rw [Condition.build_keyword connector _ named bare keyword_equals (by decide) (by simp),
      Condition.build, ConditionBody.build_named named, ConditionBody.columnOf_lone bare,
      ConditionBody.operatorOf_equals]
    exact ⟨_, rfl, rfl⟩
  · intro operator negated items row known some isRow
    have applied (values : List Value) := Condition.build_keyword connector values named bare known
      (membershipOperator_ne_empty negated)
    rw [applied _ (by simp), applied _ some, ConditionBody.operatorOf_membership known,
      ConditionBody.operatorOf_membership known, Condition.built_alike_iff]
    exact ConditionBody.membershipOf_row_iff isRow some
  · intro operator negated items row known several isRow
    have some : items ≠ [] := by
      rintro rfl
      cases several
    have applied (values : List Value) := Condition.build_keyword connector values named bare known
      (rangeOperator_ne_empty negated)
    rw [applied _ (by simp), applied _ some, ConditionBody.operatorOf_range known,
      ConditionBody.operatorOf_range known, ConditionBody.rangeOf_row isRow several]
    rcases ConditionBody.rangeOf_outcome column negated items with
      ⟨body, built⟩ | ⟨reason, failed, family⟩
    · rw [built]
      exact .inl ⟨_, rfl, rfl⟩
    · rw [failed]
      exact .inr ⟨reason, family, rfl, rfl⟩

theorem age_forms :
    (∃ condition,
      Condition.build .either [.text "Age", .null] = .ok condition ∧
      Condition.build .either [.text "Age", .text "=", .null] = .ok condition) ∧
    (∃ condition,
      Condition.build .either [.text "Age", .text " not\tin", .tuple [.integer 1, .null]] =
        .ok condition ∧
      Condition.build .either [.text "Age", .text " not\tin", .integer 1, .null] =
        .ok condition) ∧
    ((∃ condition,
      Condition.build .either [.text "Age", .text "Between", .list [.integer 1, .integer 2]] =
        .ok condition ∧
      Condition.build .either [.text "Age", .text "Between", .integer 1, .integer 2] =
        .ok condition) ∨
    ∃ reason, reason.family = .invalidBetween ∧
      Condition.build .either [.text "Age", .text "Between", .list [.integer 1, .integer 2]] =
        .error reason ∧
      Condition.build .either [.text "Age", .text "Between", .integer 1, .integer 2] =
        .error reason) := by
  obtain ⟨lone, membership, range⟩ :=
    shorthand_forms .either "Age" (by decide +kernel) (by decide +kernel)
  refine ⟨lone .null, (membership " not\tin" true _ (.tuple _) (by decide +kernel) (by simp) rfl).mpr ?_,
    range "Between" false _ (.list _) (by decide +kernel) (by simp) rfl⟩
  rintro ⟨value, items, single, -⟩
  cases single

end Querywright
