import Querywright.Proofs.FailureFamilies
import Querywright.Expression.Rendering
import Querywright.Value.Shared

/-! Calls with open places. Where a value is bound, a text stands for a place that is open, at any
depth; filling the open places puts a scalar for each of them and leaves all else as it is, texts
that name something in the statement included. -/
namespace Querywright

/-- Whether a value is bound as one and holds no others to be looked at. -/
def Value.isScalar : Value → Bool
  | .null | .expression _ | .list _ | .tuple _ | .set .. | .shared _ => false
  | _ => true

/-- A scalar for every open place, mentioning no shared one. -/
structure Filling where
  fill : String → Value
  scalar : ∀ name, (fill name).isScalar
  settled : ∀ contents name, (fill name).settle contents = fill name

/-- Every place filled with its own name. -/
instance : Inhabited Filling :=
  ⟨.text, fun _ => rfl, fun _ _ => rfl⟩

mutual

/-- In a value that is not bound where it stands, only what its expressions bind is filled. -/
def Value.filled (filling : Filling) (isBound : Bool) : Value → Value
  | .list items => .list (Value.fillAll filling isBound items)
  | .tuple items => .tuple (Value.fillAll filling isBound items)
  | .set frozen items => .set frozen (Value.fillAll filling isBound items)
  | .mapping entries => .mapping (Value.fillEntries filling isBound entries)
  | .record name fields => .record name (Value.fillFields filling isBound fields)
  | .holder content => .holder (content.filled filling isBound)
  | .expression inner => .expression (inner.filled filling)
  | .text name => if isBound then filling.fill name else .text name
  | value => value
termination_by structural item => item

def Value.fillAll (filling : Filling) (isBound : Bool) : List Value → List Value
  | [] => []
  | value :: rest => value.filled filling isBound :: Value.fillAll filling isBound rest
termination_by structural item => item

def Value.fillEntries (filling : Filling) (isBound : Bool) :
    List (Value × Value) → List (Value × Value)
  | [] => []
  | (key, value) :: rest =>
    (key.filled filling false, value.filled filling isBound) ::
      Value.fillEntries filling isBound rest
termination_by structural item => item

def Value.fillFields (filling : Filling) (isBound : Bool) :
    List (String × Value) → List (String × Value)
  | [] => []
  | (name, value) :: rest =>
    (name, value.filled filling isBound) :: Value.fillFields filling isBound rest
termination_by structural item => item

def Expression.filled (filling : Filling) : Expression → Expression
  | .base => .base
  | .null => .null
  | .literal value => .literal (value.filled filling true)
  | .function template arguments => .function template (Value.fillAll filling true arguments)
  | .timestamp part value => .timestamp part (value.filled filling true)
  | .patterned pattern value => .patterned pattern (value.filled filling true)
  | .condition condition => .condition (condition.filled filling)
  | .order order => .order (order.filled filling)
  | .subquery subquery => .subquery (subquery.filled filling)
termination_by structural item => item

def Expression.fillAll (filling : Filling) : List Expression → List Expression
  | [] => []
  | expression :: rest => expression.filled filling :: Expression.fillAll filling rest
termination_by structural item => item

def ConditionBody.filled (filling : Filling) : ConditionBody → ConditionBody
  | .raw text arguments => .raw text (Value.fillAll filling true arguments)
  | .comparison column operator operand => .comparison column operator (operand.filled filling)
  | .range column negated low high =>
    .range column negated (low.filled filling) (high.filled filling)
  | .membership column negated operands =>
    .membership column negated (Expression.fillAll filling operands)
  | .existence negated subquery => .existence negated (subquery.filled filling)
  | .loose form text rawArguments column operator operands =>
    .loose form text (Value.fillAll filling true rawArguments) column operator
      (Value.fillAll filling false operands)
termination_by structural item => item

def Condition.filled (filling : Filling) : Condition → Condition
  | ⟨connector, body⟩ => ⟨connector, body.filled filling⟩
termination_by structural item => item

def Condition.fillAll (filling : Filling) : List Condition → List Condition
  | [] => []
  | condition :: rest => condition.filled filling :: Condition.fillAll filling rest
termination_by structural item => item

def Order.filled (filling : Filling) : Order → Order
  | ⟨column, direction, ranking⟩ => ⟨column, direction, Value.fillAll filling true ranking⟩
termination_by structural item => item

def Order.fillAll (filling : Filling) : List Order → List Order
  | [] => []
  | order :: rest => order.filled filling :: Order.fillAll filling rest
termination_by structural item => item

def JoinTarget.filled (filling : Filling) : JoinTarget → JoinTarget
  | .table name => .table name
  | .derived subquery => .derived (subquery.filled filling)
termination_by structural item => item

def Join.filled (filling : Filling) : Join → Join
  | ⟨direction, target, condition, conditions⟩ =>
    ⟨direction, target.filled filling, condition, Condition.fillAll filling conditions⟩
termination_by structural item => item

def Join.fillAll (filling : Filling) : List Join → List Join
  | [] => []
  | join :: rest => join.filled filling :: Join.fillAll filling rest
termination_by structural item => item

/-- Limits, options and the columns of an upsert are written as they are. -/
def Clauses.filled (filling : Filling) : Clauses → Clauses
  | ⟨tables, conditions, groupConditions, joins, orders, groups, limit, options, upsertColumns,
      insertIdColumn, totalRequested⟩ =>
    ⟨Value.fillAll filling false tables, Condition.fillAll filling conditions,
      Condition.fillAll filling groupConditions, Join.fillAll filling joins,
      Order.fillAll filling orders, Value.fillAll filling false groups, limit, options,
      upsertColumns, insertIdColumn, totalRequested⟩
termination_by structural item => item

def Subquery.filled (filling : Filling) : Subquery → Subquery
  | ⟨clauses, pageLimit, derivedName, some (text, arguments)⟩ =>
    ⟨clauses.filled filling, pageLimit, derivedName,
      some (text, Value.fillAll filling true arguments)⟩
  | ⟨clauses, pageLimit, derivedName, none⟩ =>
    ⟨clauses.filled filling, pageLimit, derivedName, none⟩
termination_by structural item => item

end

def Value.isMapping : Value → Bool
  | .mapping _ => true
  | _ => false

/-- A row to write: what stands under its columns is bound. -/
def Value.rowFilled (filling : Filling) (row : Value) : Value :=
  row.filled filling row.isMapping

def Fragment.filled (filling : Filling) (fragment : Fragment) : Fragment :=
  ⟨fragment.text, Value.fillAll filling true fragment.arguments⟩

section

variable (filling : Filling)

@[simp] theorem Value.fillAll_eq_map (isBound : Bool) (items : List Value) :
    Value.fillAll filling isBound items = items.map (Value.filled filling isBound) := by
  induction items with
  | nil => rfl
  | cons item rest ih => rw [Value.fillAll, ih, List.map_cons]

@[simp] theorem Value.fillEntries_eq_map (isBound : Bool) (entries : List (Value × Value)) :
    Value.fillEntries filling isBound entries = entries.map fun (key, value) =>
      (key.filled filling false, value.filled filling isBound) := by
  induction entries with
  | nil => rfl
  | cons entry rest ih => rw [Value.fillEntries, ih, List.map_cons]

@[simp] theorem Value.fillFields_eq_map (isBound : Bool) (fields : List (String × Value)) :
    Value.fillFields filling isBound fields =
      fields.map fun (name, value) => (name, value.filled filling isBound) := by
  induction fields with
  | nil => rfl
  | cons field rest ih => rw [Value.fillFields, ih, List.map_cons]

@[simp] theorem Expression.fillAll_eq_map (items : List Expression) :
    Expression.fillAll filling items = items.map (Expression.filled filling) := by
  induction items with
  | nil => rfl
  | cons item rest ih => rw [Expression.fillAll, ih, List.map_cons]

@[simp] theorem Condition.fillAll_eq_map (items : List Condition) :
    Condition.fillAll filling items = items.map (Condition.filled filling) := by
  induction items with
  | nil => rfl
  | cons item rest ih => rw [Condition.fillAll, ih, List.map_cons]

@[simp] theorem Order.fillAll_eq_map (items : List Order) :
    Order.fillAll filling items = items.map (Order.filled filling) := by
  induction items with
  | nil => rfl
  | cons item rest ih => rw [Order.fillAll, ih, List.map_cons]

@[simp] theorem Join.fillAll_eq_map (items : List Join) :
    Join.fillAll filling items = items.map (Join.filled filling) := by
  induction items with
  | nil => rfl
  | cons item rest ih => rw [Join.fillAll, ih, List.map_cons]

theorem Clauses.fill_eq (clauses : Clauses) :
    clauses.filled filling = { clauses with
      tables := clauses.tables.map (Value.filled filling false)
      conditions := clauses.conditions.map (Condition.filled filling)
      groupConditions := clauses.groupConditions.map (Condition.filled filling)
      joins := clauses.joins.map (Join.filled filling)
      orders := clauses.orders.map (Order.filled filling)
      groups := clauses.groups.map (Value.filled filling false) } := by
  cases clauses
  simp [Clauses.filled]

@[simp] theorem Condition.connector_fill (condition : Condition) :
    (condition.filled filling).connector = condition.connector := by
  cases condition
  rfl

@[simp] theorem Subquery.derivedName_fill (subquery : Subquery) :
    (subquery.filled filling).derivedName = subquery.derivedName := by
  obtain ⟨clauses, pageLimit, derivedName, recorded⟩ := subquery
  cases recorded <;> rfl

@[simp] theorem JoinTarget.key_fill (target : JoinTarget) :
    (target.filled filling).key = target.key := by
  cases target with
  | table name => rfl
  | derived subquery => exact subquery.derivedName_fill filling

@[simp] theorem Join.key_fill (join : Join) :
    (join.filled filling).target.key = join.target.key := by
  cases join
  exact JoinTarget.key_fill filling _

theorem Value.asExpression_of_scalar (value : Value) (scalar : value.isScalar) :
    value.asExpression = .literal value := by
  cases value with
  | null | expression _ => cases scalar
  | _ => rfl

theorem Value.asExpression_fill (value : Value) :
    (value.filled filling true).asExpression = value.asExpression.filled filling := by
  cases value with
  | text name => exact Value.asExpression_of_scalar _ (filling.scalar name)
  | _ => rfl

/-! A value that is not bound looks the same to whatever asks for a text, a kind or a table. -/

variable (value : Value)

@[simp] theorem Value.asText?_fill : (value.filled filling false).asText? = value.asText? := by
  cases value <;> rfl

@[simp] theorem Value.asExpression?_fill : (value.filled filling false).asExpression? =
    value.asExpression?.map (Expression.filled filling) := by
  cases value <;> rfl

@[simp] theorem Value.asSubquery?_fill : (value.filled filling false).asSubquery? =
    value.asSubquery?.map (Subquery.filled filling) := by
  cases value with
  | expression inner => cases inner <;> rfl
  | _ => rfl

@[simp] theorem isTableName_fill : isTableName (value.filled filling false) = isTableName value := by
  cases value <;> rfl

@[simp] theorem isDerivedTable_fill :
    isDerivedTable (value.filled filling false) = isDerivedTable value := by
  cases value with
  | expression inner =>
    cases inner with
    | subquery subquery => simp [Value.filled, Expression.filled, isDerivedTable]
    | _ => rfl
  | _ => rfl

end
end Querywright
