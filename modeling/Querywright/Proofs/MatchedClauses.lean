import Querywright.Proofs.PieceOwnership
import Querywright.Proofs.StatementPieces

/-! Clauses whose texts match their values. What stands for values brings as many placeholders as
values and leaves no quote open: raw SQL, function templates, patterns, recorded selects. Every
other text that a caller wrote leaves no quote open and brings no placeholder. -/
namespace Querywright
open Fragment Placeholder

structure Order.IsMatched (order : Order) : Prop where
  column : IsBare order.column
  direction : IsBare (order.direction.getD "")

/-- Limits are numbers; of anything else the text must be as harmless as theirs. -/
def Value.IsLimit : Value → Prop
  | .integer _ => True
  | other => IsBare other.plain

structure Clauses.WindowMatched (clauses : Clauses) : Prop where
  orders : ∀ order ∈ clauses.orders, order.IsMatched
  limit : ∀ value ∈ clauses.limit, value.IsLimit

structure Clauses.UpsertMatched (clauses : Clauses) : Prop where
  columns : ∀ column ∈ clauses.upsertColumns, IsBare column.plain
  insertId : ∀ column, clauses.insertIdColumn = some column → IsBare column.plain

mutual

def Expression.IsMatched : Expression → Prop
  | .base | .null | .literal _ | .timestamp .. => True
  | .function template arguments => (⟨template, arguments⟩ : Fragment).IsWhole
  | .patterned pattern value =>
    ∀ column text, IsBare column → Pattern.fill pattern column = .ok text →
      (⟨text, [value]⟩ : Fragment).IsWhole
  | .condition condition => condition.IsMatched
  | .order order => order.IsMatched
  | .subquery subquery => subquery.IsMatched

def Expression.AllMatched : List Expression → Prop
  | [] => True
  | expression :: rest => expression.IsMatched ∧ Expression.AllMatched rest

def Value.OperandsMatched : List Value → Prop
  | [] => True
  | .expression inner :: rest => inner.IsMatched ∧ Value.OperandsMatched rest
  | _ :: rest => Value.OperandsMatched rest

/-- A loose condition has no values behind the operands that its operator takes. -/
def ConditionBody.IsMatched : ConditionBody → Prop
  | .raw text arguments => (⟨text, arguments⟩ : Fragment).IsWhole
  | .comparison column operator operand => IsBare column ∧ IsBare operator ∧ operand.IsMatched
  | .range column _ low high => IsBare column ∧ low.IsMatched ∧ high.IsMatched
  | .membership column _ operands => IsBare column ∧ Expression.AllMatched operands
  | .existence _ subquery => subquery.IsMatched
  | .loose .raw text arguments .. => (⟨text, arguments⟩ : Fragment).IsWhole
  | .loose .existence _ _ _ operator operands =>
    IsBare operator ∧ Value.OperandsMatched operands ∧ (unwrittenPiece operands.tail).IsWhole
  | .loose .column _ _ column operator operands =>
    IsBare column ∧ IsBare operator ∧ Value.OperandsMatched operands ∧
      (isRangeOperator operator ∨ isMembershipOperator operator ∨
        (unwrittenPiece operands.tail).IsWhole)

def Condition.IsMatched : Condition → Prop
  | ⟨_, body⟩ => body.IsMatched

def Condition.AllMatched : List Condition → Prop
  | [] => True
  | condition :: rest => condition.IsMatched ∧ Condition.AllMatched rest

def JoinTarget.IsMatched : JoinTarget → Prop
  | .table name => IsBare name
  | .derived subquery => subquery.IsMatched ∧ IsBare (subquery.derivedName.getD "None")

def Join.IsMatched : Join → Prop
  | ⟨_, target, condition, conditions⟩ =>
    target.IsMatched ∧ IsBare condition ∧ Condition.AllMatched conditions

def Join.AllMatched : List Join → Prop
  | [] => True
  | join :: rest => join.IsMatched ∧ Join.AllMatched rest

def Value.TableMatched : Value → Prop
  | .text name => IsBare name
  | .expression (.subquery subquery) =>
    subquery.IsMatched ∧ IsBare (subquery.derivedName.getD "None")
  | _ => True

def Value.TablesMatched : List Value → Prop
  | [] => True
  | table :: rest => table.TableMatched ∧ Value.TablesMatched rest

def Clauses.SourcesMatched : Clauses → Prop
  | ⟨tables, conditions, groupConditions, joins, _, groups, _, _, _, _, _⟩ =>
    Value.TablesMatched tables ∧ Join.AllMatched joins ∧ Condition.AllMatched conditions ∧
      (∀ name, Value.text name ∈ groups → IsBare name) ∧ Condition.AllMatched groupConditions

def Subquery.IsMatched : Subquery → Prop
  | ⟨_, _, _, some (text, arguments)⟩ => (⟨text, arguments⟩ : Fragment).IsWhole
  | ⟨clauses, _, _, none⟩ => clauses.SourcesMatched ∧ clauses.WindowMatched

end

structure Clauses.IsMatched (clauses : Clauses) : Prop where
  sources : clauses.SourcesMatched
  window : clauses.WindowMatched
  upsert : clauses.UpsertMatched

def Value.ColumnMatched : Value → Prop
  | .text name => IsBare name
  | .expression inner => inner.IsMatched
  | _ => True

def Value.PayloadMatched : Value → Prop
  | .mapping entries => ∀ entry ∈ entries,
    (∀ name, entry.1 = .text name → IsBare name) ∧ entry.2.asExpression.IsMatched
  | _ => True

/-- What a statement takes besides the clauses matches as well. -/
def Rendering.IsMatched : Rendering → Prop
  | .select columns | .counting columns => ∀ column ∈ columns, column.ColumnMatched
  | .insert keyword rows => IsBare keyword ∧ ∀ row ∈ rows, row.PayloadMatched
  | .update data => data.PayloadMatched
  | .delete => True
  | .written text arguments => (⟨text, arguments⟩ : Fragment).IsWhole

end Querywright
