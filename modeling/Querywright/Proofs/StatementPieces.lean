import Querywright.Statement
import Querywright.Proofs.FragmentPieces

/-! The pieces of everything that can be written. A value belongs to the piece it was supplied
with: raw SQL, a function call, an ordering term, a comparison of a moment, a recorded select, or
a mark of its own where a plain value is bound. All that stands between is a piece without
values, and values that nothing is written for are a piece without text. -/
namespace Querywright
open Fragment

/-- A bound value and its mark. -/
def boundPiece (value : Value) : Fragment :=
  ⟨"?", [value]⟩

def Expression.aroundPieces (column : String) : Expression → List Fragment
  | .timestamp part value => [⟨part.render column, [value]⟩]
  | .patterned pattern value =>
    match Pattern.fill pattern column with
    | .ok text => [⟨text, [value]⟩]
    | .error _ => []
  | _ => []

def loneAroundPieces (column : String) : List Expression → List Fragment
  | [operand] => operand.aroundPieces column
  | _ => []

/-- Values of operands that nothing is written for. -/
def unwrittenPiece (operands : List Value) : Fragment :=
  ⟨"", (Value.valuesOfOperands operands).toOption.getD []⟩

def ledRows (keyword : String) (rows : List (List Fragment)) : List (List Fragment) :=
  match rows with
  | [] => []
  | present => [plain (keyword ++ " ") :: separated " " present]

def groupRows (groups : List Value) : List (List Fragment) :=
  if groups.isEmpty then []
  else [[plain ("GROUP BY " ++ ", ".intercalate (groups.filterMap Value.asText?))]]

def Clauses.tableNames (clauses : Clauses) : List String :=
  clauses.tables.filterMap Value.asText?

theorem text_of_writes (clauses : Clauses) (accepted : clauses.requireTable true = .ok ())
    (table : Value) (member : table ∈ clauses.tables) : ∃ name, table = .text name := by
  unfold Clauses.requireTable at accepted
  split at accepted
  · cases accepted
  · split at accepted
    · rename_i none
      simp only [List.find?_eq_none, Bool.not_eq_true', Bool.not_eq_false, Bool.not_true,
        Bool.false_and, Bool.or_false] at none
      have named := none table member
      cases table with
      | text name => exact ⟨name, rfl⟩
      | _ => simp [isTableName] at named
    · cases accepted

def Clauses.windowRows (clauses : Clauses) : List (List Fragment) :=
  (match clauses.orders with
    | [] => []
    | present => [plain "ORDER BY " :: separated ", " (present.map fun order => [order.fragment])]) ++
  (limitFragments clauses.limit).map fun fragment => [fragment]

def wordRows (words : List String) : List (List Fragment) :=
  words.map fun word => [plain word]

def Clauses.endingRows (clauses : Clauses) : List (List Fragment) :=
  clauses.windowRows ++ wordRows clauses.trailing

def selectPieces (options : List String) (columns sources : List Fragment)
    (ending : List (List Fragment)) : List Fragment :=
  separated " " (wordRows ("SELECT" :: options) ++ columns :: sources :: ending)

/-- What is asked of a join, in brackets, or nothing. -/
def matchingPieces (condition : String) (firstRows laterRows : List (List Fragment)) :
    List Fragment :=
  let inner := separated " " (if condition.isEmpty then firstRows
    else [plain condition] :: laterRows)
  if (ofPieces inner).text.isEmpty then inner else plain " ON (" :: inner ++ [plain ")"]

mutual

def Expression.pieces : Expression → List Fragment
  | .base | .timestamp .. | .patterned .. => []
  | .null => [plain "NULL"]
  | .literal value => [boundPiece value]
  | .function template arguments => [⟨template, arguments⟩]
  | .condition condition => condition.pieces
  | .order order => [order.fragment]
  | .subquery subquery => plain "(" :: subquery.pieces ++ [plain ")"]

def Expression.rows : List Expression → List (List Fragment)
  | [] => []
  | expression :: rest => expression.pieces :: Expression.rows rest

def Value.operandPieces : Value → List Fragment
  | .expression inner => inner.pieces
  | _ => []

def Value.operandRows : List Value → List (List Fragment)
  | [] => []
  | operand :: rest => operand.operandPieces :: Value.operandRows rest

def Value.firstOperandPieces : List Value → List Fragment
  | [] => []
  | operand :: rest => operand.operandPieces ++ [unwrittenPiece rest]

def ConditionBody.pieces : ConditionBody → List Fragment
  | .raw text arguments => [⟨text, arguments⟩]
  | .comparison column operator operand =>
    if operand.around?.isSome then operand.aroundPieces column
    else plain (column ++ " " ++ operator ++ " ") :: operand.pieces
  | .range column negated low high =>
    plain (column ++ " " ++ rangeOperator negated ++ " ") ::
      low.pieces ++ plain " AND " :: high.pieces
  | .membership column negated operands =>
    if (loneAround? operands).isSome then loneAroundPieces column operands
    else plain (column ++ " " ++ membershipOperator negated ++ " ") ::
      (if isLoneSubquery operands then separated ", " (Expression.rows operands)
        else plain "(" :: separated ", " (Expression.rows operands) ++ [plain ")"])
  | .existence negated subquery =>
    plain (existenceOperator negated ++ " (") :: subquery.pieces ++ [plain ")"]
  | .loose .raw text arguments .. => [⟨text, arguments⟩]
  | .loose .existence _ _ _ operator operands =>
    plain (operator ++ " ") :: Value.firstOperandPieces operands
  | .loose .column _ _ column operator operands =>
    let expressions := operands.filterMap Value.asExpression?
    if (loneAround? expressions).isSome && operands.length == 1
    then loneAroundPieces column expressions
    else plain (column ++ " " ++ operator ++ " ") ::
      (if isRangeOperator operator then separated " AND " (Value.operandRows operands)
      else if isMembershipOperator operator then
        (if isLoneSubquery expressions && operands.length == 1
          then separated ", " (Value.operandRows operands)
          else plain "(" :: separated ", " (Value.operandRows operands) ++ [plain ")"])
      else Value.firstOperandPieces operands)

def Condition.pieces : Condition → List Fragment
  | ⟨_, body⟩ => body.pieces

def Condition.rows (isFirst : Bool) : List Condition → List (List Fragment)
  | [] => []
  | condition :: rest =>
    (if isFirst then condition.pieces
      else plain (condition.connector.text ++ " ") :: condition.pieces) ::
      Condition.rows false rest

def JoinTarget.pieces : JoinTarget → List Fragment
  | .table name => [plain name]
  | .derived subquery =>
    plain "(" :: subquery.pieces ++ [plain (") AS " ++ subquery.derivedName.getD "None")]

def Join.pieces : Join → List Fragment
  | ⟨direction, target, condition, conditions⟩ =>
    plain (direction.text ++ " JOIN ") :: target.pieces ++
      matchingPieces condition (Condition.rows true conditions) (Condition.rows false conditions)

def Join.rows : List Join → List (List Fragment)
  | [] => []
  | join :: rest => join.pieces :: Join.rows rest

def Value.tablePieces : Value → List Fragment
  | .text name => [plain name]
  | .expression (.subquery subquery) =>
    plain "(" :: subquery.pieces ++ [plain (") AS " ++ subquery.derivedName.getD "None")]
  | _ => []

def Value.tableRows : List Value → List (List Fragment)
  | [] => []
  | table :: rest => table.tablePieces :: Value.tableRows rest

def Clauses.sourcePieces : Clauses → List Fragment
  | ⟨tables, conditions, groupConditions, joins, _, groups, _, _, _, _, _⟩ =>
    separated " " ((plain "FROM " :: separated ", " (Value.tableRows tables)) ::
      Join.rows joins ++ ledRows "WHERE" (Condition.rows true conditions) ++ groupRows groups ++
      ledRows "HAVING" (Condition.rows true groupConditions))

def Subquery.pieces : Subquery → List Fragment
  | ⟨_, _, _, some (text, arguments)⟩ => [⟨text, arguments⟩]
  | ⟨clauses, _, _, none⟩ =>
    selectPieces clauses.leading [plain "*"] clauses.sourcePieces clauses.endingRows

end

/-- The statements that clauses can be written as, and a text that a caller wrote out. -/
inductive Rendering where
  | select (columns : List Value)
  | counting (columns : List Value)
  | insert (keyword : String) (rows : List Value)
  | update (data : Value)
  | delete
  | written (text : String) (arguments : List Value)

namespace Rendering

def render (rendering : Rendering) (clauses : Clauses) : Except Error Fragment :=
  match rendering with
  | .select columns => clauses.select columns
  | .counting columns => clauses.selectCounting columns
  | .insert keyword rows => clauses.insert keyword rows
  | .update data => clauses.update data
  | .delete => clauses.delete
  | .written text arguments => .ok ⟨text, arguments⟩

def columnPieces (column : Value) : List Fragment :=
  match column with
  | .expression inner => inner.pieces
  | .text name => [plain name]
  | _ => []

def columnsPieces (columns : List Value) : List Fragment :=
  match columns with
  | [] => [plain "*"]
  | present => separated ", " (present.map columnPieces)

def rowPieces (columns : List String) (row : Payload) : List Fragment :=
  plain "(" :: separated ", " (columns.map fun column => (row.value column).asExpression.pieces) ++
    [plain ")"]

def assignmentPieces (assignment : String × Value) : List Fragment :=
  plain (assignment.1 ++ " = ") :: assignment.2.asExpression.pieces

def upsertRows (keyword : String) (clauses : Clauses) : List (List Fragment) :=
  if keyword == "INSERT" && clauses.hasUpsert
    then [[plain ("ON DUPLICATE KEY UPDATE " ++ clauses.upsertText)]] else []

def insertPieces (keyword : String) (payloads : List Payload) (clauses : Clauses) :
    List Fragment :=
  let columns := (payloads.head?.map Payload.columns).getD []
  separated " " (wordRows (keyword :: clauses.leading ++ ["INTO", clauses.tableNames.headD "",
      "(" ++ ", ".intercalate columns ++ ")", "VALUES"]) ++
    separated ", " (payloads.map (rowPieces columns)) :: upsertRows keyword clauses)

def updatePieces (payload : Payload) (clauses : Clauses) : List Fragment :=
  separated " " (wordRows ("UPDATE" :: clauses.leading ++ [clauses.tableNames.headD ""]) ++
    Join.rows clauses.joins ++ [plain "SET " :: separated ", " (payload.map assignmentPieces)] ++
    ledRows "WHERE" (Condition.rows true clauses.conditions) ++ clauses.windowRows)

def deletePieces (clauses : Clauses) : List Fragment :=
  let names := ", ".intercalate clauses.tableNames
  if 1 < clauses.tables.length || !clauses.joins.isEmpty then
    separated " " (wordRows ("DELETE" :: clauses.leading ++ [names, "FROM", names]) ++
      Join.rows clauses.joins ++ ledRows "WHERE" (Condition.rows true clauses.conditions))
  else
    separated " " (wordRows ("DELETE" :: clauses.leading ++ ["FROM", names]) ++
      ledRows "WHERE" (Condition.rows true clauses.conditions) ++ clauses.windowRows)

def pieces (rendering : Rendering) (clauses : Clauses) : List Fragment :=
  match rendering with
  | .select columns =>
    selectPieces clauses.leading (columnsPieces columns) clauses.sourcePieces clauses.endingRows
  | .counting columns =>
    let options := clauses.leading.filter countingOptions.contains
    selectPieces options (if isDistinct options then columnsPieces columns else [plain "1"])
      clauses.sourcePieces []
  | .insert keyword rows =>
    insertPieces keyword ((rows.mapM payloadOf).toOption.getD []) clauses
  | .update data => updatePieces ((payloadOf data).toOption.getD []) clauses
  | .delete => deletePieces clauses
  | .written text arguments => [⟨text, arguments⟩]

end Rendering
end Querywright
