import Querywright.Proofs.MatchedClauses
import Querywright.Proofs.Outcome

/-! Matched clauses have whole pieces: what a caller's values stand for is whole by itself, and what
is written around and between is bare. -/
namespace Querywright

namespace Placeholder

theorem bare_empty : IsBare "" :=
  by decide

theorem bare_intercalate {separator : String} (between : IsBare separator) (texts : List String)
    (each : ∀ text ∈ texts, IsBare text) : IsBare (separator.intercalate texts) := by
  induction texts with
  | nil => exact bare_empty
  | cons text rest ih =>
    have first := each text (by simp)
    have others := ih fun other member => each other (by simp [member])
    cases rest with
    | nil => simpa using first
    | cons next rest =>
      rw [String.intercalate_cons_cons]
      exact (first.append between).append others

theorem inert_natural (number : Nat) : (toString number).toList.all isInert := by
  rw [Nat.toString_eq_repr, Nat.toList_repr, List.all_eq_true]
  intro character member
  have digit := Nat.isDigit_of_mem_toDigits (by decide) (by decide) member
  simp only [Char.isDigit, Bool.and_eq_true, decide_eq_true_eq] at digit
  have inert : ∀ other : Char, other.val < 48 ∨ 57 < other.val → character ≠ other := by
    rintro other apart rfl
    rcases apart with below | above
    · exact absurd digit.1 (UInt32.not_le.mpr below)
    · exact absurd digit.2 (UInt32.not_le.mpr above)
  simp [isInert, isQuote, backquote, inert]

theorem bare_natural (number : Nat) : IsBare (toString number) :=
  bare_of_inert (inert_natural number)

theorem bare_integer (number : Int) : IsBare (toString number) := by
  cases number with
  | ofNat number => exact bare_natural number
  | negSucc number =>
    have minus : IsBare "-" := by decide
    exact minus.append (bare_natural (number + 1))

theorem row_balanced (width : Nat) : IsClosed (row width) ∧ count (row width) = width := by
  unfold row
  induction width with
  | zero => decide
  | succ width ih =>
    cases width with
    | zero => decide
    | succ width =>
      have mark : IsClosed "?, " := by decide
      have same : ", ".intercalate (List.replicate (width + 1 + 1) "?") =
          "?, " ++ ", ".intercalate (List.replicate (width + 1) "?") := by
        rw [List.replicate_succ, List.replicate_succ, String.intercalate_cons_cons]
        rfl
      rw [same]
      refine ⟨mark.append ih.1, ?_⟩
      rw [count_append mark, ih.2, Nat.add_comm]
      congr 1

end Placeholder

open Fragment Placeholder

namespace Fragment

/-- Pieces each of which is whole. -/
def AreWhole (pieces : List Fragment) : Prop :=
  ∀ piece ∈ pieces, piece.IsWhole

@[simp] theorem areWhole_nil : AreWhole [] := by
  simp [AreWhole]

@[simp] theorem areWhole_cons (piece : Fragment) (rest : List Fragment) :
    AreWhole (piece :: rest) ↔ piece.IsWhole ∧ AreWhole rest := by
  simp [AreWhole]

@[simp] theorem areWhole_append (first second : List Fragment) :
    AreWhole (first ++ second) ↔ AreWhole first ∧ AreWhole second := by
  simp [AreWhole, or_imp, forall_and]

theorem plain_whole {text : String} (bare : IsBare text) : (plain text).IsWhole :=
  ⟨bare.1, bare.2⟩

theorem separated_whole {separator : String} (between : IsBare separator)
    (rows : List (List Fragment)) (each : ∀ row ∈ rows, AreWhole row) :
    AreWhole (separated separator rows) := by
  induction rows with
  | nil => simp [separated]
  | cons row rest ih =>
    have first := each row (by simp)
    have others := ih fun other member => each other (by simp [member])
    cases rest with
    | nil => exact first
    | cons next rest =>
      rw [separated, areWhole_append, areWhole_cons]
      exact ⟨first, plain_whole between, others⟩

theorem bracketed_whole {opening closing : String} (opens : IsBare opening)
    (closes : IsBare closing) {pieces : List Fragment} (whole : AreWhole pieces) :
    AreWhole (plain opening :: pieces ++ [plain closing]) := by
  simp [whole, plain_whole opens, plain_whole closes]

theorem words_whole (words : List String) (bare : ∀ word ∈ words, IsBare word) :
    ∀ row ∈ wordRows words, AreWhole row := by
  intro row member
  obtain ⟨word, present, rfl⟩ := List.mem_map.mp member
  simpa using plain_whole (bare word present)

theorem led_whole {keyword : String} (bare : IsBare (keyword ++ " "))
    (rows : List (List Fragment)) (each : ∀ row ∈ rows, AreWhole row) :
    ∀ row ∈ ledRows keyword rows, AreWhole row := by
  cases rows with
  | nil => simp [ledRows]
  | cons first rest =>
    intro row member
    obtain rfl := List.mem_singleton.mp member
    rw [areWhole_cons]
    exact ⟨plain_whole bare, separated_whole (by decide) _ each⟩

end Fragment

theorem connector_bare (connector : Connector) : IsBare (connector.text ++ " ") := by
  cases connector <;> decide

theorem direction_bare (direction : JoinDirection) : IsBare (direction.text ++ " JOIN ") := by
  cases direction <;> decide

theorem leading_bare (clauses : Clauses) : ∀ option ∈ clauses.leading, IsBare option := by
  have known : ∀ option ∈ leadingOptions, IsBare option := by decide
  intro option member
  exact known option (by simpa using List.of_mem_filter member)

theorem trailing_bare (clauses : Clauses) : ∀ option ∈ clauses.trailing, IsBare option := by
  have known : ∀ option ∈ trailingOptions, IsBare option := by decide
  intro option member
  exact known option (by simpa using List.of_mem_filter member)

theorem limit_bare (value : Value) (limit : value.IsLimit) : IsBare value.plain := by
  cases value with
  | integer number => exact bare_integer number
  | _ => exact limit

theorem order_whole (order : Order) (matched : order.IsMatched) : order.fragment.IsWhole := by
  obtain ⟨column, direction, ranking⟩ := order
  obtain ⟨bare, turned⟩ := matched
  have ascending : IsBare "ASC" := by decide
  have space : IsBare " " := by decide
  cases ranking with
  | nil =>
    cases direction with
    | none => exact plain_whole bare
    | some direction =>
      unfold Order.fragment Order.text
      dsimp only
      split
      · exact plain_whole bare
      · exact plain_whole ((bare.append space).append turned)
  | cons value rest =>
    have shown : IsBare ((direction.filter (!·.isEmpty)).getD "ASC") := by
      cases direction with
      | none => exact ascending
      | some direction =>
        by_cases empty : direction.isEmpty
        · simpa [Option.filter, empty] using ascending
        · simpa [Option.filter, empty] using turned
    have opening : IsBare ("FIELD(" ++ column ++ ", ") :=
      (IsBare.append (by decide) bare).append (by decide)
    have closing : IsBare (") " ++ (direction.filter (!·.isEmpty)).getD "ASC") :=
      IsBare.append (by decide) shown
    obtain ⟨closed, counted⟩ := row_balanced (value :: rest).length
    have text : (⟨column, direction, value :: rest⟩ : Order).text = ("FIELD(" ++ column ++ ", ") ++
        (Placeholder.row (value :: rest).length ++
          (") " ++ (direction.filter (!·.isEmpty)).getD "ASC")) := by
      simp [Order.text, String.append_assoc]
    refine ⟨?_, ?_⟩
    · rw [Order.fragment, text]
      exact opening.1.append (closed.append closing.1)
    · rw [Order.fragment, text, count_append opening.1, count_append closed, opening.2, counted,
        closing.2]
      simp

theorem window_whole (clauses : Clauses) (matched : clauses.WindowMatched) :
    ∀ row ∈ clauses.windowRows, AreWhole row := by
  intro row member
  rcases List.mem_append.mp member with ordered | limited
  · cases orders : clauses.orders with
    | nil => simp [orders] at ordered
    | cons order rest =>
      simp only [orders, List.mem_singleton] at ordered
      subst ordered
      rw [areWhole_cons]
      refine ⟨plain_whole (by decide), separated_whole (by decide) _ ?_⟩
      intro row present
      obtain ⟨order, listed, rfl⟩ := List.mem_map.mp present
      simpa using order_whole order (matched.orders order (orders ▸ listed))
  · cases limit : clauses.limit with
    | nil => simp [limit, limitFragments] at limited
    | cons value rest =>
      simp only [limit, limitFragments, List.map_singleton, List.mem_singleton] at limited
      subst limited
      simp only [areWhole_cons, areWhole_nil, and_true]
      refine plain_whole (IsBare.append (by decide) (bare_intercalate (by decide) _ ?_))
      intro text present
      obtain ⟨value, listed, rfl⟩ := List.mem_map.mp present
      exact limit_bare value (matched.limit value (limit ▸ listed))

theorem groups_whole (groups : List Value)
    (matched : ∀ name, Value.text name ∈ groups → IsBare name) :
    ∀ row ∈ groupRows groups, AreWhole row := by
  intro row member
  unfold groupRows at member
  split at member
  · simp at member
  · obtain rfl := List.mem_singleton.mp member
    simp only [areWhole_cons, areWhole_nil, and_true]
    refine plain_whole (IsBare.append (by decide) (bare_intercalate (by decide) _ ?_))
    intro name present
    obtain ⟨group, listed, read⟩ := List.mem_filterMap.mp present
    cases group <;> simp only [Value.asText?, Option.some.injEq, reduceCtorEq] at read
    subst read
    exact matched _ listed

theorem around_whole (expression : Expression) (matched : expression.IsMatched) {column : String}
    (bare : IsBare column) : AreWhole (expression.aroundPieces column) := by
  cases expression with
  | timestamp part value =>
    have opening : IsBare (part.function ++ "(FROM_UNIXTIME(") := by cases part <;> decide
    have inner := opening.append bare
    have closing : IsClosed ")) = ?" := by decide
    simp only [Expression.aroundPieces, areWhole_cons, areWhole_nil, and_true]
    refine ⟨inner.1.append closing, ?_⟩
    unfold TimePart.render
    dsimp only
    rw [count_append inner.1, inner.2]
    rfl
  | patterned pattern value =>
    rw [Expression.IsMatched] at matched
    simp only [Expression.aroundPieces]
    split
    · rename_i text filled
      simpa using matched column text bare filled
    · exact areWhole_nil
  | _ => simp [Expression.aroundPieces]

theorem lone_around_whole (operands : List Expression) (matched : Expression.AllMatched operands)
    {column : String} (bare : IsBare column) : AreWhole (loneAroundPieces column operands) := by
  match operands with
  | [] => exact areWhole_nil
  | [operand] => exact around_whole operand matched.1 bare
  | _ :: _ :: _ => exact areWhole_nil

theorem expressions_matched (operands : List Value) (matched : Value.OperandsMatched operands) :
    Expression.AllMatched (operands.filterMap Value.asExpression?) := by
  induction operands with
  | nil => simp [Expression.AllMatched]
  | cons operand rest ih =>
    cases operand with
    | expression inner => exact ⟨matched.1, ih matched.2⟩
    | _ =>
      simp only [Value.OperandsMatched] at matched
      exact ih matched

theorem opening_bare {column operator : String} (bare : IsBare column) (sign : IsBare operator) :
    IsBare (column ++ " " ++ operator ++ " ") :=
  ((bare.append (by decide)).append sign).append (by decide)

theorem first_operand_whole (operands : List Value)
    (each : ∀ row ∈ Value.operandRows operands, AreWhole row)
    (rest : (unwrittenPiece operands.tail).IsWhole) :
    AreWhole (Value.firstOperandPieces operands) := by
  cases operands with
  | nil => exact areWhole_nil
  | cons operand others =>
    rw [Value.firstOperandPieces, areWhole_append, areWhole_cons]
    exact ⟨each _ (by simp [Value.operandRows]), rest, areWhole_nil⟩

theorem loose_whole {column operator raw : String} {rawArguments operands : List Value}
    (bare : IsBare column) (sign : IsBare operator) (matched : Value.OperandsMatched operands)
    (each : ∀ row ∈ Value.operandRows operands, AreWhole row)
    (shape : isRangeOperator operator ∨ isMembershipOperator operator ∨
      (unwrittenPiece operands.tail).IsWhole) :
    AreWhole (ConditionBody.loose .column raw rawArguments column operator operands).pieces := by
  rw [ConditionBody.pieces]
  split
  · exact lone_around_whole _ (expressions_matched operands matched) bare
  · rw [areWhole_cons]
    refine ⟨plain_whole (opening_bare bare sign), ?_⟩
    split
    · exact separated_whole (by decide) _ each
    · rename_i unranged
      have row := separated_whole (by decide : IsBare ", ") _ each
      split
      · split
        · exact row
        · exact bracketed_whole (by decide) (by decide) row
      · rename_i plainly
        exact first_operand_whole operands each (by simpa [unranged, plainly] using shape)

theorem matching_whole (condition : String) (bare : IsBare condition)
    (conditions : List Condition)
    (each : ∀ isFirst, ∀ row ∈ Condition.rows isFirst conditions, AreWhole row) :
    AreWhole (matchingPieces condition (Condition.rows true conditions)
      (Condition.rows false conditions)) := by
  have inner : AreWhole (separated " " (if condition.isEmpty then Condition.rows true conditions
      else [plain condition] :: Condition.rows false conditions)) := by
    refine separated_whole (by decide) _ ?_
    split
    · exact each true
    · intro row member
      rcases List.mem_cons.mp member with rfl | later
      · simpa using plain_whole bare
      · exact each false row later
  unfold matchingPieces
  generalize separated " " _ = pieces at inner ⊢
  dsimp only
  split
  · exact inner
  · exact bracketed_whole (by decide) (by decide) inner

theorem select_whole (options : List String) (columns sources : List Fragment)
    (ending : List (List Fragment)) (bare : ∀ option ∈ options, IsBare option)
    (chosen : AreWhole columns) (source : AreWhole sources)
    (closing : ∀ row ∈ ending, AreWhole row) :
    AreWhole (selectPieces options columns sources ending) := by
  unfold selectPieces
  refine separated_whole (by decide) _ ?_
  intro row member
  rcases List.mem_append.mp member with word | part
  · refine words_whole _ ?_ row word
    intro option listed
    rcases List.mem_cons.mp listed with rfl | given
    · decide
    · exact bare option given
  · rcases List.mem_cons.mp part with rfl | part
    · exact chosen
    · rcases List.mem_cons.mp part with rfl | last
      · exact source
      · exact closing row last

theorem ending_whole (clauses : Clauses) (matched : clauses.WindowMatched) :
    ∀ row ∈ clauses.endingRows, AreWhole row := by
  intro row member
  rcases List.mem_append.mp member with inside | word
  · exact window_whole clauses matched row inside
  · exact words_whole _ (trailing_bare clauses) row word

theorem sources_whole {tables joins conditions groups groupConditions : List (List Fragment)}
    (first : ∀ row ∈ tables, AreWhole row) (second : ∀ row ∈ joins, AreWhole row)
    (third : ∀ row ∈ conditions, AreWhole row) (fourth : ∀ row ∈ groups, AreWhole row)
    (fifth : ∀ row ∈ groupConditions, AreWhole row) :
    AreWhole (separated " " ((plain "FROM " :: separated ", " tables) :: joins ++
      ledRows "WHERE" conditions ++ groups ++ ledRows "HAVING" groupConditions)) := by
  refine separated_whole (by decide) _ ?_
  intro row member
  simp only [List.cons_append, List.append_assoc, List.mem_cons, List.mem_append] at member
  rcases member with rfl | joined | filtered | grouped | chosen
  · rw [areWhole_cons]
    exact ⟨plain_whole (by decide), separated_whole (by decide) _ first⟩
  · exact second row joined
  · exact led_whole (by decide) _ third row filtered
  · exact fourth row grouped
  · exact led_whole (by decide) _ fifth row chosen

mutual

theorem Expression.pieces_whole (expression : Expression) (matched : expression.IsMatched) :
    AreWhole expression.pieces := by
  match expression with
  | .base | .timestamp .. | .patterned .. => simp [Expression.pieces]
  | .null => simpa [Expression.pieces] using plain_whole (by decide : IsBare "NULL")
  | .literal value =>
    simp only [Expression.pieces, areWhole_cons, areWhole_nil, and_true]
    have closed : IsClosed "?" := by decide
    have balanced : count "?" = 1 := by decide
    exact ⟨closed, balanced⟩
  | .function template arguments =>
    rw [Expression.IsMatched] at matched
    simpa [Expression.pieces] using matched
  | .condition condition =>
    rw [Expression.IsMatched] at matched
    rw [Expression.pieces]
    exact condition.pieces_whole matched
  | .order order =>
    rw [Expression.IsMatched] at matched
    simpa [Expression.pieces] using order_whole order matched
  | .subquery subquery =>
    rw [Expression.IsMatched] at matched
    rw [Expression.pieces]
    exact bracketed_whole (by decide) (by decide) (subquery.pieces_whole matched)
termination_by structural expression

theorem Expression.rows_whole (expressions : List Expression)
    (matched : Expression.AllMatched expressions) :
    ∀ row ∈ Expression.rows expressions, AreWhole row := by
  match expressions with
  | [] => simp [Expression.rows]
  | expression :: rest =>
    rw [Expression.AllMatched] at matched
    intro row member
    rw [Expression.rows] at member
    rcases List.mem_cons.mp member with rfl | later
    · exact expression.pieces_whole matched.1
    · exact Expression.rows_whole rest matched.2 row later
termination_by structural expressions

theorem Value.operandRows_whole (operands : List Value)
    (matched : Value.OperandsMatched operands) :
    ∀ row ∈ Value.operandRows operands, AreWhole row := by
  match operands with
  | [] => simp [Value.operandRows]
  | .expression inner :: rest =>
    rw [Value.OperandsMatched] at matched
    intro row member
    rw [Value.operandRows, Value.operandPieces] at member
    rcases List.mem_cons.mp member with rfl | later
    · exact inner.pieces_whole matched.1
    · exact Value.operandRows_whole rest matched.2 row later
  | .null :: rest | .truth _ :: rest | .integer _ :: rest | .decimal _ :: rest |
    .text _ :: rest | .octets _ :: rest | .list _ :: rest | .tuple _ :: rest | .set .. :: rest |
    .mapping _ :: rest | .record .. :: rest | .holder _ :: rest | .declared _ :: rest |
    .supplier _ :: rest | .connection _ :: rest | .thing .. :: rest | .shared _ :: rest =>
    simp only [Value.OperandsMatched] at matched
    intro row member
    simp only [Value.operandRows, Value.operandPieces, List.mem_cons] at member
    rcases member with rfl | later
    · exact areWhole_nil
    · exact Value.operandRows_whole rest matched row later
termination_by structural operands

theorem ConditionBody.pieces_whole (body : ConditionBody) (matched : body.IsMatched) :
    AreWhole body.pieces := by
  match body with
  | .raw text arguments =>
    rw [ConditionBody.IsMatched] at matched
    simpa [ConditionBody.pieces] using matched
  | .comparison column operator operand =>
    rw [ConditionBody.IsMatched] at matched
    obtain ⟨bare, sign, inner⟩ := matched
    rw [ConditionBody.pieces]
    split
    · exact around_whole operand inner bare
    · rw [areWhole_cons]
      exact ⟨plain_whole (opening_bare bare sign), operand.pieces_whole inner⟩
  | .range column negated low high =>
    rw [ConditionBody.IsMatched] at matched
    obtain ⟨bare, first, second⟩ := matched
    rw [ConditionBody.pieces, areWhole_append, areWhole_cons, areWhole_cons]
    refine ⟨⟨plain_whole (opening_bare bare ?_), low.pieces_whole first⟩,
      plain_whole (by decide), high.pieces_whole second⟩
    cases negated <;> decide
  | .membership column negated operands =>
    rw [ConditionBody.IsMatched] at matched
    obtain ⟨bare, each⟩ := matched
    have row := separated_whole (by decide : IsBare ", ") _ (Expression.rows_whole operands each)
    rw [ConditionBody.pieces]
    split
    · exact lone_around_whole operands each bare
    · rw [areWhole_cons]
      refine ⟨plain_whole (opening_bare bare ?_), ?_⟩
      · cases negated <;> decide
      · split
        · exact row
        · exact bracketed_whole (by decide) (by decide) row
  | .existence negated subquery =>
    rw [ConditionBody.IsMatched] at matched
    rw [ConditionBody.pieces]
    refine bracketed_whole ?_ (by decide) (subquery.pieces_whole matched)
    cases negated <;> decide
  | .loose .raw text arguments _ _ _ =>
    rw [ConditionBody.IsMatched] at matched
    simpa [ConditionBody.pieces] using matched
  | .loose .existence _ _ _ operator operands =>
    rw [ConditionBody.IsMatched] at matched
    obtain ⟨sign, each, rest⟩ := matched
    rw [ConditionBody.pieces, areWhole_cons]
    exact ⟨plain_whole (sign.append (by decide)),
      first_operand_whole operands (Value.operandRows_whole operands each) rest⟩
  | .loose .column _ _ column operator operands =>
    rw [ConditionBody.IsMatched] at matched
    obtain ⟨bare, sign, each, shape⟩ := matched
    exact loose_whole bare sign each (Value.operandRows_whole operands each) shape
termination_by structural body

theorem Condition.pieces_whole (condition : Condition) (matched : condition.IsMatched) :
    AreWhole condition.pieces := by
  match condition with
  | ⟨connector, body⟩ =>
    rw [Condition.IsMatched] at matched
    rw [Condition.pieces]
    exact body.pieces_whole matched
termination_by structural condition

theorem Condition.rows_whole (conditions : List Condition)
    (matched : Condition.AllMatched conditions) :
    ∀ isFirst, ∀ row ∈ Condition.rows isFirst conditions, AreWhole row := by
  match conditions with
  | [] => simp [Condition.rows]
  | condition :: rest =>
    rw [Condition.AllMatched] at matched
    intro isFirst row member
    have first := condition.pieces_whole matched.1
    rw [Condition.rows] at member
    rcases List.mem_cons.mp member with rfl | later
    · split
      · exact first
      · rw [areWhole_cons]
        exact ⟨plain_whole (connector_bare condition.connector), first⟩
    · exact Condition.rows_whole rest matched.2 false row later
termination_by structural conditions

theorem JoinTarget.pieces_whole (target : JoinTarget) (matched : target.IsMatched) :
    AreWhole target.pieces := by
  match target with
  | .table name =>
    rw [JoinTarget.IsMatched] at matched
    simpa [JoinTarget.pieces] using plain_whole matched
  | .derived subquery =>
    rw [JoinTarget.IsMatched] at matched
    rw [JoinTarget.pieces]
    exact bracketed_whole (by decide) (IsBare.append (by decide) matched.2)
      (subquery.pieces_whole matched.1)
termination_by structural target

theorem Join.pieces_whole (join : Join) (matched : join.IsMatched) : AreWhole join.pieces := by
  match join with
  | ⟨direction, target, condition, conditions⟩ =>
    rw [Join.IsMatched] at matched
    obtain ⟨joined, bare, each⟩ := matched
    rw [Join.pieces, areWhole_append, areWhole_cons]
    exact ⟨⟨plain_whole (direction_bare direction), target.pieces_whole joined⟩,
      matching_whole condition bare conditions (Condition.rows_whole conditions each)⟩
termination_by structural join

theorem Join.rows_whole (joins : List Join) (matched : Join.AllMatched joins) :
    ∀ row ∈ Join.rows joins, AreWhole row := by
  match joins with
  | [] => simp [Join.rows]
  | join :: rest =>
    rw [Join.AllMatched] at matched
    intro row member
    rw [Join.rows] at member
    rcases List.mem_cons.mp member with rfl | later
    · exact join.pieces_whole matched.1
    · exact Join.rows_whole rest matched.2 row later
termination_by structural joins

theorem Value.tablePieces_whole (table : Value) (matched : table.TableMatched) :
    AreWhole table.tablePieces := by
  match table with
  | .text name =>
    rw [Value.TableMatched] at matched
    simpa [Value.tablePieces] using plain_whole matched
  | .expression (.subquery subquery) =>
    rw [Value.TableMatched] at matched
    rw [Value.tablePieces]
    exact bracketed_whole (by decide) (IsBare.append (by decide) matched.2)
      (subquery.pieces_whole matched.1)
  | .null | .truth _ | .integer _ | .decimal _ | .octets _ | .list _ | .tuple _ | .set .. |
    .mapping _ | .record .. | .holder _ | .declared _ | .supplier _ | .connection _ | .thing .. |
    .shared _ | .expression .base | .expression .null | .expression (.literal _) |
    .expression (.function ..) | .expression (.timestamp ..) | .expression (.patterned ..) |
    .expression (.condition _) | .expression (.order _) => simp [Value.tablePieces]
termination_by structural table

theorem Value.tableRows_whole (tables : List Value) (matched : Value.TablesMatched tables) :
    ∀ row ∈ Value.tableRows tables, AreWhole row := by
  match tables with
  | [] => simp [Value.tableRows]
  | table :: rest =>
    rw [Value.TablesMatched] at matched
    intro row member
    rw [Value.tableRows] at member
    rcases List.mem_cons.mp member with rfl | later
    · exact table.tablePieces_whole matched.1
    · exact Value.tableRows_whole rest matched.2 row later
termination_by structural tables

theorem Clauses.sourcePieces_whole (clauses : Clauses) (matched : clauses.SourcesMatched) :
    AreWhole clauses.sourcePieces := by
  match clauses with
  | ⟨tables, conditions, groupConditions, joins, _, groups, _, _, _, _, _⟩ =>
    rw [Clauses.SourcesMatched] at matched
    obtain ⟨first, second, third, fourth, fifth⟩ := matched
    rw [Clauses.sourcePieces]
    exact sources_whole (Value.tableRows_whole tables first) (Join.rows_whole joins second)
      (Condition.rows_whole conditions third true) (groups_whole groups fourth)
      (Condition.rows_whole groupConditions fifth true)
termination_by structural clauses

theorem Subquery.pieces_whole (subquery : Subquery) (matched : subquery.IsMatched) :
    AreWhole subquery.pieces := by
  match subquery with
  | ⟨_, _, _, some (text, arguments)⟩ =>
    rw [Subquery.IsMatched] at matched
    simpa [Subquery.pieces] using matched
  | ⟨clauses, _, _, none⟩ =>
    rw [Subquery.IsMatched] at matched
    rw [Subquery.pieces]
    refine select_whole _ _ _ _ (leading_bare clauses) ?_ (clauses.sourcePieces_whole matched.1)
      (ending_whole clauses matched.2)
    simpa using plain_whole (by decide : IsBare "*")
termination_by structural subquery

end

end Querywright
