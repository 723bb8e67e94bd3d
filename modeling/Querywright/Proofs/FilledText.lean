import Querywright.Proofs.OpenPlaces

/-! Texts of filled expressions. Rendering asks nothing of a value that is bound, so the text of
what is filled is the text that it had before and its values are the filled ones; what cannot
be written fails in the same family. -/
namespace Querywright

variable (filling : Filling)

namespace Fragment

@[simp] theorem fill_plain (text : String) : (plain text).filled filling = plain text :=
  rfl

theorem fill_surrounded (opening closing : String) (fragment : Fragment) :
    (surrounded opening closing fragment).filled filling =
      surrounded opening closing (fragment.filled filling) :=
  rfl

theorem fill_joined (separator : String) (fragments : List Fragment) :
    (joined separator fragments).filled filling =
      joined separator (fragments.map (Fragment.filled filling)) := by
  unfold joined Fragment.filled
  simp [List.map_flatMap, List.flatMap_map, Function.comp_def]

theorem fill_plains (words : List String) :
    (words.map plain).map (Fragment.filled filling) = words.map plain := by
  simp

variable {filling}

theorem bind_follows {values others : Except Error (List Value)} {text other : Except Error String}
    (supplied : Follows (List.map (Value.filled filling true)) values others)
    (written : Follows id text other) :
    Follows (Fragment.filled filling) (Fragment.bind values text) (Fragment.bind others other) := by
  refine supplied.bind fun found _ => written.bind fun shown _ => .of_eq ?_
  simp [Fragment.filled]

theorem checked_follows (fragment : Fragment) :
    Follows (Fragment.filled filling) fragment.checked (fragment.filled filling).checked := by
  have balance : (fragment.filled filling).isBalanced = fragment.isBalanced := by
    simp [Fragment.filled, isBalanced]
  unfold checked
  rw [balance]
  split
  · exact .success fragment
  · exact .failure rfl

end Fragment

open Fragment

theorem ledBy_fill (keyword : String) (fragments : List Fragment) :
    ledBy keyword (fragments.map (Fragment.filled filling)) =
      (ledBy keyword fragments).map (Fragment.filled filling) := by
  cases fragments with
  | nil => rfl
  | cons first rest =>
    simp only [ledBy, List.map_cons, spaced, fill_surrounded, fill_joined, List.map_nil]

theorem assembleSelect_fill (options : List String) (columns sources : Fragment)
    (ending : List Fragment) :
    assembleSelect options (columns.filled filling) (sources.filled filling)
        (ending.map (Fragment.filled filling)) =
      (assembleSelect options columns sources ending).filled filling := by
  unfold assembleSelect spaced
  simp [fill_joined, Function.comp_def]

theorem Order.fragment_fill (order : Order) :
    (order.filled filling).fragment = order.fragment.filled filling := by
  obtain ⟨column, direction, ranking⟩ := order
  cases ranking with
  | nil => rfl
  | cons first rest => simp [Order.filled, Order.fragment, Order.text, Fragment.filled]

theorem Clauses.window_fill (clauses : Clauses) :
    (clauses.filled filling).window = clauses.window.map (Fragment.filled filling) := by
  unfold Clauses.window
  rw [Clauses.fill_eq, List.map_append]
  congr 1
  · cases clauses.orders with
    | nil => rfl
    | cons first rest =>
      simp only [orderFragments, List.map_cons, listed, fill_surrounded, fill_joined,
        List.map_nil, Order.fragment_fill, List.map_map, Function.comp_def]
  · cases clauses.limit with
    | nil => rfl
    | cons first rest => rfl

theorem Clauses.selectEnding_fill (clauses : Clauses) :
    (clauses.filled filling).selectEnding = clauses.selectEnding.map (Fragment.filled filling) := by
  unfold Clauses.selectEnding
  rw [Clauses.window_fill, List.map_append, fill_plains]
  rw [Clauses.fill_eq]
  rfl

theorem Clauses.leading_fill (clauses : Clauses) :
    (clauses.filled filling).leading = clauses.leading := by
  rw [Clauses.fill_eq]
  rfl

theorem Clauses.requireTable_follows (clauses : Clauses) (writes : Bool) :
    Follows id (clauses.requireTable writes) ((clauses.filled filling).requireTable writes) := by
  unfold Clauses.requireTable
  rw [Clauses.fill_eq]
  simp only [List.isEmpty_map, List.find?_map, Function.comp_def, isTableName_fill,
    isDerivedTable_fill]
  split
  · exact .failure rfl
  · generalize clauses.tables.find? _ = refused
    cases refused with
    | none => exact .success ()
    | some table => exact .failure rfl

theorem groupFragments_follows (groups : List Value) :
    Follows (List.map (Fragment.filled filling)) (groupFragments groups)
      (groupFragments (groups.map (Value.filled filling false))) := by
  unfold groupFragments
  rw [List.isEmpty_map]
  split
  · exact .success []
  · refine Follows.bind (?_ : Follows (List.map id) _ _) fun names _ => ?_
    · refine Follows.mapM groups fun group _ => ?_
      cases group with
      | text name => exact .success name
      | _ => exact .failure rfl
    · rw [List.map_id_fun]
      exact .success _

theorem Expression.around?_fill (expression : Expression) :
    (expression.filled filling).around? = expression.around? := by
  cases expression <;> rfl

theorem Expression.isSubquery_fill (expression : Expression) :
    (expression.filled filling).isSubquery = expression.isSubquery := by
  cases expression <;> rfl

theorem loneAround?_fill (operands : List Expression) :
    loneAround? (operands.map (Expression.filled filling)) = loneAround? operands := by
  match operands with
  | [] => rfl
  | [operand] => exact operand.around?_fill filling
  | _ :: _ :: _ => rfl

theorem isLoneSubquery_fill (operands : List Expression) :
    isLoneSubquery (operands.map (Expression.filled filling)) = isLoneSubquery operands := by
  match operands with
  | [] => rfl
  | [operand] => exact operand.isSubquery_fill filling
  | _ :: _ :: _ => rfl

/-- The values supplied are filled and the text written is the same, or neither comes to be. -/
structure WrittenAlike (values others : Except Error (List Value)) (text other : Except Error String) :
    Prop where
  supplied : Follows (List.map (Value.filled filling true)) values others
  written : Follows id text other

/-- The same of operands in a row, of which all or only the first may be written. -/
structure OperandsAlike (operands : List Value) : Prop where
  supplied : Follows (List.map (Value.filled filling true)) (Value.valuesOfOperands operands)
    (Value.valuesOfOperands (operands.map (Value.filled filling false)))
  written : Follows id (Value.operandTexts operands)
    (Value.operandTexts (operands.map (Value.filled filling false)))
  first : Follows id (Value.firstOperandText operands)
    (Value.firstOperandText (operands.map (Value.filled filling false)))

variable {filling}

private theorem values_appended {first second others further : Except Error (List Value)}
    (head : Follows (List.map (Value.filled filling true)) first second)
    (tail : Follows (List.map (Value.filled filling true)) others further) :
    Follows (List.map (Value.filled filling true))
      (do let left ← first; let right ← others; return left ++ right)
      (do let left ← second; let right ← further; return left ++ right) := by
  refine head.bind fun left _ => tail.bind fun right _ => .of_eq ?_
  rw [List.map_append]

private theorem texts_gathered {α : Type} {first second : Except Error String}
    {others further : Except Error (List α)} (made : String → α)
    (head : Follows id first second) (tail : Follows id others further) :
    Follows id (do let text ← first; let texts ← others; return made text :: texts)
      (do let text ← second; let texts ← further; return made text :: texts) :=
  head.bind fun _ _ => tail.bind fun _ _ => .success _

private theorem nested_alike {rendered other : Except Error Fragment} (opening closing : String)
    (followed : Follows (Fragment.filled filling) rendered other) :
    WrittenAlike filling (rendered.map (·.arguments)) (other.map (·.arguments))
      (rendered.map fun fragment => opening ++ fragment.text ++ closing)
      (other.map fun fragment => opening ++ fragment.text ++ closing) := by
  refine ⟨followed.map fun fragment => ?_, followed.map fun fragment => rfl⟩
  simp [Fragment.filled]

private theorem comparison_alike {operand : Expression}
    (alike : WrittenAlike filling operand.values (operand.filled filling).values operand.text
      (operand.filled filling).text) (column operator : String) :
    let body := ConditionBody.comparison column operator operand
    WrittenAlike filling body.values (body.filled filling).values body.text (body.filled filling).text := by
  refine ⟨alike.supplied, ?_⟩
  simp only [ConditionBody.filled, ConditionBody.text, Expression.around?_fill]
  split
  · exact .same _
  · exact alike.written.bind fun _ _ => .success _

private theorem membership_alike {operands : List Expression}
    (supplied : Follows (List.map (Value.filled filling true)) (Expression.valuesOfAll operands)
      (Expression.valuesOfAll (operands.map (Expression.filled filling))))
    (written : Follows id (Expression.textsOfAll operands)
      (Expression.textsOfAll (operands.map (Expression.filled filling))))
    (column : String) (negated : Bool) :
    let body := ConditionBody.membership column negated operands
    WrittenAlike filling body.values (body.filled filling).values body.text (body.filled filling).text := by
  simp only [ConditionBody.filled, Expression.fillAll_eq_map]
  refine ⟨supplied, ?_⟩
  simp only [ConditionBody.text, loneAround?_fill, isLoneSubquery_fill]
  split
  · exact .same _
  · exact written.bind fun _ _ => .success _

private theorem asExpressions_fill (operands : List Value) :
    (operands.map (Value.filled filling false)).filterMap Value.asExpression? =
      (operands.filterMap Value.asExpression?).map (Expression.filled filling) := by
  rw [List.filterMap_map, List.map_filterMap]
  exact List.filterMap_congr fun operand _ => operand.asExpression?_fill filling

private theorem operandsText_follows {operands : List Value}
    (row : OperandsAlike filling operands) (operator : String) :
    Follows id
      (Value.operandsText operator operands (Value.operandTexts operands)
        (Value.firstOperandText operands))
      (Value.operandsText operator (operands.map (Value.filled filling false))
        (Value.operandTexts (operands.map (Value.filled filling false)))
        (Value.firstOperandText (operands.map (Value.filled filling false)))) := by
  unfold Value.operandsText
  rw [asExpressions_fill, isLoneSubquery_fill, List.length_map]
  split
  · split
    · exact row.written.map fun _ => rfl
    · exact .failure rfl
  · split
    · exact row.written.bind fun _ _ => .success _
    · exact row.first

private theorem loose_alike {operands : List Value} (row : OperandsAlike filling operands)
    (form : ConditionForm) (raw : String) (rawArguments : List Value) (column operator : String) :
    let body := ConditionBody.loose form raw rawArguments column operator operands
    WrittenAlike filling body.values (body.filled filling).values body.text (body.filled filling).text := by
  simp only [ConditionBody.filled, Value.fillAll_eq_map]
  cases form with
  | raw => exact ⟨.success _, .success _⟩
  | existence => exact ⟨row.supplied, row.first.bind fun _ _ => .success _⟩
  | column =>
    refine ⟨row.supplied, ?_⟩
    simp only [ConditionBody.text, asExpressions_fill, loneAround?_fill, List.length_map]
    split
    · exact .same _
    · exact (operandsText_follows row operator).bind fun _ _ => .success _

private theorem operands_of_expression {inner : Expression} {rest : List Value}
    (alike : WrittenAlike filling inner.values (inner.filled filling).values inner.text
      (inner.filled filling).text)
    (row : OperandsAlike filling rest) : OperandsAlike filling (.expression inner :: rest) :=
  ⟨values_appended alike.supplied row.supplied, texts_gathered id alike.written row.written,
    alike.written⟩

private theorem values_of_other {operand : Value} (rest : List Value)
    (other : operand.asExpression? = none) : Value.valuesOfOperands (operand :: rest) =
      .error (if operand.isMapping then .misuse (.notJoinable "tuple" "builtin_function_or_method")
        else .misuse (.noSuchOperation "values")) := by
  cases operand with
  | expression inner => cases other
  | _ => rw [Value.valuesOfOperands] <;> first | rfl | rintro _ ⟨⟩

private theorem text_of_other {operand : Value} (other : operand.asExpression? = none) :
    operand.operandText = .error (.misuse (.noSuchOperation "sql")) := by
  cases operand with
  | expression inner => cases other
  | _ => rw [Value.operandText]; rintro _ ⟨⟩

private theorem operands_of_other {operand : Value} (rest : List Value)
    (other : operand.asExpression? = none) : OperandsAlike filling (operand :: rest) := by
  have same : (operand.filled filling false).asExpression? = none := by
    rw [Value.asExpression?_fill, other]
    rfl
  have kind : (operand.filled filling false).isMapping = operand.isMapping := by
    cases operand <;> rfl
  constructor
  · rw [List.map_cons, values_of_other rest other, values_of_other _ same, kind]
    exact .failure rfl
  · rw [List.map_cons, Value.operandTexts, Value.operandTexts, text_of_other other,
      text_of_other same]
    exact .failure rfl
  · rw [List.map_cons, Value.firstOperandText, Value.firstOperandText, text_of_other other,
      text_of_other same]
    exact .failure rfl

private theorem table_of_other {table : Value} (unnamed : table.asText? = none)
    (alone : table.asSubquery? = none) :
    table.tableFragment = .error (.invalidTable table.shown) := by
  rw [Value.tableFragment]
  · rintro name rfl
    cases unnamed
  · rintro subquery rfl
    cases alone

private theorem table_refused {table : Value} (unnamed : table.asText? = none)
    (alone : table.asSubquery? = none) :
    Follows (Fragment.filled filling) table.tableFragment
      (table.filled filling false).tableFragment := by
  have apart : (table.filled filling false).asSubquery? = none := by
    rw [Value.asSubquery?_fill, alone]
    rfl
  rw [table_of_other unnamed alone, table_of_other (by rw [Value.asText?_fill, unnamed]) apart]
  exact .failure rfl

variable (filling)

-- A nested select asks for values and text of all it holds, so both are followed in one induction.
mutual

theorem Expression.written_alike (expression : Expression) :
    WrittenAlike filling expression.values (expression.filled filling).values expression.text
      (expression.filled filling).text := by
  match expression with
  | .base => exact ⟨.success [], .failure rfl⟩
  | .null => exact ⟨.success [], .success "NULL"⟩
  | .literal value => exact ⟨.success [value], .success "?"⟩
  | .function template arguments =>
    simp only [Expression.filled, Value.fillAll_eq_map]
    exact ⟨.success arguments, .same _⟩
  | .timestamp part value => exact ⟨.success [value], .failure rfl⟩
  | .patterned pattern value => exact ⟨.success [value], .failure rfl⟩
  | .condition condition => exact condition.written_alike
  | .order order =>
    have same := order.fragment_fill filling
    rw [Expression.filled, Expression.values, Expression.text, Expression.values, Expression.text]
    exact ⟨.of_eq (by simpa [Fragment.filled, Order.fragment] using congrArg (·.arguments) same),
      .of_eq (congrArg (·.text) same)⟩
  | .subquery subquery => exact nested_alike "(" ")" subquery.rendered_follows
termination_by structural expression

theorem Expression.valuesOfAll_follows (expressions : List Expression) :
    Follows (List.map (Value.filled filling true)) (Expression.valuesOfAll expressions)
      (Expression.valuesOfAll (expressions.map (Expression.filled filling))) := by
  match expressions with
  | [] => exact .success []
  | expression :: rest =>
    exact values_appended expression.written_alike.supplied (Expression.valuesOfAll_follows rest)
termination_by structural expressions

theorem Expression.textsOfAll_follows (expressions : List Expression) :
    Follows id (Expression.textsOfAll expressions)
      (Expression.textsOfAll (expressions.map (Expression.filled filling))) := by
  match expressions with
  | [] => exact .success []
  | expression :: rest =>
    exact texts_gathered id expression.written_alike.written (Expression.textsOfAll_follows rest)
termination_by structural expressions

theorem Value.operands_alike (operands : List Value) : OperandsAlike filling operands := by
  match operands with
  | [] => exact ⟨.success [], .success [], .failure rfl⟩
  | .expression inner :: rest =>
    exact operands_of_expression inner.written_alike (Value.operands_alike rest)
  | .null :: _ | .truth _ :: _ | .integer _ :: _ | .decimal _ :: _ | .text _ :: _ | .octets _ :: _ |
    .list _ :: _ | .tuple _ :: _ | .set .. :: _ | .mapping _ :: _ | .record .. :: _ |
    .holder _ :: _ | .declared _ :: _ | .supplier _ :: _ | .connection _ :: _ | .thing .. :: _ |
    .shared _ :: _ => exact operands_of_other _ rfl
termination_by structural operands

theorem ConditionBody.written_alike (body : ConditionBody) :
    WrittenAlike filling body.values (body.filled filling).values body.text
      (body.filled filling).text := by
  match body with
  | .raw text arguments =>
    simp only [ConditionBody.filled, Value.fillAll_eq_map]
    exact ⟨.success arguments, .success text⟩
  | .comparison column operator operand => exact comparison_alike operand.written_alike column operator
  | .range column negated low high =>
    refine ⟨values_appended low.written_alike.supplied high.written_alike.supplied, ?_⟩
    exact low.written_alike.written.bind fun _ _ => high.written_alike.written.bind fun _ _ => .success _
  | .membership column negated operands =>
    exact membership_alike (Expression.valuesOfAll_follows operands)
      (Expression.textsOfAll_follows operands) column negated
  | .existence negated subquery =>
    exact nested_alike (existenceOperator negated ++ " (") ")" subquery.rendered_follows
  | .loose form raw rawArguments column operator operands =>
    exact loose_alike (Value.operands_alike operands) form raw rawArguments column operator
termination_by structural body

theorem Condition.written_alike (condition : Condition) :
    WrittenAlike filling condition.values (condition.filled filling).values condition.text
      (condition.filled filling).text := by
  match condition with
  | ⟨_, body⟩ => exact body.written_alike
termination_by structural condition

theorem Condition.valuesOfAll_follows (conditions : List Condition) :
    Follows (List.map (Value.filled filling true)) (Condition.valuesOfAll conditions)
      (Condition.valuesOfAll (conditions.map (Condition.filled filling))) := by
  match conditions with
  | [] => exact .success []
  | condition :: rest =>
    exact values_appended condition.written_alike.supplied (Condition.valuesOfAll_follows rest)
termination_by structural conditions

theorem Condition.textsOfAll_follows (conditions : List Condition) :
    Follows id (Condition.textsOfAll conditions)
      (Condition.textsOfAll (conditions.map (Condition.filled filling))) := by
  match conditions with
  | [] => exact .success []
  | condition :: rest =>
    rw [List.map_cons, Condition.textsOfAll, Condition.textsOfAll, Condition.connector_fill]
    exact texts_gathered _ condition.written_alike.written (Condition.textsOfAll_follows rest)
termination_by structural conditions

theorem Condition.fragments_follows (isFirst : Bool) (conditions : List Condition) :
    Follows (List.map (Fragment.filled filling)) (Condition.fragments isFirst conditions)
      (Condition.fragments isFirst (conditions.map (Condition.filled filling))) := by
  match conditions with
  | [] => exact .success []
  | condition :: rest =>
    rw [List.map_cons, Condition.fragments, Condition.fragments, Condition.connector_fill]
    refine (bind_follows condition.written_alike.supplied condition.written_alike.written).bind ?_
    refine fun fragment _ => (Condition.fragments_follows false rest).bind fun others _ => .of_eq ?_
    cases isFirst <;> rfl
termination_by structural conditions

theorem JoinTarget.written_alike (target : JoinTarget) :
    WrittenAlike filling target.values (target.filled filling).values target.text
      (target.filled filling).text := by
  match target with
  | .table name => exact ⟨.success [], .success name⟩
  | .derived subquery =>
    rw [JoinTarget.filled, JoinTarget.values, JoinTarget.text, JoinTarget.values, JoinTarget.text,
      subquery.derivedName_fill filling]
    have nested := nested_alike "(" (") AS " ++ subquery.derivedName.getD "None")
      subquery.rendered_follows
    simpa only [String.append_assoc] using nested
termination_by structural target

theorem Join.written_alike (join : Join) :
    WrittenAlike filling join.values (join.filled filling).values join.text
      (join.filled filling).text := by
  match join with
  | ⟨direction, target, condition, conditions⟩ =>
    simp only [Join.filled, Condition.fillAll_eq_map]
    refine ⟨values_appended target.written_alike.supplied (Condition.valuesOfAll_follows conditions), ?_⟩
    refine target.written_alike.written.bind fun _ _ => ?_
    exact (Condition.textsOfAll_follows conditions).bind fun _ _ => .success _
termination_by structural join

theorem Join.fragments_follows (joins : List Join) :
    Follows (List.map (Fragment.filled filling)) (Join.fragments joins)
      (Join.fragments (joins.map (Join.filled filling))) := by
  match joins with
  | [] => exact .success []
  | join :: rest =>
    refine (bind_follows join.written_alike.supplied join.written_alike.written).bind ?_
    exact fun fragment _ => (Join.fragments_follows rest).bind fun others _ => .success _
termination_by structural joins

theorem Value.table_follows (table : Value) :
    Follows (Fragment.filled filling) table.tableFragment
      (table.filled filling false).tableFragment := by
  match table with
  | .text name => exact .success _
  | .expression (.subquery subquery) =>
    rw [Value.filled, Expression.filled, Value.tableFragment, Value.tableFragment,
      subquery.derivedName_fill filling]
    exact subquery.rendered_follows.map fun fragment => rfl
  | .null | .truth _ | .integer _ | .decimal _ | .octets _ | .list _ | .tuple _ | .set .. |
    .mapping _ | .record .. | .holder _ | .declared _ | .supplier _ | .connection _ | .thing .. |
    .shared _ | .expression .base | .expression .null | .expression (.literal _) |
    .expression (.function ..) | .expression (.timestamp ..) | .expression (.patterned ..) |
    .expression (.condition _) | .expression (.order _) => exact table_refused rfl rfl
termination_by structural table

theorem Value.tables_follows (tables : List Value) :
    Follows (List.map (Fragment.filled filling)) (Value.tableFragments tables)
      (Value.tableFragments (tables.map (Value.filled filling false))) := by
  match tables with
  | [] => exact .success []
  | table :: rest =>
    exact table.table_follows.bind fun _ _ => (Value.tables_follows rest).bind fun _ _ => .success _
termination_by structural tables

theorem Clauses.sources_follows (clauses : Clauses) :
    Follows (Fragment.filled filling) clauses.sources (clauses.filled filling).sources := by
  match clauses with
  | ⟨tables, conditions, groupConditions, joins, _, groups, _, _, _, _, _⟩ =>
    simp only [Clauses.filled, Value.fillAll_eq_map, Condition.fillAll_eq_map,
      Join.fillAll_eq_map, Clauses.sources]
    refine (Value.tables_follows tables).bind fun tables _ => ?_
    refine (Join.fragments_follows joins).bind fun joins _ => ?_
    refine (Condition.fragments_follows true conditions).bind fun conditions _ => ?_
    refine (groupFragments_follows filling groups).bind fun groups _ => ?_
    refine (Condition.fragments_follows true groupConditions).bind fun groupConditions _ => .of_eq ?_
    simp only [spaced, listed, fill_joined, fill_surrounded, List.map_cons, List.map_append,
      ledBy_fill]
termination_by structural clauses

theorem Subquery.rendered_follows (subquery : Subquery) :
    Follows (Fragment.filled filling) subquery.rendered (subquery.filled filling).rendered := by
  match subquery with
  | ⟨_, _, _, some (text, arguments)⟩ => exact .success _
  | ⟨clauses, _, _, none⟩ =>
    simp only [Subquery.filled, Subquery.rendered]
    refine (clauses.requireTable_follows filling false).bind fun _ _ => ?_
    refine clauses.sources_follows.bind fun sources _ => ?_
    rw [Clauses.leading_fill, Clauses.selectEnding_fill, ← fill_plain filling "*",
      assembleSelect_fill]
    exact checked_follows _
termination_by structural subquery

end

end Querywright
