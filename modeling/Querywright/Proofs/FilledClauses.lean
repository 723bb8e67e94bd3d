import Querywright.Call
import Querywright.Proofs.ConditionForms
import Querywright.Proofs.FilledStatements
import Querywright.Proofs.Outcome

/-! Calls that gather clauses. A condition tells its values from the column and the operator in front
of them by place and shape alone, so filling its arguments first or the condition afterwards comes
to the same. -/
namespace Querywright

/-- The arguments of a condition behind its column: a single one and all those of raw SQL are bound,
else an operator stands in front of them. -/
def filledTerms (filling : Filling) (column : String) : List Value → List Value
  | [] => []
  | [value] => [value.filled filling true]
  | operator :: values =>
    operator.filled filling (0 < Placeholder.count column) :: values.map (Value.filled filling true)

def filledCondition (filling : Filling) : List Value → List Value
  | .text column :: terms => .text column :: filledTerms filling column terms
  | arguments => arguments.map (Value.filled filling false)

/-- The columns of an upsert are written as they are told. -/
def ClauseCall.filled (filling : Filling) : ClauseCall → ClauseCall
  | .table names => .table (names.map (Value.filled filling false))
  | .restrict connector arguments => .restrict connector (filledCondition filling arguments)
  | .restrictGroups connector arguments =>
    .restrictGroups connector (filledCondition filling arguments)
  | .join target condition direction =>
    .join (target.filled filling false) (condition.filled filling false)
      (direction.filled filling false)
  | .restrictJoin connector target arguments =>
    .restrictJoin connector (target.filled filling false) (filledCondition filling arguments)
  | .orderBy column direction ranking =>
    .orderBy (column.filled filling false) (direction.filled filling false)
      (ranking.map (Value.filled filling true))
  | .groupBy columns => .groupBy (columns.map (Value.filled filling false))
  | .limit values => .limit (values.map (Value.filled filling false))
  | .options chosen => .options (chosen.map (Value.filled filling false))
  | .onDuplicate columns insertIdColumn => .onDuplicate columns insertIdColumn
  | .requestTotal => .requestTotal

variable (filling : Filling)

theorem Value.rowItems?_fill (value : Value) : (value.filled filling true).rowItems? =
    value.rowItems?.map (List.map (Value.filled filling true)) := by
  cases value with
  | list items | tuple items => simp [Value.filled, rowItems?]
  | text name =>
    have scalar := filling.scalar name
    change (filling.fill name).rowItems? = none
    cases put : filling.fill name with
    | list | tuple => simp [put, isScalar] at scalar
    | _ => rfl
  | _ => rfl

theorem Value.collectedItems?_fill (value : Value) : (value.filled filling true).collectedItems? =
    value.collectedItems?.map (List.map (Value.filled filling true)) := by
  cases value with
  | list items | tuple items | set _ items => simp [Value.filled, collectedItems?, rowItems?]
  | text name =>
    have scalar := filling.scalar name
    change (filling.fill name).collectedItems? = none
    cases put : filling.fill name with
    | list | tuple | set => simp [put, isScalar] at scalar
    | _ => rfl
  | _ => rfl

/-- A lone value that stands for its items does so before and after. -/
theorem spread_fill {spread : List Value → List Value} {items? : Value → Option (List Value)}
    (empty : spread [] = []) (single : ∀ value, spread [value] = (items? value).getD [value])
    (several : ∀ first second rest, spread (first :: second :: rest) = first :: second :: rest)
    (commutes : ∀ value : Value, items? (value.filled filling true) =
      (items? value).map (List.map (Value.filled filling true)))
    (values : List Value) : spread (values.map (Value.filled filling true)) =
      (spread values).map (Value.filled filling true) := by
  match values with
  | [] => rw [List.map_nil, empty, List.map_nil]
  | [value] =>
    rw [List.map_singleton, single, single, commutes]
    cases items? value <;> rfl
  | first :: second :: rest => rw [several, List.map_cons, List.map_cons, several]

theorem spreadRow_fill (values : List Value) :
    spreadRow (values.map (Value.filled filling true)) =
      (spreadRow values).map (Value.filled filling true) :=
  spread_fill filling rfl spreadRow_single spreadRow_several (Value.rowItems?_fill filling) values

theorem spreadCollection_fill (values : List Value) :
    spreadCollection (values.map (Value.filled filling true)) =
      (spreadCollection values).map (Value.filled filling true) :=
  spread_fill filling rfl spreadCollection_single spreadCollection_several
    (Value.collectedItems?_fill filling) values

namespace ConditionBody

theorem existenceOf_follows (subquery : Subquery) (terms : List Value) :
    Follows (ConditionBody.filled filling) (existenceOf subquery terms)
      (existenceOf (subquery.filled filling) (terms.map (Value.filled filling false))) := by
  match terms with
  | [] => exact .failure rfl
  | [operator] =>
    cases operator with
    | text name =>
      simp only [List.map_cons, List.map_nil, Value.filled, Bool.false_eq_true, if_false,
        existenceOf]
      split
      · exact .success _
      · exact .success _
      · exact .failure rfl
    | _ => exact .failure rfl
  | first :: _ :: _ => cases first <;> exact .failure rfl

theorem rangeOf_follows (column : String) (negated : Bool) (values : List Value) :
    Follows (ConditionBody.filled filling) (rangeOf column negated values)
      (rangeOf column negated (values.map (Value.filled filling true))) := by
  unfold rangeOf
  rw [spreadRow_fill]
  match spreadRow values with
  | [] | [_] | _ :: _ :: _ :: _ => exact .failure rfl
  | [low, high] =>
    refine .of_eq ?_
    rw [ConditionBody.filled, Value.asExpression_fill, Value.asExpression_fill]

theorem membershipOf_follows (column : String) (negated : Bool) (values : List Value) :
    Follows (ConditionBody.filled filling) (membershipOf column negated values)
      (membershipOf column negated (values.map (Value.filled filling true))) := by
  unfold membershipOf
  rw [spreadCollection_fill]
  cases spreadCollection values with
  | nil => exact .failure rfl
  | cons operand rest =>
    refine .of_eq ?_
    simp [ConditionBody.filled, Value.asExpression_fill]

theorem operatorOf_follows (column operator : String) (values : List Value) :
    Follows (ConditionBody.filled filling) (operatorOf column operator values)
      (operatorOf column operator (values.map (Value.filled filling true))) := by
  unfold operatorOf
  split
  · exact rangeOf_follows filling column false values
  · exact rangeOf_follows filling column true values
  · exact membershipOf_follows filling column false values
  · exact membershipOf_follows filling column true values
  · match values with
    | [] | _ :: _ :: _ => exact .failure rfl
    | [value] =>
      refine .of_eq ?_
      rw [ConditionBody.filled, Value.asExpression_fill]

theorem columnOf_follows (column : String) (terms : List Value) :
    Follows (ConditionBody.filled filling) (columnOf column terms)
      (columnOf column (filledTerms filling column terms)) := by
  match terms with
  | [] => exact .success (ConditionBody.raw column [])
  | [value] =>
    simp only [filledTerms, columnOf]
    split
    · exact .success (ConditionBody.raw column [value])
    · refine .of_eq ?_
      rw [ConditionBody.filled, Value.asExpression_fill]
  | operator :: value :: rest =>
    by_cases written : 0 < Placeholder.count column
    · simp only [filledTerms, columnOf, written, decide_true, if_true]
      refine .of_eq ?_
      simp [ConditionBody.filled]
    · simp only [filledTerms, columnOf, written, decide_false, if_false]
      cases operator with
      | text name =>
        simp only [Value.filled, Bool.false_eq_true, if_false, List.map_cons]
        split
        · exact .failure rfl
        · exact operatorOf_follows filling column name (value :: rest)
      | _ => exact .failure rfl

theorem build_of_other {head : Value} (terms : List Value) (unnamed : head.asText? = none)
    (alone : head.asSubquery? = none) :
    build (head :: terms) = .error (.invalidConditionColumn head.shown) := by
  unfold build
  split
  · rename_i same
    cases same
  · rename_i same
    cases same
    cases alone
  · rename_i same
    cases same
    cases unnamed
  · rename_i same
    cases same
    rfl

theorem build_refused {head : Value} (terms : List Value) (unnamed : head.asText? = none)
    (alone : head.asSubquery? = none) :
    Follows (ConditionBody.filled filling) (build (head :: terms))
      (build ((head :: terms).map (Value.filled filling false))) := by
  have apart : (head.filled filling false).asSubquery? = none := by
    rw [Value.asSubquery?_fill, alone]
    rfl
  rw [List.map_cons, build_of_other terms unnamed alone,
    build_of_other _ (by rw [Value.asText?_fill, unnamed]) apart]
  exact .failure rfl

theorem build_follows (arguments : List Value) :
    Follows (ConditionBody.filled filling) (build arguments)
      (build (filledCondition filling arguments)) := by
  cases arguments with
  | nil => exact .failure rfl
  | cons head terms =>
    cases head with
    | text column =>
      simp only [filledCondition, build]
      split
      · exact .failure rfl
      · exact columnOf_follows filling column terms
    | expression inner =>
      cases inner with
      | subquery subquery => exact existenceOf_follows filling subquery terms
      | _ => exact build_refused filling terms rfl rfl
    | _ => exact build_refused filling terms rfl rfl

end ConditionBody

theorem Condition.build_follows (connector : Connector) (arguments : List Value) :
    Follows (Condition.filled filling) (Condition.build connector arguments)
      (Condition.build connector (filledCondition filling arguments)) :=
  (ConditionBody.build_follows filling arguments).map fun _ => rfl

/-! Joins, orderings and the rest. -/

theorem Value.isTrue_fill (value : Value) : (value.filled filling false).isTrue = value.isTrue := by
  cases value with
  | list | tuple | set | mapping => simp [Value.filled, Value.isTrue]
  | _ => rfl

theorem fitText_fill (value : Value) : fitText (value.filled filling false) = fitText value := by
  cases value <;> rfl

theorem fitNamed_text_fill (name : String) (value : Value) :
    fitNamed name .text (value.filled filling false) = fitNamed name .text value := by
  unfold fitNamed
  rw [fit, fit, fitText_fill]

theorem JoinTarget.ofValue_of_other {target : Value} (unnamed : target.asText? = none)
    (alone : target.asSubquery? = none) :
    JoinTarget.ofValue target = .error (.invalidJoinTarget target.shown) := by
  unfold JoinTarget.ofValue
  split
  · cases alone
  · cases unnamed
  · rfl

theorem JoinTarget.ofValue_refused {target : Value} (unnamed : target.asText? = none)
    (alone : target.asSubquery? = none) :
    Follows (JoinTarget.filled filling) (JoinTarget.ofValue target)
      (JoinTarget.ofValue (target.filled filling false)) := by
  have apart : (target.filled filling false).asSubquery? = none := by
    rw [Value.asSubquery?_fill, alone]
    rfl
  rw [JoinTarget.ofValue_of_other unnamed alone,
    JoinTarget.ofValue_of_other (by rw [Value.asText?_fill, unnamed]) apart]
  exact .failure rfl

theorem JoinTarget.ofValue_follows (target : Value) :
    Follows (JoinTarget.filled filling) (JoinTarget.ofValue target)
      (JoinTarget.ofValue (target.filled filling false)) := by
  cases target with
  | text name =>
    simp only [Value.filled, Bool.false_eq_true, if_false, JoinTarget.ofValue]
    split
    · exact .failure rfl
    · exact .success _
  | expression inner =>
    cases inner with
    | subquery subquery =>
      simp only [Value.filled, Expression.filled, JoinTarget.ofValue, Subquery.derivedName_fill]
      split
      · exact .failure rfl
      · exact .success _
    | _ => exact ofValue_refused filling rfl rfl
  | _ => exact ofValue_refused filling rfl rfl

theorem JoinDirection.ofValue_fill (direction : Value) :
    JoinDirection.ofValue (direction.filled filling false) = JoinDirection.ofValue direction := by
  unfold JoinDirection.ofValue
  rw [Value.asText?_fill]

theorem joinConditionOf_fill (condition : Value) :
    joinConditionOf (condition.filled filling false) = joinConditionOf condition := by
  unfold joinConditionOf
  rw [Value.isTrue_fill, fitNamed_text_fill]

theorem Join.insert_fill (join : Join) (joins : List Join) :
    Join.insert (join.filled filling) (joins.map (Join.filled filling)) =
      (Join.insert join joins).map (Join.filled filling) := by
  induction joins with
  | nil => rfl
  | cons other rest ih =>
    simp only [List.map_cons, Join.insert, Join.key_fill]
    split
    · rfl
    · rw [ih, List.map_cons]

theorem joinKeyOf_fill (target : Value) :
    joinKeyOf (target.filled filling false) = joinKeyOf target := by
  cases target with
  | expression inner =>
    cases inner with
    | subquery subquery => exact subquery.derivedName_fill filling
    | _ => rfl
  | _ => rfl

theorem orderDirectionOf_follows (direction : Value) :
    Follows id (orderDirectionOf direction) (orderDirectionOf (direction.filled filling false)) := by
  cases direction with
  | null | text | octets => exact .same _
  | _ => exact .failure rfl

theorem isCount_fill (value : Value) : isCount (value.filled filling false) = isCount value := by
  cases value <;> rfl

theorem filled_of_isCount (value : Value) (counts : isCount value) :
    value.filled filling false = value := by
  cases value with
  | integer => rfl
  | _ => cases counts

theorem queryOption?_fill (option : Value) :
    queryOption? (option.filled filling false) = queryOption? option := by
  unfold queryOption?
  rw [Value.asText?_fill]

namespace Clauses

variable (clauses : Clauses)

theorem restrict_follows (connector : Connector) (arguments : List Value) :
    Follows (Clauses.filled filling) (clauses.restrict connector arguments)
      ((clauses.filled filling).restrict connector (filledCondition filling arguments)) := by
  refine (Condition.build_follows filling connector arguments).bind fun condition _ => .of_eq ?_
  simp [fill_eq]

theorem restrictGroups_follows (connector : Connector) (arguments : List Value) :
    Follows (Clauses.filled filling) (clauses.restrictGroups connector arguments)
      ((clauses.filled filling).restrictGroups connector (filledCondition filling arguments)) := by
  refine (Condition.build_follows filling connector arguments).bind fun condition _ => .of_eq ?_
  simp [fill_eq]

theorem join_follows (target condition direction : Value) :
    Follows (Clauses.filled filling) (clauses.join target condition direction)
      ((clauses.filled filling).join (target.filled filling false) (condition.filled filling false)
        (direction.filled filling false)) := by
  unfold join
  rw [JoinDirection.ofValue_fill, joinConditionOf_fill]
  refine (Follows.same _).bind fun direction _ => ?_
  refine (JoinTarget.ofValue_follows filling target).bind fun target _ => ?_
  refine (Follows.same _).bind fun condition _ => .of_eq ?_
  rw [fill_eq, fill_eq]
  have inserted := Join.insert_fill filling ⟨direction, target, condition, []⟩ clauses.joins
  dsimp only
  rw [← inserted]
  rfl

theorem findJoin?_fill (target : Value) :
    (clauses.filled filling).findJoin? (target.filled filling false) =
      (clauses.findJoin? target).map (Join.filled filling) := by
  unfold findJoin?
  rw [joinKeyOf_fill, fill_eq]
  cases joinKeyOf target with
  | none => rfl
  | some key =>
    simp only [List.find?_map, Function.comp_def, Join.key_fill]
    rfl

theorem restrictJoin_follows (connector : Connector) (target : Value) (arguments : List Value) :
    Follows (Clauses.filled filling) (clauses.restrictJoin connector target arguments)
      ((clauses.filled filling).restrictJoin connector (target.filled filling false)
        (filledCondition filling arguments)) := by
  unfold restrictJoin
  rw [findJoin?_fill]
  cases clauses.findJoin? target with
  | none => exact .failure rfl
  | some found =>
    refine (Condition.build_follows filling connector arguments).bind fun condition _ => .of_eq ?_
    rw [fill_eq, fill_eq]
    dsimp only
    rw [← Join.insert_fill]
    obtain ⟨direction, joined, base, conditions⟩ := found
    simp [Join.filled]

theorem orderBy_follows (column direction : Value) (ranking : List Value) :
    Follows (Clauses.filled filling) (clauses.orderBy column direction ranking)
      ((clauses.filled filling).orderBy (column.filled filling false)
        (direction.filled filling false) (ranking.map (Value.filled filling true))) := by
  cases column with
  | text name =>
    simp only [Value.filled, Bool.false_eq_true, if_false, orderBy]
    split
    · exact .failure rfl
    · refine (orderDirectionOf_follows filling direction).bind fun direction _ => .of_eq ?_
      simp [fill_eq, Order.filled]
  | _ => exact .failure rfl

theorem limitTo_follows (values : List Value) :
    Follows (Clauses.filled filling) (clauses.limitTo values)
      ((clauses.filled filling).limitTo (values.map (Value.filled filling false))) := by
  unfold limitTo
  have same : (values.map (Value.filled filling false)).all isCount = values.all isCount := by
    rw [List.all_map]
    exact congrArg values.all (funext (isCount_fill filling))
  rw [List.length_map, same]
  split
  · rename_i accepted
    have kept : values.map (Value.filled filling false) = values := by
      refine (List.map_congr_left fun value member => ?_).trans (List.map_id values)
      have counts := List.all_eq_true.mp (Bool.and_eq_true_iff.mp accepted).2 value member
      exact filled_of_isCount filling value counts
    rw [kept]
    refine .of_eq ?_
    rw [fill_eq, fill_eq]
  · exact .failure rfl

theorem onDuplicate_follows (columns insertIdColumn : Value) :
    Follows (Clauses.filled filling) (clauses.onDuplicate columns insertIdColumn)
      ((clauses.filled filling).onDuplicate columns insertIdColumn) := by
  refine (Follows.same columns.items).bind fun names _ => .of_eq ?_
  rw [fill_eq, fill_eq]
  rfl

theorem addOption_follows (option : Value) :
    Follows (Clauses.filled filling) (clauses.addOption option)
      ((clauses.filled filling).addOption (option.filled filling false)) := by
  unfold addOption
  rw [queryOption?_fill]
  cases queryOption? option with
  | none => exact .failure rfl
  | some keyword =>
    rw [fill_eq]
    dsimp only
    split
    · exact .of_eq (by rw [fill_eq])
    · exact .of_eq (by rw [fill_eq])

end Clauses

structure ClausesFollow (first second : Except Error Unit × Clauses) : Prop where
  outcome : Follows id first.1 second.1
  clauses : second.2 = first.2.filled filling

theorem ClauseCall.settle_follows {clauses : Clauses} {first second : Except Error Clauses}
    (followed : Follows (Clauses.filled filling) first second) :
    ClausesFollow filling (settle clauses first) (settle (clauses.filled filling) second) := by
  cases followed with
  | success changed => exact ⟨.success (), rfl⟩
  | failure same => exact ⟨.failure same, rfl⟩

theorem Clauses.addOptions_follows (chosen : List Value) (clauses : Clauses) :
    ClausesFollow filling (Clauses.addOptions chosen clauses)
      (Clauses.addOptions (chosen.map (Value.filled filling false)) (clauses.filled filling)) := by
  induction chosen generalizing clauses with
  | nil => exact ⟨.success (), rfl⟩
  | cons option rest ih =>
    have first := clauses.addOption_follows filling option
    simp only [List.map_cons, Clauses.addOptions]
    generalize clauses.addOption option = added at first
    generalize (clauses.filled filling).addOption (option.filled filling false) = other at first
    cases first with
    | success extended => exact ih extended
    | failure same => exact ⟨.failure same, rfl⟩

theorem ClauseCall.apply_follows (call : ClauseCall) (clauses : Clauses) :
    ClausesFollow filling (call.apply clauses)
      ((call.filled filling).apply (clauses.filled filling)) := by
  cases call with
  | table names => exact ⟨.success (), by simp [ClauseCall.filled, apply, Clauses.table, Clauses.fill_eq]⟩
  | restrict connector arguments =>
    exact settle_follows filling (clauses.restrict_follows filling connector arguments)
  | restrictGroups connector arguments =>
    exact settle_follows filling (clauses.restrictGroups_follows filling connector arguments)
  | join target condition direction =>
    exact settle_follows filling (clauses.join_follows filling target condition direction)
  | restrictJoin connector target arguments =>
    exact settle_follows filling (clauses.restrictJoin_follows filling connector target arguments)
  | orderBy column direction ranking =>
    exact settle_follows filling (clauses.orderBy_follows filling column direction ranking)
  | groupBy columns =>
    exact ⟨.success (), by simp [ClauseCall.filled, apply, Clauses.groupBy, Clauses.fill_eq]⟩
  | limit values => exact settle_follows filling (clauses.limitTo_follows filling values)
  | options chosen => exact Clauses.addOptions_follows filling chosen clauses
  | onDuplicate columns insertIdColumn =>
    exact settle_follows filling (clauses.onDuplicate_follows filling columns insertIdColumn)
  | requestTotal =>
    exact ⟨.success (), by simp [ClauseCall.filled, apply, Clauses.requestTotal, Clauses.fill_eq]⟩

end Querywright
