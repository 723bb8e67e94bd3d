import Querywright.Condition
import Querywright.Proofs.FailureFamilies
import Querywright.Proofs.Outcome

/-! Conditions as they are built and as they are read. A condition is read field by field, and the
reading trusts its form, operator and operands to fit one another; every way of building a
condition makes them fit, so that a built one fails only where an operand fails. The short forms of
a condition are built like the long ones. -/
namespace Querywright

/-- The families in which loose arguments are refused. -/
def conditionRefusals : List ErrorFamily :=
  [.columnNotSpecified, .invalidBetween, .emptyInList, .invalidCondition]

def Value.rowItems? : Value → Option (List Value)
  | .list items | .tuple items => some items
  | _ => none

def Value.collectedItems? : Value → Option (List Value)
  | .set _ items => some items
  | value => value.rowItems?

theorem spreadRow_single (value : Value) : spreadRow [value] = value.rowItems?.getD [value] := by
  cases value <;> rfl

theorem spreadRow_several (first second : Value) (rest : List Value) :
    spreadRow (first :: second :: rest) = first :: second :: rest := by
  cases first <;> rfl

theorem spreadCollection_single (value : Value) :
    spreadCollection [value] = value.collectedItems?.getD [value] := by
  cases value <;> rfl

theorem spreadCollection_several (first second : Value) (rest : List Value) :
    spreadCollection (first :: second :: rest) = first :: second :: rest := by
  cases first <;> rfl

/-- What an operator takes of the values behind it. -/
def spreadBehind (operator : String) (values : List Value) : List Value :=
  if isRangeOperator operator then spreadRow values
  else if isMembershipOperator operator then spreadCollection values
  else values

/-- The number of operands that the reading of a column with an operator counts on. -/
def OperandsCounted (operator : String) (count : Nat) : Prop :=
  if isRangeOperator operator then count = 2
  else if isMembershipOperator operator then 0 < count
  else count = 1

/-- The failure of an operand: that of its text, or alone behind a column that of the pattern by
which it writes itself there. Such an operand has no text of its own either. -/
def Expression.FailsBehind (operand : Expression) (column : String) (reason : Error) : Prop :=
  operand.text = .error reason ∨
    (∃ write, operand.around? = some write ∧ write column = .error reason) ∧
      ∃ other, operand.text = .error other

theorem Expression.text_of_around {operand : Expression} {write : String → Except Error String}
    (around : operand.around? = some write) : operand.text = .error .timestampAlone := by
  cases operand <;> first | rfl | cases around

theorem isRangeOperator_rangeOperator (negated : Bool) :
    isRangeOperator (rangeOperator negated) = true := by
  cases negated <;> decide

theorem isRangeOperator_membershipOperator (negated : Bool) :
    isRangeOperator (membershipOperator negated) = false := by
  cases negated <;> decide

theorem isMembershipOperator_membershipOperator (negated : Bool) :
    isMembershipOperator (membershipOperator negated) = true := by
  cases negated <;> decide

theorem isRangeOperator_iff {operator : String} :
    isRangeOperator operator = true ↔ ∃ negated, operator = rangeOperator negated := by
  simp only [isRangeOperator, Bool.or_eq_true, beq_iff_eq, Bool.exists_bool, rangeOperator]
  rfl

theorem isMembershipOperator_iff {operator : String} :
    isMembershipOperator operator = true ↔ ∃ negated, operator = membershipOperator negated := by
  simp only [isMembershipOperator, Bool.or_eq_true, beq_iff_eq, Bool.exists_bool,
    membershipOperator]
  rfl

theorem ne_of_not_range {operator : String} (unranged : isRangeOperator operator = false) :
    operator ≠ "BETWEEN" ∧ operator ≠ "NOT BETWEEN" := by
  simpa [isRangeOperator] using unranged

theorem ne_of_not_membership {operator : String} (unlisted : isMembershipOperator operator = false) :
    operator ≠ "IN" ∧ operator ≠ "NOT IN" := by
  simpa [isMembershipOperator] using unlisted

/-- An operator asks for a range, for membership, or compares. -/
theorem operator_cases (operator : String) :
    (∃ negated, operator = rangeOperator negated) ∨
      (∃ negated, operator = membershipOperator negated) ∨
        isRangeOperator operator = false ∧ isMembershipOperator operator = false := by
  by_cases range : isRangeOperator operator = true
  · exact .inl (isRangeOperator_iff.mp range)
  by_cases membership : isMembershipOperator operator = true
  · exact .inr (.inl (isMembershipOperator_iff.mp membership))
  · exact .inr (.inr ⟨Bool.eq_false_iff.mpr range, Bool.eq_false_iff.mpr membership⟩)

section Taking

variable {operator : String} {values : List Value} {count : Nat} (negated : Bool)

theorem spreadBehind_range : spreadBehind (rangeOperator negated) values = spreadRow values := by
  rw [spreadBehind, if_pos (isRangeOperator_rangeOperator negated)]

theorem spreadBehind_membership :
    spreadBehind (membershipOperator negated) values = spreadCollection values := by
  rw [spreadBehind, isRangeOperator_membershipOperator, if_neg Bool.false_ne_true,
    if_pos (isMembershipOperator_membershipOperator negated)]

theorem operandsCounted_range : OperandsCounted (rangeOperator negated) count ↔ count = 2 := by
  rw [OperandsCounted, if_pos (isRangeOperator_rangeOperator negated)]

theorem operandsCounted_membership :
    OperandsCounted (membershipOperator negated) count ↔ 0 < count := by
  rw [OperandsCounted, isRangeOperator_membershipOperator, if_neg Bool.false_ne_true,
    if_pos (isMembershipOperator_membershipOperator negated)]

variable (unranged : isRangeOperator operator = false)
  (unlisted : isMembershipOperator operator = false)

include unranged unlisted in
theorem spreadBehind_comparison : spreadBehind operator values = values := by
  rw [spreadBehind, unranged, unlisted, if_neg Bool.false_ne_true, if_neg Bool.false_ne_true]

include unranged unlisted in
theorem operandsCounted_comparison : OperandsCounted operator count ↔ count = 1 := by
  rw [OperandsCounted, unranged, unlisted, if_neg Bool.false_ne_true, if_neg Bool.false_ne_true]

end Taking

section Operands

variable {reason : Error} (operands : List Expression)

theorem valuesOfOperands_expressions :
    Value.valuesOfOperands (operands.map Value.expression) = Expression.valuesOfAll operands := by
  induction operands with
  | nil => rfl
  | cons operand rest ih => rw [List.map_cons, Value.valuesOfOperands, Expression.valuesOfAll, ih]

theorem operandTexts_expressions :
    Value.operandTexts (operands.map Value.expression) = Expression.textsOfAll operands := by
  induction operands with
  | nil => rfl
  | cons operand rest ih =>
    rw [List.map_cons, Value.operandTexts, Value.operandText, Expression.textsOfAll, ih]

theorem asExpressions_expressions :
    (operands.map Value.expression).filterMap Value.asExpression? = operands := by
  rw [List.filterMap_map]
  exact List.filterMap_some

variable {operands}

theorem valuesOfAll_failure (failed : Expression.valuesOfAll operands = .error reason) :
    ∃ operand ∈ operands, operand.values = .error reason := by
  induction operands with
  | nil => cases failed
  | cons operand rest ih =>
    rw [Expression.valuesOfAll] at failed
    rcases bind_failure failed with first | ⟨values, _, failed⟩
    · exact ⟨operand, by simp, first⟩
    rcases bind_failure failed with later | ⟨others, _, done⟩
    · obtain ⟨other, present, found⟩ := ih later
      exact ⟨other, by simp [present], found⟩
    · cases done

theorem textsOfAll_failure (failed : Expression.textsOfAll operands = .error reason) :
    ∃ operand ∈ operands, operand.text = .error reason := by
  induction operands with
  | nil => cases failed
  | cons operand rest ih =>
    rw [Expression.textsOfAll] at failed
    rcases bind_failure failed with first | ⟨text, _, failed⟩
    · exact ⟨operand, by simp, first⟩
    rcases bind_failure failed with later | ⟨others, _, done⟩
    · obtain ⟨other, present, found⟩ := ih later
      exact ⟨other, by simp [present], found⟩
    · cases done

theorem operand_of_loneAround {write : String → Except Error String}
    (around : loneAround? operands = some write) :
    ∃ operand, operands = [operand] ∧ operand.around? = some write := by
  match operands with
  | [operand] => exact ⟨operand, rfl, around⟩
  | [] | _ :: _ :: _ => cases around

theorem valuesOfAll_lone (operand : Expression) :
    Expression.valuesOfAll [operand] = operand.values := by
  rw [Expression.valuesOfAll]
  cases operand.values with
  | error reason => rfl
  | ok values => exact congrArg Except.ok values.append_nil

theorem textsOfAll_lone (operand : Expression) :
    Expression.textsOfAll [operand] = operand.text.map ([·]) := by
  rw [Expression.textsOfAll]
  cases operand.text <;> rfl

theorem operandsText_range (negated : Bool) (low high : Value) (texts first) :
    Value.operandsText (rangeOperator negated) [low, high] texts first =
      texts.map (" AND ".intercalate ·) := by
  rw [Value.operandsText, if_pos (isRangeOperator_rangeOperator negated)]
  rfl

theorem operandsText_membership (negated : Bool) (operands : List Expression) (texts first) :
    Value.operandsText (membershipOperator negated) (operands.map Value.expression) texts first =
      texts.map fun texts =>
        if isLoneSubquery operands then ", ".intercalate texts
        else "(" ++ ", ".intercalate texts ++ ")" := by
  have lone : (isLoneSubquery operands && operands.length == 1) = isLoneSubquery operands := by
    match operands with
    | [_] => exact Bool.and_true _
    | [] | _ :: _ :: _ => rfl
  rw [Value.operandsText, isRangeOperator_membershipOperator, asExpressions_expressions,
    List.length_map, lone, if_neg Bool.false_ne_true,
    if_pos (isMembershipOperator_membershipOperator negated)]
  cases texts <;> rfl

theorem operandsText_comparison {operator : String} (unranged : isRangeOperator operator = false)
    (unlisted : isMembershipOperator operator = false) (operands : List Value) (texts first) :
    Value.operandsText operator operands texts first = first := by
  rw [Value.operandsText, unranged, unlisted, if_neg Bool.false_ne_true,
    if_neg Bool.false_ne_true]

theorem operandsText_failure {operator : String} (counted : OperandsCounted operator operands.length)
    (failed : Value.operandsText operator (operands.map Value.expression)
      (Expression.textsOfAll operands)
      (Value.firstOperandText (operands.map Value.expression)) = .error reason) :
    ∃ operand ∈ operands, operand.text = .error reason := by
  obtain ⟨negated, rfl⟩ | ⟨negated, rfl⟩ | ⟨unranged, unlisted⟩ := operator_cases operator
  · obtain ⟨low, high, rfl⟩ := List.length_eq_two.mp ((operandsCounted_range negated).mp counted)
    simp only [List.map_cons, List.map_nil] at failed
    rw [operandsText_range] at failed
    exact textsOfAll_failure (map_failure failed)
  · rw [operandsText_membership] at failed
    exact textsOfAll_failure (map_failure failed)
  · obtain ⟨operand, rfl⟩ :=
      List.length_eq_one_iff.mp ((operandsCounted_comparison unranged unlisted).mp counted)
    rw [operandsText_comparison unranged unlisted] at failed
    exact ⟨operand, by simp, failed⟩

end Operands

namespace ConditionBody

/-- The body as it is read, field by field. -/
def loosened (body : ConditionBody) : ConditionBody :=
  .loose body.form body.rawText body.rawArguments body.column body.operator body.operands

/-- The fields of a body fit one another: its operands are expressions, as many as its form and
operator count on, and what is read from the fields is what the body is written as. -/
structure Fits (body : ConditionBody) : Prop where
  resolved : ∃ operands : List Expression, body.operands = operands.map Value.expression
  alone : body.form = .existence → body.operands.length = 1
  counted : body.form = .column → OperandsCounted body.operator body.operands.length
  written : body.loosened.text = body.text

variable {column operator : String} {values : List Value} {body : ConditionBody} {reason : Error}

theorem loosened_values (body : ConditionBody) : body.loosened.values = body.values := by
  cases body with
  | raw text arguments => rfl
  | comparison column operator operand =>
    exact (valuesOfOperands_expressions [operand]).trans (valuesOfAll_lone operand)
  | range column negated low high =>
    refine (valuesOfOperands_expressions [low, high]).trans ?_
    rw [Expression.valuesOfAll, valuesOfAll_lone]
    rfl
  | membership column negated operands => exact valuesOfOperands_expressions operands
  | existence negated subquery =>
    exact (valuesOfOperands_expressions [.subquery subquery]).trans (valuesOfAll_lone _)
  | loose form raw rawArguments column operator operands => cases form <;> rfl

section Reading

variable {write : String → Except Error String} (raw : String) (rawArguments : List Value)
  (operands : List Expression)

theorem loose_text_alone (around : loneAround? operands = some write) :
    (loose .column raw rawArguments column operator (operands.map Value.expression)).text =
      write column := by
  obtain ⟨operand, rfl, alone⟩ := operand_of_loneAround around
  simp only [ConditionBody.text, asExpressions_expressions, List.length_map, around,
    List.length_singleton]

theorem loose_text_beside (plain : loneAround? operands = none) :
    (loose .column raw rawArguments column operator (operands.map Value.expression)).text =
      (Value.operandsText operator (operands.map Value.expression) (Expression.textsOfAll operands)
        (Value.firstOperandText (operands.map Value.expression))).map
          (column ++ " " ++ operator ++ " " ++ ·) := by
  simp only [ConditionBody.text, asExpressions_expressions, operandTexts_expressions, plain]
  cases Value.operandsText operator (operands.map Value.expression)
    (Expression.textsOfAll operands) (Value.firstOperandText (operands.map Value.expression)) <;> rfl

end Reading

theorem raw_fits (text : String) (arguments : List Value) : (raw text arguments).Fits where
  resolved := ⟨[], rfl⟩
  alone := nofun
  counted := nofun
  written := rfl

theorem existence_fits (negated : Bool) (subquery : Subquery) : (existence negated subquery).Fits where
  resolved := ⟨[.subquery subquery], rfl⟩
  alone _ := rfl
  counted := nofun
  written := by
    simp only [loosened, form, ConditionBody.operator, operands, ConditionBody.text,
      Value.firstOperandText, Value.operandText, Expression.text]
    cases subquery.rendered with
    | error reason => rfl
    | ok fragment =>
      exact congrArg Except.ok (by simp [String.ext_iff])

theorem comparison_fits (unranged : isRangeOperator operator = false)
    (unlisted : isMembershipOperator operator = false) (operand : Expression) :
    (comparison column operator operand).Fits where
  resolved := ⟨[operand], rfl⟩
  alone := nofun
  counted _ := (operandsCounted_comparison unranged unlisted).mpr rfl
  written := by
    rw [ConditionBody.text]
    cases around : operand.around? with
    | some write => exact loose_text_alone "" [] [operand] around
    | none =>
      refine (loose_text_beside "" [] [operand] around).trans ?_
      simp only [ConditionBody.operator, ConditionBody.column]
      rw [operandsText_comparison unranged unlisted, List.map_cons, Value.firstOperandText,
        Value.operandText]
      cases operand.text <;> rfl

theorem range_fits (negated : Bool) (low high : Expression) : (range column negated low high).Fits where
  resolved := ⟨[low, high], rfl⟩
  alone := nofun
  counted _ := (operandsCounted_range negated).mpr rfl
  written := by
    refine (loose_text_beside "" [] [low, high] rfl).trans ?_
    simp only [List.map_cons, List.map_nil, ConditionBody.operator, ConditionBody.column]
    rw [ConditionBody.text, operandsText_range, Expression.textsOfAll, textsOfAll_lone]
    cases low.text with
    | error reason => rfl
    | ok first =>
      cases high.text with
      | error reason => rfl
      | ok second =>
        exact congrArg Except.ok (by
          simp [String.ext_iff])

theorem membership_fits (negated : Bool) {operands : List Expression} (some : operands ≠ []) :
    (membership column negated operands).Fits where
  resolved := ⟨operands, rfl⟩
  alone := nofun
  counted _ := (operandsCounted_membership negated).mpr
    (by simpa [ConditionBody.operands] using List.length_pos_iff.mpr some)
  written := by
    rw [ConditionBody.text]
    cases around : loneAround? operands with
    | some write => exact loose_text_alone "" [] operands around
    | none =>
      refine (loose_text_beside "" [] operands around).trans ?_
      simp only [ConditionBody.operator, ConditionBody.column]
      rw [operandsText_membership]
      cases Expression.textsOfAll operands <;> rfl

/-- A body behind a column has the column, the operator and the values it took in its fields. -/
structure Reads (column operator : String) (values : List Value) (body : ConditionBody) : Prop
    extends body.Fits where
  form_eq : body.form = .column
  column_eq : body.column = column
  operator_eq : body.operator = operator
  operands_eq : body.operands = values.map fun value => .expression value.asExpression

/-- Building gives a body of a kind, or refuses in one of the four families. -/
inductive Yields (kind : ConditionBody → Prop) : Except Error ConditionBody → Prop where
  | built {body : ConditionBody} (known : kind body) : Yields kind (.ok body)
  | refused {reason : Error} (known : reason.family ∈ conditionRefusals) :
      Yields kind (.error reason)

namespace Yields

variable {kind other : ConditionBody → Prop} {outcome : Except Error ConditionBody}

theorem mono (weaker : ∀ body, kind body → other body) (yields : Yields kind outcome) :
    Yields other outcome := by
  cases yields with
  | built known => exact .built (weaker _ known)
  | refused known => exact .refused known

theorem of_success (yields : Yields kind outcome) (built : outcome = .ok body) : kind body := by
  subst built
  cases yields with
  | built known => exact known

end Yields

theorem comparison_reads (unranged : isRangeOperator operator = false)
    (unlisted : isMembershipOperator operator = false) (value : Value) :
    (comparison column operator value.asExpression).Reads column operator [value] where
  toFits := comparison_fits unranged unlisted value.asExpression
  form_eq := rfl
  column_eq := rfl
  operator_eq := rfl
  operands_eq := rfl

theorem rangeOf_yields (column : String) (negated : Bool) (values : List Value) :
    Yields (Reads column (rangeOperator negated) (spreadRow values))
      (rangeOf column negated values) := by
  rw [rangeOf]
  split
  · rename_i low high taken
    rw [taken]
    exact .built ⟨range_fits negated _ _, rfl, rfl, rfl, rfl⟩
  · exact .refused (by simp [conditionRefusals, Error.family])

theorem membershipOf_yields (column : String) (negated : Bool) (values : List Value) :
    Yields (Reads column (membershipOperator negated) (spreadCollection values))
      (membershipOf column negated values) := by
  rw [membershipOf]
  split
  · exact .refused (by simp [conditionRefusals, Error.family])
  · rename_i some
    exact .built ⟨membership_fits negated (by simpa using some), rfl, rfl, rfl,
      by rw [ConditionBody.operands, List.map_map]; rfl⟩

theorem operatorOf_range {negated : Bool} (known : Text.keyword operator = rangeOperator negated) :
    operatorOf column operator values = rangeOf column negated values := by
  rw [operatorOf, known]
  cases negated <;> rfl

theorem operatorOf_membership {negated : Bool}
    (known : Text.keyword operator = membershipOperator negated) :
    operatorOf column operator values = membershipOf column negated values := by
  rw [operatorOf, known]
  cases negated <;> rfl

section Comparing

variable (unranged : isRangeOperator (Text.keyword operator) = false)
  (unlisted : isMembershipOperator (Text.keyword operator) = false)

include unranged unlisted in
/-- Any other operator compares the column with a single value. -/
theorem operatorOf_lone (value : Value) : operatorOf column operator [value] =
    .ok (.comparison column (Text.keyword operator) value.asExpression) := by
  obtain ⟨_, _⟩ := ne_of_not_range unranged
  obtain ⟨_, _⟩ := ne_of_not_membership unlisted
  simp only [operatorOf]

include unranged unlisted in
theorem operatorOf_comparison :
    Yields (Reads column (Text.keyword operator) values) (operatorOf column operator values) := by
  match values with
  | [value] =>
    rw [operatorOf_lone unranged unlisted]
    exact .built (comparison_reads unranged unlisted value)
  | [] | _ :: _ :: _ =>
    obtain ⟨_, _⟩ := ne_of_not_range unranged
    obtain ⟨_, _⟩ := ne_of_not_membership unlisted
    simp only [operatorOf]
    exact .refused (by simp [conditionRefusals, Error.family])

end Comparing

/-- An operator applied: the fields of what is built have it and what it takes. -/
theorem operatorOf_yields (column operator : String) (values : List Value) :
    Yields (Reads column (Text.keyword operator) (spreadBehind (Text.keyword operator) values))
      (operatorOf column operator values) := by
  obtain ⟨negated, known⟩ | ⟨negated, known⟩ | ⟨unranged, unlisted⟩ :=
    operator_cases (Text.keyword operator)
  · rw [operatorOf_range known, known, spreadBehind_range]
    exact rangeOf_yields column negated values
  · rw [operatorOf_membership known, known, spreadBehind_membership]
    exact membershipOf_yields column negated values
  · rw [spreadBehind_comparison unranged unlisted]
    exact operatorOf_comparison unranged unlisted

/-- What is built: raw SQL that is not blank, a column with an operator and what it takes, or the
question whether a nested select has rows. -/
inductive Built : ConditionBody → Prop where
  | raw {text : String} (named : Text.isBlankText text = false) (arguments : List Value) :
      Built (ConditionBody.raw text arguments)
  | reads {column operator : String} {values : List Value} {body : ConditionBody}
      (reads : body.Reads column operator values) : Built body
  | existence (negated : Bool) (subquery : Subquery) :
      Built (ConditionBody.existence negated subquery)

theorem Built.fits (built : body.Built) : body.Fits := by
  cases built with
  | raw named arguments => exact raw_fits _ arguments
  | reads reads => exact reads.toFits
  | existence negated subquery => exact existence_fits negated subquery

theorem columnOf_built (named : Text.isBlankText column = false) (values : List Value) :
    Yields Built (columnOf column values) := by
  unfold columnOf
  split
  · exact .built (.raw named [])
  · split
    · exact .built (.raw named _)
    · split
      · exact .built (.reads (comparison_reads rfl rfl _))
      · split
        · exact .refused (by simp [conditionRefusals, Error.family])
        · exact (operatorOf_yields ..).mono fun _ => .reads
      · exact .refused (by simp [conditionRefusals, Error.family])

theorem existenceOf_built (subquery : Subquery) (values : List Value) :
    Yields Built (existenceOf subquery values) := by
  unfold existenceOf
  split
  · split
    · exact .built (.existence false subquery)
    · exact .built (.existence true subquery)
    · exact .refused (by simp [conditionRefusals, Error.family])
  · exact .refused (by simp [conditionRefusals, Error.family])

theorem build_built (arguments : List Value) : Yields Built (build arguments) := by
  unfold build
  split
  · exact .refused (by simp [conditionRefusals, Error.family])
  · exact existenceOf_built ..
  · split
    · exact .refused (by simp [conditionRefusals, Error.family])
    · rename_i named
      exact columnOf_built (Bool.eq_false_iff.mpr named) _
  · exact .refused (by simp [conditionRefusals, Error.family])

theorem build_yields (arguments : List Value) : Yields Fits (build arguments) :=
  (build_built arguments).mono fun _ => Built.fits

namespace Fits

theorem values_failure (fits : body.Fits) (failed : body.values = .error reason) :
    ∃ operand, .expression operand ∈ body.operands ∧ operand.values = .error reason := by
  obtain ⟨operands, resolved⟩ := fits.resolved
  rw [← loosened_values, loosened, resolved] at failed
  cases form : body.form with
  | raw =>
    rw [form] at failed
    cases failed
  | column | existence =>
    rw [form] at failed
    obtain ⟨operand, present, found⟩ := valuesOfAll_failure
      ((valuesOfOperands_expressions operands).symm.trans failed)
    exact ⟨operand, resolved ▸ List.mem_map_of_mem present, found⟩

theorem text_failure (fits : body.Fits) (failed : body.text = .error reason) :
    ∃ operand, .expression operand ∈ body.operands ∧ operand.FailsBehind body.column reason := by
  obtain ⟨operands, resolved⟩ := fits.resolved
  have among {operand} (present : operand ∈ operands) : .expression operand ∈ body.operands :=
    resolved ▸ List.mem_map_of_mem present
  have alone := fits.alone
  have counted := fits.counted
  rw [resolved, List.length_map] at alone counted
  rw [← fits.written, loosened, resolved] at failed
  cases form : body.form with
  | raw =>
    rw [form] at failed
    cases failed
  | existence =>
    obtain ⟨operand, rfl⟩ := List.length_eq_one_iff.mp (alone form)
    rw [form, ConditionBody.text] at failed
    rcases bind_failure failed with found | ⟨text, _, done⟩
    · exact ⟨operand, among (by simp), .inl found⟩
    · cases done
  | column =>
    rw [form] at failed
    cases around : loneAround? operands with
    | some write =>
      rw [loose_text_alone _ _ _ around] at failed
      obtain ⟨operand, rfl, itself⟩ := operand_of_loneAround around
      exact ⟨operand, among (by simp), .inr ⟨⟨write, itself, failed⟩, _,
        Expression.text_of_around itself⟩⟩
    | none =>
      rw [loose_text_beside _ _ _ around] at failed
      obtain ⟨operand, present, found⟩ := operandsText_failure (counted form) (map_failure failed)
      exact ⟨operand, among present, .inl found⟩

end Fits

end ConditionBody

end Querywright
