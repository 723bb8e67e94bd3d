import Querywright.Proofs.ShorthandForms

/-! Operators in the text of conditions. A condition accepted with an operator writes it between the
column and what stands behind it, unless its only operand writes itself around the column: then the
operator is not written at all. Where it is written it can be told from the text. -/
namespace Querywright

/-- What a membership writes for its operands: a row in brackets, or a nested select as it is. -/
def bracketedRow (operands : List Expression) (texts : List String) : String :=
  if isLoneSubquery operands then ", ".intercalate texts
  else "(" ++ ", ".intercalate texts ++ ")"

/-- What is written behind an operator for the values it is given. -/
inductive WrittenBehind (values : List Value) : String → String → Prop where
  | range (negated : Bool) {low high : Value} {first second : String}
      (taken : spreadRow values = [low, high]) (lowest : low.asExpression.text = .ok first)
      (highest : high.asExpression.text = .ok second) :
      WrittenBehind values (rangeOperator negated) (first ++ " AND " ++ second)
  | membership (negated : Bool) {operands : List Expression} {texts : List String}
      (taken : (spreadCollection values).map Value.asExpression = operands)
      (shown : Expression.textsOfAll operands = .ok texts) :
      WrittenBehind values (membershipOperator negated) (bracketedRow operands texts)
  | comparison {operator text : String} {value : Value} (unranged : isRangeOperator operator = false)
      (unlisted : isMembershipOperator operator = false) (taken : values = [value])
      (shown : value.asExpression.text = .ok text) : WrittenBehind values operator text

/-- One operator asks for a range, and the other begins like it and goes on: behind them, the text of
two values may be that of one. -/
def IsRangeAndLonger (operator longer : String) : Prop :=
  ∃ negated rest, operator = rangeOperator negated ∧ longer = rangeOperator negated ++ " " ++ rest

section Told

variable {values : List Value} {negated denied : Bool} {operator other written besides : String}

theorem text_of_collection {value : Value} {items : List Value} {text : String}
    (holds : value.collectedItems? = some items) (shown : value.asExpression.text = .ok text) :
    text = "?" := by
  cases value <;> cases holds <;> exact (Except.ok.inj shown).symm

theorem told_alike (same : operator ++ " " ++ written = other ++ " " ++ written) :
    operator = other :=
  (String.append_left_inj " ").mp ((String.append_left_inj written).mp same)

/-- A range and a membership differ in a letter of their operators. -/
theorem told_range_membership : rangeOperator negated ++ " " ++ written ≠
    membershipOperator denied ++ " " ++ besides := by
  intro same
  have same := congrArg String.toList same
  cases negated <;> cases denied <;> simp [rangeOperator, membershipOperator] at same

/-- A text is not the same text in brackets: there would be one more blank on one side. -/
theorem told_bracketed (text : String) :
    operator ++ " " ++ ("(" ++ text ++ ")") ≠ other ++ " " ++ text := by
  intro same
  have same := congrArg String.toList same
  have parted : operator.toList ++ [' ', '('] ++ (text.toList ++ [')']) =
      other.toList ++ ([' '] ++ text.toList) := by
    simpa using same
  have blanks := congrArg (List.count ' ') (List.append_inj_right' parted (by simp))
  simp at blanks

theorem subquery_of_lone {operands : List Expression} (lone : isLoneSubquery operands = true) :
    ∃ subquery, operands = [.subquery subquery] := by
  match operands with
  | [operand] => cases operand <;> first | exact ⟨_, rfl⟩ | cases lone
  | [] | _ :: _ :: _ => cases lone

theorem bracketedRow_closed {operands : List Expression} {texts : List String}
    (shown : Expression.textsOfAll operands = .ok texts) :
    ∃ opened, bracketedRow operands texts = opened ++ ")" := by
  rw [bracketedRow]
  split
  · rename_i lone
    obtain ⟨subquery, rfl⟩ := subquery_of_lone lone
    rw [textsOfAll_lone, Expression.text] at shown
    obtain ⟨text, rendered, rfl⟩ := map_success shown
    obtain ⟨fragment, -, rfl⟩ := map_success rendered
    exact ⟨"(" ++ fragment.text, by simp⟩
  · exact ⟨_, rfl⟩

/-- A bound value is written as a place, not as a row or a nested select. -/
theorem told_closed (opened : String) : operator ++ " " ++ (opened ++ ")") ≠ other ++ " " ++ "?" := by
  intro same
  have same := congrArg String.toList same
  have parted : operator.toList ++ [' '] ++ opened.toList ++ [')'] = other.toList ++ [' '] ++ ['?'] := by
    simpa using same
  cases List.append_inj_right' parted rfl

/-- A membership and a comparison of one value. -/
theorem told_membership_comparison {value : Value} {operands : List Expression} {texts : List String}
    {text : String} (taken : (spreadCollection [value]).map Value.asExpression = operands)
    (row : Expression.textsOfAll operands = .ok texts) (shown : value.asExpression.text = .ok text)
    (same : operator ++ " " ++ bracketedRow operands texts = other ++ " " ++ text) : operator = other := by
  by_cases lone : IsLoneCollection [value]
  · obtain ⟨_, items, single, holds⟩ := lone
    cases single
    obtain ⟨opened, closed⟩ := bracketedRow_closed row
    rw [closed, text_of_collection holds shown] at same
    exact absurd same (told_closed opened)
  · rw [spreadCollection_apart lone] at taken
    subst taken
    rw [List.map_cons, List.map_nil, textsOfAll_lone, shown] at row
    cases row
    rw [bracketedRow] at same
    split at same
    · exact told_alike same
    · exact absurd same (told_bracketed text)

/-- A range and a comparison of one value, which is then a row of two. -/
theorem told_range_comparison {value low high : Value} {first second text : String}
    (taken : spreadRow [value] = [low, high]) (shown : value.asExpression.text = .ok text)
    (same : rangeOperator negated ++ " " ++ (first ++ " AND " ++ second) = other ++ " " ++ text) :
    IsRangeAndLonger (rangeOperator negated) other := by
  have holds : value.collectedItems? = some [low, high] := by
    cases value <;> first | exact congrArg some taken | cases taken
  rw [text_of_collection holds shown] at same
  have same := congrArg String.toList same
  have parted : (rangeOperator negated).toList ++ [' '] ++
      (first.toList ++ " AND ".toList ++ second.toList) = other.toList ++ [' ', '?'] := by
    simpa using same
  rcases List.append_eq_append_iff.mp parted with ⟨rest, goes, -⟩ | ⟨rest, -, short⟩
  · exact ⟨negated, String.ofList rest, rfl, String.ext (by simpa using goes)⟩
  · have sizes := congrArg List.length short
    simp at sizes
    omega

/-- Operators with the same values are told from each other by the text behind the column. -/
theorem WrittenBehind.told (one : WrittenBehind values operator written)
    (another : WrittenBehind values other besides)
    (same : operator ++ " " ++ written = other ++ " " ++ besides) :
    operator = other ∨ IsRangeAndLonger operator other ∨ IsRangeAndLonger other operator := by
  cases one with
  | range negated taken lowest highest =>
    cases another with
    | range denied retaken lower higher =>
      obtain ⟨rfl, rfl⟩ : _ = _ ∧ _ = _ := by simpa using taken.symm.trans retaken
      cases lowest.symm.trans lower
      cases highest.symm.trans higher
      exact .inl (told_alike same)
    | membership denied _ _ => exact absurd same told_range_membership
    | comparison _ _ single shown =>
      subst single
      exact .inr (.inl (told_range_comparison taken shown same))
  | membership negated taken shown =>
    cases another with
    | range denied _ _ _ => exact absurd same.symm told_range_membership
    | membership denied retaken reshown =>
      subst taken
      subst retaken
      cases shown.symm.trans reshown
      exact .inl (told_alike same)
    | comparison _ _ single reshown =>
      subst single
      exact .inl (told_membership_comparison taken shown reshown same)
  | comparison _ _ single shown =>
    subst single
    cases another with
    | range denied taken _ _ => exact .inr (.inr (told_range_comparison taken shown same.symm))
    | membership denied taken reshown =>
      exact .inl (told_membership_comparison taken reshown shown same.symm).symm
    | comparison _ _ again reshown =>
      cases again
      cases shown.symm.trans reshown
      exact .inl (told_alike same)

end Told

namespace ConditionBody

variable {column operator : String} {values taken : List Value} {body : ConditionBody}

/-- The only operand writes itself around the column. -/
def IsSelfWritten (body : ConditionBody) : Prop :=
  ∃ operand, body.operands = [.expression operand] ∧ operand.around?.isSome = true

/-- What stands behind the operator. -/
def behind (body : ConditionBody) : Except Error String :=
  Value.operandsText body.operator body.operands (Value.operandTexts body.operands)
    (Value.firstOperandText body.operands)

namespace Reads

theorem operands_resolved (reads : body.Reads column operator taken) :
    body.operands = (taken.map Value.asExpression).map Value.expression := by
  rw [reads.operands_eq, List.map_map]
  rfl

theorem text_read (reads : body.Reads column operator taken) : body.text =
    (loose .column body.rawText body.rawArguments column operator
      ((taken.map Value.asExpression).map Value.expression)).text := by
  rw [← reads.written, loosened, reads.form_eq, reads.column_eq, reads.operator_eq,
    reads.operands_resolved]

theorem text_around (reads : body.Reads column operator taken) {operand : Expression}
    {write : String → Except Error String} (alone : body.operands = [.expression operand])
    (around : operand.around? = some write) : body.text = write column := by
  have single : taken.map Value.asExpression = [operand] := by
    rw [← asExpressions_expressions (taken.map _), ← reads.operands_resolved, alone]
    rfl
  rw [reads.text_read, single]
  exact loose_text_alone _ _ [operand] around

theorem text_beside (reads : body.Reads column operator taken) (beside : ¬ body.IsSelfWritten) :
    body.text = body.behind.map (column ++ " " ++ operator ++ " " ++ ·) := by
  have plain : loneAround? (taken.map Value.asExpression) = none := by
    cases around : loneAround? (taken.map Value.asExpression) with
    | none => rfl
    | some write =>
      obtain ⟨operand, single, itself⟩ := operand_of_loneAround around
      refine absurd ⟨operand, ?_, by rw [itself]; rfl⟩ beside
      rw [reads.operands_resolved, single]
      rfl
  rw [reads.text_read, loose_text_beside _ _ _ plain, behind, reads.operator_eq,
    reads.operands_resolved, operandTexts_expressions]

theorem writes (reads : body.Reads column operator (spreadBehind operator values)) {written : String}
    (shown : body.behind = .ok written) : WrittenBehind values operator written := by
  have counted := reads.counted reads.form_eq
  rw [reads.operands_eq, List.length_map, reads.operator_eq] at counted
  rw [behind, reads.operator_eq, reads.operands_resolved, operandTexts_expressions] at shown
  obtain ⟨negated, rfl⟩ | ⟨negated, rfl⟩ | ⟨unranged, unlisted⟩ := operator_cases operator
  · rw [spreadBehind_range] at counted shown
    obtain ⟨low, high, taken⟩ := List.length_eq_two.mp ((operandsCounted_range negated).mp counted)
    rw [taken] at shown
    obtain ⟨texts, pair, rfl⟩ := map_success ((operandsText_range negated _ _ _ _).symm.trans shown)
    rw [List.map_cons, List.map_cons, List.map_nil, Expression.textsOfAll, textsOfAll_lone] at pair
    obtain ⟨first, lowest, pair⟩ := bind_success pair
    obtain ⟨others, rest, pair⟩ := bind_success pair
    obtain ⟨second, highest, rfl⟩ := map_success rest
    cases return_success pair
    exact .range negated taken lowest highest
  · rw [spreadBehind_membership, operandsText_membership] at shown
    obtain ⟨texts, row, rfl⟩ := map_success shown
    exact .membership negated rfl row
  · rw [spreadBehind_comparison unranged unlisted] at counted shown
    obtain ⟨value, rfl⟩ :=
      List.length_eq_one_iff.mp ((operandsCounted_comparison unranged unlisted).mp counted)
    rw [operandsText_comparison unranged unlisted] at shown
    exact .comparison unranged unlisted rfl shown

end Reads

end ConditionBody

/-- A condition accepted in its column form: with an operator and values, the column being no SQL
that has places of its own. -/
structure Condition.AcceptedFrom (column operator : String) (values : List Value)
    (condition : Condition) : Prop where
  bare : Placeholder.count column = 0
  given : values ≠ []
  built : Condition.build condition.connector (.text column :: .text operator :: values) =
    .ok condition

theorem Condition.text_eq (condition : Condition) : condition.text = condition.body.text := by
  cases condition
  rw [Condition.text]

namespace Condition.AcceptedFrom

variable {column operator other text : String} {values : List Value} {condition another : Condition}

theorem reads (accepted : condition.AcceptedFrom column operator values) :
    condition.body.Reads column (Text.keyword operator)
      (spreadBehind (Text.keyword operator) values) := by
  obtain ⟨body, built, same⟩ := map_success accepted.built
  rw [ConditionBody.build] at built
  split at built
  · cases built
  rw [ConditionBody.columnOf_operator accepted.bare accepted.given] at built
  split at built
  · cases built
  · rw [← same]
    exact (ConditionBody.operatorOf_yields ..).of_success built

theorem text_beside (accepted : condition.AcceptedFrom column operator values)
    (beside : ¬ condition.body.IsSelfWritten) :
    condition.text =
      condition.body.behind.map (column ++ " " ++ Text.keyword operator ++ " " ++ ·) :=
  condition.text_eq.trans (accepted.reads.text_beside beside)

theorem text_around (accepted : condition.AcceptedFrom column operator values) {operand : Expression}
    {write : String → Except Error String} (alone : condition.body.operands = [.expression operand])
    (around : operand.around? = some write) : condition.text = write column :=
  condition.text_eq.trans (accepted.reads.text_around alone around)

theorem writes (accepted : condition.AcceptedFrom column operator values)
    (beside : ¬ condition.body.IsSelfWritten) (shown : condition.text = .ok text) :
    ∃ written, text = column ++ " " ++ Text.keyword operator ++ " " ++ written ∧
      WrittenBehind values (Text.keyword operator) written := by
  rw [accepted.text_beside beside] at shown
  obtain ⟨written, behind, rfl⟩ := map_success shown
  exact ⟨written, rfl, accepted.reads.writes behind⟩

end Condition.AcceptedFrom

/-- An operator is written between the column and what stands behind it, unless the only operand
writes itself around the column: then every operator gives the same text. Otherwise two operators
with the same column and values give different texts, but for a range with two values beside an
operator that begins with that range and takes them as one. -/
theorem operator_applied {column first second : String} {values : List Value}
    {one other : Condition} (accepted : one.AcceptedFrom column first values)
    (besides : other.AcceptedFrom column second values) :
    (¬ one.body.IsSelfWritten → one.text =
      one.body.behind.map (column ++ " " ++ Text.keyword first ++ " " ++ ·)) ∧
    (one.body.IsSelfWritten → one.body.operands = other.body.operands → one.text = other.text) ∧
    ∀ text, one.text = .ok text → other.text = .ok text →
      Text.keyword first = Text.keyword second ∨
      one.body.IsSelfWritten ∨ other.body.IsSelfWritten ∨
      IsRangeAndLonger (Text.keyword first) (Text.keyword second) ∨
      IsRangeAndLonger (Text.keyword second) (Text.keyword first) := by
  refine ⟨accepted.text_beside, ?_, ?_⟩
  · rintro ⟨operand, alone, itself⟩ shared
    obtain ⟨write, around⟩ := Option.isSome_iff_exists.mp itself
    rw [accepted.text_around alone around, besides.text_around (shared ▸ alone) around]
  · intro text shown reshown
    by_cases itself : one.body.IsSelfWritten
    · exact .inr (.inl itself)
    by_cases likewise : other.body.IsSelfWritten
    · exact .inr (.inr (.inl likewise))
    obtain ⟨written, rfl, behind⟩ := accepted.writes itself shown
    obtain ⟨rewritten, same, other⟩ := besides.writes likewise reshown
    have told : Text.keyword first ++ " " ++ written = Text.keyword second ++ " " ++ rewritten := by
      rw [← String.append_right_inj (column ++ " ")]
      simpa only [String.append_assoc] using same
    rcases behind.told other told with known | longer | longer
    · exact .inl known
    · exact .inr (.inr (.inr (.inl longer)))
    · exact .inr (.inr (.inr (.inr longer)))

example :
    let values : Value := .list [.integer 1, .integer 2]
    ((Condition.build .both [.text "Age", .text "between", values]).bind Condition.text).toOption =
      ((Condition.build .both [.text "Age", .text "between ? and", values]).bind
        Condition.text).toOption := by
  decide +kernel

def ageMembership (negated : Bool) : Condition :=
  ⟨.both, .membership "Age" negated [.literal (.integer 1), .literal (.integer 2)]⟩

theorem ageMembership_told :
    (ageMembership false).AcceptedFrom "Age" "in" [.integer 1, .integer 2] ∧
    (ageMembership true).AcceptedFrom "Age" "not in" [.integer 1, .integer 2] ∧
    (ageMembership false).text = .ok "Age IN (?, ?)" ∧
    (ageMembership true).text ≠ .ok "Age IN (?, ?)" := by
  have taken (operator : String) (negated : Bool)
      (known : Text.keyword operator = membershipOperator negated) :
      (ageMembership negated).AcceptedFrom "Age" operator [.integer 1, .integer 2] := by
    refine ⟨by decide +kernel, by simp, ?_⟩
    rw [Condition.build_keyword _ _ (by decide +kernel) (by decide +kernel) known
      (membershipOperator_ne_empty negated) (by simp), ConditionBody.operatorOf_membership known]
    rfl
  have accepted := taken "in" false (by decide +kernel)
  have besides := taken "not in" true (by decide +kernel)
  have shown : (ageMembership false).text = .ok "Age IN (?, ?)" :=
    (Condition.text_eq _).trans (congrArg Except.ok (by decide +kernel))
  have unalone (negated : Bool) : ¬ (ageMembership negated).body.IsSelfWritten := by
    rintro ⟨operand, alone, -⟩
    cases alone
  refine ⟨accepted, besides, shown, fun reshown => ?_⟩
  rcases (operator_applied accepted besides).2.2 _ shown reshown with
    same | itself | itself | ⟨negated, rest, range, -⟩ | ⟨negated, rest, range, -⟩
  · exact absurd same (by decide +kernel)
  · exact unalone false itself
  · exact unalone true itself
  · exact absurd range (by revert negated; decide +kernel)
  · exact absurd range (by revert negated; decide +kernel)

def yearComparison (operator : String) : Condition :=
  ⟨.both, .comparison "CreatedAt" operator (.timestamp .year (.integer 2017))⟩

/-- A year that is to be another one is looked for as the year itself. -/
theorem yearInequality_dropped :
    (yearComparison "=").AcceptedFrom "CreatedAt" "="
      [.expression (.timestamp .year (.integer 2017))] ∧
    (yearComparison "!=").AcceptedFrom "CreatedAt" "!="
      [.expression (.timestamp .year (.integer 2017))] ∧
    Text.keyword "=" ≠ Text.keyword "!=" ∧
    (yearComparison "=").text = .ok "YEAR(FROM_UNIXTIME(CreatedAt)) = ?" ∧
    (yearComparison "!=").text = .ok "YEAR(FROM_UNIXTIME(CreatedAt)) = ?" := by
  have accepted (operator : String) (known : Text.keyword operator = operator)
      (compares : !isRangeOperator operator && !isMembershipOperator operator)
      (some : operator ≠ "") :
      (yearComparison operator).AcceptedFrom "CreatedAt" operator
        [.expression (.timestamp .year (.integer 2017))] := by
    simp only [Bool.and_eq_true, Bool.not_eq_true'] at compares
    refine ⟨by decide +kernel, by simp, ?_⟩
    rw [Condition.build_keyword _ _ (by decide +kernel) (by decide +kernel) known some (by simp),
      ConditionBody.operatorOf_lone (known.symm ▸ compares.1) (known.symm ▸ compares.2), known]
    rfl
  have written (operator : String) :
      (yearComparison operator).text = .ok "YEAR(FROM_UNIXTIME(CreatedAt)) = ?" :=
    (Condition.text_eq _).trans (congrArg Except.ok (by decide +kernel))
  exact ⟨accepted "=" (by decide +kernel) (by decide) (by decide),
    accepted "!=" (by decide +kernel) (by decide) (by decide), by decide +kernel, written "=",
    written "!="⟩

end Querywright
