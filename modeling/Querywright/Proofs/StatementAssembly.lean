import Querywright.Proofs.Outcome
import Querywright.Proofs.StatementPieces

/-! Everything that can be written is its pieces side by side, values with the texts they belong
to. The text and the values of an expression come from two walks over it; both meet the pieces in
the same order. -/
namespace Querywright
open Fragment

private theorem texts_listed (separator : String) (rows : List (List Fragment)) :
    separator.intercalate (rows.map fun row => (ofPieces row).text) =
      (ofPieces (separated separator rows)).text := by
  rw [← joined_ofPieces]
  simp [joined, Function.comp_def]

private theorem values_listed (separator : String) (rows : List (List Fragment)) :
    (rows.flatMap fun row => (ofPieces row).arguments) =
      (ofPieces (separated separator rows)).arguments := by
  rw [← joined_ofPieces]
  simp [joined, List.flatMap_map]

theorem led_ofPieces (opening : String) (pieces : List Fragment) :
    surrounded opening "" (ofPieces pieces) = ofPieces (plain opening :: pieces) := by
  ext1 <;> simp [surrounded, plain]

theorem ledBy_ofPieces (keyword : String) (rows : List (List Fragment)) :
    ledBy keyword (rows.map ofPieces) = (ledRows keyword rows).map ofPieces := by
  cases rows with
  | nil => rfl
  | cons row rest =>
    simp only [ledBy, ledRows, List.map_cons, spaced]
    rw [← List.map_cons, joined_ofPieces, led_ofPieces]
    rfl

theorem words_ofPieces (words : List String) :
    words.map Fragment.plain = (wordRows words).map ofPieces := by
  simp [wordRows, Function.comp_def]

theorem window_ofPieces (clauses : Clauses) :
    clauses.window = clauses.windowRows.map ofPieces := by
  unfold Clauses.window Clauses.windowRows
  rw [List.map_append]
  congr 1
  · cases present : clauses.orders with
    | nil => rfl
    | cons order rest =>
      have rows : (order :: rest).map Order.fragment =
          ((order :: rest).map fun order => [order.fragment]).map ofPieces := by
        simp [Function.comp_def]
      simp only [orderFragments, listed]
      rw [rows, joined_ofPieces, led_ofPieces]
      rfl
  · simp [Function.comp_def]

theorem ending_ofPieces (clauses : Clauses) :
    clauses.selectEnding = clauses.endingRows.map ofPieces := by
  rw [Clauses.selectEnding, Clauses.endingRows, List.map_append, window_ofPieces, words_ofPieces]

theorem assembleSelect_ofPieces (options : List String) (columns sources : List Fragment)
    (ending : List (List Fragment)) :
    assembleSelect options (ofPieces columns) (ofPieces sources) (ending.map ofPieces) =
      ofPieces (selectPieces options columns sources ending) := by
  unfold assembleSelect selectPieces spaced
  rw [← joined_ofPieces]
  simp [words_ofPieces, wordRows]

theorem groups_ofPieces (groups : List Value) (fragments : List Fragment)
    (written : groupFragments groups = .ok fragments) :
    fragments = (groupRows groups).map ofPieces := by
  unfold groupFragments at written
  unfold groupRows
  split at written
  · rename_i empty
    rw [if_pos empty]
    exact (return_success written).symm
  · rename_i present
    rw [if_neg present]
    obtain ⟨names, named, result⟩ := bind_success written
    have same : groups.filterMap Value.asText? = names := by
      have read := mapM_success _ groups names named
      clear named present result written
      induction read with
      | nil => rfl
      | @cons group name _ _ found _ ih =>
        cases group <;> simp_all [Value.asText?]
    rw [← return_success result, same]
    simp

theorem tableTexts_of_writes (clauses : Clauses) (accepted : clauses.requireTable true = .ok ()) :
    clauses.tableTexts = clauses.tableNames := by
  have named (table : Value) (member : table ∈ clauses.tables) :
      table.asText? = some table.plain := by
    obtain ⟨name, rfl⟩ := text_of_writes clauses accepted table member
    rfl
  unfold Clauses.tableTexts Clauses.tableNames
  rw [List.filterMap_congr named, List.filterMap_eq_map']

/-- Of operands in a row: what is written when all of them are, and when the first alone is. -/
structure OperandsOf (operands : List Value) : Prop where
  all (values : List Value) (texts : List String)
    (supplied : Value.valuesOfOperands operands = .ok values)
    (written : Value.operandTexts operands = .ok texts) :
    texts = ((Value.operandRows operands).map fun row => (ofPieces row).text) ∧
      values = (Value.operandRows operands).flatMap fun row => (ofPieces row).arguments
  first (values : List Value) (text : String)
    (supplied : Value.valuesOfOperands operands = .ok values)
    (written : Value.firstOperandText operands = .ok text) :
    (⟨text, values⟩ : Fragment) = ofPieces (Value.firstOperandPieces operands)

/-- Of conditions in a row: their texts behind each other, those of the first led or not, and their
values. -/
structure RowOf (conditions : List Condition) (texts : List (Connector × String))
    (values : List Value) : Prop where
  leading : connected texts = (Condition.rows true conditions).map fun row => (ofPieces row).text
  led : (texts.map fun (connector, text) => connector.text ++ " " ++ text) =
    (Condition.rows false conditions).map fun row => (ofPieces row).text
  supplied (isFirst : Bool) : values =
    (Condition.rows isFirst conditions).flatMap fun row => (ofPieces row).arguments

private theorem operand_ofPieces (opening : String) {text : String} {values : List Value}
    {pieces : List Fragment} (operand : (⟨text, values⟩ : Fragment) = ofPieces pieces) :
    (⟨opening ++ text, values⟩ : Fragment) = ofPieces (plain opening :: pieces) := by
  rw [← led_ofPieces, ← operand]
  simp [surrounded]

private theorem bracketed_ofPieces (opening closing : String) {inner : Fragment}
    {pieces : List Fragment} (same : inner = ofPieces pieces) :
    (⟨opening ++ inner.text ++ closing, inner.arguments⟩ : Fragment) =
      ofPieces (plain opening :: pieces ++ [plain closing]) := by
  rw [← surrounded_ofPieces, ← same]
  rfl

private theorem around_ofPieces {operand : Expression} {write : String → Except Error String}
    (around : operand.around? = some write) (column text : String) (values : List Value)
    (supplied : operand.values = .ok values) (written : write column = .ok text) :
    (⟨text, values⟩ : Fragment) = ofPieces (operand.aroundPieces column) := by
  cases operand <;> simp only [Expression.around?, Option.some.injEq, reduceCtorEq] at around
  all_goals
    subst around
    simp only [Expression.values, Except.ok.injEq] at supplied
    subst supplied
    simp_all [Expression.aroundPieces]

private theorem lone_around_ofPieces {operands : List Expression}
    {write : String → Except Error String} (around : loneAround? operands = some write)
    (column text : String) (values : List Value)
    (supplied : Expression.valuesOfAll operands = .ok values) (written : write column = .ok text) :
    (⟨text, values⟩ : Fragment) = ofPieces (loneAroundPieces column operands) := by
  match operands with
  | [] => cases around
  | [operand] =>
    simp only [Expression.valuesOfAll] at supplied
    obtain ⟨first, given, supplied⟩ := bind_success supplied
    obtain ⟨others, none, supplied⟩ := bind_success supplied
    cases none
    rw [← return_success supplied, List.append_nil]
    exact around_ofPieces around column text first given written
  | _ :: _ :: _ => cases around

private theorem operands_of_cons {inner : Expression} {rest : List Value}
    (assembled : ∀ values text, inner.values = .ok values → inner.text = .ok text →
      (⟨text, values⟩ : Fragment) = ofPieces inner.pieces)
    (others : OperandsOf rest) : OperandsOf (.expression inner :: rest) := by
  refine ⟨?_, ?_⟩
  · intro values texts supplied written
    rw [Value.valuesOfOperands] at supplied
    rw [Value.operandTexts] at written
    obtain ⟨value, first, supplied⟩ := bind_success supplied
    obtain ⟨remaining, later, supplied⟩ := bind_success supplied
    obtain ⟨text, opening, written⟩ := bind_success written
    obtain ⟨ending, closing, written⟩ := bind_success written
    rw [Value.operandText] at opening
    have head := assembled value text first opening
    obtain ⟨tail, left⟩ := others.all remaining ending later closing
    rw [← return_success supplied, ← return_success written, Value.operandRows, List.map_cons,
      List.flatMap_cons, Value.operandPieces, ← head, tail, left]
    exact ⟨rfl, rfl⟩
  · intro values text supplied written
    rw [Value.valuesOfOperands] at supplied
    rw [Value.firstOperandText, Value.operandText] at written
    obtain ⟨value, first, supplied⟩ := bind_success supplied
    obtain ⟨remaining, later, supplied⟩ := bind_success supplied
    rw [← return_success supplied, Value.firstOperandPieces, Value.operandPieces, ofPieces_append,
      ← assembled value text first written]
    simp [unwrittenPiece, later, Except.toOption]

private theorem lone_operand {operands : List Value} {write : String → Except Error String}
    (around : loneAround? (operands.filterMap Value.asExpression?) = some write)
    (single : operands.length = 1) {values : List Value}
    (supplied : Value.valuesOfOperands operands = .ok values) :
    Expression.valuesOfAll (operands.filterMap Value.asExpression?) = .ok values := by
  match operands with
  | [.expression operand] =>
    rw [← supplied]
    simp [Value.asExpression?, Expression.valuesOfAll, Value.valuesOfOperands]
  | [.null] | [.truth _] | [.integer _] | [.decimal _] | [.text _] | [.octets _] | [.list _] |
    [.tuple _] | [.set ..] | [.mapping _] | [.record ..] | [.holder _] | [.declared _] |
    [.supplier _] | [.connection _] | [.thing ..] | [.shared _] => cases around

private theorem loose_operands_ofPieces {operands : List Value} (row : OperandsOf operands)
    (operator text : String) (values : List Value)
    (supplied : Value.valuesOfOperands operands = .ok values)
    (written : Value.operandsText operator operands (Value.operandTexts operands)
      (Value.firstOperandText operands) = .ok text) :
    (⟨text, values⟩ : Fragment) = ofPieces
      (if isRangeOperator operator then separated " AND " (Value.operandRows operands)
      else if isMembershipOperator operator then
        (if isLoneSubquery (operands.filterMap Value.asExpression?) && operands.length == 1
          then separated ", " (Value.operandRows operands)
          else plain "(" :: separated ", " (Value.operandRows operands) ++ [plain ")"])
      else Value.firstOperandPieces operands) := by
  unfold Value.operandsText at written
  have listed (separator : String) (texts : List String)
      (told : Value.operandTexts operands = .ok texts) :
      (⟨separator.intercalate texts, values⟩ : Fragment) =
        ofPieces (separated separator (Value.operandRows operands)) := by
    obtain ⟨shown, given⟩ := row.all values texts supplied told
    rw [shown, given, texts_listed, values_listed]
  split at written
  · rename_i ranged
    rw [if_pos ranged]
    split at written
    · obtain ⟨texts, told, rfl⟩ := map_success written
      exact listed " AND " texts told
    · cases written
  · rename_i unranged
    rw [if_neg unranged]
    split at written
    · rename_i member
      rw [if_pos member]
      obtain ⟨texts, told, written⟩ := bind_success written
      rw [← return_success written]
      have row := listed ", " texts told
      split
      · exact row
      · exact bracketed_ofPieces "(" ")" row
    · rename_i plainly
      rw [if_neg plainly]
      exact row.first values text supplied written

private theorem loose_ofPieces {operands : List Value} (row : OperandsOf operands)
    (column operator text : String) (values : List Value)
    (supplied : Value.valuesOfOperands operands = .ok values)
    {raw : String} {rawArguments : List Value}
    (written : (ConditionBody.loose .column raw rawArguments column operator operands).text =
      .ok text) :
    (⟨text, values⟩ : Fragment) =
      ofPieces (ConditionBody.loose .column raw rawArguments column operator operands).pieces := by
  rw [ConditionBody.text] at written
  rw [ConditionBody.pieces]
  split at written
  · rename_i write around single
    rw [if_pos (by simp [around, single])]
    exact lone_around_ofPieces around column text values (lone_operand around single supplied)
      written
  · rename_i others
    have several : ¬((loneAround? (operands.filterMap Value.asExpression?)).isSome &&
        operands.length == 1) = true := by
      intro lone
      simp only [Bool.and_eq_true, beq_iff_eq, Option.isSome_iff_exists] at lone
      obtain ⟨⟨write, around⟩, single⟩ := lone
      exact others write around single
    rw [if_neg several]
    obtain ⟨inner, told, written⟩ := bind_success written
    rw [← return_success written]
    exact operand_ofPieces _ (loose_operands_ofPieces row operator inner values supplied told)

theorem bound_success {arguments : Except Error (List Value)} {text : Except Error String}
    {fragment : Fragment} (ok : Fragment.bind arguments text = .ok fragment) :
    ∃ values written, arguments = .ok values ∧ text = .ok written ∧
      (⟨written, values⟩ : Fragment) = fragment := by
  obtain ⟨values, supplied, ok⟩ := bind_success ok
  obtain ⟨written, shown, ok⟩ := bind_success ok
  exact ⟨values, written, supplied, shown, return_success ok⟩

private theorem row_of_cons {condition : Condition} {rest : List Condition} {text : String}
    {values others : List Value} {texts : List (Connector × String)}
    (first : (⟨text, values⟩ : Fragment) = ofPieces condition.pieces)
    (tail : RowOf rest texts others) :
    RowOf (condition :: rest) ((condition.connector, text) :: texts) (values ++ others) := by
  have led := operand_ofPieces (condition.connector.text ++ " ") first
  refine ⟨?_, ?_, ?_⟩
  · simp [connected, Condition.rows, ← first, tail.led]
  · simp [Condition.rows, ← led, tail.led]
  · intro isFirst
    rw [Condition.rows, List.flatMap_cons, ← tail.supplied false]
    cases isFirst with
    | false => exact congrArg (·.arguments ++ others) led
    | true => exact congrArg (·.arguments ++ others) first

private theorem matching_ofPieces (condition : String) (conditions : List Condition)
    (texts : List (Connector × String)) (values : List Value) (row : RowOf conditions texts values) :
    let matched := " ".intercalate (if condition.isEmpty then connected texts
      else connected ((Connector.both, condition) :: texts))
    (⟨if matched.isEmpty then "" else " ON (" ++ matched ++ ")", values⟩ : Fragment) =
      ofPieces (matchingPieces condition (Condition.rows true conditions)
        (Condition.rows false conditions)) := by
  intro matched
  have inner : (⟨matched, values⟩ : Fragment) =
      ofPieces (separated " " (if condition.isEmpty then Condition.rows true conditions
        else [plain condition] :: Condition.rows false conditions)) := by
    rw [← joined_ofPieces]
    by_cases empty : condition.isEmpty
    · simp only [matched, if_pos empty, row.leading, joined, List.map_map, List.flatMap_map]
      rw [row.supplied true]
      rfl
    · simp only [matched, if_neg empty, connected, row.led, joined, List.map_cons, List.map_map,
        List.flatMap_cons, List.flatMap_map, ofPieces_singleton]
      rw [row.supplied false]
      simp [plain, Function.comp_def]
  unfold matchingPieces
  simp only [← inner]
  split
  · rename_i empty
    rw [← inner]
    simp_all [String.isEmpty_iff]
  · rw [← surrounded_ofPieces, ← inner]
    rfl

private theorem range_ofPieces (opening : String) {low high : String} {first second : List Value}
    {lowPieces highPieces : List Fragment}
    (left : (⟨low, first⟩ : Fragment) = ofPieces lowPieces)
    (right : (⟨high, second⟩ : Fragment) = ofPieces highPieces) :
    (⟨opening ++ low ++ " AND " ++ high, first ++ second⟩ : Fragment) =
      ofPieces (plain opening :: lowPieces ++ plain " AND " :: highPieces) := by
  rw [ofPieces_append, ofPieces_cons, ofPieces_cons, ← left, ← right]
  simp [plain, String.append_assoc]

-- The induction is that of the text. A text alone does not say which values were supplied with it,
-- so every case takes both outcomes.
mutual

theorem Expression.assembled (expression : Expression) (values : List Value) (text : String)
    (supplied : expression.values = .ok values) (written : expression.text = .ok text) :
    (⟨text, values⟩ : Fragment) = ofPieces expression.pieces := by
  match expression with
  | .base => simp [Expression.text] at written
  | .timestamp .. => simp [Expression.text] at written
  | .patterned .. => simp [Expression.text] at written
  | .null => simp_all [Expression.text, Expression.values, Expression.pieces, plain]
  | .literal value => simp_all [Expression.text, Expression.values, Expression.pieces, boundPiece]
  | .function template arguments =>
    simp only [Expression.text] at written
    split at written
    · cases written
    · simp_all [Expression.values, Expression.pieces]
  | .condition condition =>
    rw [Expression.values] at supplied
    rw [Expression.text] at written
    rw [Expression.pieces]
    exact condition.assembled values text supplied written
  | .order order => simp_all [Expression.text, Expression.values, Expression.pieces, Order.fragment]
  | .subquery subquery =>
    rw [Expression.values] at supplied
    rw [Expression.text] at written
    rw [Expression.pieces]
    obtain ⟨inner, rendered, rfl⟩ := map_success written
    obtain ⟨other, again, rfl⟩ := map_success supplied
    obtain rfl : inner = other := Except.ok.inj (rendered.symm.trans again)
    exact bracketed_ofPieces "(" ")" (subquery.assembled inner rendered)
termination_by structural expression

theorem Expression.all_assembled (expressions : List Expression) (values : List Value)
    (texts : List String) (supplied : Expression.valuesOfAll expressions = .ok values)
    (written : Expression.textsOfAll expressions = .ok texts) :
    texts = ((Expression.rows expressions).map fun row => (ofPieces row).text) ∧
      values = (Expression.rows expressions).flatMap fun row => (ofPieces row).arguments := by
  match expressions with
  | [] => simp_all [Expression.valuesOfAll, Expression.textsOfAll, Expression.rows]
  | expression :: rest =>
    rw [Expression.valuesOfAll] at supplied
    rw [Expression.textsOfAll] at written
    obtain ⟨value, first, supplied⟩ := bind_success supplied
    obtain ⟨others, later, supplied⟩ := bind_success supplied
    obtain ⟨text, opening, written⟩ := bind_success written
    obtain ⟨ending, closing, written⟩ := bind_success written
    have head := expression.assembled value text first opening
    obtain ⟨tail, left⟩ := Expression.all_assembled rest others ending later closing
    rw [← return_success supplied, ← return_success written, Expression.rows, List.map_cons,
      List.flatMap_cons, ← head, tail, left]
    exact ⟨rfl, rfl⟩
termination_by structural expressions

theorem Value.operands_assembled (operands : List Value) : OperandsOf operands := by
  match operands with
  | [] =>
    refine ⟨?_, ?_⟩
    · intro values texts supplied written
      simp_all [Value.valuesOfOperands, Value.operandTexts, Value.operandRows]
    · intro values text supplied written
      simp [Value.firstOperandText] at written
  | .expression inner :: rest =>
    have others := Value.operands_assembled rest
    exact operands_of_cons inner.assembled others
  | .null :: rest | .truth _ :: rest | .integer _ :: rest | .decimal _ :: rest |
    .text _ :: rest | .octets _ :: rest | .list _ :: rest | .tuple _ :: rest | .set .. :: rest |
    .mapping _ :: rest | .record .. :: rest | .holder _ :: rest | .declared _ :: rest |
    .supplier _ :: rest | .connection _ :: rest | .thing .. :: rest | .shared _ :: rest =>
    refine ⟨?_, ?_⟩
    · intro values texts supplied written
      simp [Value.valuesOfOperands] at supplied
    · intro values text supplied written
      simp [Value.valuesOfOperands] at supplied
termination_by structural operands

theorem ConditionBody.assembled (body : ConditionBody) (values : List Value) (text : String)
    (supplied : body.values = .ok values) (written : body.text = .ok text) :
    (⟨text, values⟩ : Fragment) = ofPieces body.pieces := by
  match body with
  | .raw _ _ =>
    simp_all [ConditionBody.values, ConditionBody.text, ConditionBody.pieces]
  | .comparison column operator operand =>
    rw [ConditionBody.values] at supplied
    rw [ConditionBody.text] at written
    rw [ConditionBody.pieces]
    split at written
    · rename_i write around
      rw [if_pos (by rw [around]; rfl)]
      exact around_ofPieces around column text values supplied written
    · rename_i plainly
      rw [if_neg (by simp [plainly])]
      obtain ⟨inner, told, written⟩ := bind_success written
      rw [← return_success written]
      exact operand_ofPieces _ (operand.assembled values inner supplied told)
  | .range column negated low high =>
    rw [ConditionBody.values] at supplied
    rw [ConditionBody.text] at written
    obtain ⟨first, lowValues, supplied⟩ := bind_success supplied
    obtain ⟨second, highValues, supplied⟩ := bind_success supplied
    obtain ⟨left, lowText, written⟩ := bind_success written
    obtain ⟨right, highText, written⟩ := bind_success written
    rw [← return_success supplied, ← return_success written, ConditionBody.pieces]
    exact range_ofPieces _ (low.assembled first left lowValues lowText)
      (high.assembled second right highValues highText)
  | .membership column negated operands =>
    rw [ConditionBody.values] at supplied
    rw [ConditionBody.text] at written
    rw [ConditionBody.pieces]
    split at written
    · rename_i write around
      rw [if_pos (by rw [around]; rfl)]
      exact lone_around_ofPieces around column text values supplied written
    · rename_i plainly
      rw [if_neg (by simp [plainly])]
      obtain ⟨texts, told, written⟩ := bind_success written
      obtain ⟨shown, given⟩ := Expression.all_assembled operands values texts supplied told
      have row : (⟨", ".intercalate texts, values⟩ : Fragment) =
          ofPieces (separated ", " (Expression.rows operands)) := by
        rw [shown, given, texts_listed, values_listed]
      rw [← return_success written]
      refine operand_ofPieces _ ?_
      split
      · exact row
      · exact bracketed_ofPieces "(" ")" row
  | .existence negated subquery =>
    rw [ConditionBody.values] at supplied
    rw [ConditionBody.text] at written
    obtain ⟨inner, rendered, rfl⟩ := map_success written
    obtain ⟨other, again, rfl⟩ := map_success supplied
    obtain rfl : inner = other := Except.ok.inj (rendered.symm.trans again)
    have bracketed := bracketed_ofPieces (existenceOperator negated ++ " (") ")"
      (subquery.assembled inner rendered)
    rw [ConditionBody.pieces, ← bracketed]
  | .loose .raw _ _ _ _ _ =>
    simp_all [ConditionBody.values, ConditionBody.text, ConditionBody.pieces]
  | .loose .existence _ _ _ operator operands =>
    rw [ConditionBody.values] at supplied
    rw [ConditionBody.text] at written
    rw [ConditionBody.pieces]
    obtain ⟨inner, told, written⟩ := bind_success written
    rw [← return_success written]
    exact operand_ofPieces _ ((Value.operands_assembled operands).first values inner supplied told)
  | .loose .column _ _ column operator operands =>
    rw [ConditionBody.values] at supplied
    exact loose_ofPieces (Value.operands_assembled operands) column operator text values supplied
      written
termination_by structural body

theorem Condition.assembled (condition : Condition) (values : List Value) (text : String)
    (supplied : condition.values = .ok values) (written : condition.text = .ok text) :
    (⟨text, values⟩ : Fragment) = ofPieces condition.pieces := by
  match condition with
  | ⟨connector, body⟩ =>
    rw [Condition.values] at supplied
    rw [Condition.text] at written
    rw [Condition.pieces]
    exact body.assembled values text supplied written
termination_by structural condition

theorem Condition.all_assembled (conditions : List Condition) (values : List Value)
    (texts : List (Connector × String)) (supplied : Condition.valuesOfAll conditions = .ok values)
    (written : Condition.textsOfAll conditions = .ok texts) : RowOf conditions texts values := by
  match conditions with
  | [] =>
    rw [Condition.valuesOfAll] at supplied
    rw [Condition.textsOfAll] at written
    cases supplied
    cases written
    exact ⟨rfl, rfl, fun isFirst => rfl⟩
  | condition :: rest =>
    rw [Condition.valuesOfAll] at supplied
    rw [Condition.textsOfAll] at written
    obtain ⟨value, first, supplied⟩ := bind_success supplied
    obtain ⟨others, later, supplied⟩ := bind_success supplied
    obtain ⟨text, opening, written⟩ := bind_success written
    obtain ⟨ending, closing, written⟩ := bind_success written
    rw [← return_success supplied, ← return_success written]
    exact row_of_cons (condition.assembled value text first opening)
      (Condition.all_assembled rest others ending later closing)
termination_by structural conditions

theorem Condition.fragments_assembled (isFirst : Bool) (conditions : List Condition)
    (fragments : List Fragment) (written : Condition.fragments isFirst conditions = .ok fragments) :
    fragments = (Condition.rows isFirst conditions).map ofPieces := by
  match conditions with
  | [] =>
    rw [Condition.fragments] at written
    cases written
    rfl
  | condition :: rest =>
    rw [Condition.fragments] at written
    obtain ⟨fragment, first, written⟩ := bind_success written
    obtain ⟨others, later, written⟩ := bind_success written
    obtain ⟨values, text, supplied, shown, rfl⟩ := bound_success first
    have head := condition.assembled values text supplied shown
    have tail := Condition.fragments_assembled false rest others later
    rw [← return_success written, Condition.rows, List.map_cons, tail]
    cases isFirst with
    | false => exact congrArg (· :: _) (head ▸ led_ofPieces _ condition.pieces)
    | true => exact congrArg (· :: _) head
termination_by structural conditions

theorem JoinTarget.assembled (target : JoinTarget) (values : List Value) (text : String)
    (supplied : target.values = .ok values) (written : target.text = .ok text) :
    (⟨text, values⟩ : Fragment) = ofPieces target.pieces := by
  match target with
  | .table name => simp_all [JoinTarget.values, JoinTarget.text, JoinTarget.pieces, plain]
  | .derived subquery =>
    rw [JoinTarget.values] at supplied
    rw [JoinTarget.text] at written
    obtain ⟨inner, rendered, rfl⟩ := map_success written
    obtain ⟨other, again, rfl⟩ := map_success supplied
    obtain rfl : inner = other := Except.ok.inj (rendered.symm.trans again)
    have bracketed := bracketed_ofPieces "(" (") AS " ++ subquery.derivedName.getD "None")
      (subquery.assembled inner rendered)
    rw [JoinTarget.pieces, ← bracketed]
    simp [String.append_assoc]
termination_by structural target

theorem Join.assembled (join : Join) (values : List Value) (text : String)
    (supplied : join.values = .ok values) (written : join.text = .ok text) :
    (⟨text, values⟩ : Fragment) = ofPieces join.pieces := by
  match join with
  | ⟨direction, target, condition, conditions⟩ =>
    rw [Join.values] at supplied
    rw [Join.text] at written
    obtain ⟨first, targetValues, supplied⟩ := bind_success supplied
    obtain ⟨others, later, supplied⟩ := bind_success supplied
    obtain ⟨joined, targetText, written⟩ := bind_success written
    obtain ⟨texts, told, written⟩ := bind_success written
    have head := target.assembled first joined targetValues targetText
    have tail := matching_ofPieces condition conditions texts others
      (Condition.all_assembled conditions others texts later told)
    rw [← return_success supplied, ← return_success written, Join.pieces, List.cons_append,
      ← List.cons_append, ofPieces_append, ← operand_ofPieces _ head, ← tail]
termination_by structural join

theorem Join.fragments_assembled (joins : List Join) (fragments : List Fragment)
    (written : Join.fragments joins = .ok fragments) :
    fragments = (Join.rows joins).map ofPieces := by
  match joins with
  | [] =>
    rw [Join.fragments] at written
    cases written
    rfl
  | join :: rest =>
    rw [Join.fragments] at written
    obtain ⟨fragment, first, written⟩ := bind_success written
    obtain ⟨others, later, written⟩ := bind_success written
    obtain ⟨values, text, supplied, shown, rfl⟩ := bound_success first
    rw [← return_success written, Join.rows, List.map_cons,
      ← join.assembled values text supplied shown, ← Join.fragments_assembled rest others later]
termination_by structural joins

theorem Value.table_assembled (table : Value) (fragment : Fragment)
    (written : table.tableFragment = .ok fragment) : fragment = ofPieces table.tablePieces := by
  match table with
  | .text name =>
    rw [Value.tableFragment] at written
    cases written
    simp [Value.tablePieces]
  | .expression (.subquery subquery) =>
    rw [Value.tableFragment] at written
    obtain ⟨inner, rendered, rfl⟩ := map_success written
    rw [subquery.assembled inner rendered, surrounded_ofPieces, Value.tablePieces]
  | .null | .truth _ | .integer _ | .decimal _ | .octets _ | .list _ | .tuple _ | .set .. |
    .mapping _ | .record .. | .holder _ | .declared _ | .supplier _ | .connection _ | .thing .. |
    .shared _ | .expression .base | .expression .null | .expression (.literal _) |
    .expression (.function ..) | .expression (.timestamp ..) | .expression (.patterned ..) |
    .expression (.condition _) | .expression (.order _) => simp [Value.tableFragment] at written
termination_by structural table

theorem Value.tables_assembled (tables : List Value) (fragments : List Fragment)
    (written : Value.tableFragments tables = .ok fragments) :
    fragments = (Value.tableRows tables).map ofPieces := by
  match tables with
  | [] =>
    rw [Value.tableFragments] at written
    cases written
    rfl
  | table :: rest =>
    rw [Value.tableFragments] at written
    obtain ⟨fragment, first, written⟩ := bind_success written
    obtain ⟨others, later, written⟩ := bind_success written
    rw [← return_success written, Value.tableRows, List.map_cons,
      ← table.table_assembled fragment first, ← Value.tables_assembled rest others later]
termination_by structural tables

theorem Clauses.sources_assembled (clauses : Clauses) (fragment : Fragment)
    (written : clauses.sources = .ok fragment) : fragment = ofPieces clauses.sourcePieces := by
  match clauses with
  | ⟨tables, conditions, groupConditions, joins, _, groups, _, _, _, _, _⟩ =>
    rw [Clauses.sources] at written
    obtain ⟨tableFragments, first, written⟩ := bind_success written
    obtain ⟨joinFragments, second, written⟩ := bind_success written
    obtain ⟨conditionFragments, third, written⟩ := bind_success written
    obtain ⟨named, fourth, written⟩ := bind_success written
    obtain ⟨groupFragments, fifth, written⟩ := bind_success written
    rw [← return_success written, Value.tables_assembled tables _ first,
      Join.fragments_assembled joins _ second, Condition.fragments_assembled true conditions _ third,
      groups_ofPieces groups _ fourth, Condition.fragments_assembled true groupConditions _ fifth,
      ledBy_ofPieces, ledBy_ofPieces, Clauses.sourcePieces, ← joined_ofPieces, listed,
      joined_ofPieces, led_ofPieces]
    simp [spaced]
termination_by structural clauses

theorem Subquery.assembled (subquery : Subquery) (fragment : Fragment)
    (rendered : subquery.rendered = .ok fragment) : fragment = ofPieces subquery.pieces := by
  match subquery with
  | ⟨_, _, _, some (text, arguments)⟩ =>
    rw [Subquery.rendered] at rendered
    cases rendered
    simp [Subquery.pieces]
  | ⟨clauses, _, _, none⟩ =>
    rw [Subquery.rendered] at rendered
    obtain ⟨_, -, rendered⟩ := bind_success rendered
    obtain ⟨sources, written, rendered⟩ := bind_success rendered
    rw [(checked_balanced rendered).2, clauses.sources_assembled sources written, ending_ofPieces,
      Subquery.pieces, ← assembleSelect_ofPieces, ofPieces_singleton]
termination_by structural subquery

end

theorem expression_assembled (expression : Expression) (fragment : Fragment)
    (written : expression.fragment = .ok fragment) : fragment = ofPieces expression.pieces := by
  obtain ⟨values, text, supplied, shown, rfl⟩ := bound_success written
  exact expression.assembled values text supplied shown

theorem column_assembled (column : Value) (fragment : Fragment)
    (written : columnFragment column = .ok fragment) :
    fragment = ofPieces (Rendering.columnPieces column) := by
  cases column with
  | expression inner => exact expression_assembled inner fragment written
  | text name =>
    simp only [columnFragment] at written
    split at written
    · cases written
    · cases written
      simp [Rendering.columnPieces]
  | _ => simp [columnFragment] at written

theorem columns_assembled (columns : List Value) (fragment : Fragment)
    (written : columnsFragment columns = .ok fragment) :
    fragment = ofPieces (Rendering.columnsPieces columns) := by
  unfold columnsFragment at written
  unfold Rendering.columnsPieces
  cases columns with
  | nil =>
    rw [← return_success written]
    simp
  | cons column rest =>
    obtain ⟨fragments, each, written⟩ := bind_success written
    have rows := mapM_determined columnFragment id (ofPieces ∘ Rendering.columnPieces)
      column_assembled (column :: rest) fragments each
    rw [List.map_id, ← List.map_map] at rows
    rw [← return_success written, rows]
    exact joined_ofPieces _ _

theorem row_assembled (columns : List String) (row : Payload) (fragment : Fragment)
    (written : rowFragment columns row = .ok fragment) :
    fragment = ofPieces (Rendering.rowPieces columns row) := by
  unfold rowFragment at written
  split at written
  · cases written
  · obtain ⟨fragments, each, written⟩ := bind_success written
    have rows := mapM_determined _ id
      (fun column => ofPieces ((row.value column).asExpression.pieces))
      (fun column => expression_assembled (row.value column).asExpression) columns fragments each
    have split : columns.map (fun column => ofPieces ((row.value column).asExpression.pieces)) =
        (columns.map fun column => (row.value column).asExpression.pieces).map ofPieces := by
      simp
    rw [List.map_id, split] at rows
    rw [← return_success written, rows, Rendering.rowPieces, listed, joined_ofPieces,
      surrounded_ofPieces]

theorem assignment_assembled (assignment : String × Value) (fragment : Fragment)
    (written : assignmentFragment assignment = .ok fragment) :
    fragment = ofPieces (Rendering.assignmentPieces assignment) := by
  obtain ⟨value, shown, written⟩ := bind_success written
  rw [← return_success written, expression_assembled _ value shown, led_ofPieces]
  rfl

namespace Rendering

theorem select_assembled (columns : List Value) (clauses : Clauses) (fragment : Fragment)
    (written : clauses.select columns = .ok fragment) :
    fragment = ofPieces (pieces (.select columns) clauses) := by
  obtain ⟨_, -, written⟩ := bind_success written
  obtain ⟨chosen, first, written⟩ := bind_success written
  obtain ⟨sources, second, written⟩ := bind_success written
  rw [← return_success written, columns_assembled columns chosen first,
    clauses.sources_assembled sources second, ending_ofPieces, assembleSelect_ofPieces]
  rfl

theorem counting_assembled (columns : List Value) (clauses : Clauses) (fragment : Fragment)
    (written : clauses.selectCounting columns = .ok fragment) :
    fragment = ofPieces (pieces (.counting columns) clauses) := by
  obtain ⟨_, -, written⟩ := bind_success written
  simp only [pieces]
  dsimp only at written
  split at written
  · rename_i distinct
    rw [if_pos distinct]
    obtain ⟨chosen, first, written⟩ := bind_success written
    obtain ⟨sources, second, written⟩ := bind_success written
    rw [← return_success written, columns_assembled columns chosen first,
      clauses.sources_assembled sources second]
    exact assembleSelect_ofPieces _ _ _ []
  · rename_i plainly
    rw [if_neg plainly]
    obtain ⟨chosen, first, written⟩ := bind_success written
    obtain ⟨sources, second, written⟩ := bind_success written
    rw [← return_success written, columns_assembled _ chosen first,
      clauses.sources_assembled sources second]
    exact assembleSelect_ofPieces _ _ _ []

theorem insert_assembled (keyword : String) (rows : List Value) (clauses : Clauses)
    (fragment : Fragment) (written : clauses.insert keyword rows = .ok fragment) :
    fragment = ofPieces (pieces (.insert keyword rows) clauses) := by
  obtain ⟨_, accepted, written⟩ := bind_success written
  have named := tableTexts_of_writes clauses accepted
  obtain ⟨payloads, read, written⟩ := bind_success written
  cases payloads with
  | nil => cases written
  | cons first others =>
    obtain ⟨tuples, each, written⟩ := bind_success written
    have written := return_success written
    have rows := mapM_determined _ id (ofPieces ∘ rowPieces (Payload.columns first))
      (row_assembled (Payload.columns first)) (first :: others) tuples each
    rw [List.map_id, ← List.map_map] at rows
    have upserted : (if keyword == "INSERT" && clauses.hasUpsert
        then [plain ("ON DUPLICATE KEY UPDATE " ++ clauses.upsertText)] else []) =
        (upsertRows keyword clauses).map ofPieces := by
      unfold upsertRows
      split <;> simp
    rw [upserted, rows, listed, joined_ofPieces] at written
    rw [← written]
    simp only [pieces, insertPieces, read, Except.toOption, Option.getD_some, List.head?_cons,
      Option.map_some]
    refine Eq.trans ?_ (joined_ofPieces _ _)
    simp [spaced, words_ofPieces, wordRows, Clauses.firstTable, named]

theorem update_assembled (data : Value) (clauses : Clauses) (fragment : Fragment)
    (written : clauses.update data = .ok fragment) :
    fragment = ofPieces (pieces (.update data) clauses) := by
  obtain ⟨_, accepted, written⟩ := bind_success written
  have named := tableTexts_of_writes clauses accepted
  obtain ⟨payload, read, written⟩ := bind_success written
  obtain ⟨joins, first, written⟩ := bind_success written
  obtain ⟨assignments, second, written⟩ := bind_success written
  obtain ⟨conditions, third, written⟩ := bind_success written
  have written := return_success written
  have rows := mapM_determined _ id (ofPieces ∘ assignmentPieces) assignment_assembled payload
    assignments second
  rw [List.map_id, ← List.map_map] at rows
  rw [Join.fragments_assembled _ joins first, Condition.fragments_assembled _ _ conditions third,
    rows, listed, joined_ofPieces, led_ofPieces, ledBy_ofPieces, window_ofPieces] at written
  rw [← written]
  simp only [pieces, updatePieces, read, Except.toOption, Option.getD_some]
  rw [← joined_ofPieces]
  simp [spaced, words_ofPieces, wordRows, Clauses.firstTable, named]

theorem delete_assembled (clauses : Clauses) (fragment : Fragment)
    (written : clauses.delete = .ok fragment) :
    fragment = ofPieces (pieces .delete clauses) := by
  obtain ⟨_, accepted, written⟩ := bind_success written
  have named := tableTexts_of_writes clauses accepted
  simp only [pieces, deletePieces]
  split at written
  · rename_i several
    rw [if_pos several]
    obtain ⟨joins, first, written⟩ := bind_success written
    obtain ⟨conditions, second, written⟩ := bind_success written
    rw [← return_success written, Join.fragments_assembled _ joins first,
      Condition.fragments_assembled _ _ conditions second, ledBy_ofPieces, ← joined_ofPieces]
    simp [spaced, words_ofPieces, wordRows, named]
  · rename_i single
    rw [if_neg single]
    obtain ⟨conditions, second, written⟩ := bind_success written
    rw [← return_success written, Condition.fragments_assembled _ _ conditions second,
      ledBy_ofPieces, window_ofPieces, ← joined_ofPieces]
    simp [spaced, words_ofPieces, wordRows, named]

/-- A statement is its pieces side by side. -/
theorem assembled (rendering : Rendering) (clauses : Clauses) (fragment : Fragment)
    (written : rendering.render clauses = .ok fragment) :
    fragment = ofPieces (rendering.pieces clauses) := by
  cases rendering with
  | select columns => exact select_assembled columns clauses fragment written
  | counting columns => exact counting_assembled columns clauses fragment written
  | insert keyword rows => exact insert_assembled keyword rows clauses fragment written
  | update data => exact update_assembled data clauses fragment written
  | delete => exact delete_assembled clauses fragment written
  | written text arguments =>
    cases written
    simp [pieces]

end Rendering
end Querywright
