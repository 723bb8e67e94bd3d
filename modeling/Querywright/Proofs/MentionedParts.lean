import Querywright.Proofs.FilledRuns

/-! Calls that mention what was made before them. A mention is a shared place; settling a call puts
in what was made there, at any depth of its arguments. Settling a filled call with filled parts and
filling the settled call come to the same. -/
namespace Querywright

/-- What was made in a chain, as values to be mentioned. -/
def mentioned (made : List Expression) : List Value :=
  made.map Value.expression

/-- The columns of an upsert mention nothing. -/
def ClauseCall.settled (contents : List Value) : ClauseCall → ClauseCall
  | .table names => .table (names.map (Value.settle contents))
  | .restrict connector arguments => .restrict connector (arguments.map (Value.settle contents))
  | .restrictGroups connector arguments =>
    .restrictGroups connector (arguments.map (Value.settle contents))
  | .join target condition direction =>
    .join (target.settle contents) (condition.settle contents) (direction.settle contents)
  | .restrictJoin connector target arguments =>
    .restrictJoin connector (target.settle contents) (arguments.map (Value.settle contents))
  | .orderBy column direction ranking =>
    .orderBy (column.settle contents) (direction.settle contents)
      (ranking.map (Value.settle contents))
  | .groupBy columns => .groupBy (columns.map (Value.settle contents))
  | .limit values => .limit (values.map (Value.settle contents))
  | .options chosen => .options (chosen.map (Value.settle contents))
  | .onDuplicate columns insertIdColumn => .onDuplicate columns insertIdColumn
  | .requestTotal => .requestTotal

def TerminalCall.settled (contents : List Value) : TerminalCall → TerminalCall
  | .get columns => .get (columns.map (Value.settle contents))
  | .getOne columns => .getOne (columns.map (Value.settle contents))
  | .getValue column => .getValue (column.settle contents)
  | .getValues column => .getValues (column.settle contents)
  | .paginate page columns =>
    .paginate (page.settle contents) (columns.map (Value.settle contents))
  | .has => .has
  | .insert data => .insert (data.settle contents)
  | .insertMulti rows => .insertMulti (rows.settle contents)
  | .replace data => .replace (data.settle contents)
  | .update data => .update (data.settle contents)
  | .delete => .delete
  | .rawQuery text values =>
    .rawQuery (text.settle contents) (values.map (Value.settle contents))
  | .rawQueryOne text values =>
    .rawQueryOne (text.settle contents) (values.map (Value.settle contents))
  | .rawQueryValue text values =>
    .rawQueryValue (text.settle contents) (values.map (Value.settle contents))
  | .rawQueryValues text values =>
    .rawQueryValues (text.settle contents) (values.map (Value.settle contents))
  | .lock tables => .lock (tables.map (Value.settle contents))
  | .unlock => .unlock

def BuilderCall.settled (contents : List Value) : BuilderCall → BuilderCall
  | .clause call => .clause (call.settled contents)
  | .terminal call => .terminal (call.settled contents)
  | .bind slot rule => .bind slot rule
  | .setLockMethod method => .setLockMethod (method.settle contents)
  | .setTrace enabled => .setTrace (enabled.settle contents)

def Destination.settled (contents : List Value) : Destination → Destination
  | .holder type content => .holder type (content.settle contents)
  | .record name fields => .record name (Value.settleFields contents fields)
  | .expression inner => .expression inner
  | .builder number fields changes => .builder number fields changes
  | .list items => .list (items.map (Value.settle contents))
  | .mapping entries => .mapping (Value.settleEntries contents entries)

def Move.settled (contents : List Value) : Move → Move
  | .invoke call => .invoke (call.settled contents)
  | .clone => .clone
  | .place destination => .place (destination.settled contents)
  | .setPageLimit pageLimit => .setPageLimit (pageLimit.settle contents)

variable (filling : Filling) (made : List Expression)

theorem mentioned_fill (isBound : Bool) (place : Nat) :
    ((mentioned (made.map (Expression.filled filling)))[place]?).getD .null =
      (((mentioned made)[place]?).getD .null).filled filling isBound := by
  unfold mentioned
  rw [List.map_map, List.getElem?_map, List.getElem?_map]
  cases made[place]? <;> rfl

mutual

theorem Value.settle_fill (isBound : Bool) (value : Value) :
    (value.filled filling isBound).settle (mentioned (made.map (Expression.filled filling))) =
      (value.settle (mentioned made)).filled filling isBound := by
  match value with
  | .list items | .tuple items | .set _ items =>
    simp only [Value.filled, Value.settle, Value.settleAll_fill isBound items]
  | .mapping entries =>
    simp only [Value.filled, Value.settle, Value.settleEntries_fill isBound entries]
  | .record name fields =>
    simp only [Value.filled, Value.settle, Value.settleFields_fill isBound fields]
  | .holder content => simp only [Value.filled, Value.settle, content.settle_fill isBound]
  | .shared place => exact mentioned_fill filling made isBound place
  | .text name =>
    cases isBound with
    | false => rfl
    | true => exact filling.settled _ name
  | .null | .truth _ | .integer _ | .decimal _ | .octets _ | .declared _ | .supplier _ |
    .connection _ | .expression _ | .thing .. => rfl
termination_by structural value

theorem Value.settleAll_fill (isBound : Bool) (values : List Value) :
    Value.settleAll (mentioned (made.map (Expression.filled filling)))
        (Value.fillAll filling isBound values) =
      Value.fillAll filling isBound (Value.settleAll (mentioned made) values) := by
  match values with
  | [] => rfl
  | value :: rest =>
    rw [Value.fillAll, Value.settleAll, Value.settleAll, Value.fillAll, value.settle_fill isBound,
      Value.settleAll_fill isBound rest]
termination_by structural values

theorem Value.settleEntries_fill (isBound : Bool) (entries : List (Value × Value)) :
    Value.settleEntries (mentioned (made.map (Expression.filled filling)))
        (Value.fillEntries filling isBound entries) =
      Value.fillEntries filling isBound (Value.settleEntries (mentioned made) entries) := by
  match entries with
  | [] => rfl
  | (key, value) :: rest =>
    rw [Value.fillEntries, Value.settleEntries, Value.settleEntries, Value.fillEntries,
      key.settle_fill false, value.settle_fill isBound, Value.settleEntries_fill isBound rest]
termination_by structural entries

theorem Value.settleFields_fill (isBound : Bool) (fields : List (String × Value)) :
    Value.settleFields (mentioned (made.map (Expression.filled filling)))
        (Value.fillFields filling isBound fields) =
      Value.fillFields filling isBound (Value.settleFields (mentioned made) fields) := by
  match fields with
  | [] => rfl
  | (name, value) :: rest =>
    rw [Value.fillFields, Value.settleFields, Value.settleFields, Value.fillFields,
      value.settle_fill isBound, Value.settleFields_fill isBound rest]
termination_by structural fields

end

theorem settleRow_fill (isBound : Bool) (values : List Value) :
    (values.map (Value.filled filling isBound)).map
        (Value.settle (mentioned (made.map (Expression.filled filling)))) =
      (values.map (Value.settle (mentioned made))).map (Value.filled filling isBound) := by
  rw [List.map_map, List.map_map]
  exact List.map_congr_left fun value _ => value.settle_fill filling made isBound

/-- What is made is no text and no mapping. -/
theorem settle_asText? (value : Value) :
    (value.settle (mentioned made)).asText? = value.asText? := by
  cases value with
  | shared place =>
    simp only [Value.settle, mentioned, List.getElem?_map]
    cases made[place]? <;> rfl
  | _ => rfl

theorem settle_isMapping (value : Value) :
    (value.settle (mentioned made)).isMapping = value.isMapping := by
  cases value with
  | shared place =>
    simp only [Value.settle, mentioned, List.getElem?_map]
    cases made[place]? <;> rfl
  | _ => rfl

theorem settleTerms_fill (column : String) (terms : List Value) :
    (filledTerms filling column terms).map
        (Value.settle (mentioned (made.map (Expression.filled filling)))) =
      filledTerms filling column (terms.map (Value.settle (mentioned made))) := by
  match terms with
  | [] => rfl
  | [value] =>
    simp only [filledTerms, List.map_cons, List.map_nil, Value.settle_fill]
  | operator :: value :: rest =>
    simp only [filledTerms, List.map_cons, Value.settle_fill, settleRow_fill]

theorem filledCondition_of_other (head : Value) (terms : List Value) (unnamed : head.asText? = none) :
    filledCondition filling (head :: terms) = (head :: terms).map (Value.filled filling false) := by
  cases head with
  | text name => cases unnamed
  | _ => rfl

theorem settleCondition_fill (arguments : List Value) :
    (filledCondition filling arguments).map
        (Value.settle (mentioned (made.map (Expression.filled filling)))) =
      filledCondition filling (arguments.map (Value.settle (mentioned made))) := by
  cases arguments with
  | nil => rfl
  | cons head terms =>
    cases named : head.asText? with
    | some column =>
      obtain rfl : head = .text column := by
        cases head <;> simp_all [Value.asText?]
      exact congrArg (Value.text column :: ·) (settleTerms_fill filling made column terms)
    | none =>
      rw [filledCondition_of_other filling head terms named, settleRow_fill, List.map_cons,
        filledCondition_of_other _ _ _ (by rw [settle_asText?, named])]

theorem settleRowToWrite_fill (row : Value) :
    (row.rowFilled filling).settle (mentioned (made.map (Expression.filled filling))) =
      (row.settle (mentioned made)).rowFilled filling := by
  unfold Value.rowFilled
  rw [Value.settle_fill, settle_isMapping]

theorem settleAll_eq_map (contents values : List Value) :
    Value.settleAll contents values = values.map (Value.settle contents) := by
  induction values with
  | nil => rfl
  | cons value rest ih => rw [Value.settleAll, ih, List.map_cons]

theorem settleRowsToWrite_fill (rows : Value) :
    (rowsFilled filling rows).settle (mentioned (made.map (Expression.filled filling))) =
      rowsFilled filling (rows.settle (mentioned made)) := by
  have each (rows : List Value) : (rows.map (Value.rowFilled filling)).map
        (Value.settle (mentioned (made.map (Expression.filled filling)))) =
      (rows.map (Value.settle (mentioned made))).map (Value.rowFilled filling) := by
    rw [List.map_map, List.map_map]
    exact List.map_congr_left fun row _ => settleRowToWrite_fill filling made row
  cases rows with
  | list rows | tuple rows =>
    simp only [rowsFilled, Value.settle, settleAll_eq_map, each]
  | shared place =>
    refine (mentioned_fill filling made false place).trans ?_
    simp only [Value.settle, mentioned, List.getElem?_map]
    cases made[place]? <;> rfl
  | _ => exact Value.settle_fill filling made false _

theorem ClauseCall.settle_fill (call : ClauseCall) :
    (call.filled filling).settled (mentioned (made.map (Expression.filled filling))) =
      (call.settled (mentioned made)).filled filling := by
  cases call <;>
    simp only [ClauseCall.filled, ClauseCall.settled, Value.settle_fill, settleRow_fill,
      settleCondition_fill]

theorem TerminalCall.settle_fill (call : TerminalCall) :
    (call.filled filling).settled (mentioned (made.map (Expression.filled filling))) =
      (call.settled (mentioned made)).filled filling := by
  cases call <;>
    simp only [TerminalCall.filled, TerminalCall.settled, Value.settle_fill, settleRow_fill,
      settleRowToWrite_fill, settleRowsToWrite_fill]

theorem Destination.settle_fill (destination : Destination) :
    (destination.filled filling).settled (mentioned (made.map (Expression.filled filling))) =
      (destination.settled (mentioned made)).filled filling := by
  cases destination <;>
    simp only [Destination.filled, Destination.settled, Value.settle_fill, settleRow_fill,
      Value.settleFields_fill, Value.settleEntries_fill]

theorem Move.settle_fill (move : Move) :
    (move.filled filling).settled (mentioned (made.map (Expression.filled filling))) =
      (move.settled (mentioned made)).filled filling := by
  cases move with
  | invoke call =>
    cases call <;>
      simp only [Move.filled, Move.settled, BuilderCall.filled, BuilderCall.settled,
        ClauseCall.settle_fill, TerminalCall.settle_fill, Value.settle_fill]
  | clone => rfl
  | _ => simp only [Move.filled, Move.settled, Value.settle_fill, Destination.settle_fill]

end Querywright
