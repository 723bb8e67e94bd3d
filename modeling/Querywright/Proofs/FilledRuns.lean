import Querywright.Subquery
import Querywright.Timestamp
import Querywright.Proofs.FilledCalls
import Querywright.Proofs.RecordFitting

/-! Everything else that a chain does: settings, copies, destinations, expressions and nested
selects. A setting is read as what it is fitted to, which a filling leaves alone. -/
namespace Querywright
open Work

variable {τ : Type} (filling : Filling)

/-! Settings. -/

theorem fitInteger_fill (value : Value) :
    fitInteger (value.filled filling false) = fitInteger value := by
  cases value <;> rfl

theorem fitTruth_fill (value : Value) : fitTruth (value.filled filling false) = fitTruth value := by
  cases value <;> rfl

theorem filled_of_asInteger (value : Value) (counts : value.asInteger?.isSome) :
    value.filled filling false = value := by
  cases value with
  | integer | truth => rfl
  | _ => cases counts

theorem integerFrom_integer (text : String) (fitted : Fitted) (ok : integerFrom text = .ok fitted) :
    ∃ number, fitted.value = .integer number := by
  unfold integerFrom at ok
  split at ok <;> cases ok
  exact ⟨_, rfl⟩

theorem fitInteger_integer (value : Value) (fitted : Fitted) (ok : fitInteger value = .ok fitted) :
    ∃ number, fitted.value = .integer number := by
  unfold fitInteger at ok
  split at ok
  · cases ok
    exact ⟨_, rfl⟩
  · cases ok
    exact ⟨_, rfl⟩
  · rename_i number
    cases read : integerOfFloat number with
    | error flaws => simp [read, bind, Except.bind] at ok
    | ok whole =>
      rw [read] at ok
      cases ok
      exact ⟨_, rfl⟩
  · split at ok
    · exact integerFrom_integer _ fitted ok
    · cases ok
    · cases ok

theorem fitInteger_counts (value : Value) (fitted : Fitted) (ok : fitInteger value = .ok fitted) :
    fitted.value.asInteger?.isSome := by
  obtain ⟨number, same⟩ := fitInteger_integer value fitted ok
  rw [same]
  rfl

theorem truthOfInt_counts (number : Int) (fitted : Fitted) (ok : truthOfInt number = .ok fitted) :
    fitted.value.asInteger?.isSome := by
  unfold truthOfInt at ok
  split at ok
  · cases ok
    rfl
  · split at ok
    · cases ok
      rfl
    · cases ok

theorem fitTruth_counts (value : Value) (fitted : Fitted) (ok : fitTruth value = .ok fitted) :
    fitted.value.asInteger?.isSome := by
  unfold fitTruth at ok
  split at ok
  · cases ok
    rfl
  · split at ok
    · exact truthOfInt_counts _ fitted ok
    · cases ok
  · split at ok
    · exact truthOfInt_counts _ fitted ok
    · cases ok
  · split at ok
    · split at ok <;> cases ok
      rfl
    · cases ok
    · cases ok

/-- The types of settings, by which a value is fitted alike before and after it is filled. -/
def FieldType.IsSetting (type : FieldType) : Prop :=
  type = .integer ∨ type = .text ∨ type = .truth

theorem fitNamed_fill (name : String) (type : FieldType) (setting : type.IsSetting) (value : Value) :
    fitNamed name type (value.filled filling false) = fitNamed name type value := by
  unfold fitNamed
  rcases setting with rfl | rfl | rfl
  · rw [fit, fit, fitInteger_fill]
  · rw [fit, fit, fitText_fill]
  · rw [fit, fit, fitTruth_fill]

theorem fittedOr_fill (name : String) (type : FieldType) (setting : type.IsSetting)
    (fallback : Value) (options : Options) :
    Settings.fittedOr name type fallback
        (options.map fun (name, value) => (name, value.filled filling false)) =
      Settings.fittedOr name type fallback options := by
  unfold Settings.fittedOr
  rw [lookup_map]
  cases options.lookup name with
  | none => rfl
  | some value => exact fitNamed_fill filling name type setting value

theorem Settings.ofOptions_fill (options : Options) :
    Settings.ofOptions (options.map fun (name, value) => (name, value.filled filling false)) =
      Settings.ofOptions options := by
  unfold Settings.ofOptions
  rw [fittedOr_fill filling "page_limit" .integer (.inl rfl),
    fittedOr_fill filling "lock_method" .text (.inr (.inl rfl)),
    fittedOr_fill filling "tracing" .truth (.inr (.inr rfl))]

theorem fittedOr_counts (name : String) (type : FieldType)
    (counts : ∀ value fitted, fit [] type value = .ok fitted → fitted.value.asInteger?.isSome)
    (fallback : Value) (initial : fallback.asInteger?.isSome) (options : Options) (value : Value)
    (ok : Settings.fittedOr name type fallback options = .ok value) : value.asInteger?.isSome := by
  unfold Settings.fittedOr at ok
  split at ok
  · cases ok
    exact initial
  · rename_i given _
    unfold fitNamed at ok
    split at ok
    · rename_i fitted fits
      cases ok
      exact counts given fitted fits
    · cases ok

theorem besides_success {α β : Type} {left : Except Flaws α} {right : Except Flaws β} {both : α × β}
    (ok : besides left right = .ok both) : left = .ok both.1 ∧ right = .ok both.2 := by
  unfold besides at ok
  split at ok <;> cases ok
  exact ⟨rfl, rfl⟩

theorem Settings.ofOptions_kept (options : Options) (settings : Settings)
    (ok : Settings.ofOptions options = .ok settings) : settings.filled filling = settings := by
  unfold Settings.ofOptions at ok
  dsimp only at ok
  split at ok
  · cases ok
  · rename_i pageLimit lockMethod tracing both
    cases ok
    obtain ⟨page, rest⟩ := besides_success both
    obtain ⟨-, traced⟩ := besides_success rest
    have whole := fittedOr_counts "page_limit" .integer
      (fun value fitted fits => fitInteger_counts value fitted (by rwa [fit] at fits)) _ rfl options
      pageLimit page
    have truth := fittedOr_counts "tracing" .truth
      (fun value fitted fits => fitTruth_counts value fitted (by rwa [fit] at fits)) _ rfl options
      tracing traced
    simp [Settings.filled, filled_of_asInteger filling _ whole, filled_of_asInteger filling _ truth]

theorem Settings.renewed_follows (settings : Settings) :
    Follows (Settings.filled filling) settings.renewed (settings.filled filling).renewed := by
  have options : (settings.filled filling).options =
      settings.options.map fun (name, value) => (name, value.filled filling false) := rfl
  unfold Settings.renewed
  rw [options, Settings.ofOptions_fill]
  cases renewed : Settings.ofOptions settings.options with
  | error reason => exact .failure rfl
  | ok fresh => exact .of_eq (Settings.ofOptions_kept filling _ fresh renewed).symm

/-! Moves of a builder. -/

def BuilderCall.filled : BuilderCall → BuilderCall
  | .clause call => .clause (call.filled filling)
  | .terminal call => .terminal (call.filled filling)
  | .bind slot rule => .bind slot rule
  | .setLockMethod method => .setLockMethod (method.filled filling false)
  | .setTrace enabled => .setTrace (enabled.filled filling false)

def Move.filled : Move → Move
  | .invoke call => .invoke (call.filled filling)
  | .clone => .clone
  | .place destination => .place (destination.filled filling)
  | .setPageLimit pageLimit => .setPageLimit (pageLimit.filled filling false)

variable {filling}

theorem BuilderCall.applyClause_agrees (call : ClauseCall) :
    Agrees (τ := τ) filling id (applyClause call) (applyClause (call.filled filling)) := by
  constructor
  · intro desk
    exact (call.apply_follows filling desk.builder.clauses).outcome
  · intro desk
    have left := (call.apply_follows filling desk.builder.clauses).clauses
    exact congrArg (fun clauses => ({ desk.filled filling with
      builder := { desk.builder.filled filling with clauses := clauses } } : Desk τ)) left

theorem BuilderCall.replaceBuilder_agrees {change other : Desk τ → Except Error Builder}
    (followed : ∀ desk,
      Follows (Builder.filled filling) (change desk) (other (desk.filled filling))) :
    Agrees filling id (replaceBuilder change) (replaceBuilder other) := by
  have both (desk : Desk τ) :
      Follows id ((replaceBuilder change).run desk).1
          ((replaceBuilder other).run (desk.filled filling)).1 ∧
        ((replaceBuilder other).run (desk.filled filling)).2 =
          ((replaceBuilder change).run desk).2.filled filling := by
    have outcome := followed desk
    rw [run_replaceBuilder, run_replaceBuilder]
    generalize change desk = first at outcome
    generalize other (desk.filled filling) = second at outcome
    cases outcome with
    | success builder => exact ⟨.success (), rfl⟩
    | failure same => exact ⟨.failure same, rfl⟩
  exact ⟨fun desk => (both desk).1, fun desk => (both desk).2⟩

theorem Builder.clone_follows (builder : Builder) :
    Follows (Builder.filled filling) builder.clone (builder.filled filling).clone :=
  (builder.settings.renewed_follows filling).map fun _ => rfl

theorem Builder.setLockMethod_follows (method : Value) (builder : Builder) :
    Follows (Builder.filled filling) (builder.setLockMethod method)
      ((builder.filled filling).setLockMethod (method.filled filling false)) := by
  unfold Builder.setLockMethod
  rw [Value.asText?_fill]
  split
  · exact .success _
  · exact .failure rfl

theorem BuilderCall.boundBuilder_follows (schema : Schema) (slot : Nat) (rule : ElementRule)
    (desk : Desk τ) :
    Follows (Builder.filled filling) (boundBuilder schema slot rule desk)
      (boundBuilder schema slot rule (desk.filled filling)) := by
  have shelf : (desk.filled filling).shelf = desk.shelf.map (Destination.filled filling) := rfl
  unfold boundBuilder
  rw [shelf, List.getElem?_map]
  cases desk.shelf[slot]? with
  | none => exact .failure rfl
  | some destination =>
    dsimp only [Option.map_some]
    unfold Builder.bind
    rw [selectSink_fill]
    exact (Follows.same (selectSink schema destination rule)).map fun _ => rfl

/-- What a move does on a filled desk is what it does on the desk itself, filled. -/
theorem Move.perform_agrees (schema : Schema) (move : Move) :
    Agrees (τ := τ) filling (Option.map (Value.filled filling false)) (move.perform (resting schema))
      ((move.filled filling).perform (resting schema)) := by
  cases move with
  | invoke call =>
    cases call with
    | clause call => exact (BuilderCall.applyClause_agrees call).bind fun _ => .answer none
    | terminal call => exact call.perform_agrees filling schema
    | bind slot rule =>
      refine (BuilderCall.replaceBuilder_agrees fun desk => ?_).bind fun _ => .answer none
      exact BuilderCall.boundBuilder_follows schema slot rule desk
    | setLockMethod method =>
      refine (BuilderCall.replaceBuilder_agrees fun desk => ?_).bind fun _ => .answer none
      exact desk.builder.setLockMethod_follows method
    | setTrace enabled =>
      refine (BuilderCall.replaceBuilder_agrees fun desk => ?_).bind fun _ => .answer none
      exact .success (desk.builder.setTrace enabled)
  | clone =>
    refine (BuilderCall.replaceBuilder_agrees fun desk => ?_).bind fun _ => .answer none
    exact desk.builder.clone_follows
  | place destination =>
    refine Agrees.andThen ⟨fun _ => .success (), fun desk => ?_⟩ fun _ => .answer none
    have shelf : (desk.shelf ++ [destination]).map (Destination.filled filling) =
        (desk.filled filling).shelf ++ [destination.filled filling] := List.map_append
    exact congrArg (fun shelf => ({ desk.filled filling with shelf := shelf } : Desk τ)) shelf.symm
  | setPageLimit pageLimit =>
    refine Agrees.andThen (.changeBuilder fun _ => ?_) fun _ => .answer none
    rfl

variable (filling)

/-! Nested selects and other expressions. -/

theorem fit_optionalText (value : Value) :
    fit [] (.optional .text) value =
      if value.isNull then .ok { value := .null } else fitText value := by
  rw [fit_optional [] rfl, fit]

theorem fitOptionalText_fill (name : String) (value : Value) :
    fitNamed name (.optional .text) (value.filled filling false) =
      fitNamed name (.optional .text) value := by
  have missing : (value.filled filling false).isNull = value.isNull := by
    cases value <;> rfl
  unfold fitNamed
  rw [fit_optionalText, fit_optionalText, missing, fitText_fill]

theorem Subquery.make_follows (pageLimit derivedName : Value) :
    Follows (Subquery.filled filling) (Subquery.make pageLimit derivedName)
      (Subquery.make (pageLimit.filled filling false) (derivedName.filled filling false)) := by
  unfold Subquery.make
  have options := Settings.ofOptions_fill filling [("page_limit", pageLimit)]
  rw [List.map_singleton] at options
  rw [options, fitOptionalText_fill]
  refine (Follows.same _).bind fun settings _ => ?_
  cases fitNamed "alias" (.optional .text) derivedName with
  | error flaws => exact .failure rfl
  | ok name => exact .success _

theorem Subquery.filled_eq (subquery : Subquery) :
    subquery.filled filling = { subquery with
      clauses := subquery.clauses.filled filling
      recorded := subquery.recorded.map fun (text, arguments) =>
        (text, arguments.map (Value.filled filling true)) } := by
  obtain ⟨clauses, pageLimit, derivedName, recorded⟩ := subquery
  cases recorded with
  | none => rfl
  | some statement => simp [Subquery.filled]

theorem Subquery.derive_follows (call : ClauseCall) (subquery : Subquery) :
    Follows (Subquery.filled filling) (subquery.derive call)
      ((subquery.filled filling).derive (call.filled filling)) := by
  have applied := call.apply_follows filling subquery.clauses
  unfold Subquery.derive
  rw [Subquery.filled_eq]
  dsimp only
  generalize call.apply subquery.clauses = first at applied
  generalize (call.filled filling).apply (subquery.clauses.filled filling) = second at applied
  obtain ⟨result, clauses⟩ := first
  obtain ⟨other, beside⟩ := second
  obtain ⟨outcome, left⟩ := applied
  dsimp only at outcome left
  subst left
  cases outcome with
  | success => exact .of_eq (by rw [Subquery.filled_eq]; rfl)
  | failure same => exact .failure same

/-- What a select takes over from a statement written with it. -/
def Subquery.noting (subquery : Subquery) :
    Except Error (Option Value) × Desk Unit → Except Error Subquery
  | (.error reason, _) => .error reason
  | (.ok _, after) =>
    (invalidOr (fitNamed "statement" .text after.builder.results.query)).map fun statement =>
      { subquery with
        clauses := after.builder.clauses
        recorded := some (statement.plain, after.builder.results.arguments) }

theorem Subquery.record_eq (call : TerminalCall) (subquery : Subquery) :
    subquery.record call =
      subquery.noting ((call.perform (resting (τ := Unit) [])).run subquery.desk) :=
  rfl

theorem Subquery.record_follows (call : TerminalCall) (subquery : Subquery) :
    Follows (Subquery.filled filling) (subquery.record call)
      ((subquery.filled filling).record (call.filled filling)) := by
  have desk : (subquery.filled filling).desk = subquery.desk.filled filling := by
    rw [Subquery.filled_eq]
    rfl
  have agreed := call.perform_agrees (τ := Unit) filling []
  have outcome := agreed.outcome subquery.desk
  have left := agreed.desk subquery.desk
  rw [Subquery.record_eq, Subquery.record_eq, desk]
  generalize (call.perform (resting [])).run subquery.desk = first at outcome left
  generalize ((call.filled filling).perform (resting [])).run _ = second at outcome left
  obtain ⟨result, after⟩ := first
  obtain ⟨other, beside⟩ := second
  dsimp only at outcome left
  subst left
  cases outcome with
  | failure same => exact .failure same
  | success answer =>
    have query : (after.filled filling).builder.results.query =
        after.builder.results.query.filled filling false := rfl
    unfold Subquery.noting
    dsimp only
    rw [query, fitNamed_text_fill]
    refine (Follows.same _).map fun statement => ?_
    rw [Subquery.filled_eq, Subquery.filled_eq]
    rfl

theorem Expression.functionOf_follows (template : Value) (arguments : List Value) :
    Follows (Expression.filled filling) (Expression.functionOf template arguments)
      (Expression.functionOf (template.filled filling false)
        (arguments.map (Value.filled filling true))) := by
  unfold Expression.functionOf
  rw [fitNamed_text_fill]
  refine (Follows.same _).map fun fitted => ?_
  rw [Expression.filled, Value.fillAll_eq_map]
  rfl

/-- Names of months and weekdays are read, everything else that a comparison is made with is
bound. -/
def TimePart.binds (part : TimePart) (value : Value) : Bool :=
  match part with
  | .month | .weekday => value.asText?.isNone
  | _ => true

theorem namedMoment_follows (part : TimePart) (names : List String) (first : Nat) (name : String)
    (unknown : Error) :
    Follows (Expression.filled filling)
      (match numberOfName? names first name with
        | some number => .ok (.timestamp part number)
        | none => .error unknown)
      (match numberOfName? names first name with
        | some number => .ok (.timestamp part number)
        | none => .error unknown) := by
  unfold numberOfName?
  cases names.findIdx? (· == Text.lower name) with
  | none => exact .failure rfl
  | some position => exact .success (Expression.timestamp part (.integer _))

theorem timestamp_follows (part : TimePart) (value : Value) :
    Follows (Expression.filled filling) (timestamp part value)
      (timestamp part (value.filled filling (part.binds value))) := by
  cases part with
  | month =>
    cases value with
    | text name => exact namedMoment_follows filling .month monthNames 1 name (.unknownMonth name)
    | _ => exact .success _
  | weekday =>
    cases value with
    | text name =>
      exact namedMoment_follows filling .weekday weekdayNames 0 name (.unknownWeekday name)
    | _ => exact .success _
  | _ => exact .success _

end Querywright
