import Querywright.Proofs.DoubleRange
import Querywright.Proofs.FetchedRows
import Querywright.Proofs.PageWindows
import Querywright.Proofs.TerminalLifecycle
import Mathlib

/-! Totals that are counted, and what becomes of them. The rows are there and the total is known
when the number of pages is reckoned; that is the last step of a call, and it fails where a double
cannot hold the quotient, or there is none. -/
namespace Querywright
open Work

variable {τ : Type}

section Quotient

variable {total : Nat} {size : Int}

theorem quotientRoundedUp_sized (sized : size ≠ 0) :
    quotientRoundedUp total size =
      if (Number.nearest total size.natAbs).overflows then .error (.misuse .quotientTooLarge)
      else if ((total : Int) < 0) == (size < 0) then
        .ok (Number.nearest total size.natAbs).ceiling
      else .ok (-((Number.nearest total size.natAbs).floor : Int)) := by
  have apart : (size == 0) = false := beq_eq_false_iff_ne.mpr sized
  unfold quotientRoundedUp
  rw [apart, if_neg Bool.false_ne_true, Int.natAbs_natCast]

theorem quotientRoundedUp_large (sized : size ≠ 0)
    (large : size.natAbs * Number.doubleLimit ≤ total) :
    quotientRoundedUp total size = .error (.misuse .quotientTooLarge) := by
  have exceeds := Number.nearest_overflows total (Int.natAbs_pos.mpr sized)
  rw [quotientRoundedUp_sized sized, if_pos (exceeds.mpr large)]

theorem quotientRoundedUp_fits (sized : size ≠ 0)
    (fits : total < size.natAbs * Number.doubleLimit) :
    ∃ pages, quotientRoundedUp total size = .ok pages := by
  have exceeds := Number.nearest_overflows total (Int.natAbs_pos.mpr sized)
  rw [quotientRoundedUp_sized sized, if_neg (mt exceeds.mp (not_le.mpr fits))]
  split
  · exact ⟨_, rfl⟩
  · exact ⟨_, rfl⟩

end Quotient

theorem pagesOf_whole (total : Int) {pageLimit : Value} {size : Int}
    (whole : pageLimit.asInteger? = some size) :
    pagesOf total pageLimit = quotientRoundedUp total size := by
  unfold pagesOf
  rw [whole]

/-- A page limit that pages are cut by is above zero. -/
theorem pageWindow_positive {page pageLimit : Value} {window : List Value} {size : Int}
    (cut : pageWindow page pageLimit = .ok window) (whole : pageLimit.asInteger? = some size) :
    0 < size := by
  unfold pageWindow isPositive at cut
  rw [whole] at cut
  by_contra none
  simp [none] at cut
  cases cut

/-- The total is known, and the number of pages if there is one. -/
def Desk.reckoned (total : Int) (pages : Except Error Int) (desk : Desk τ) : Desk τ :=
  { desk with
    builder := { desk.builder with
      results := { desk.builder.results with
        total := total
        pages := pages.toOption.getD desk.builder.results.pages } } }

namespace Work

/-- The statement that counts the rows of a select. -/
def countQuery (setting : Setting τ) (columns : List Value) : Work τ (Option Report) := do
  executeAside setting (← ofResult ((← pending).countRows columns))

/-- What becomes of the first cell of a count. -/
def reckon : Option (Except Error Value) → Work τ Unit
  | none => return ()
  | some cell => do
    let total ← ofResult (do totalOf (← cell))
    changeResults fun results => { results with total := total }
    let pages ← ofResult (pagesOf total (← builder).settings.pageLimit)
    changeResults fun results => { results with pages := pages }

variable {setting : Setting τ} {columns : List Value} {taken counted : Desk τ} {report : Report}
  {total : Int}

/-- With a whole number in the first cell nothing can fail any more but the number of pages. -/
theorem fetchTotal_counted
    (answered : (countQuery setting columns).run taken = (.ok (some report), counted))
    (cell : firstCell report = some (.ok (.integer total))) :
    let pages := pagesOf total counted.builder.settings.pageLimit
    (fetchTotal setting columns).run taken =
      (pages.map fun _ => (), counted.reckoned total pages) := by
  intro pages
  have parts : fetchTotal setting columns =
      countQuery setting columns >>= fun report => reckon (report.bind firstCell) := by
    unfold fetchTotal countQuery
    rw [bind_assoc]
    exact congrArg (pending >>= ·) (funext fun _ => (bind_assoc _ _ _).symm)
  have divided : pagesOf total counted.builder.settings.pageLimit = pages := rfl
  rw [parts, run_bind_ok answered, Option.bind_some, cell, reckon,
    run_bind_ok (show (ofResult _ : Work τ Int).run counted = (.ok total, counted) from rfl),
    run_bind_ok (rfl : (changeResults _).run counted = _), run_bind_ok (run_builder _)]
  dsimp only
  rw [divided]
  cases pages with
  | error reason => rfl
  | ok value => rfl

end Work

namespace TerminalCall

/-- A select as far as its rows: its own checks, its main statement, and what takes its rows over.
-/
def gather (itself : Bool) (setting : Setting τ) (call : TerminalCall) : Work τ Unit := do
  let report ← call.main setting
  takeBound itself setting.schema (← builder).binding report

/-- A select that asks for its total. Its statements and what takes its rows over succeed, and the
rows are counted as a whole number. -/
structure Counted (itself : Bool) (setting : Setting τ) (call : TerminalCall) (columns : List Value)
    (total : Int) (desk taken counted : Desk τ) : Prop where
  gathered : (call.gather itself setting).run (call.entered desk) = (.ok (), taken)
  requested : taken.builder.clauses.totalRequested = true
  answered : ∃ report, (countQuery setting columns).run taken = (.ok (some report), counted) ∧
    firstCell report = some (.ok (.integer total))

section Counting

variable {itself : Bool} {setting : Setting τ} {call : TerminalCall} {columns : List Value}
  {total : Int} {desk taken counted : Desk τ}

theorem fetch_counted (selects : call.selected? = some columns)
    (counts : call.Counted itself setting columns total desk taken counted) :
    let pages := pagesOf total counted.builder.settings.pageLimit
    (call.fetch itself setting).run (call.entered desk) =
      (pages.map fun _ => (), counted.reckoned total pages) := by
  obtain ⟨report, answered, cell⟩ := counts.answered
  have parts : call.fetch itself setting = (do
      call.gather itself setting
      call.rest setting) := by
    unfold fetch gather
    simp only [bind_assoc]
  have counting : (call.rest setting).run taken = (fetchTotal setting columns).run taken := by
    unfold rest
    rw [selects]
    dsimp only
    rw [run_bind_ok (run_pending taken), if_pos counts.requested]
  intro pages
  rw [parts, run_bind_ok counts.gathered, counting]
  exact fetchTotal_counted answered cell

theorem performAs_counted (selects : call.selected? = some columns)
    (takes : call.takesBound = true)
    (counts : call.Counted itself setting columns total desk taken counted) :
    let pages := pagesOf total counted.builder.settings.pageLimit
    (call.performAs itself setting).run desk =
      (pages.map fun _ => none, (counted.reckoned total pages).closed) := by
  intro pages
  have completed : call.IsCompleted := by
    cases call with
    | rawQueryOne | rawQueryValue => cases selects
    | _ => trivial
  have fetched : (call.fetch itself setting).run (call.entered desk) =
      (pages.map fun _ => (), counted.reckoned total pages) := fetch_counted selects counts
  rw [performAs_bound setting itself call completed takes, fetched]
  unfold conclude reply
  rw [ownless_of_takes takes]
  cases pages with
  | error reason => rfl
  | ok value => rfl

/-- The page limit that the pages are reckoned with is the one that the call found, unless the rows
went to the builder itself and named it. -/
theorem pageLimit_counted (selects : call.selected? = some columns)
    (takes : call.takesBound = true)
    (counts : call.Counted itself setting columns total desk taken counted)
    (spares : itself = true → setting.Answers (Report.Spares ["page_limit"])) :
    counted.builder.settings.pageLimit = desk.builder.settings.pageLimit := by
  have harmless : setting.Answers (IsHarmless Watch.pageLimit itself True False) :=
    fun executor present statement arguments before report after answer own =>
      ⟨fun _ => spares own executor present statement arguments before report after answer,
        False.elim⟩
  have textual : call.IsTextual := by
    cases call with
    | get | getOne | paginate | getValue | getValues => trivial
    | _ => cases selects
  have active : call.locks = true → setting.locksTables = true := by
    cases call with
    | get | getOne | paginate | getValue | getValues => nofun
    | _ => cases selects
  have spared := (call.performAs_scope itself setting harmless textual active).spares desk
  rw [performAs_counted selects takes counts] at spared
  exact spared.settings trivial

/-- A page is cut by a page limit above zero. -/
theorem paginate_positive {page : Value} {size : Int}
    (counts : (paginate page columns).Counted itself setting columns total desk taken counted)
    (whole : desk.builder.settings.pageLimit.asInteger? = some size) : 0 < size := by
  have gathered := counts.gathered
  unfold gather main at gathered
  rw [bind_assoc, run_bind_ok (run_builder _)] at gathered
  rw [bind_assoc] at gathered
  obtain ⟨window, cut, -⟩ := ofResult_success gathered
  exact pageWindow_positive cut whole

end Counting

end TerminalCall

/-- The total of a call that fetches rows and counts them is known, whatever its page limit is. But
the call returns only if the number of pages can be reckoned: the page limit is not zero, and the
quotient stays below what is rounded beyond every double. A call for a page that the rows leave its
page limit has made sure of the former. -/
theorem counting_arithmetic (itself : Bool) (setting : Setting τ) (call : TerminalCall)
    {columns : List Value} (selects : call.selected? = some columns)
    (takes : call.takesBound = true) {total : Nat} {desk taken counted : Desk τ}
    (counts : call.Counted itself setting columns total desk taken counted) {size : Int}
    (whole : counted.builder.settings.pageLimit.asInteger? = some size) :
    let outcome := (call.performAs itself setting).run desk
    outcome.2.builder.results.total = total ∧
      (size = 0 → outcome.1 = .error (.misuse .divisionByZero)) ∧
      (size ≠ 0 → size.natAbs * Number.doubleLimit ≤ total →
        outcome.1 = .error (.misuse .quotientTooLarge)) ∧
      (size ≠ 0 → total < size.natAbs * Number.doubleLimit → outcome.1 = .ok none) ∧
      ((itself = true → setting.Answers (Report.Spares ["page_limit"])) →
        desk.builder.settings.pageLimit.asInteger? = some size ∧
          ∀ page, call = .paginate page columns → 0 < size) := by
  intro outcome
  have ran : outcome = _ := call.performAs_counted selects takes counts
  rw [pagesOf_whole total whole] at ran
  rw [ran]
  refine ⟨rfl, fun zero => ?_, fun sized large => ?_, fun sized fits => ?_, fun spares => ?_⟩
  · rw [zero]
    rfl
  · rw [quotientRoundedUp_large sized large]
    rfl
  · obtain ⟨pages, found⟩ := quotientRoundedUp_fits sized fits
    rw [found]
    rfl
  · have same := TerminalCall.pageLimit_counted selects takes counts spares
    rw [same] at whole
    refine ⟨whole, ?_⟩
    rintro page rfl
    exact TerminalCall.paginate_positive counts whole

/-- A select on pages of a size that asks for its total. -/
def asking (size : Int) : Desk Unit :=
  let desk := sized size
  { desk with builder := { desk.builder with
    clauses := { desk.builder.clauses with totalRequested := true } } }

/-- That select with its rows taken over. -/
def askedRows (total size : Int) : Except Error Unit × Desk Unit :=
  ((TerminalCall.get []).gather false (answering (numbered total))).run
    ((TerminalCall.get []).entered (asking size))

def askedCount (total size : Int) : Except Error (Option Report) × Desk Unit :=
  (countQuery (answering (numbered total)) []).run (askedRows total size).2

theorem asked_counted (total size : Int) :
    (TerminalCall.get []).Counted false (answering (numbered total)) [] total (asking size)
      (askedRows total size).2 (askedCount total size).2 := by
  have gathered : (askedRows total size).1 = .ok () := by cbv
  have answered : (askedCount total size).1 = .ok (some (numbered total)) := by cbv
  exact ⟨Prod.ext gathered rfl, by cbv, _, Prod.ext answered rfl, rfl⟩

/-- Pages may be reckoned with a page limit below zero. -/
theorem negativePages_counted :
    let setting := answering (numbered 45)
    let outcome := ((TerminalCall.get []).performAs false setting).run (asking (-7))
    (TerminalCall.get []).selected? = some [] ∧ (TerminalCall.get []).takesBound = true ∧
      (TerminalCall.get []).Counted false setting [] 45 (asking (-7)) (askedRows 45 (-7)).2
        (askedCount 45 (-7)).2 ∧
      (askedCount 45 (-7)).2.builder.settings.pageLimit.asInteger? = some (-7) ∧
      outcome.2.builder.results.total = 45 ∧ outcome.1 = .ok none := by
  have whole : (askedCount 45 (-7)).2.builder.settings.pageLimit.asInteger? = some (-7) := by cbv
  have counts := asked_counted 45 (-7)
  obtain ⟨total, -, -, fits, -⟩ := counting_arithmetic false (answering (numbered 45)) (.get []) rfl
    rfl counts whole
  refine ⟨rfl, rfl, counts, whole, total, fits (by decide) ?_⟩
  decide +kernel

/-- With a page limit of zero the rows are there, and their total is, but the call fails. -/
theorem zeroPages_uncounted :
    let setting := answering (numbered 3)
    let outcome := ((TerminalCall.get []).performAs false setting).run (asking 0)
    (TerminalCall.get []).Counted false setting [] 3 (asking 0) (askedRows 3 0).2
        (askedCount 3 0).2 ∧
      outcome.2.builder.results.total = 3 ∧
      outcome.1 = .error (.misuse .divisionByZero) := by
  have pages : pagesOf 3 (askedCount 3 0).2.builder.settings.pageLimit =
      .error (.misuse .divisionByZero) := by
    cbv
  have ran := TerminalCall.performAs_counted rfl rfl (asked_counted 3 0)
  rw [pages] at ran
  intro setting outcome
  have same : outcome = _ := ran
  rw [same]
  exact ⟨asked_counted 3 0, rfl, rfl⟩

end Querywright
