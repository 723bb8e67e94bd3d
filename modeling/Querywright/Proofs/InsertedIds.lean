import Querywright.Proofs.AlignedRows
import Querywright.Proofs.NamedDatabases
import Querywright.Proofs.SelectRuns

/-! The ids of an insert of several rows. They are worked out from the count of rows and the one id
that an engine reports, and handed on as they are: the rows that were given are not looked at again.
So there are at most as many ids as rows exactly where the engine does not count more rows than it
was given, which one that counts a renewed row twice does. -/
namespace Querywright
open Work

variable {σ τ : Type}

/-- An answer to a statement without result columns: a count and, where there is one, an id. -/
structure Answer.Counts (answer : Answer) (count : Int) (id : Option Int) : Prop where
  columns : answer.columns = []
  rowcount : answer.rowcount = .integer count
  lastrowid : answer.lastrowid = (id.map Value.integer).getD .null

namespace Dialect

/-- The ids that stand for a count and an id; an id of zero is no id. -/
def counted (dialect : Dialect) (count : Int) (id : Option Int) : List Int :=
  if id.getD 0 = 0 then [] else dialect.idsOf (id.getD 0) count.toNat

variable {dialect : Dialect}

theorem idsOf_zero (dialect : Dialect) (reported : Int) : dialect.idsOf reported 0 = [] := by
  cases dialect <;> rfl

theorem idsOf_length (engine : dialect ≠ .plain) (reported : Int) (count : Nat) :
    (dialect.idsOf reported count).length = count := by
  cases dialect with
  | plain => exact absurd rfl engine
  | sqlite | mysql => simp [idsOf, consecutive]

theorem insertIds_counted (dialect : Dialect) (count : Int) (id : Option Int) :
    dialect.insertIds ((id.map Value.integer).getD .null) (.integer count) =
      .ok (dialect.counted count id) := by
  cases id with
  | none => cases dialect <;> rfl
  | some reported =>
    by_cases absent : reported = 0
    · subst absent
      cases dialect <;> rfl
    by_cases plain : dialect = .plain
    · subst plain
      exact congrArg Except.ok (if_neg absent).symm
    have held : (Value.integer reported).isTrue = true := by simp [Value.isTrue, absent]
    have counts : dialect.counted count (some reported) = dialect.idsOf reported count.toNat :=
      if_neg absent
    rw [counts, Option.map_some, Option.getD_some, insertIds, if_neg (by simp [plain, held])]
    by_cases empty : count ≤ 0
    · have none : reportsNoRow (.integer count) = .ok true := congrArg _ (decide_eq_true empty)
      rw [none, Int.toNat_of_nonpos empty, idsOf_zero]
      rfl
    · have some : reportsNoRow (.integer count) = .ok false := congrArg _ (decide_eq_false empty)
      rw [some]
      rfl

/-- How the ids of an insert of some rows follow from a count and an id. -/
structure IdsFit (dialect : Dialect) (count : Int) (id : Option Int) (rows : Nat)
    (ids : List Int) : Prop where
  absent : id.getD 0 = 0 ∨ count ≤ 0 → ids = []
  within : ids.length ≤ rows ↔ ids = [] ∨ count ≤ rows
  first : dialect = .mysql → count = rows → ∀ reported, id = some reported → 0 < reported →
    ids.length = rows ∧ ∀ position (inside : position < ids.length),
      ids.get ⟨position, inside⟩ = reported + position
  last : dialect = .sqlite → count = rows → ∀ reported, id = some reported → 0 < reported →
    ids.length = rows ∧ ∀ position (inside : position < ids.length),
      ids.get ⟨position, inside⟩ = reported - (rows - 1 - position)

theorem counted_of_id {reported : Int} (count : Int) (given : 0 < reported) :
    dialect.counted count (some reported) = dialect.idsOf reported count.toNat :=
  if_neg (Int.ne_of_gt given)

theorem counted_length (engine : dialect ≠ .plain) {count : Int} {id : Option Int}
    (some : dialect.counted count id ≠ []) : (dialect.counted count id).length = count.toNat := by
  unfold counted at some ⊢
  split
  · rename_i absent
    exact absurd (if_pos absent) some
  · exact idsOf_length engine _ _

theorem counted_fits (dialect : Dialect) (count : Int) (id : Option Int) (rows : Nat) :
    dialect.IdsFit count id rows (dialect.counted count id) := by
  have size {reported : Int} (engine : dialect ≠ .plain) (whole : count = rows)
      (given : 0 < reported) : (dialect.counted count (some reported)).length = rows := by
    rw [counted_of_id count given, idsOf_length engine, whole, Int.toNat_natCast]
  refine ⟨fun absent => ?_, ?_, fun same whole reported known given => ?_,
    fun same whole reported known given => ?_⟩
  · unfold counted
    rcases absent with absent | empty
    · exact if_pos absent
    · rw [Int.toNat_of_nonpos empty, idsOf_zero, ite_self]
  · by_cases empty : dialect.counted count id = []
    · simp [empty]
    · have engine : dialect ≠ .plain := by
        rintro rfl
        exact empty (ite_self _)
      rw [counted_length engine empty]
      simp only [empty, false_or]
      omega
  · subst same known
    refine ⟨size (by simp) whole given, fun position inside => ?_⟩
    simp [counted_of_id count given, idsOf, consecutive]
  · subst same known
    refine ⟨size (by simp) whole given, fun position inside => ?_⟩
    have size : ((max count 0 : Int)) = rows := by omega
    simp only [counted_of_id count given, idsOf, consecutive, List.get_eq_getElem,
      List.getElem_map, List.getElem_range, Int.ofNat_toNat, size]
    omega

example : Dialect.mysql.counted 3 (some 7) = [7, 8, 9] :=
  rfl

end Dialect

namespace Report

theorem fitted_ids {answer : Answer} {ids : List Int} {report : Report}
    (ok : fitted answer ids = .ok report) : report.insertIds = ids := by
  unfold fitted at ok
  dsimp only at ok
  generalize besides (fitNamed "columns" (.listOf .text) (.list answer.columns)) _ = parts at ok
  cases parts with
  | error flaws => cases ok
  | ok parts =>
    cases ok
    rfl

theorem fit_noColumns : fit [] (.listOf .text) (.list []) = .ok { value := .list [] } := by
  rw [fit]
  rfl

/-- A count and an id have the shape that a report asks for. -/
theorem fitted_counted {answer : Answer} {count : Int} {id : Option Int}
    (counts : answer.Counts count id) (ids : List Int) :
    ∃ report, fitted answer ids = .ok report := by
  have columns : fitNamed "columns" (.listOf .text) (.list answer.columns) = .ok (.list []) := by
    rw [counts.columns, fitNamed, fit_noColumns]
  have rowcount : fitNamed "rowcount" .integer (reportedCount answer.rowcount) =
      .ok (.integer count) := by
    have same : reportedCount (.integer count) = .integer count := rfl
    rw [counts.rowcount, same, fitNamed, fit]
    rfl
  have lastrowid : ∃ value, fitNamed "lastrowid" (.optional .integer)
      (reportedId answer.lastrowid) = .ok value := by
    rw [counts.lastrowid, fitNamed, fit_optional [] rfl, fit]
    cases id with
    | none => exact ⟨_, rfl⟩
    | some reported =>
      rw [Option.map_some, Option.getD_some, reportedId]
      cases (Value.integer reported).isTrue with
      | false => exact ⟨_, rfl⟩
      | true => exact ⟨_, rfl⟩
  obtain ⟨value, lastrowid⟩ := lastrowid
  unfold fitted
  rw [columns, rowcount, lastrowid]
  exact ⟨_, rfl⟩

/-- A count and an id are never refused, and the report has the ids that they stand for. -/
theorem ofAnswer_counted (dialect : Dialect) {answer : Answer} {count : Int} {id : Option Int}
    (counts : answer.Counts count id) :
    ∃ report, ofAnswer dialect answer = .ok report ∧
      report.insertIds = dialect.counted count id := by
  obtain ⟨report, fits⟩ := fitted_counted counts (dialect.counted count id)
  have rowcount : reportedCount answer.rowcount = .integer count := by
    rw [counts.rowcount]
    rfl
  refine ⟨report, ?_, fitted_ids fits⟩
  unfold ofAnswer
  rw [if_pos (by simp [counts.columns]), counts.lastrowid, rowcount,
    dialect.insertIds_counted count id]
  simp only [bind, Except.bind, fits]

theorem ofAnswer_columns {dialect : Dialect} {answer : Answer} {report : Report}
    (ok : ofAnswer dialect answer = .ok report) (columns : answer.columns ≠ []) :
    report.insertIds = [] := by
  unfold ofAnswer at ok
  rw [if_neg (by simp [columns])] at ok
  obtain ⟨ids, found, fits⟩ := bind_success ok
  cases found
  dsimp only at fits
  split at fits
  · rename_i made fitting
    cases fits
    exact fitted_ids fitting
  · cases fits

end Report

/-- A statement that a pool has had answered, with the report on the answer. -/
structure Pool.Reported (engine : Engine σ) (pool : Pool) (statement parameters : Value)
    (answer : Answer) (report : Report) : Prop where
  asked : ∃ connection sent values before after,
    pool.dialect.handedOver statement parameters = .ok (sent, values) ∧
      engine.execute connection sent values before = (.ok answer, after)
  made : Report.ofAnswer pool.dialect answer = .ok report

namespace Pool

variable {engine : Engine σ} {statement parameters : Value} {report : Report}

theorem Reported.of_dialect {pool other : Pool} {answer : Answer}
    (reported : pool.Reported engine statement parameters answer report)
    (same : pool.dialect = other.dialect) :
    other.Reported engine statement parameters answer report :=
  ⟨same ▸ reported.asked, same ▸ reported.made⟩

theorem run_reported {connection : Nat} {pool : Pool} {world : World σ}
    (ran : (pool.run engine connection statement parameters world).1 = .ok report) :
    ∃ answer, pool.Reported engine statement parameters answer report := by
  unfold run at ran
  split at ran
  · cases ran
  · split at ran
    · cases ran
    · rename_i sent values handed
      split at ran
      · cases ran
      · cases ran
      · rename_i answer after answered
        have given : (engine.execute connection sent values world.outside).1 = .ok answer :=
          congrArg Prod.fst answered
        exact ⟨answer, ⟨connection, sent, values, world.outside, _, handed, Prod.ext given rfl⟩,
          ran⟩

theorem Provided.dialect {whole : Bool} {pool taken : Pool} {world opened : World σ}
    {connection : Nat} (taking : Provided engine whole pool world (.ok connection, taken, opened)) :
    taken.dialect = pool.dialect := by
  cases taking <;> rfl

theorem execute_reported {pool : Pool} {world : World σ}
    (ran : (pool.execute engine statement parameters world).1 = .ok report) :
    ∃ answer, pool.Reported engine statement parameters answer report := by
  have taking := provide_provided engine true pool world
  have same : pool.checkout engine world = pool.provide engine true world := rfl
  unfold execute at ran
  rw [same] at ran
  generalize pool.provide engine true world = outcome at taking ran
  obtain ⟨result, taken, opened⟩ := outcome
  cases result with
  | error reason => cases ran
  | ok connection =>
    obtain ⟨answer, reported⟩ := run_reported ran
    exact ⟨answer, reported.of_dialect taking.dialect⟩

end Pool

theorem Router.act_reported {engine : Engine σ} {statement parameters : Value} {report : Report}
    {place : Place} {router : Router} {world : World σ}
    {action : Pool → World σ → Except Error Report × Pool × World σ}
    (reports : ∀ pool, (action pool world).1 = .ok report →
      ∃ answer, pool.Reported engine statement parameters answer report)
    (ran : (router.act place action world).1 = .ok report) :
    ∃ pool answer, router.pool? place = some pool ∧
      pool.Reported engine statement parameters answer report := by
  cases acting : router.act place action world with
  | mk result left =>
    rw [acting] at ran
    subst ran
    obtain ⟨pool, there, given, -, -⟩ := pool?_of_act acting
    obtain ⟨answer, reported⟩ := reports pool given
    exact ⟨pool, answer, there, reported⟩

theorem Router.execute_reported {engine : Engine σ} {statement parameters : Value}
    {report : Report} {router : Router} {world : World σ}
    (ran : (router.execute engine statement parameters world).1 = .ok report) :
    ∃ place pool answer, router.pool? place = some pool ∧
      pool.Reported engine statement parameters answer report := by
  have same := select_samePools statement router
  unfold execute at ran
  generalize router.select statement = selecting at same ran
  obtain ⟨selected, turned⟩ := selecting
  cases selected with
  | error reason => cases ran
  | ok place =>
    dsimp only at ran
    split at ran
    · cases ran
    · obtain ⟨pool, answer, there, reported⟩ :=
        act_reported (fun pool given => Pool.execute_reported given) ran
      exact ⟨place, pool, answer, (same.pool? place).symm.trans there, reported⟩

theorem Transaction.execute_reported {engine : Engine σ} {statement parameters : Value}
    {report : Report} {transaction : Transaction} {router : Router} {world : World σ}
    (ran : (transaction.execute engine statement parameters router world).1 = .ok report) :
    ∃ place pool answer, router.pool? place = some pool ∧
      pool.Reported engine statement parameters answer report := by
  unfold execute at ran
  split at ran
  · cases ran
  · split at ran
    · cases ran
    · obtain ⟨pool, answer, there, reported⟩ :=
        Router.act_reported (fun pool given => Pool.run_reported given) ran
      exact ⟨_, pool, answer, there, reported⟩

namespace Network

/-- A pool of one of the routers has had the statement answered. -/
def Reported (engine : Engine σ) (network : Network σ) (statement parameters : Value)
    (pool : Pool) (answer : Answer) (report : Report) : Prop :=
  (∃ router ∈ network.routers, ∃ place, router.pool? place = some pool) ∧
    pool.Reported engine statement parameters answer report

variable {engine : Engine σ} {network : Network σ} {statement parameters : Value}
  {report : Report}

theorem execute_reported {backing : Backing}
    (ran : (network.execute engine backing statement parameters).1 = .ok report) :
    ∃ pool answer, network.Reported engine statement parameters pool answer report := by
  cases backing with
  | router number =>
    cases there : network.routers[number]? with
    | none =>
      have refused := onRouter_of_none network (Router.execute engine statement parameters) there
      cases (congrArg Prod.fst refused).symm.trans ran
    | some router =>
      have acted := onRouter_of_some network (Router.execute engine statement parameters) there
      obtain ⟨place, pool, answer, present, reported⟩ :=
        Router.execute_reported ((congrArg Prod.fst acted).symm.trans ran)
      exact ⟨pool, answer, ⟨router, List.mem_of_getElem? there, place, present⟩, reported⟩
  | transaction number =>
    unfold execute onTransaction at ran
    dsimp only at ran
    split at ran
    · cases ran
    · rename_i pinned found
      split at ran
      · cases ran
      · rename_i router there
        obtain ⟨place, pool, answer, present, reported⟩ := Transaction.execute_reported ran
        exact ⟨pool, answer, ⟨router, List.mem_of_getElem? there, place, present⟩, reported⟩

end Network

namespace Work

theorem send_results (executor : Executor τ) (statement : Value) (arguments : List Value)
    (desk : Desk τ) :
    ((send executor statement arguments).run desk).2.builder.results = desk.builder.results := by
  change (send executor statement arguments desk).2.builder.results = _
  unfold send ExceptT.mk
  dsimp only
  split
  · split <;> rfl
  · rfl

/-- Sending a statement and taking over the ids of what it inserted: without a report there are
none, else they are those of the report. -/
theorem takeMany_ids (setting : Setting τ) (statement : Value) (arguments : List Value)
    (desk : Desk τ) (cleared : desk.builder.results.insertIds = []) :
    let outcome := (dispatch setting statement arguments >>= takeMany).run desk
    let ids := outcome.2.builder.results.insertIds
    (ids = [] ∧ (setting.executor = none ∨ ∃ reason, outcome.1 = .error reason)) ∨
      ∃ executor report, setting.executor = some executor ∧ outcome.1 = .ok () ∧
        (executor statement arguments desk.outside).1 = .ok report ∧ ids = report.insertIds := by
  intro outcome ids
  cases present : setting.executor with
  | none =>
    refine .inl ⟨?_, .inl rfl⟩
    have nothing : outcome = (.ok (), desk) := by
      simp only [outcome, dispatch, present]
      rfl
    simpa only [ids, nothing] using cleared
  | some executor =>
    have same := send_results executor statement arguments desk
    have ran : outcome = ((send executor statement arguments >>= fun report =>
        takeMany (some report)) : Work τ Unit).run desk := by
      simp only [outcome, dispatch, present, bind_assoc, pure_bind]
    cases sent : (send executor statement arguments).run desk with
    | mk result after =>
      rw [sent] at same
      cases result with
      | error reason =>
        have failed := ran.trans (run_bind_error sent _)
        refine .inl ⟨?_, .inr ⟨reason, congrArg Prod.fst failed⟩⟩
        have kept : ids = after.builder.results.insertIds :=
          congrArg (·.2.builder.results.insertIds) failed
        rw [kept, show after.builder.results = desk.builder.results from same, cleared]
      | ok report =>
        have taken := ran.trans (run_bind_ok sent _)
        have answered := send_success executor statement arguments desk after report sent
        refine .inr ⟨executor, report, rfl, ?_, congrArg Prod.fst answered.answer, ?_⟩
        · exact congrArg Prod.fst taken
        · exact congrArg (·.2.builder.results.insertIds) taken

end Work

/-- An insert of several rows: no ids, or those of the report on the statement that was sent. -/
theorem TerminalCall.insertMulti_ids (setting : Setting τ) (rows : Value) (desk : Desk τ) :
    let outcome := ((TerminalCall.insertMulti rows).perform setting).run desk
    let ids := outcome.2.builder.results.insertIds
    (ids = [] ∧ (setting.executor = none ∨ ∃ reason, outcome.1 = .error reason)) ∨
      ∃ items statement executor report, Builder.rowsOf rows = .ok items ∧
        desk.builder.clauses.insert "INSERT" items = .ok statement ∧
        setting.executor = some executor ∧ outcome.1 = .ok none ∧
        (executor (.text statement.text) statement.arguments desk.outside).1 = .ok report ∧
        ids = report.insertIds := by
  intro outcome ids
  have without {reason : Error} {after : Desk τ} (ran : outcome = (.error reason, after))
      (cleared : after.builder.results = {}) :
      ids = [] ∧ (setting.executor = none ∨ ∃ reason, outcome.1 = .error reason) := by
    refine ⟨?_, .inr ⟨reason, congrArg Prod.fst ran⟩⟩
    simp only [ids, ran, cleared]
  cases given : Builder.rowsOf rows with
  | error reason =>
    have failed : outcome = (.error reason, desk.begun.closed) := run_missing rfl given
    exact .inl (without failed rfl)
  | ok items =>
    have ran := TerminalCall.run_insertMulti setting given desk
    change outcome = _ at ran
    cases rendered : desk.builder.clauses.insert "INSERT" items with
    | error reason =>
      rw [rendered, run_bind_error (run_ofResult _ _)] at ran
      exact .inl (without ran rfl)
    | ok statement =>
      rw [rendered, run_bind_ok (run_ofResult _ _)] at ran
      cases balanced : statement.isBalanced with
      | false =>
        rw [run_bind_error (execute_unbalanced setting statement balanced _)] at ran
        exact .inl (without ran rfl)
      | true =>
        rw [run_bind, execute_balanced setting statement balanced, ← run_bind] at ran
        have sending := takeMany_ids setting (.text statement.text) statement.arguments
          (desk.begun.kept statement) rfl
        generalize (dispatch setting (.text statement.text) statement.arguments >>= takeMany).run
          (desk.begun.kept statement) = sent at ran sending
        obtain ⟨result, after⟩ := sent
        have same : ids = after.builder.results.insertIds :=
          congrArg (·.2.builder.results.insertIds) ran
        rw [same]
        rcases sending with ⟨none, absent | ⟨reason, failed⟩⟩ |
          ⟨executor, report, present, done, answered, taken⟩
        · exact .inl ⟨none, .inl absent⟩
        · cases failed
          exact .inl ⟨none, .inr ⟨reason, congrArg Prod.fst ran⟩⟩
        · cases done
          exact .inr ⟨items, statement, executor, report, rfl, rendered, present,
            congrArg Prod.fst ran, answered, taken⟩

/-- The ids of an insert of several rows. Without a connection, or where the call fails, there are
none. Otherwise a pool has had the very statement answered; from a count and an id in that answer,
the ids are consecutive and begin or end with that id, as many as there are rows if so many are
counted; and there are no more ids than rows exactly where there is none or no more rows are
counted. -/
theorem inserted_ids_follow_report (engine : Engine σ) (session : Session σ) (builder : Builder)
    (shelf : Shelf) (rows : Value) :
    let setting := Action.setting engine builder session
    let outcome := ((TerminalCall.insertMulti rows).perform setting).run
      ⟨builder, shelf, session.network⟩
    let ids := outcome.2.builder.results.insertIds
    (ids = [] ∧ (builder.backing = none ∨ ∃ reason, outcome.1 = .error reason)) ∨
      ∃ items statement pool answer report, outcome.1 = .ok none ∧
        Builder.rowsOf rows = .ok items ∧
        builder.clauses.insert "INSERT" items = .ok statement ∧
        session.network.Reported engine (.text statement.text) (.tuple statement.arguments) pool
          answer report ∧
        (answer.columns ≠ [] → ids = []) ∧
        ∀ count id, answer.Counts count id → pool.dialect.IdsFit count id items.length ids := by
  intro setting outcome ids
  rcases TerminalCall.insertMulti_ids setting rows ⟨builder, shelf, session.network⟩ with
    ⟨none, absent | failed⟩ |
    ⟨items, statement, executor, report, given, rendered, present, done, answered, taken⟩
  · exact .inl ⟨none, .inl (Option.map_eq_none_iff.mp absent)⟩
  · exact .inl ⟨none, .inr failed⟩
  · obtain ⟨backing, -, rfl⟩ := Option.map_eq_some_iff.mp present
    obtain ⟨pool, answer, reported⟩ := Network.execute_reported answered
    refine .inr ⟨items, statement, pool, answer, report, done, given, rendered, reported,
      fun columns => ?_, fun count id counts => ?_⟩
    · exact taken.trans (Report.ofAnswer_columns reported.2.made columns)
    · obtain ⟨other, made, counted⟩ := Report.ofAnswer_counted pool.dialect counts
      cases reported.2.made.symm.trans made
      have same : ids = pool.dialect.counted count id := taken.trans counted
      rw [same]
      exact Dialect.counted_fits pool.dialect count id items.length

/-- It counts a row that an insert has renewed as two. -/
def renewing : Engine Unit where
  resolve _ outside := (.error .noConnection, outside)
  connect _ outside := (none, outside)
  execute _ _ _ outside := (.ok { rowcount := .integer 2, lastrowid := .integer 7 }, outside)
  close _ outside := (none, outside)

def renewingSession : Session Unit :=
  let pool : Pool :=
    { source := .fixed "mysql://db/shop", url := "mysql://db/shop", dialect := .mysql, idle := [1] }
  { network :=
      { world := { outside := (), targets := [.mysql (some "db") none none (some "shop") 3306] }
        routers := [{ configuration := { primaries := [pool.source] }, primaries := [pool] }] } }

def renewer : Builder :=
  { clauses := { tables := [.text "Users"], upsertColumns := [.text "Name"] }
    backing := some (.router 0) }

def renewedRow : List Value :=
  [.mapping [(.text "Name", .text "Ann")]]

/-- One row that is renewed gets two ids. -/
theorem renewedRow_has_two_ids :
    let setting := Action.setting renewing renewer renewingSession
    let outcome := ((TerminalCall.insertMulti (.list renewedRow)).perform setting).run
      ⟨renewer, [], renewingSession.network⟩
    renewedRow.length = 1 ∧ outcome.1 = .ok none ∧
      outcome.2.builder.results.insertIds = [7, 8] := by
  refine ⟨rfl, ?_, ?_⟩
  · cbv
  · cbv

end Querywright
