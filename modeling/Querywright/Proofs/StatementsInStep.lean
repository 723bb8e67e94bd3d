import Querywright.Proofs.BuilderRuns
import Querywright.Proofs.SparedFields

/-! Two builders in step, whatever their executors answer. What a call renders and keeps is decided
before it is sent, so an executor, its failures and the loads behind it show neither in the clauses
nor in the statements that are kept. -/
namespace Querywright
open Work

variable {τ υ α β γ δ : Type}

/-- The statement kept, and the part of the settings that the next one is made with. -/
structure SameStatement (watch : Watch γ) (left : Desk τ) (right : Desk υ) : Prop where
  settings : watch.part left.builder.settings = watch.part right.builder.settings
  query : left.builder.results.query = right.builder.results.query
  arguments : left.builder.results.arguments = right.builder.results.arguments

structure InStep (watch : Watch γ) (left : Desk τ) (right : Desk υ) : Prop
    extends SameStatement watch left right where
  clauses : left.builder.clauses = right.builder.clauses

variable {watch : Watch γ}

theorem SameStatement.onwards {left after : Desk τ} {right other : Desk υ}
    (same : SameStatement watch left right) (one : Spared watch True True left after)
    (two : Spared watch True True right other) : SameStatement watch after other := by
  refine ⟨?_, ?_, ?_⟩
  · rw [one.settings trivial, two.settings trivial, same.settings]
  · rw [one.query trivial, two.query trivial, same.query]
  · rw [one.arguments trivial, two.arguments trivial, same.arguments]

namespace Work

/-- From desks in step, two operations keep the same statement; the clauses may have parted. -/
def Records (watch : Watch γ) (one : Work τ α) (other : Work υ β) : Prop :=
  ∀ left right, InStep watch left right → SameStatement watch (one.run left).2 (other.run right).2

namespace Records

theorem ofResult (result : Except Error δ) {one : δ → Work τ α} {other : δ → Work υ β}
    (others : ∀ value, Records watch (one value) (other value)) :
    Records watch (Work.ofResult result >>= one) (Work.ofResult result >>= other) := by
  intro left right same
  rw [run_bind, run_bind, run_ofResult, run_ofResult]
  cases result with
  | error reason => exact same.toSameStatement
  | ok value => exact others value left right same

theorem pending {one : Clauses → Work τ α} {other : Clauses → Work υ β}
    (others : ∀ clauses, Records watch (one clauses) (other clauses)) :
    Records watch (Work.pending >>= one) (Work.pending >>= other) := by
  intro left right same
  rw [run_bind_ok (run_pending left), run_bind_ok (run_pending right), same.clauses]
  exact others _ left right same

theorem builder {one : Builder → Work τ α} {other : Builder → Work υ β}
    (others : ∀ left right : Builder, watch.part left.settings = watch.part right.settings →
      Records watch (one left) (other right)) :
    Records watch (Work.builder >>= one) (Work.builder >>= other) := by
  intro left right same
  rw [run_bind_ok (run_builder left), run_bind_ok (run_builder right)]
  exact others _ _ same.settings left right same

theorem changeClauses (change : Clauses → Clauses) {one : Unit → Work τ α}
    {other : Unit → Work υ β} (others : Records watch (one ()) (other ())) :
    Records watch (Work.changeClauses change >>= one) (Work.changeClauses change >>= other) := by
  intro left right same
  refine others _ _ ⟨⟨same.settings, same.query, same.arguments⟩, ?_⟩
  exact congrArg change same.clauses

/-- Behind the keeping of a statement nothing else matters that spares it. -/
theorem keep (written : Value) (arguments : List Value) {one : Unit → Work τ α}
    {other : Unit → Work υ β} (first : Moves (Spared watch True True) (one ()))
    (second : Moves (Spared watch True True) (other ())) :
    Records watch (Work.keep written arguments >>= one)
      (Work.keep written arguments >>= other) := by
  intro left right same
  have kept : SameStatement watch ((Work.keep written arguments).run left).2
      ((Work.keep written arguments).run right).2 := ⟨same.settings, rfl, rfl⟩
  exact kept.onwards (first _) (second _)

variable {setting : Setting τ} {rival : Setting υ} {kind kind' : Report → Prop}
  {one : Option Report → Work τ α} {other : Option Report → Work υ β}

theorem execute (answers : setting.Answers kind) (replies : rival.Answers kind')
    (first : ∀ report, (∀ found, report = some found → kind found) →
      Moves (Spared watch True True) (one report))
    (second : ∀ report, (∀ found, report = some found → kind' found) →
      Moves (Spared watch True True) (other report)) (fragment : Fragment) :
    Records watch (Work.execute setting fragment >>= one)
      (Work.execute rival fragment >>= other) := by
  unfold Work.execute
  simp only [bind_assoc]
  refine ofResult _ fun checked => ?_
  refine keep _ _ ?_ ?_
  · exact .bind_given (dispatch_gives answers _ _) (dispatch_spared _ _ _) first
  · exact .bind_given (dispatch_gives replies _ _) (dispatch_spared _ _ _) second

theorem executed (first : ∀ report, Moves (Spared watch True True) (one report))
    (second : ∀ report, Moves (Spared watch True True) (other report)) (fragment : Fragment) :
    Records watch (Work.execute setting fragment >>= one)
      (Work.execute rival fragment >>= other) :=
  execute (fun _ _ _ _ _ _ _ _ => trivial) (fun _ _ _ _ _ _ _ _ => trivial)
    (fun report _ => first report) (fun report _ => second report) fragment

theorem executeLoose (answers : setting.Answers kind) (replies : rival.Answers kind')
    (first : ∀ report, (∀ found, report = some found → kind found) →
      Moves (Spared watch True True) (one report))
    (second : ∀ report, (∀ found, report = some found → kind' found) →
      Moves (Spared watch True True) (other report)) (written : Value) (values : List Value) :
    Records watch (Work.executeLoose setting written values >>= one)
      (Work.executeLoose rival written values >>= other) := by
  unfold Work.executeLoose
  simp only [bind_assoc]
  refine ofResult _ fun checked => ?_
  refine keep _ _ ?_ ?_
  · exact .bind_given (dispatch_gives answers _ _) (dispatch_spared _ _ _) first
  · exact .bind_given (dispatch_gives replies _ _) (dispatch_spared _ _ _) second

end Records

/-- Two operations leave desks in step that were in step. -/
def StayInStep (watch : Watch γ) (one : Work τ α) (other : Work υ β) : Prop :=
  ∀ left right, InStep watch left right → InStep watch (one.run left).2 (other.run right).2

namespace StayInStep

theorem statement {one : Work τ α} {other : Work υ β} (records : Records watch one other) :
    StayInStep watch (Work.statement one) (Work.statement other) := by
  intro left right same
  have begun : InStep watch left.begun right.begun := ⟨⟨same.settings, rfl, rfl⟩, same.clauses⟩
  have inner := records left.begun right.begun begun
  exact ⟨⟨inner.settings, inner.query, inner.arguments⟩, rfl⟩

theorem reading {α' β' : Type} {one : Work τ α} {other : Work υ β} {next : α → Work τ α'}
    {next' : β → Work υ β'} (stay : StayInStep watch one other)
    (reads : ∀ value desk, ((next value).run desk).2 = desk)
    (reads' : ∀ value desk, ((next' value).run desk).2 = desk) :
    StayInStep watch (one >>= next) (other >>= next') := by
  intro left right same
  have inner := stay left right same
  rw [run_bind_reading reads, run_bind_reading reads']
  exact inner

theorem bound {destination : Destination} {sink : Sink} {next : Nat → Work τ α}
    {next' : Nat → Work υ β} (stay : ∀ slot slot', StayInStep watch (next slot) (next' slot')) :
    StayInStep watch (Builder.bindFresh destination sink >>= next)
      (Builder.bindFresh destination sink >>= next') := by
  intro left right same
  have bound : InStep watch (left.bound destination sink) (right.bound destination sink) :=
    ⟨⟨same.settings, same.query, same.arguments⟩, same.clauses⟩
  exact stay left.shelf.length right.shelf.length _ _ bound

theorem ofResult (result : Except Error δ) {one : δ → Work τ α} {other : δ → Work υ β}
    (stay : ∀ value, StayInStep watch (one value) (other value)) :
    StayInStep watch (Work.ofResult result >>= one) (Work.ofResult result >>= other) := by
  intro left right same
  rw [run_bind, run_bind, run_ofResult, run_ofResult]
  cases result with
  | error reason => exact same
  | ok value => exact stay value left right same

end StayInStep

section Terminal

variable (itself elsewhere : Bool) (setting : Setting τ) (rival : Setting υ)
  (harmless : setting.Answers (IsHarmless watch itself True True))
  (answers : rival.Answers (IsHarmless watch elsewhere True True))

include harmless answers

theorem selectBound_records (columns : List Value) :
    Records watch (selectBound itself setting columns) (selectBound elsewhere rival columns) := by
  refine .pending fun clauses => ?_
  refine .ofResult _ fun fragment => ?_
  exact .execute harmless answers (takeSelectedBound_spared itself setting columns)
    (takeSelectedBound_spared elsewhere rival columns) fragment

theorem rawQueryBound_stay (written : Value) (values : List Value) :
    StayInStep watch (rawQueryBound itself setting written values)
      (rawQueryBound elsewhere rival written values) := by
  refine .statement (.builder fun left right _ => ?_)
  exact .executeLoose harmless answers (takeBound_spared itself setting.schema left.binding)
    (takeBound_spared elsewhere rival.schema right.binding) written values

theorem rawQueryOneBound_stay (text : Value) (values : List Value) :
    StayInStep watch (rawQueryOneBound itself setting text values)
      (rawQueryOneBound elsewhere rival text values) :=
  .ofResult _ fun _ => rawQueryBound_stay itself elsewhere setting rival harmless answers _ values

end Terminal

theorem write_stay (setting : Setting τ) (rival : Setting υ) (inserted : Bool)
    (render : Clauses → Except Error Fragment) :
    StayInStep watch (Builder.write setting inserted render)
      (Builder.write rival inserted render) := by
  refine .statement (.pending fun clauses => .ofResult _ fun fragment => ?_)
  exact .executed (spared_tolerates.takeWrite inserted) (spared_tolerates.takeWrite inserted)
    fragment

theorem executeUnbound_records (setting : Setting τ) (rival : Setting υ) (fragment : Fragment) :
    Records watch (execute setting fragment >>= takeRows setting.schema none)
      (execute rival fragment >>= takeRows rival.schema none) :=
  .executed (spared_tolerates.takeRows setting.schema none)
    (spared_tolerates.takeRows rival.schema none) fragment

theorem inTransaction_stay (setting : Setting τ) (rival : Setting υ)
    (same : setting.locksTables = rival.locksTables) {one : Work τ Unit}
    {other : Work υ Unit} (records : Records watch one other) :
    StayInStep watch (Builder.inTransaction setting one) (Builder.inTransaction rival other) := by
  unfold Builder.inTransaction
  rw [← same]
  split
  · exact .statement records
  · exact fun left right same => same

end Work

theorem TerminalCall.performAs_stay (itself elsewhere : Bool) (setting : Setting τ)
    (rival : Setting υ) (harmless : setting.Answers (IsHarmless watch itself True True))
    (answers : rival.Answers (IsHarmless watch elsewhere True True)) (call : TerminalCall)
    (paged : watch.Shows Settings.pageLimit)
    (unlocked : call.locks = true →
      setting.locksTables = rival.locksTables ∧ watch.Shows Settings.lockMethod) :
    StayInStep watch (call.performAs itself setting) (call.performAs elsewhere rival) := by
  have plain : setting.Answers (IsHarmless watch false True True) := answers_harmless setting
  have plain' : rival.Answers (IsHarmless watch false True True) := answers_harmless rival
  cases call with
  | get columns =>
    refine .reading (.statement ?_) (fun _ _ => rfl) fun _ _ => rfl
    exact selectBound_records itself elsewhere setting rival harmless answers columns
  | getOne columns =>
    refine .reading (.statement (.changeClauses _ ?_)) (fun _ _ => rfl) fun _ _ => rfl
    exact selectBound_records itself elsewhere setting rival harmless answers columns
  | paginate page columns =>
    refine .reading (.statement (.builder fun left right same => ?_)) (fun _ _ => rfl)
      fun _ _ => rfl
    rw [paged left.settings right.settings same]
    refine .ofResult _ fun window => .changeClauses _ ?_
    exact selectBound_records itself elsewhere setting rival harmless answers columns
  | rawQuery text values =>
    refine .reading ?_ (fun _ _ => rfl) fun _ _ => rfl
    exact rawQueryBound_stay itself elsewhere setting rival harmless answers text values
  | rawQueryOne text values =>
    refine .reading ?_ (fun _ _ => rfl) fun _ _ => rfl
    exact rawQueryOneBound_stay itself elsewhere setting rival harmless answers text values
  | getValue column =>
    refine .reading (.bound fun slot slot' => .reading (.statement (.changeClauses _ ?_)) ?_ ?_)
      (fun _ _ => rfl) fun _ _ => rfl
    · exact selectBound_records false false setting rival plain plain' [column]
    · exact fun _ desk => by rw [run_contentOf]
    · exact fun _ desk => by rw [run_contentOf]
  | getValues column =>
    refine .reading (.bound fun slot slot' => .reading (.statement ?_) ?_ ?_)
      (fun _ _ => rfl) fun _ _ => rfl
    · exact selectBound_records false false setting rival plain plain' [column]
    · exact fun _ desk => by rw [run_contentOf]
    · exact fun _ desk => by rw [run_contentOf]
  | has =>
    refine .reading (.reading (.statement (.changeClauses _ ?_)) (fun _ _ => rfl) fun _ _ => rfl)
      (fun _ _ => rfl) fun _ _ => rfl
    refine .pending fun clauses => .ofResult _ fun fragment => ?_
    exact executeUnbound_records setting rival fragment
  | insert data | replace data | update data | delete =>
    refine .reading ?_ (fun _ _ => rfl) fun _ _ => rfl
    exact write_stay setting rival _ _
  | insertMulti rows =>
    refine .reading (.statement (.ofResult _ fun rows => ?_)) (fun _ _ => rfl) fun _ _ => rfl
    refine .pending fun clauses => .ofResult _ fun fragment => ?_
    exact .executed takeMany_spared takeMany_spared fragment
  | rawQueryValue text values =>
    refine .reading (.bound fun slot slot' => .reading ?_ ?_ ?_) (fun _ _ => rfl) fun _ _ => rfl
    · exact rawQueryOneBound_stay false false setting rival plain plain' text values
    · exact fun _ desk => by rw [run_contentOf]
    · exact fun _ desk => by rw [run_contentOf]
  | rawQueryValues text values =>
    refine .reading (.bound fun slot slot' => .reading ?_ ?_ ?_) (fun _ _ => rfl) fun _ _ => rfl
    · exact rawQueryBound_stay false false setting rival plain plain' text values
    · exact fun _ desk => by rw [run_contentOf]
    · exact fun _ desk => by rw [run_contentOf]
  | lock tables =>
    obtain ⟨locking, shown⟩ := unlocked rfl
    refine .reading (inTransaction_stay setting rival locking ?_) (fun _ _ => rfl) fun _ _ => rfl
    refine .builder fun left right same => ?_
    rw [shown left.settings right.settings same]
    exact .ofResult _ fun text => executeUnbound_records setting rival _
  | unlock =>
    refine .reading (inTransaction_stay setting rival (unlocked rfl).1 ?_) (fun _ _ => rfl)
      fun _ _ => rfl
    exact executeUnbound_records setting rival _

end Querywright
