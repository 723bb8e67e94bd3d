import Querywright.Proofs.CountedSelects
import Querywright.Proofs.PageCount
import Querywright.Proofs.SelectRuns

/-! Pages of a select. A page is a window of the rows, given by the limit in its statement; the windows
of all pages stand side by side and cover the rows, given that the pages are counted right. -/
namespace Querywright
open Work

variable {τ α : Type}

/-- The rows that a limit with an offset lets through. -/
def windowRows (offset size : Nat) (rows : List α) : List α :=
  (rows.drop offset).take size

theorem windowRows_joined (size pages : Nat) (rows : List α) :
    (List.range pages).flatMap (fun page => windowRows (page * size) size rows) =
      rows.take (pages * size) := by
  induction pages with
  | zero => simp
  | succ pages ih =>
    rw [List.range_succ, List.flatMap_append, ih, Nat.succ_mul, List.take_add]
    simp [windowRows]

theorem windowRows_cover {size pages : Nat} (below : 0 < size) (rows : List α)
    (least : IsLeast {count : Nat | rows.length ≤ count * size} pages) :
    (List.range pages).flatMap (fun page => windowRows (page * size) size rows) = rows ∧
      ∀ page < pages, windowRows (page * size) size rows ≠ [] := by
  constructor
  · rw [windowRows_joined]
    exact List.take_of_length_le least.1
  · intro page before empty
    have beyond : rows.length ≤ page * size := by
      rcases List.take_eq_nil_iff.mp empty with none | none
      · omega
      · exact List.drop_eq_nil_iff.mp none
    have covered : pages ≤ page := least.2 beyond
    omega

theorem pageWindow_numbered {size : Nat} (below : 0 < size) (number : Nat) :
    pageWindow (.integer (number + 1)) (.integer size) =
      .ok [.integer ((number * size : Nat) : Int), .integer size] := by
  have positive : isPositive (.integer size) = .ok true := by
    change Except.ok (decide ((0 : Int) < size)) = _
    rw [decide_eq_true (by omega)]
  unfold pageWindow
  rw [positive]
  change (if (number : Int) + 1 < 1
    then Except.error (Error.invalidPage (Value.integer (number + 1)).shown)
    else Except.ok [Value.integer (((number : Int) + 1 - 1) * size), Value.integer size]) = _
  rw [if_neg (by omega), Int.add_sub_cancel, Int.natCast_mul]

def limitFragment (offset size : Nat) : Fragment :=
  Fragment.plain ("LIMIT " ++ toString offset ++ ", " ++ toString size)

namespace Clauses

/-- What stands in a select before its limit, and what stands behind. -/
def aroundLimit (columns : List Value) (clauses : Clauses) :
    Except Error (List Fragment × List Fragment) := do
  clauses.requireTable false
  let columns ← columnsFragment columns
  let sources ← clauses.sources
  return (Fragment.plain "SELECT" :: clauses.leading.map Fragment.plain ++
    columns :: sources :: orderFragments clauses.orders, clauses.trailing.map Fragment.plain)

theorem limitFragments_window (offset size : Nat) :
    limitFragments [.integer offset, .integer size] = [limitFragment offset size] := by
  simp only [limitFragments, limitFragment, List.map_cons, List.map_nil]
  rfl

theorem select_limited (clauses : Clauses) (columns : List Value) (offset size : Nat)
    (main : Fragment) (rendered : Clauses.select columns { clauses with
      limit := [.integer offset, .integer size], totalRequested := true } = .ok main) :
    ∃ around, clauses.aroundLimit columns = .ok around ∧
      main = Fragment.spaced (around.1 ++ limitFragment offset size :: around.2) := by
  obtain ⟨chosen, sources, accepted, written, found, rfl⟩ := select_parts _ columns main rendered
  have same : Clauses.sources { clauses with
      limit := [.integer offset, .integer size], totalRequested := true } = clauses.sources := by
    obtain ⟨tables, conditions, groupConditions, joins, orders, groups, limit, options, upsert, id,
      requested⟩ := clauses
    rw [Clauses.sources, Clauses.sources]
  rw [same] at found
  refine ⟨(Fragment.plain "SELECT" :: clauses.leading.map Fragment.plain ++
    chosen :: sources :: orderFragments clauses.orders, clauses.trailing.map Fragment.plain), ?_, ?_⟩
  · unfold aroundLimit
    rw [written, found]
    change clauses.requireTable false = _ at accepted
    rw [accepted]
    rfl
  · unfold assembleSelect selectEnding window
    rw [limitFragments_window]
    simp only [List.append_assoc, List.cons_append, List.nil_append]
    rfl

end Clauses

/-- Whenever rows are counted, they are so many. -/
def Setting.Counts (total : Nat) (setting : Setting τ) : Prop :=
  ∀ executor, setting.executor = some executor → ∀ counting arguments before report after,
    executor (.text (countText counting)) arguments before = (.ok report, after) →
      firstCell report = some (.ok (.integer total))

/-- What a row must not name to leave the numbering of the pages alone. -/
def Builder.pagingNames : List String :=
  "page_limit" :: Builder.clauseNames

/-- The total and the number of pages are known, and the page is the window of its number. -/
structure Paged (total size pages number : Nat) (columns : List Value) (entry after : Desk τ)
    (kept : Prop) : Prop where
  total : after.builder.results.total = total
  pages : after.builder.results.pages = pages
  statement : kept → ∃ around, entry.builder.clauses.aroundLimit columns = .ok around ∧
    after.builder.results.query = .text (Fragment.spaced
      (around.1 ++ limitFragment (number * size) size :: around.2)).text

theorem Setting.Answers.spares {names others : List String} {setting : Setting τ}
    (answers : setting.Answers (Report.Spares others)) (within : names ⊆ others) :
    setting.Answers (Report.Spares names) :=
  fun executor present statement arguments before report after answered name member =>
    answers executor present statement arguments before report after answered name (within member)

namespace TotalCourse.Leads

variable {itself : Bool} {setting : Setting τ} {executor : Executor τ} {columns : List Value}
  {entry after : Desk τ} {course : TotalCourse τ}

/-- The page limit of before is still there when the rows are counted. -/
theorem totals (leads : course.Leads itself setting executor columns entry after)
    {total : Nat} {pages : Int} (cell : firstCell course.count = some (.ok (.integer total)))
    (divided : pagesOf total entry.builder.settings.pageLimit = .ok pages)
    (spares : itself = true → course.rows.Spares ["page_limit"]) :
    after.builder.results.total = total ∧ after.builder.results.pages = pages := by
  have spared : Spared Watch.pageLimit True False course.answered course.taken :=
    leads.spared fun own => ⟨fun _ => spares own, False.elim⟩
  have limit : course.taken.builder.settings.pageLimit = entry.builder.settings.pageLimit :=
    (spared.settings trivial).trans (congrArg Settings.pageLimit leads.answered.settings)
  have taken := leads.fetched.taken
  rw [cell, limit] at taken
  obtain ⟨value, counted, quotient, same, read, parted, rfl⟩ := taken
  cases same
  cases read
  rw [divided] at parted
  cases parted
  exact ⟨rfl, rfl⟩

end TotalCourse.Leads

theorem TerminalCall.paginate_paged (itself : Bool) (setting : Setting τ) (number : Nat)
    (columns : List Value) (desk : Desk τ) {total size pages : Nat} (below : 0 < size)
    (divided : pagesOf total (.integer size) = .ok pages)
    (limit : desk.builder.settings.pageLimit = .integer size)
    (present : setting.executor.isSome = true) (counts : setting.Counts total)
    (spares : itself = true → setting.Answers (Report.Spares Builder.pagingNames)) :
    let outcome :=
      ((TerminalCall.paginate (.integer (number + 1)) columns).performAs itself setting).run desk
    outcome.1.isOk = true → Paged total size pages number columns desk outcome.2
      (itself = true → setting.Answers (Report.Spares Builder.statementNames)) := by
  intro outcome returned
  obtain ⟨executor, found⟩ := Option.isSome_iff_exists.mp present
  have clauseNames : Builder.clauseNames ⊆ Builder.pagingNames := List.subset_cons_self _ _
  have limitName : ["page_limit"] ⊆ Builder.pagingNames := by simp [Builder.pagingNames]
  cases ran : outcome with
  | mk ending after =>
    rw [ran] at returned
    cases ending with
    | error reason => cases returned
    | ok result =>
      obtain ⟨own, entry, left, course, bound, opens, leads, rfl⟩ :=
        TerminalCall.performAs_course itself found (.paginate (.integer (number + 1)) columns)
          columns rfl desk after rfl (fun same => (spares same).spares clauseNames) result ran
      obtain ⟨window, given, same⟩ := map_success opens
      rw [limit, pageWindow_numbered below] at given
      cases given
      cases same
      have cell := counts executor found course.counting _ _ course.count _
        leads.fetched.answered.answer
      have answered := leads.answered.answer
      have totals := leads.totals cell (limit ▸ divided) fun same =>
        ((spares (bound same)).spares limitName) executor found _ _ _ course.rows _ answered
      refine ⟨totals.1, totals.2, fun kept => ?_⟩
      obtain ⟨around, parts, main⟩ :=
        desk.builder.clauses.select_limited columns (number * size) size course.main leads.rendered
      refine ⟨around, parts, ?_⟩
      rw [← main]
      exact (leads.statement fun same =>
        kept (bound same) executor found _ _ _ course.rows _ answered).1

/-- The number of pages is the least that has room for the rows. Every page that is fetched is told
it, and its statement limits the rows to its window; the windows of the pages, one behind the other,
are the rows, and none is empty. -/
theorem pages_cover_rows {total size : Nat} (fits : total ≤ 2 ^ 53) (below : 0 < size)
    (small : size < 2 ^ 1075) :
    ∃ pages : Nat, IsLeast {count : Nat | total ≤ count * size} pages ∧
      pagesOf total (.integer size) = .ok pages ∧
      (∀ (τ : Type) (itself : Bool) (setting : Setting τ) (number : Nat) (columns : List Value)
        (desk : Desk τ), desk.builder.settings.pageLimit = .integer size →
        setting.executor.isSome = true → setting.Counts total →
        (itself = true → setting.Answers (Report.Spares Builder.pagingNames)) →
        let call := TerminalCall.paginate (.integer (number + 1)) columns
        let outcome := (call.performAs itself setting).run desk
        outcome.1.isOk = true → Paged total size pages number columns desk outcome.2
          (itself = true → setting.Answers (Report.Spares Builder.statementNames))) ∧
      ∀ (α : Type) (rows : List α), rows.length = total →
        (List.range pages).flatMap (fun page => windowRows (page * size) size rows) = rows ∧
          ∀ page < pages, windowRows (page * size) size rows ≠ [] := by
  have least : IsLeast {count : Nat | total ≤ count * size} (total ⌈/⌉ size) :=
    ceilDiv_isLeast below
  have divided := pagesOf_exact fits below small
  refine ⟨total ⌈/⌉ size, least, divided, ?_, ?_⟩
  · intro τ itself setting number columns desk limit present counts spares
    exact TerminalCall.paginate_paged itself setting number columns desk below divided limit present
      counts spares
  · rintro α rows rfl
    exact windowRows_cover below rows least

/-- One cell, be it for rows or for their total. -/
def numbered (total : Int) : Report :=
  { columns := ["n"], rows := [[.integer total]] }

theorem numbered_counts (total : Nat) : (answering (numbered total)).Counts total := by
  intro executor present counting arguments before report after answered
  cases present
  cases answered
  rfl

def sized (size : Int) : Desk Unit :=
  ⟨{ clauses := { tables := [.text "T"] }, settings := { pageLimit := .integer size } }, [], ()⟩

theorem secondPage_windowed :
    let call := TerminalCall.paginate (.integer 2) []
    let outcome := (call.performAs false (answering (numbered 45))).run (sized 20)
    outcome.1.isOk = true ∧ outcome.2.builder.results.total = 45 ∧
      outcome.2.builder.results.pages = 3 ∧
      outcome.2.builder.results.query.asText? = some "SELECT * FROM T LIMIT 20, 20" ∧
      (List.range 3).flatMap (fun page => windowRows (page * 20) 20 (List.range 45)) =
        List.range 45 := by
  intro call outcome
  have returned : outcome.1.isOk = true := by decide +kernel
  have small : 20 < 2 ^ 1075 := by decide +kernel
  obtain ⟨pages, least, -, paged, cover⟩ :=
    pages_cover_rows (show 45 ≤ 2 ^ 53 by decide) (show 0 < 20 by decide) small
  have enough : 45 ≤ pages * 20 := least.1
  have most : pages ≤ 3 := least.2 (show 45 ≤ 3 * 20 by decide)
  obtain rfl : pages = 3 := by omega
  have second := paged Unit false (answering (numbered 45)) 1 [] (sized 20) rfl rfl
    (numbered_counts 45) (fun own => absurd own Bool.false_ne_true) returned
  exact ⟨returned, second.total, second.pages, by decide +kernel,
    (cover Nat (List.range 45) List.length_range).1⟩

/-- One row more than doubles can count, on pages of one row: a page is missing. -/
theorem lastRow_unreachable :
    let call := TerminalCall.paginate (.integer 1) []
    let outcome := (call.performAs false (answering (numbered 9007199254740993))).run (sized 1)
    outcome.1.isOk = true ∧ outcome.2.builder.results.total = 9007199254740993 ∧
      outcome.2.builder.results.pages = 9007199254740992 ∧
      ¬ outcome.2.builder.results.total ≤ outcome.2.builder.results.pages * 1 := by
  decide +kernel

end Querywright
