import Querywright.Statement
import Querywright.Proofs.Outcome
import Mathlib.Data.List.Basic

/-! The select whose rows are counted for a total. It is a plain select of the same clauses, without
those that only arrange the rows, and its values are those of the select for the page with the
values of what is left out taken away. -/
namespace Querywright

def orderValues (orders : List Order) : List Value :=
  orders.flatMap Order.ranking

namespace Clauses

/-- What of the clauses decides which rows there are. -/
def counted (clauses : Clauses) : Clauses :=
  { clauses with
    orders := []
    limit := []
    options := clauses.options.filter countingOptions.contains }

/-- Where equal rows count as often as they come, one column is as good as any. -/
def countedColumns (columns : List Value) (clauses : Clauses) : List Value :=
  if isDistinct clauses.options then columns else [.text "1"]

variable (clauses : Clauses)

@[simp] theorem counted_requireTable (writes : Bool) :
    clauses.counted.requireTable writes = clauses.requireTable writes :=
  rfl

@[simp] theorem counted_sources : clauses.counted.sources = clauses.sources := by
  obtain ⟨tables, conditions, groupConditions, joins, orders, groups, limit, options, upsert, id,
    requested⟩ := clauses
  rw [counted, sources, sources]

/-- Options that are counted all stand in front. -/
theorem counting_leads {option : String} (counts : countingOptions.contains option = true) :
    leadingOptions.contains option = true ∧ trailingOptions.contains option = false := by
  have each : ∀ option ∈ countingOptions,
      leadingOptions.contains option = true ∧ trailingOptions.contains option = false := by
    decide
  exact each option (List.contains_iff_mem.mp counts)

theorem counted_leading :
    clauses.counted.leading = clauses.leading.filter countingOptions.contains := by
  unfold leading counted
  exact List.filter_comm _ _ _

theorem counted_selectEnding : clauses.counted.selectEnding = [] := by
  have none : clauses.counted.trailing = [] := by
    refine List.filter_eq_nil_iff.mpr fun option member => ?_
    have counts := (List.mem_filter.mp member).2
    rw [(counting_leads counts).2]
    exact Bool.false_ne_true
  unfold selectEnding
  rw [none]
  rfl

theorem isDistinct_leading :
    isDistinct (clauses.leading.filter countingOptions.contains) = isDistinct clauses.options := by
  have kept (option : String) (counts : countingOptions.contains option = true) :
      (clauses.leading.filter countingOptions.contains).contains option =
        clauses.options.contains option := by
    rw [Bool.eq_iff_iff]
    simp only [leading, List.contains_iff_mem, List.mem_filter]
    have leads := (counting_leads counts).1
    simp_all
  unfold isDistinct
  rw [kept "DISTINCT" (by decide), kept "DISTINCTROW" (by decide)]

/-- The columns may be written in any way. -/
theorem selectCountingWith_eq (columns : Except Error Fragment) :
    clauses.selectCountingWith columns = clauses.counted.selectWith
      (if isDistinct clauses.options then columns else columnsFragment [.text "1"]) := by
  unfold selectCountingWith selectWith
  rw [counted_requireTable, counted_sources, counted_leading, counted_selectEnding]
  dsimp only
  rw [isDistinct_leading]
  split <;> rfl

theorem selectCounting_eq (columns : List Value) :
    clauses.selectCounting columns =
      clauses.counted.select (clauses.countedColumns columns) := by
  unfold selectCounting select countedColumns
  rw [selectCountingWith_eq]
  split <;> rfl

end Clauses

theorem assembleSelect_arguments (options : List String) (columns sources : Fragment)
    (ending : List Fragment) :
    (assembleSelect options columns sources ending).arguments =
      columns.arguments ++ sources.arguments ++ ending.flatMap (·.arguments) := by
  have words : (options.map Fragment.plain).flatMap (·.arguments) = [] := by
    simp [Fragment.plain]
  simp only [assembleSelect, Fragment.spaced, Fragment.joined, List.flatMap_append,
    List.cons_append, List.flatMap_cons, words, List.append_assoc]
  rfl

theorem Clauses.selectEnding_arguments (clauses : Clauses) :
    clauses.selectEnding.flatMap (·.arguments) = orderValues clauses.orders := by
  have words : (clauses.trailing.map Fragment.plain).flatMap (·.arguments) = [] := by
    simp [Fragment.plain]
  have limit : (limitFragments clauses.limit).flatMap (·.arguments) = [] := by
    cases clauses.limit <;> rfl
  have orders : (orderFragments clauses.orders).flatMap (·.arguments) =
      orderValues clauses.orders := by
    cases clauses.orders with
    | nil => rfl
    | cons order rest =>
      simp [orderFragments, Fragment.surrounded, Fragment.listed, Fragment.joined, orderValues,
        Order.fragment, List.flatMap_map]
  rw [selectEnding, window, List.flatMap_append, List.flatMap_append, words, limit, orders]
  simp

/-- The values of a select stand in three parts, for its columns, its sources and its ordering. -/
theorem Clauses.select_parts (clauses : Clauses) (columns : List Value) (main : Fragment)
    (rendered : clauses.select columns = .ok main) :
    ∃ chosen sources, clauses.requireTable false = .ok () ∧
      columnsFragment columns = .ok chosen ∧ clauses.sources = .ok sources ∧
      main = assembleSelect clauses.leading chosen sources clauses.selectEnding := by
  obtain ⟨named, accepted, rendered⟩ := bind_success rendered
  obtain ⟨chosen, written, rendered⟩ := bind_success rendered
  obtain ⟨sources, found, rendered⟩ := bind_success rendered
  exact ⟨chosen, sources, accepted, written, found, (return_success rendered).symm⟩

/-- A select that can be written can be counted. Of its values the count has those of the sources,
and those of the columns where equal rows count once. -/
theorem Clauses.select_counted (clauses : Clauses) (columns : List Value) (main : Fragment)
    (rendered : clauses.select columns = .ok main) :
    ∃ chosen sources counting, columnsFragment columns = .ok chosen ∧
      clauses.sources = .ok sources ∧ clauses.selectCounting columns = .ok counting ∧
      main.arguments = chosen.arguments ++ sources.arguments ++ orderValues clauses.orders ∧
      counting.arguments =
        (if isDistinct clauses.options then chosen.arguments else []) ++ sources.arguments := by
  obtain ⟨chosen, sources, accepted, written, found, rfl⟩ :=
    clauses.select_parts columns main rendered
  have single : columnsFragment [.text "1"] = .ok (Fragment.listed [Fragment.plain "1"]) := by
    have named : Text.isBlankText "1" = false := by decide +kernel
    simp only [columnsFragment, List.mapM_cons, columnFragment, named]
    rfl
  have counts : clauses.selectCounting columns = .ok (assembleSelect clauses.counted.leading
      (if isDistinct clauses.options then chosen
        else Fragment.listed [Fragment.plain "1"]) sources []) := by
    unfold selectCounting
    rw [selectCountingWith_eq]
    unfold selectWith
    rw [counted_requireTable, accepted, counted_sources, found, counted_selectEnding, written,
      single]
    split <;> rfl
  refine ⟨chosen, sources, _, written, found, counts, ?_, ?_⟩
  · rw [assembleSelect_arguments, selectEnding_arguments]
  · rw [assembleSelect_arguments]
    split
    · simp
    · simp [Fragment.listed, Fragment.joined, Fragment.plain]

end Querywright
