import Querywright.Call.Itself
import Querywright.Proofs.RecordLoading
import Querywright.Proofs.TerminalCourse

/-! Rows that go to the builder itself. A field is changed only if a column has its name, and such a
column does change it, settings and the statement kept included. -/
namespace Querywright
open Work

namespace Builder

/-- No field of a builder has another name, and none is a record. -/
theorem plainFields (rule : FieldRule) (member : rule ∈ recordType.openFields) :
    rule.otherName = none ∧ rule.ownReadingAlias = none ∧ rule.type.record? = none := by
  have open' := List.mem_of_mem_filter member
  clear member
  revert rule
  unfold recordType
  simp only [List.forall_mem_cons]
  simp
  decide

theorem ownField_named (column : String) (rule : FieldRule)
    (own : recordType.ownField? column = some rule) : rule.name = column := by
  have unaliased : recordType.openFields.find? (·.matchesAlias column) = none := by
    rw [List.find?_eq_none]
    intro other member
    obtain ⟨unnamed, unread, -⟩ := plainFields other member
    simp [FieldRule.matchesAlias, FieldRule.readingAlias, unnamed, unread]
  unfold RecordType.ownField? at own
  rw [unaliased, Option.none_or] at own
  have named := List.find?_some own
  exact beq_iff_eq.mp named

theorem findPath_named (column : String) (path : Path)
    (found : recordTypes.findPath "Builder" column [] = some path) :
    path.head?.map (·.1) = some column := by
  have known : recordTypes.find? "Builder" = some recordType := rfl
  unfold Schema.findPath at found
  split at found
  · cases found
  · rename_i type same
    obtain rfl : recordType = type := Option.some.inj (known.symm.trans same)
    split at found
    · rename_i rule own
      cases found
      rw [← ownField_named column rule own]
      rfl
    · obtain ⟨rule, member, inner⟩ := List.exists_of_findSome?_eq_some found
      obtain ⟨-, -, unnested⟩ := plainFields rule member
      rw [unnested] at inner
      cases inner

theorem touchedFields_columns (columns : List String) (name : String)
    (touched : name ∈ touchedFields (recordTypes.columnPaths "Builder" columns)) :
    name ∈ columns := by
  obtain ⟨path, member, first⟩ := List.mem_filterMap.mp touched
  obtain ⟨column, inside, found⟩ := List.mem_map.mp member
  obtain ⟨steps, rfl, head⟩ := Option.bind_eq_some_iff.mp first
  have named := findPath_named column steps found
  rw [head] at named
  cases named
  exact inside

/-- The names of the statement kept and of its arguments. -/
def statementNames : List String :=
  ["last_query", "last_params"]

theorem assign_statement (builder : Builder) (field : String × Value)
    (other : field.1 ∉ statementNames) :
    (builder.assign field).results.query = builder.results.query ∧
      (builder.assign field).results.arguments = builder.results.arguments := by
  unfold statementNames at other
  unfold assign assignResult
  split <;> simp_all

theorem assign_traces (builder : Builder) (field : String × Value) (other : field.1 ≠ "traces") :
    (builder.assign field).traces = builder.traces := by
  unfold assign assignTraces
  split
  · exact absurd ‹_› other
  · rfl

end Builder

/-- A part of the settings, with the names of the columns that may change it. -/
structure Watch (γ : Type) where
  part : Settings → γ
  names : List String
  assigned : ∀ name value settings, name ∉ names →
    part (Builder.assignSetting name value settings) = part settings

namespace Watch

/-- Where the part is the same, so is what else of the settings it shows. -/
def Shows {γ δ : Type} (watch : Watch γ) (part : Settings → δ) : Prop :=
  ∀ one other, watch.part one = watch.part other → part one = part other

def pageLimit : Watch Value where
  part := Settings.pageLimit
  names := ["page_limit"]
  assigned name value settings other := by
    unfold Builder.assignSetting
    split <;> simp_all

def lockMethod : Watch String where
  part := Settings.lockMethod
  names := ["lock_method"]
  assigned name value settings other := by
    unfold Builder.assignSetting
    split <;> simp_all

def tracing : Watch Value where
  part := Settings.tracing
  names := ["tracing"]
  assigned name value settings other := by
    unfold Builder.assignSetting
    split <;> simp_all

/-- The traces are no setting. Nothing of the settings is watched, but the name is. -/
def traces : Watch Unit where
  part _ := ()
  names := ["traces"]
  assigned _ _ _ _ := rfl

def all : Watch Settings where
  part := id
  names := ["page_limit", "lock_method", "tracing"]
  assigned name value settings other := by
    unfold Builder.assignSetting
    split <;> simp_all

end Watch

theorem load_changes (number : Nat) (schema : Schema) (fields : FieldValues)
    (columns : List String) (rows : List (List Value)) (field : String × Value)
    (changed : field ∈ (load schema .record (.builder number fields []) columns rows).2.changes) :
    field.1 ∈ columns := by
  unfold load at changed
  cases rows with
  | nil => simp [Destination.changes] at changed
  | cons row rest =>
    dsimp only at changed
    split at changed
    · have touched := (List.mem_filter.mp changed).2
      exact Builder.touchedFields_columns columns field.1 (List.contains_iff_mem.mp touched)
    · simp [Destination.changes] at changed

theorem Builder.foldl_assign_same {γ : Type} (observe : Builder → γ) (changes : FieldValues)
    (same : ∀ change ∈ changes, ∀ builder : Builder,
      observe (builder.assign change) = observe builder) (builder : Builder) :
    observe (changes.foldl Builder.assign builder) = observe builder := by
  induction changes generalizing builder with
  | nil => rfl
  | cons change rest ih =>
    have later := ih (fun other member => same other (List.mem_cons_of_mem _ member))
    exact (later _).trans (same change List.mem_cons_self builder)

/-- A builder behind its select, before the rows are loaded. -/
def selected : Builder :=
  { clauses := { tables := [.text "T"] }, results := { query := .text "SELECT * FROM T" }
    binding := some ⟨0, .record⟩ }

/-- The fields of the builder with a row of two columns laid over them. -/
def laidOver : Entries :=
  [(.text "tables", .list [.text "T"]), (.text "where_conditions", .list []),
    (.text "having_conditions", .list []), (.text "joins", .mapping []), (.text "orders", .list []),
    (.text "group_by_columns", .list []), (.text "limit_value", .tuple []),
    (.text "query_options", .list []), (.text "on_duplicate_columns", .list []),
    (.text "last_insert_id_column", .null), (.text "total_count_requested", .truth false),
    (.text "page_limit", .integer 5), (.text "lock_method", .text "WRITE"),
    (.text "tracing", .truth false), (.text "last_query", .text "X"),
    (.text "last_params", .tuple []), (.text "count", .integer 0), (.text "last_insert_id", .null),
    (.text "last_insert_ids", .list []), (.text "total_count", .integer 0),
    (.text "total_page", .integer 0), (.text "traces", .list [])]

theorem laidOver_fitted : ∀ rule ∈ Builder.recordType.fields,
    ∃ fitted, rule.fitted Builder.recordTypes false laidOver = .ok fitted := by
  unfold Builder.recordType
  simp only [List.forall_mem_cons]
  refine ⟨?_, ?_, ?_, ?_, ?_, ?_, ?_, ?_, ?_, ?_, ?_, ?_, ?_, ?_, ?_, ?_, ?_, ?_, ?_, ?_, ?_, ?_,
    ?_⟩
  -- One goal for each field, and one for the end of the list.
  case refine_23 => simp
  all_goals
    exact ⟨_, FieldRule.fitted_of_present rfl (by rw [fit.eq_def]; rfl)⟩

def ownRow : Report :=
  { columns := ["page_limit", "last_query"], rows := [[.integer 5, .text "X"]] }

def ownFields : FieldValues :=
  [("page_limit", .integer 5), ("last_query", .text "X")]

/-- The fields of the builder once the row has been checked. -/
def renewedFields : FieldValues :=
  replaceFields ["page_limit", "last_query"] (Builder.recordType.fields.map fun rule =>
    (rule.name, Fitted.valueOf (rule.fitted Builder.recordTypes false laidOver))) selected.fields

theorem ownRow_paths : Builder.recordTypes.columnPaths "Builder" ownRow.columns =
    [some [("page_limit", "page_limit")], some [("last_query", "last_query")]] := by
  decide +kernel

theorem ownRow_checked : loadRecord Builder.recordTypes "Builder" selected.fields ownRow.columns
    [.integer 5, .text "X"] = .ok renewedFields := by
  have assembled : assemble
      [some [("page_limit", "page_limit")], some [("last_query", "last_query")]]
      [.integer 5, .text "X"] =
        .ok (.mapping [(.text "page_limit", .integer 5), (.text "last_query", .text "X")]) := rfl
  have laid : overlay (.mapping [(.text "page_limit", .integer 5), (.text "last_query", .text "X")])
      (some (written Builder.recordTypes (.record "Builder" selected.fields))) =
        .mapping laidOver := rfl
  have loaded := loadRecord_laid ownRow_paths assembled (List.cons_ne_nil _ _) laid rfl
    laidOver_fitted
  unfold RecordType.fittedFields at loaded
  exact loaded

theorem renewedFields_changed :
    renewedFields.filter (fun field => ["page_limit", "last_query"].contains field.1) =
      ownFields := by
  have limit : FieldRule.fitted Builder.recordTypes false laidOver
      { name := "page_limit", type := .integer } = .ok { value := .integer 5 } :=
    FieldRule.fitted_of_present rfl (by rw [fit]; rfl)
  have query : FieldRule.fitted Builder.recordTypes false laidOver
      { name := "last_query", type := .text } = .ok { value := .text "X" } :=
    FieldRule.fitted_of_present rfl (by rw [fit]; rfl)
  have changed : renewedFields.filter (fun field => ["page_limit", "last_query"].contains field.1) =
      [("page_limit", Fitted.valueOf (FieldRule.fitted Builder.recordTypes false laidOver
          { name := "page_limit", type := .integer })),
        ("last_query", Fitted.valueOf (FieldRule.fitted Builder.recordTypes false laidOver
          { name := "last_query", type := .text }))] := rfl
  rw [changed, limit, query]
  rfl

theorem ownRow_loaded :
    load [] .record (.builder 0 selected.fields []) ownRow.columns ownRow.rows =
      (.ok 1, .builder 0 renewedFields ownFields) := by
  have touched : touchedFields (Builder.recordTypes.columnPaths "Builder" ownRow.columns) =
      ["page_limit", "last_query"] := by
    rw [ownRow_paths]
    rfl
  have rows : ownRow.rows = [[.integer 5, .text "X"]] := rfl
  unfold load
  rw [rows]
  dsimp only
  rw [List.append_nil, ownRow_checked]
  dsimp only
  rw [touched, renewedFields_changed]

/-- What the row makes of the builder, its count included. -/
def overwritten : Builder :=
  let changed := ownFields.foldl Builder.assign selected
  { changed with results := { changed.results with count := 1 } }

theorem takeBound_ownRow (binding : Option Binding) (shelf : Shelf) :
    (takeBound true [] binding (some ownRow)).run (⟨selected, shelf, ()⟩ : Desk Unit) =
      (.ok (), ⟨overwritten, shelf, ()⟩) := by
  have loaded : (loadItself [] ownRow).run (⟨selected, shelf, ()⟩ : Desk Unit) =
      (.ok 1, ⟨ownFields.foldl Builder.assign selected, shelf, ()⟩) := by
    change loadItself [] ownRow (⟨selected, shelf, ()⟩ : Desk Unit) = _
    unfold loadItself ExceptT.mk
    dsimp only
    rw [ownRow_loaded]
    rfl
  change (loadItself [] ownRow >>= fun count =>
    changeResults fun results => { results with count := count }).run _ = _
  rw [run_bind_ok loaded]
  rfl

def answering (report : Report) : Setting Unit :=
  { executor := some fun _ _ outside => (.ok report, outside) }

/-- The builder that goes to the select, as its own destination. -/
def boundToItself : Desk Unit :=
  ⟨{ clauses := { tables := [.text "T"] }, binding := some ⟨0, .record⟩ }, [.builder 0 [] []], ()⟩

theorem selected_rendered :
    Clauses.select [] { tables := [.text "T"] } = .ok ⟨"SELECT * FROM T", []⟩ := by
  have named : isTableName (.text "T") = true := by decide +kernel
  have table : Clauses.requireTable { tables := [.text "T"] } false = .ok () := by
    simp [Clauses.requireTable, named]
  unfold Clauses.select Clauses.selectWith
  rw [table]
  rfl

theorem selected_balanced : Fragment.isBalanced ⟨"SELECT * FROM T", []⟩ = true :=
  rfl

theorem get_ownRow : ((TerminalCall.get []).performAs true (answering ownRow)).run boundToItself =
    (.ok none, Desk.closed ⟨overwritten, boundToItself.shelf, ()⟩) := by
  have sent : (execute (answering ownRow) ⟨"SELECT * FROM T", []⟩).run boundToItself.begun =
      (.ok (some ownRow), ⟨selected, boundToItself.shelf, ()⟩) := by
    rw [execute_balanced _ _ selected_balanced]
    rfl
  refine (run_given rfl selected_rendered).trans ?_
  rw [run_bind_ok sent, run_bind_ok (run_builder _)]
  exact congrArg (conclude _) (run_bind_ok (takeBound_ownRow _ _) _)

end Querywright
