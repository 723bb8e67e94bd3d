import Mathlib
import Querywright.Proofs.RecordLoading
import Querywright.Proofs.TerminalCourse

/-! Inserts of several rows. The first row decides the columns and their order, and every row is
written in that order, each value under its own column, whatever order the row has itself. Rows that
name other columns, or none that can be written, are refused before anything is sent. -/
namespace Querywright
open Work

variable {τ : Type}

/-- Steps that agree item by item succeed with the same results, or fail alike. -/
theorem mapM_alike {α β γ : Type} {left : α → Except Error γ} {right : β → Except Error γ}
    {items : List α} {others : List β}
    (alike : List.Forall₂ (fun item other => left item = right other) items others) :
    items.mapM left = others.mapM right := by
  induction alike with
  | nil => rfl
  | cons same _ ih => rw [List.mapM_cons, List.mapM_cons, same, ih]

theorem mapM_writes {α β : Type} {step : α → Except Error β} {items : List α}
    (each : ∀ item ∈ items, ∃ result, step item = .ok result) :
    ∃ results, items.mapM step = .ok results := by
  induction items with
  | nil => exact ⟨[], rfl⟩
  | cons item rest ih =>
    obtain ⟨⟨result, found⟩, later⟩ := List.forall_mem_cons.mp each
    obtain ⟨results, others⟩ := ih later
    exact ⟨result :: results, by rw [List.mapM_cons, found, others]; rfl⟩

theorem mapM_item {α β : Type} {step : α → Except Error β} {items : List α} {results : List β}
    (ok : items.mapM step = .ok results) {item : α} (member : item ∈ items) :
    ∃ result, step item = .ok result := by
  obtain ⟨result, -, found⟩ := exists_right (mapM_success step items results ok) member
  exact ⟨result, found⟩

namespace Payload

/-- Columns to write, none of them blank. -/
structure IsNamed (row : Payload) : Prop where
  some : row ≠ []
  named : ∀ column ∈ row.columns, Text.isBlankText column = false

/-- Named columns, each of them once. -/
structure IsRow (row : Payload) : Prop extends row.IsNamed where
  once : row.columns.Nodup

def entry (cell : String × Value) : Value × Value :=
  (.text cell.1, cell.2)

/-- A row as the mapping that is handed over for it. -/
def mapping (row : Payload) : Value :=
  .mapping (row.map entry)

def SameColumns (row other : Payload) : Prop :=
  ∀ column, column ∈ row.columns ↔ column ∈ other.columns

/-- Values written for columns, one after the other, each of them the one that the row has there. -/
def Fills (columns : List String) (row : Payload) (tuple : List Fragment) : Prop :=
  List.Forall₂ (fun column written => ∃ value, (column, value) ∈ row ∧
    value.asExpression.fragment = .ok written) columns tuple

variable {row other : Payload} {columns : List String}

theorem mapping_injective : Function.Injective mapping := by
  intro row other same
  refine List.map_injective_iff.mpr ?_ (Value.mapping.inj same)
  intro cell another alike
  obtain ⟨key, value⟩ := Prod.mk.inj alike
  exact Prod.ext (Value.text.inj key) value

theorem payloadKey_eq_ok {key : Value} {name : String} (ok : payloadKey key = .ok name) :
    key = .text name ∧ Text.isBlankText name = false := by
  unfold payloadKey at ok
  split at ok
  · rename_i given
    cases blank : Text.isBlankText given with
    | true =>
      rw [if_pos blank] at ok
      cases ok
    | false =>
      rw [if_neg (by simp [blank])] at ok
      cases ok
      exact ⟨rfl, blank⟩
  · cases ok

theorem payloadKey_text {name : String} (named : Text.isBlankText name = false) :
    payloadKey (.text name) = .ok name :=
  if_neg (by simp [named])

/-- A cell of a row, read from an entry of a mapping. -/
def cellOf (given : Value × Value) : Except Error (String × Value) := do
  return (← payloadKey given.1, given.2)

theorem cells_read {entries : List (Value × Value)}
    (read : List.Forall₂ (fun given cell => cellOf given = .ok cell) entries row) :
    entries = row.map entry ∧ ∀ column ∈ row.columns, Text.isBlankText column = false := by
  induction read with
  | nil => exact ⟨rfl, by simp [Payload.columns]⟩
  | cons found _ ih =>
    obtain ⟨name, known, made⟩ := bind_success found
    cases return_success made
    obtain ⟨key, named⟩ := payloadKey_eq_ok known
    exact ⟨congrArg₂ List.cons (Prod.ext key rfl) ih.1, List.forall_mem_cons.mpr ⟨named, ih.2⟩⟩

theorem cells_written (named : ∀ column ∈ row.columns, Text.isBlankText column = false) :
    (row.map entry).mapM cellOf = .ok row := by
  induction row with
  | nil => rfl
  | cons cell rest ih =>
    obtain ⟨first, later⟩ := List.forall_mem_cons.mp named
    have found : cellOf (entry cell) = .ok cell := by
      unfold cellOf entry
      rw [payloadKey_text first]
      rfl
    rw [List.map_cons, List.mapM_cons, found, ih later]
    rfl

/-- A row is read exactly from its own mapping, if it names columns to write. -/
theorem payloadOf_eq_ok {data : Value} :
    payloadOf data = .ok row ↔ row.IsNamed ∧ data = row.mapping := by
  constructor
  · intro ok
    unfold payloadOf at ok
    split at ok
    · cases ok
    · rename_i entries full
      obtain ⟨same, named⟩ := cells_read (mapM_success cellOf entries row ok)
      refine ⟨⟨?_, named⟩, congrArg Value.mapping same⟩
      rintro rfl
      exact full same
    · cases ok
  · rintro ⟨⟨some, named⟩, rfl⟩
    cases row with
    | nil => exact absurd rfl some
    | cons cell rest => exact cells_written named

theorem payloads_read {rows : List Value} {payloads : List Payload}
    (read : rows.mapM payloadOf = .ok payloads) :
    rows = payloads.map mapping ∧ ∀ row ∈ payloads, row.IsNamed := by
  have related := mapM_success payloadOf rows payloads read
  clear read
  induction related with
  | nil => exact ⟨rfl, by simp⟩
  | cons found _ ih =>
    obtain ⟨named, same⟩ := payloadOf_eq_ok.mp found
    exact ⟨congrArg₂ List.cons same ih.1, List.forall_mem_cons.mpr ⟨named, ih.2⟩⟩

theorem payloads_written {payloads : List Payload} (named : ∀ row ∈ payloads, row.IsNamed) :
    (payloads.map mapping).mapM payloadOf = .ok payloads := by
  induction payloads with
  | nil => rfl
  | cons row rest ih =>
    obtain ⟨first, later⟩ := List.forall_mem_cons.mp named
    rw [List.map_cons, List.mapM_cons, payloadOf_eq_ok.mpr ⟨first, rfl⟩, ih later]
    rfl

theorem value_of_mem (once : row.columns.Nodup) {column : String} {value : Value}
    (member : (column, value) ∈ row) : row.value column = value := by
  have known : row.lookup column = some value := by
    induction row with
    | nil => cases member
    | cons cell rest ih =>
      obtain ⟨fresh, later⟩ := List.nodup_cons.mp once
      rw [List.lookup_cons]
      obtain rfl | inside := List.mem_cons.mp member
      · rw [beq_self_eq_true]
      · have apart : (column == cell.1) = false :=
          beq_eq_false_iff_ne.mpr fun same => fresh (List.mem_map.mpr ⟨_, inside, same⟩)
        rw [apart]
        exact ih later inside
  rw [Payload.value, known, Option.getD_some]

theorem exists_value {column : String} (member : column ∈ row.columns) :
    ∃ value, (column, value) ∈ row := by
  obtain ⟨⟨name, value⟩, inside, rfl⟩ := List.mem_map.mp member
  exact ⟨value, inside⟩

/-- The check of a row against the first one: as many columns, all of them known there. As no column
comes twice, both have the same. -/
theorem perm_of_sameColumns {left right : List String} (once : left.Nodup)
    (same : sameColumns left right = true) : left.Perm right := by
  obtain ⟨size, within⟩ := Bool.and_eq_true_iff.mp same
  have known : left ⊆ right := fun column member =>
    List.contains_iff_mem.mp (List.all_eq_true.mp within column member)
  have long : right.length ≤ left.length := Nat.le_of_eq (beq_iff_eq.mp size).symm
  exact (List.subperm_of_subset once known).perm_of_length_le long

/-- What is written for one row, in brackets. -/
def tupleFragment (tuple : List Fragment) : Fragment :=
  Fragment.surrounded "(" ")" (Fragment.listed tuple)

theorem rowFragment_eq_ok {written : Fragment} (once : row.columns.Nodup)
    (ok : rowFragment columns row = .ok written) :
    row.columns.Perm columns ∧
      ∃ tuple, row.Fills columns tuple ∧ written = tupleFragment tuple := by
  unfold rowFragment at ok
  split at ok
  · cases ok
  · rename_i even
    have perm := perm_of_sameColumns once (by simpa using even)
    obtain ⟨tuple, each, ok⟩ := bind_success ok
    refine ⟨perm, tuple, ?_, (return_success ok).symm⟩
    have written := mapM_success _ columns tuple each
    have present : ∀ column ∈ columns, column ∈ row.columns := fun column => perm.mem_iff.mpr
    refine ((List.forall₂_and_left _ tuple).mpr ⟨present, written⟩).imp ?_
    rintro column written ⟨member, shown⟩
    obtain ⟨value, inside⟩ := exists_value member
    exact ⟨value, inside, value_of_mem once inside ▸ shown⟩

/-- Rows are written one by one, each filling the same columns. -/
theorem rowFragments_eq_ok {rows : List Payload} {written : List Fragment}
    (once : ∀ row ∈ rows, row.columns.Nodup)
    (ok : rows.mapM (rowFragment columns) = .ok written) :
    ∃ tuples, List.Forall₂ (Fills columns) rows tuples ∧ written = tuples.map tupleFragment := by
  have related := mapM_success _ rows written ok
  clear ok
  induction related with
  | nil => exact ⟨[], .nil, rfl⟩
  | cons found _ ih =>
    obtain ⟨first, later⟩ := List.forall_mem_cons.mp once
    obtain ⟨-, tuple, fills, rfl⟩ := rowFragment_eq_ok first found
    obtain ⟨tuples, others, rfl⟩ := ih later
    exact ⟨tuple :: tuples, .cons fills others, rfl⟩

theorem IsNamed.of_perm (named : row.IsNamed) (perm : other.Perm row) : other.IsNamed := by
  refine ⟨?_, fun column member => named.named column ((perm.map _).mem_iff.mp member)⟩
  rintro rfl
  exact named.some perm.symm.eq_nil

theorem value_of_perm (once : row.columns.Nodup) (perm : other.Perm row) (column : String) :
    other.value column = row.value column := by
  have same : other.columns.Perm row.columns := perm.map _
  by_cases member : column ∈ row.columns
  · obtain ⟨value, inside⟩ := exists_value member
    rw [value_of_mem once inside, value_of_mem (same.nodup_iff.mpr once) (perm.mem_iff.mpr inside)]
  · have absent : column ∉ other.columns := fun inside => member (same.mem_iff.mp inside)
    rw [Payload.value, Payload.value, lookup_eq_none_of_names member,
      lookup_eq_none_of_names absent]

theorem sameColumns_of_same (once : row.columns.Nodup) (once' : other.columns.Nodup)
    (same : row.SameColumns other) : sameColumns row.columns other.columns = true := by
  have perm : row.columns.Perm other.columns := (List.perm_ext_iff_of_nodup once once').mpr same
  refine Bool.and_eq_true_iff.mpr ⟨beq_iff_eq.mpr perm.length_eq, ?_⟩
  exact List.all_eq_true.mpr fun column member =>
    List.contains_iff_mem.mpr ((same column).mp member)

/-- Every value of the row can be written. -/
def IsWritable (row : Payload) : Prop :=
  ∀ cell ∈ row, ∃ written, cell.2.asExpression.fragment = .ok written

theorem rowFragment_writes (once : row.columns.Nodup) (writable : row.IsWritable)
    (even : sameColumns row.columns columns = true) :
    ∃ written, rowFragment columns row = .ok written := by
  have perm := perm_of_sameColumns once even
  have each : ∀ column ∈ columns,
      ∃ written, (row.value column).asExpression.fragment = .ok written := by
    intro column member
    obtain ⟨value, inside⟩ := exists_value (perm.mem_iff.mpr member)
    rw [value_of_mem once inside]
    exact writable _ inside
  obtain ⟨tuple, all⟩ := mapM_writes each
  refine ⟨tupleFragment tuple, ?_⟩
  unfold rowFragment
  rw [even, all]
  rfl

/-- A row is written alike in whatever order it is given. -/
theorem rowFragment_perm (once : row.columns.Nodup) (perm : other.Perm row) :
    rowFragment columns other = rowFragment columns row := by
  have same : other.columns.Perm row.columns := perm.map _
  have even : sameColumns other.columns columns = sameColumns row.columns columns := by
    rw [sameColumns, sameColumns, same.length_eq, same.all_eq]
  unfold rowFragment
  rw [even]
  simp only [value_of_perm once perm]

theorem rows_of_perm (columns : List String) {rows others : List Payload}
    (given : ∀ row ∈ rows, row.IsRow) (permuted : List.Forall₂ List.Perm others rows) :
    (∀ row ∈ others, row.IsNamed) ∧
      List.Forall₂ (fun other row => rowFragment columns other = rowFragment columns row) others
        rows := by
  induction permuted with
  | nil => exact ⟨by simp, .nil⟩
  | cons perm _ ih =>
    obtain ⟨first, later⟩ := List.forall_mem_cons.mp given
    obtain ⟨named, alike⟩ := ih later
    exact ⟨List.forall_mem_cons.mpr ⟨first.toIsNamed.of_perm perm, named⟩,
      .cons (rowFragment_perm first.once perm) alike⟩

end Payload

namespace Clauses

def upsertWords (clauses : Clauses) : List String :=
  if clauses.hasUpsert then ["ON DUPLICATE KEY UPDATE " ++ clauses.upsertText] else []

/-- The text of an insert, from the columns and what is written for each row. -/
def insertText (columns : List String) (tuples : List (List Fragment)) (clauses : Clauses) :
    String :=
  let rows := tuples.map fun tuple => "(" ++ ", ".intercalate (tuple.map (·.text)) ++ ")"
  " ".intercalate ("INSERT" :: clauses.leading ++ ["INTO", clauses.firstTable,
    "(" ++ ", ".intercalate columns ++ ")", "VALUES", ", ".intercalate rows] ++ clauses.upsertWords)

/-- The rows stand under the columns of the first one, row by row, and so do their values. -/
def Aligns (clauses : Clauses) (first : Payload) (rest : List Payload) (statement : Fragment) :
    Prop :=
  ∃ tuples, List.Forall₂ (Payload.Fills first.columns) (first :: rest) tuples ∧
    statement.text = clauses.insertText first.columns tuples ∧
    statement.arguments = tuples.flatMap fun tuple => tuple.flatMap (·.arguments)

variable {clauses : Clauses} {statement : Fragment} {first : Payload} {rest others : List Payload}

theorem insert_success {rows : List Value} (ok : clauses.insert "INSERT" rows = .ok statement) :
    ∃ first rest written, rows.mapM payloadOf = .ok (first :: rest) ∧
      (first :: rest).mapM (rowFragment first.columns) = .ok written ∧
      statement = Fragment.spaced (("INSERT" :: clauses.leading ++ ["INTO", clauses.firstTable,
        "(" ++ ", ".intercalate first.columns ++ ")", "VALUES"]).map Fragment.plain ++
        Fragment.listed written :: clauses.upsertWords.map Fragment.plain) := by
  obtain ⟨_, -, ok⟩ := bind_success ok
  obtain ⟨payloads, read, ok⟩ := bind_success ok
  cases payloads with
  | nil => cases ok
  | cons first rest =>
    obtain ⟨written, each, ok⟩ := bind_success ok
    refine ⟨first, rest, written, read, each, ?_⟩
    rw [← return_success ok]
    unfold upsertWords
    cases clauses.hasUpsert <;> simp [Payload.columns]

theorem plain_arguments (words : List String) :
    (words.map Fragment.plain).flatMap (·.arguments) = [] := by
  simp [List.flatMap_eq_nil_iff, Fragment.plain]

theorem insert_aligned (rows : ∀ row ∈ first :: rest, row.IsRow)
    (ok : clauses.insert "INSERT" ((first :: rest).map Payload.mapping) = .ok statement) :
    clauses.Aligns first rest statement := by
  obtain ⟨head, tail, written, read, each, rfl⟩ := insert_success ok
  have named := Payload.payloads_written fun row member => (rows row member).toIsNamed
  cases named.symm.trans read
  obtain ⟨tuples, fills, rfl⟩ :=
    Payload.rowFragments_eq_ok (fun row member => (rows row member).once) each
  refine ⟨tuples, fills, ?_, ?_⟩
  · simp [Fragment.spaced, Fragment.joined, insertText, Fragment.listed, Function.comp_def,
      Fragment.plain, Payload.tupleFragment, Fragment.surrounded]
  · rw [Fragment.spaced, Fragment.joined]
    simp only [List.flatMap_append, List.flatMap_cons, plain_arguments, List.nil_append,
      List.append_nil]
    simp [Fragment.listed, Fragment.joined, Payload.tupleFragment, Fragment.surrounded,
      List.flatMap_map]

/-- Rows of the same columns are never refused themselves. -/
theorem insert_writes (table : clauses.requireTable true = .ok ())
    (rows : ∀ row ∈ first :: rest, row.IsRow ∧ row.SameColumns first)
    (writable : ∀ row ∈ first :: rest, row.IsWritable) :
    ∃ statement, clauses.insert "INSERT" ((first :: rest).map Payload.mapping) = .ok statement := by
  have head := (rows first List.mem_cons_self).1.once
  have each : ∀ row ∈ first :: rest, ∃ written, rowFragment first.columns row = .ok written := by
    intro row member
    obtain ⟨given, same⟩ := rows row member
    exact Payload.rowFragment_writes given.once (writable row member)
      (Payload.sameColumns_of_same given.once head same)
  obtain ⟨written, all⟩ := mapM_writes each
  unfold insert
  rw [table, Payload.payloads_written fun row member => (rows row member).1.toIsNamed]
  dsimp only [bind, Except.bind]
  rw [all]
  exact ⟨_, rfl⟩

/-- Rows behind the first one may be given in any order of their columns. -/
theorem insert_permuted (clauses : Clauses) (keyword : String)
    (rows : ∀ row ∈ first :: rest, row.IsRow) (permuted : List.Forall₂ List.Perm others rest) :
    clauses.insert keyword ((first :: others).map Payload.mapping) =
      clauses.insert keyword ((first :: rest).map Payload.mapping) := by
  obtain ⟨head, tail⟩ := List.forall_mem_cons.mp rows
  obtain ⟨named, alike⟩ := Payload.rows_of_perm first.columns tail permuted
  have written : (first :: others).mapM (rowFragment first.columns) =
      (first :: rest).mapM (rowFragment first.columns) := mapM_alike (.cons rfl alike)
  unfold insert
  rw [Payload.payloads_written fun row member => (rows row member).toIsNamed,
    Payload.payloads_written (List.forall_mem_cons.mpr ⟨head.toIsNamed, named⟩)]
  dsimp only [bind, Except.bind]
  rw [written]

/-- Rows that do not go together, or one that names no columns to write. -/
inductive Misaligned (rows : List Value) : Prop
  | uneven (row other : Payload) (here : row.mapping ∈ rows) (there : other.mapping ∈ rows)
      (once : row.columns.Nodup) (once' : other.columns.Nodup) (apart : ¬ row.SameColumns other)
  | malformed (row : Value) (here : row ∈ rows)
      (unnamed : ∀ payload : Payload, payload.IsNamed → row ≠ payload.mapping)

theorem insert_misaligned (clauses : Clauses) {rows : List Value} (misaligned : Misaligned rows) :
    ∃ reason, clauses.insert "INSERT" rows = .error reason := by
  cases outcome : clauses.insert "INSERT" rows with
  | error reason => exact ⟨reason, rfl⟩
  | ok statement =>
    exfalso
    obtain ⟨first, rest, written, read, each, -⟩ := insert_success outcome
    obtain ⟨rfl, named⟩ := Payload.payloads_read read
    cases misaligned with
    | malformed row here unnamed =>
      obtain ⟨payload, member, same⟩ := List.mem_map.mp here
      exact unnamed payload (named payload member) same.symm
    | uneven row other here there once once' apart =>
      have perm {row : Payload} (here : row.mapping ∈ (first :: rest).map Payload.mapping)
          (once : row.columns.Nodup) : row.columns.Perm first.columns := by
        have member := (List.mem_map_of_injective Payload.mapping_injective).mp here
        obtain ⟨fragment, shown⟩ := mapM_item each member
        exact (Payload.rowFragment_eq_ok once shown).1
      refine apart fun column => ?_
      exact ((perm here once).trans (perm there once').symm).mem_iff

end Clauses
/-- An insert of rows that can be taken from what is handed over: rendered from the clauses as they
are, and then checked, sent and taken over. -/
theorem TerminalCall.run_insertMulti (setting : Setting τ) {rows : Value} {items : List Value}
    (given : Builder.rowsOf rows = .ok items) (desk : Desk τ) :
    ((TerminalCall.insertMulti rows).perform setting).run desk = conclude (fun _ _ => none)
      ((ofResult (desk.builder.clauses.insert "INSERT" items) >>= fun statement =>
        execute setting statement >>= takeMany).run desk.begun) := by
  have ran : ((TerminalCall.insertMulti rows).perform setting).run desk =
      conclude (fun _ _ => none)
        ((mainStatement setting (.insert "INSERT" items) takeMany).run desk.begun) :=
    (run_given rfl given).trans rfl
  rw [ran, mainStatement, run_bind_ok (run_pending desk.begun)]
  rfl

/-- A builder's insert of several rows. -/
def Desk.insertRows (setting : Setting τ) (rows : List Value) (desk : Desk τ) :
    Except Error (Option Value) × Desk τ :=
  ((TerminalCall.insertMulti (.list rows)).perform setting).run desk

theorem Desk.insertRows_misaligned (setting : Setting τ) (desk : Desk τ) {rows : List Value}
    (misaligned : Clauses.Misaligned rows) :
    ∃ reason, (desk.insertRows setting rows).1 = .error reason ∧
      (desk.insertRows setting rows).2.outside = desk.outside := by
  obtain ⟨reason, refused⟩ := desk.builder.clauses.insert_misaligned misaligned
  have given : Builder.rowsOf (.list rows) = .ok rows := by
    cases rows with
    | nil =>
      cases misaligned with
      | uneven row other here => cases here
      | malformed row here => cases here
    | cons row rest => rfl
  have ran := TerminalCall.run_insertMulti setting given desk
  rw [refused, run_bind_error (run_ofResult _ _)] at ran
  exact ⟨reason, congrArg Prod.fst ran, congrArg (·.2.outside) ran⟩

/-- Inserts of several rows that name the same columns. They are written whenever there is a table
and their values can be; the columns stand in the order of the first row, and so do the values of
every row and, row by row, those that are bound; this is what is kept as the last statement. The
order of the columns in the other rows makes no difference to anything. Rows that do not go together
are refused, and nothing is sent. -/
theorem inserted_rows_aligned (setting : Setting τ) (desk : Desk τ) :
    (∀ (first : Payload) (rest : List Payload),
      (∀ row ∈ first :: rest, row.IsRow ∧ row.SameColumns first) →
      let clauses := desk.builder.clauses
      let rows := (first :: rest).map Payload.mapping
      (clauses.requireTable true = .ok () → (∀ row ∈ first :: rest, row.IsWritable) →
        ∃ statement, clauses.insert "INSERT" rows = .ok statement) ∧
      (∀ statement, clauses.insert "INSERT" rows = .ok statement →
        clauses.Aligns first rest statement ∧
          (statement.isBalanced = true →
            let results := (desk.insertRows setting rows).2.builder.results
            results.query = .text statement.text ∧ results.arguments = statement.arguments)) ∧
      ∀ others, List.Forall₂ List.Perm others rest →
        desk.insertRows setting ((first :: others).map Payload.mapping) =
          desk.insertRows setting rows) ∧
    ∀ rows, Clauses.Misaligned rows →
      ∃ reason, (desk.insertRows setting rows).1 = .error reason ∧
        (desk.insertRows setting rows).2.outside = desk.outside := by
  refine ⟨fun first rest each => ?_, fun rows => desk.insertRows_misaligned setting⟩
  intro clauses rows
  have given : ∀ row ∈ first :: rest, row.IsRow := fun row member => (each row member).1
  refine ⟨fun table writable => ?_, fun statement rendered => ⟨?_, fun balanced => ?_⟩,
    fun others permuted => ?_⟩
  · exact Clauses.insert_writes table each writable
  · exact Clauses.insert_aligned given rendered
  · have kept := TerminalCall.perform_balanced setting (.insertMulti (.list rows)) trivial desk _
      desk.begun rfl statement rendered balanced
    exact ⟨kept.1, kept.2.1⟩
  · have same := clauses.insert_permuted "INSERT" given permuted
    unfold Desk.insertRows
    rw [TerminalCall.run_insertMulti setting rfl, TerminalCall.run_insertMulti setting rfl, same]

def guestName : Subquery :=
  { clauses := {}, pageLimit := 20, derivedName := none
    recorded := some ("SELECT Name FROM Guests WHERE Id = ?", [.integer 7]) }

def knownUser : Payload :=
  [("Name", .text "Ann"), ("Seen", .expression (.function "NOW()" []))]

def guestUser : Payload :=
  [("Seen", .null), ("Name", .expression (.subquery guestName))]

/-- The guest with the columns in the order of the other row. -/
def guestInOrder : Payload :=
  guestUser.reverse

def userDesk : Desk (Unit × List Sent) :=
  { builder := { clauses := { tables := [.text "Users"] } }, outside := ((), []) }

def twoUsers : Fragment :=
  ⟨"INSERT INTO Users (Name, Seen) VALUES " ++
    "(?, NOW()), ((SELECT Name FROM Guests WHERE Id = ?), NULL)", [.text "Ann", .integer 7]⟩

theorem twoUsers_named : ∀ row ∈ [knownUser, guestUser], row.IsRow ∧ row.SameColumns knownUser := by
  have blank : Text.isBlankText "Name" = false ∧ Text.isBlankText "Seen" = false := by
    constructor <;> cbv
  have known : knownUser.IsRow :=
    ⟨⟨by simp [knownUser], by simp [knownUser, Payload.columns, blank]⟩, by decide⟩
  have guest : guestUser.IsRow :=
    ⟨⟨by simp [guestUser], by simp [guestUser, Payload.columns, blank]⟩, by decide⟩
  have same : guestUser.SameColumns knownUser := fun column => by
    simp [guestUser, knownUser, Payload.columns, or_comm]
  refine List.forall_mem_cons.mpr ⟨⟨known, fun _ => .rfl⟩, ?_⟩
  exact List.forall_mem_singleton.mpr ⟨guest, same⟩

theorem twoUsers_rendered : userDesk.builder.clauses.insert "INSERT"
    ([knownUser, guestUser].map Payload.mapping) = .ok twoUsers := by
  cbv

theorem twoUsers_writable : ∀ row ∈ [knownUser, guestUser], row.IsWritable := by
  have name : ∃ written, (Value.text "Ann").asExpression.fragment = .ok written := ⟨_, rfl⟩
  have now : ∃ written, (Expression.function "NOW()" []).fragment = .ok written := ⟨_, rfl⟩
  have guest : ∃ written, (Expression.subquery guestName).fragment = .ok written := ⟨_, rfl⟩
  have null : ∃ written, Value.null.asExpression.fragment = .ok written := ⟨_, rfl⟩
  refine List.forall_mem_cons.mpr ⟨?_, List.forall_mem_singleton.mpr ?_⟩
  · exact List.forall_mem_cons.mpr ⟨name, List.forall_mem_singleton.mpr now⟩
  · exact List.forall_mem_cons.mpr ⟨null, List.forall_mem_singleton.mpr guest⟩

/-- A function, a null and a nested select among the values, and the second row in another order;
and a row without columns. -/
theorem twoUsers_aligned :
    let setting := fruitless.watched
    let rows := [knownUser, guestUser].map Payload.mapping
    let outcome := userDesk.insertRows setting rows
    let unnamed := [knownUser.mapping, .mapping []]
    (∀ row ∈ [knownUser, guestUser], row.IsRow ∧ row.SameColumns knownUser) ∧
      (∃ statement, userDesk.builder.clauses.insert "INSERT" rows = .ok statement) ∧
      userDesk.builder.clauses.Aligns knownUser [guestUser] twoUsers ∧
      outcome.2.builder.results.query = .text twoUsers.text ∧
      outcome.2.builder.results.arguments = [.text "Ann", .integer 7] ∧
      userDesk.insertRows setting ([knownUser, guestInOrder].map Payload.mapping) = outcome ∧
      Clauses.Misaligned unnamed ∧
      (∃ reason, (userDesk.insertRows setting unnamed).1 = .error reason) ∧
      (userDesk.insertRows setting unnamed).2.outside.2 = [] := by
  intro setting rows outcome unnamed
  obtain ⟨aligned, refused⟩ := inserted_rows_aligned setting userDesk
  obtain ⟨writes, kept, permuted⟩ := aligned knownUser [guestUser] twoUsers_named
  obtain ⟨aligns, results⟩ := kept twoUsers twoUsers_rendered
  obtain ⟨query, arguments⟩ := results (by decide)
  have table : userDesk.builder.clauses.requireTable true = .ok () := by cbv
  have reversed : guestInOrder.Perm guestUser := List.reverse_perm guestUser
  have misaligned : Clauses.Misaligned unnamed := by
    refine .malformed (.mapping []) (by simp [unnamed]) fun payload named same => named.some ?_
    exact List.map_eq_nil_iff.mp (Value.mapping.inj same).symm
  obtain ⟨reason, failed, nothing⟩ := refused unnamed misaligned
  exact ⟨twoUsers_named, writes table twoUsers_writable, aligns, query, arguments,
    permuted [guestInOrder] (.cons reversed .nil), misaligned, ⟨reason, failed⟩,
    congrArg Prod.snd nothing⟩

end Querywright
