import Querywright.Proofs.AppliedOperators
import Querywright.Proofs.CountedSelects
import Querywright.Proofs.JoinHistory
import Querywright.Proofs.StatementAssembly

/-! Joins in statements. Selects, updates and deletes write their joins one behind the other in one
place, and nothing else of them depends on the joins. So after any calls a statement has one join
for each key, with what was joined last under it and the conditions added since. -/
namespace Querywright
open Fragment

/-- The pieces between the brackets of a join: its base, if there is one, and what was added. -/
def onPieces (base : String) (added : List (Connector × String)) : List (Connector × String) :=
  (if base.isEmpty then [] else [(.both, base)]) ++ added

def onText (base : String) (added : List (Connector × String)) : String :=
  let asked := " ".intercalate (connected (onPieces base added))
  if asked.isEmpty then "" else " ON (" ++ asked ++ ")"

def ledTexts (conditions : List Condition) (pieces : List Fragment) : List (Connector × String) :=
  List.zipWith (fun condition piece => (condition.connector, piece.text)) conditions pieces

/-- A join written with its target and the conditions added to it. The brackets are missing when it
has no base and nothing was added, or one condition only, which writes itself around its column and
writes nothing. -/
structure WrittenJoin (base : Join) (added : List Condition) (target : Fragment)
    (pieces : List Fragment) (written : Fragment) : Prop where
  target_eq : Fragment.bind base.target.values base.target.text = .ok target
  pieces_eq : List.Forall₂ (fun condition piece => condition.fragment = .ok piece) added pieces
  text_eq : written.text = base.direction.text ++ " JOIN " ++ target.text ++
    onText base.condition (ledTexts added pieces)
  arguments_eq : written.arguments = target.arguments ++ pieces.flatMap (·.arguments)
  bare_iff : onText base.condition (ledTexts added pieces) = "" ↔ base.condition = "" ∧
    (added = [] ∨ ∃ sole, added = [sole] ∧ sole.body.IsSelfWritten ∧ sole.text = .ok "")

/-- The join of a key as the notes have it, in a statement. -/
def JoinShown (notes : List JoinNote) (key : String) (written : Fragment) : Prop :=
  ∃ base added target pieces, LastJoined notes key base added ∧ base.target.key = some key ∧
    WrittenJoin base added target pieces written

namespace Rendering

/-- The statements that have joins. -/
def HasJoins : Rendering → Prop
  | .select _ | .counting _ | .update _ | .delete => True
  | .insert .. | .written .. => False

/-- With other joins a statement has the same form; a delete of one table has another form without
any join. -/
def KeepsForm (rendering : Rendering) (clauses : Clauses) (joins : List Join) : Prop :=
  rendering = .delete → 1 < clauses.tables.length ∨ (joins = [] ↔ clauses.joins = [])

/-- What a statement has in front of its joins and behind them, whatever these are. -/
def Frames (rendering : Rendering) (clauses : Clauses) (front back : List Fragment) : Prop :=
  ∀ joins written, rendering.KeepsForm clauses joins → Join.fragments joins = .ok written →
    rendering.render { clauses with joins := joins } = .ok (spaced (front ++ written ++ back))

end Rendering

namespace ConditionBody

variable {body : ConditionBody} {column operator : String} {taken : List Value}

theorem Reads.around_of_blank (reads : body.Reads column operator taken)
    (blank : body.text = .ok "") : body.IsSelfWritten := by
  by_contra beside
  rw [reads.text_beside beside] at blank
  obtain ⟨written, -, nothing⟩ := map_success blank
  simp at nothing

/-- Only what writes itself around its column may be written as nothing. -/
theorem Built.around_of_blank (built : body.Built) (blank : body.text = .ok "") :
    body.IsSelfWritten := by
  cases built with
  | @raw text named arguments =>
    have nothing : text = "" := Except.ok.inj blank
    rw [nothing] at named
    exact absurd named (by decide)
  | reads reads => exact reads.around_of_blank blank
  | existence negated subquery =>
    rw [ConditionBody.text] at blank
    obtain ⟨fragment, -, nothing⟩ := map_success blank
    simp at nothing

end ConditionBody

theorem Condition.around_of_blank {connector : Connector} {arguments : List Value}
    {condition : Condition} (built : Condition.build connector arguments = .ok condition)
    (blank : condition.text = .ok "") : condition.body.IsSelfWritten := by
  obtain ⟨body, made, rfl⟩ := map_success built
  rw [Condition.text_eq] at blank
  exact ((ConditionBody.build_built arguments).of_success made).around_of_blank blank

theorem connected_eq_empty {texts : List (Connector × String)} :
    " ".intercalate (connected texts) = "" ↔
      texts = [] ∨ ∃ connector, texts = [(connector, "")] := by
  match texts with
  | [] => simp [connected]
  | [(connector, text)] => simp [connected]
  | first :: second :: rest => simp [connected, String.intercalate_cons_cons]

theorem onText_eq_empty {base : String} {added : List (Connector × String)} :
    onText base added = "" ↔
      base = "" ∧ (added = [] ∨ ∃ connector, added = [(connector, "")]) := by
  have shown : onText base added = "" ↔ " ".intercalate (connected (onPieces base added)) = "" := by
    unfold onText
    dsimp only
    split
    · rename_i empty
      exact iff_of_true rfl (String.isEmpty_iff.mp empty)
    · rename_i some
      refine iff_of_false (fun nothing => ?_) (fun nothing => some (String.isEmpty_iff.mpr nothing))
      simp at nothing
  rw [shown, connected_eq_empty, onPieces]
  by_cases empty : base = ""
  · simp [empty]
  · have other : base.isEmpty = false := by simpa using empty
    simp [empty, other]

/-- Conditions in a row: values and texts are those of each by itself. -/
theorem conditions_bound {conditions : List Condition} {values : List Value}
    {texts : List (Connector × String)} (supplied : Condition.valuesOfAll conditions = .ok values)
    (written : Condition.textsOfAll conditions = .ok texts) :
    ∃ pieces,
      List.Forall₂ (fun condition piece => condition.fragment = .ok piece) conditions pieces ∧
      texts = ledTexts conditions pieces ∧ values = pieces.flatMap (·.arguments) := by
  induction conditions generalizing values texts with
  | nil =>
    cases supplied
    cases written
    exact ⟨[], .nil, rfl, rfl⟩
  | cons condition rest ih =>
    rw [Condition.valuesOfAll] at supplied
    rw [Condition.textsOfAll] at written
    obtain ⟨own, given, supplied⟩ := bind_success supplied
    obtain ⟨others, later, supplied⟩ := bind_success supplied
    obtain ⟨text, shown, written⟩ := bind_success written
    obtain ⟨behind, ending, written⟩ := bind_success written
    obtain ⟨pieces, each, rfl, rfl⟩ := ih later ending
    cases return_success supplied
    cases return_success written
    refine ⟨⟨text, own⟩ :: pieces, .cons ?_ each, rfl, rfl⟩
    rw [Condition.fragment, given, shown]
    rfl

theorem pieces_of_sole {added : List Condition} {pieces : List Fragment}
    (each : List.Forall₂ (fun condition piece => condition.fragment = .ok piece) added pieces) :
    (ledTexts added pieces = [] ∨ ∃ connector, ledTexts added pieces = [(connector, "")]) ↔
      added = [] ∨ ∃ sole, added = [sole] ∧ sole.text = .ok "" := by
  cases each with
  | nil => simp [ledTexts]
  | @cons sole piece rest pieces here later =>
    obtain ⟨values, text, -, shown, rfl⟩ := bound_success here
    cases later with
    | nil => simp [ledTexts, shown]
    | cons => simp [ledTexts]

/-- A join is written by its direction, its target, and the conditions that it has. -/
theorem Join.bound_written {join : Join} {written : Fragment}
    (built : ∀ condition ∈ join.conditions, ∃ connector arguments,
      Condition.build connector arguments = .ok condition)
    (bound : Fragment.bind join.values join.text = .ok written) :
    ∃ target pieces, WrittenJoin join join.conditions target pieces written := by
  obtain ⟨values, text, supplied, shown, rfl⟩ := bound_success bound
  obtain ⟨direction, target, condition, conditions⟩ := join
  rw [Join.values] at supplied
  rw [Join.text] at shown
  obtain ⟨own, given, supplied⟩ := bind_success supplied
  obtain ⟨others, later, supplied⟩ := bind_success supplied
  obtain ⟨named, joined, shown⟩ := bind_success shown
  obtain ⟨texts, asked, shown⟩ := bind_success shown
  obtain ⟨pieces, each, rfl, rfl⟩ := conditions_bound later asked
  cases return_success supplied
  cases return_success shown
  refine ⟨⟨named, own⟩, pieces, ?_, each, ?_, rfl, ?_⟩
  · rw [given, joined]
    rfl
  · dsimp only
    rw [onText, onPieces]
    cases condition.isEmpty <;> rfl
  · rw [onText_eq_empty, pieces_of_sole each]
    refine and_congr_right fun _ => or_congr_right (exists_congr fun sole => ?_)
    refine and_congr_right fun alone => ⟨fun blank => ⟨?_, blank⟩, And.right⟩
    have member : sole ∈ conditions := alone ▸ List.mem_singleton_self sole
    obtain ⟨connector, arguments, made⟩ := built sole member
    exact Condition.around_of_blank made blank

/-- A row of words that was put together inside another is as well put together with it. -/
theorem intercalate_nested (separator : String) {inner : List String} (some : inner ≠ [])
    (front back : List String) :
    separator.intercalate (front ++ separator.intercalate inner :: back) =
      separator.intercalate (front ++ inner ++ back) := by
  induction front with
  | nil =>
    cases back with
    | nil => simp
    | cons next rest =>
      rw [List.nil_append, List.nil_append, String.intercalate_cons_cons,
        String.intercalate_append_of_ne_nil some (List.cons_ne_nil _ _)]
  | cons first rest ih =>
    rw [List.cons_append, List.cons_append, List.cons_append,
      String.intercalate_cons_of_ne_nil (by simp),
      String.intercalate_cons_of_ne_nil (by simp [some]), ih]

theorem spaced_nested {inner : List Fragment} (some : inner ≠ []) (front back : List Fragment) :
    spaced (front ++ spaced inner :: back) = spaced (front ++ inner ++ back) := by
  have words : inner.map (·.text) ≠ [] := List.map_eq_nil_iff.not.mpr some
  have texts := intercalate_nested " " words (front.map (·.text)) (back.map (·.text))
  simp only [spaced, joined, List.map_append, List.map_cons, texts, List.flatMap_append,
    List.flatMap_cons, List.append_assoc]

theorem joins_bound {joins : List Join} {written : List Fragment}
    (shown : Join.fragments joins = .ok written) :
    List.Forall₂ (fun join piece => Fragment.bind join.values join.text = .ok piece) joins
      written := by
  induction joins generalizing written with
  | nil =>
    cases shown
    exact .nil
  | cons join rest ih =>
    rw [Join.fragments] at shown
    obtain ⟨first, bound, shown⟩ := bind_success shown
    obtain ⟨others, later, shown⟩ := bind_success shown
    cases return_success shown
    exact .cons bound (ih later)

theorem joins_bound_iff {joins : List Join} : (∃ written, Join.fragments joins = .ok written) ↔
    ∀ join ∈ joins, ∃ piece, Fragment.bind join.values join.text = .ok piece := by
  constructor
  · rintro ⟨written, shown⟩ join member
    obtain ⟨piece, -, bound⟩ := exists_right (joins_bound shown) member
    exact ⟨piece, bound⟩
  · intro each
    induction joins with
    | nil => exact ⟨[], rfl⟩
    | cons join rest ih =>
      obtain ⟨⟨piece, bound⟩, later⟩ := List.forall_mem_cons.mp each
      obtain ⟨written, others⟩ := ih later
      refine ⟨piece :: written, ?_⟩
      rw [Join.fragments, bound, others]
      rfl

section Framing

variable {clauses : Clauses} {statement : Fragment}

theorem Rendering.Frames.here {rendering : Rendering} {front written back : List Fragment}
    (frames : rendering.Frames clauses front back)
    (shown : Join.fragments clauses.joins = .ok written) :
    rendering.render clauses = .ok (spaced (front ++ written ++ back)) := by
  have own := frames clauses.joins written (fun _ => .inr Iff.rfl) shown
  cases clauses
  exact own

namespace Clauses

theorem sources_framed {sources : Fragment} (ok : clauses.sources = .ok sources) :
    ∃ opening written ending, Join.fragments clauses.joins = .ok written ∧
      ∀ joins written, Join.fragments joins = .ok written →
        ({ clauses with joins := joins }).sources =
          .ok (spaced (opening :: written ++ ending)) := by
  cases clauses
  rw [Clauses.sources] at ok
  obtain ⟨tables, named, ok⟩ := bind_success ok
  obtain ⟨own, shown, ok⟩ := bind_success ok
  obtain ⟨conditions, asked, ok⟩ := bind_success ok
  obtain ⟨groups, grouped, ok⟩ := bind_success ok
  obtain ⟨groupConditions, kept, -⟩ := bind_success ok
  refine ⟨surrounded "FROM " "" (listed tables), own,
    ledBy "WHERE" conditions ++ groups ++ ledBy "HAVING" groupConditions, shown, ?_⟩
  intro joins written others
  dsimp only
  rw [Clauses.sources, named, others, asked, grouped, kept]
  simp only [← List.append_assoc]
  rfl

theorem assembleSelect_framed (options : List String) (columns : Fragment) (inner : List Fragment)
    (some : inner ≠ []) (ending : List Fragment) :
    assembleSelect options columns (spaced inner) ending =
      spaced (plain "SELECT" :: options.map plain ++ [columns] ++ inner ++ ending) := by
  rw [← spaced_nested some]
  simp [assembleSelect]

theorem select_framed {columns : List Value} (ok : clauses.select columns = .ok statement) :
    ∃ front written back, Join.fragments clauses.joins = .ok written ∧
      Rendering.Frames (.select columns) clauses front back := by
  obtain ⟨_, accepted, ok⟩ := bind_success ok
  obtain ⟨shown, taken, ok⟩ := bind_success ok
  obtain ⟨sources, placed, -⟩ := bind_success ok
  obtain ⟨opening, own, ending, given, framed⟩ := sources_framed placed
  refine ⟨plain "SELECT" :: clauses.leading.map plain ++ [shown, opening], own,
    ending ++ clauses.selectEnding, given, fun joins written _ others => ?_⟩
  have alike : ({ clauses with joins := joins }).requireTable false = .ok () := accepted
  rw [Rendering.render, select, selectWith, alike, taken, framed joins written others]
  refine congrArg Except.ok ((assembleSelect_framed _ _ _ (by simp) _).trans ?_)
  simp [leading, selectEnding, window, trailing]

/-- A count is a select of fewer clauses, the joins being among them. -/
theorem selectCounting_framed {columns : List Value}
    (ok : clauses.selectCounting columns = .ok statement) :
    ∃ front written back, Join.fragments clauses.joins = .ok written ∧
      Rendering.Frames (.counting columns) clauses front back := by
  rw [selectCounting_eq] at ok
  obtain ⟨front, own, back, given, framed⟩ := select_framed ok
  refine ⟨front, own, back, given, fun joins written _ others => ?_⟩
  rw [Rendering.render, selectCounting_eq]
  exact framed joins written (nofun) others

theorem update_framed {data : Value} (ok : clauses.update data = .ok statement) :
    ∃ front written back, Join.fragments clauses.joins = .ok written ∧
      Rendering.Frames (.update data) clauses front back := by
  obtain ⟨_, accepted, ok⟩ := bind_success ok
  obtain ⟨payload, taken, ok⟩ := bind_success ok
  obtain ⟨own, shown, ok⟩ := bind_success ok
  obtain ⟨assignments, given, ok⟩ := bind_success ok
  obtain ⟨conditions, asked, -⟩ := bind_success ok
  refine ⟨plain "UPDATE" :: clauses.leading.map plain ++ [plain clauses.firstTable], own,
    [surrounded "SET " "" (listed assignments)] ++ ledBy "WHERE" conditions ++ clauses.window,
    shown, fun joins written _ others => ?_⟩
  have alike : ({ clauses with joins := joins }).requireTable true = .ok () := accepted
  unfold Rendering.render update
  simp only [Bind.bind, Except.bind, alike, taken, others, given, asked, ← List.append_assoc]
  rfl

/-- A delete without joins and of one table only has a form of its own, with no place for joins. -/
theorem delete_framed (ok : clauses.delete = .ok statement) :
    ∃ front written back, Join.fragments clauses.joins = .ok written ∧
      Rendering.Frames .delete clauses front back := by
  obtain ⟨_, accepted, ok⟩ := bind_success ok
  have alike (joins : List Join) : ({ clauses with joins := joins }).requireTable true = .ok () :=
    accepted
  let names := ", ".intercalate clauses.tableTexts
  let options := clauses.leading.map plain
  dsimp only at ok
  split at ok
  · rename_i several
    obtain ⟨own, shown, ok⟩ := bind_success ok
    obtain ⟨conditions, asked, -⟩ := bind_success ok
    refine ⟨plain "DELETE" :: options ++ [plain names, plain "FROM", plain names], own,
      ledBy "WHERE" conditions, shown, fun joins written form others => ?_⟩
    have both : (1 < clauses.tables.length || !joins.isEmpty) = true := by
      rcases form rfl with many | present
      · simp [many]
      · simpa [present] using several
    unfold Rendering.render delete
    simp only [Bind.bind, Except.bind, alike, both, others, asked, if_true]
    rfl
  · rename_i single
    obtain ⟨conditions, asked, -⟩ := bind_success ok
    obtain ⟨sole, none⟩ : clauses.tables.length ≤ 1 ∧ clauses.joins = [] := by
      simpa using single
    refine ⟨plain "DELETE" :: options ++ [plain "FROM", plain names], [],
      ledBy "WHERE" conditions ++ clauses.window, none ▸ rfl, fun joins written form others => ?_⟩
    obtain rfl := ((form rfl).resolve_left sole.not_gt).mpr none
    cases others
    have neither : (1 < clauses.tables.length || !([] : List Join).isEmpty) = false := by
      simpa using sole
    unfold Rendering.render delete
    simp only [Bind.bind, Except.bind, alike, neither, asked, Bool.false_eq_true, if_false,
      List.append_nil, ← List.append_assoc]
    rfl

theorem delete_ok_iff : (∃ statement, clauses.delete = .ok statement) ↔
    clauses.requireTable true = .ok () ∧ (∃ written, Join.fragments clauses.joins = .ok written) ∧
      ∃ conditions, Condition.fragments true clauses.conditions = .ok conditions := by
  constructor
  · rintro ⟨statement, ok⟩
    obtain ⟨front, written, back, shown, -⟩ := delete_framed ok
    obtain ⟨_, accepted, ok⟩ := bind_success ok
    refine ⟨accepted, ⟨written, shown⟩, ?_⟩
    dsimp only at ok
    split at ok
    · obtain ⟨_, -, ok⟩ := bind_success ok
      obtain ⟨conditions, asked, -⟩ := bind_success ok
      exact ⟨conditions, asked⟩
    · obtain ⟨conditions, asked, -⟩ := bind_success ok
      exact ⟨conditions, asked⟩
  · rintro ⟨accepted, ⟨written, shown⟩, conditions, asked⟩
    unfold delete
    simp only [Bind.bind, Except.bind, accepted, shown, asked]
    split <;> exact ⟨_, rfl⟩

end Clauses

end Framing

namespace Rendering

variable {rendering : Rendering} {clauses : Clauses}

theorem framed (joined : rendering.HasJoins) {statement : Fragment}
    (ok : rendering.render clauses = .ok statement) :
    ∃ front written back, Join.fragments clauses.joins = .ok written ∧
      rendering.Frames clauses front back := by
  cases rendering with
  | select columns => exact Clauses.select_framed ok
  | counting columns => exact Clauses.selectCounting_framed ok
  | update data => exact Clauses.update_framed ok
  | delete => exact Clauses.delete_framed ok
  | insert | written => cases joined

/-- Where the form does not depend on the joins, they go in and out of what surrounds them. -/
theorem ok_iff_of_form (joined : rendering.HasJoins)
    (form : ∀ clauses joins, rendering.KeepsForm clauses joins) :
    (∃ statement, rendering.render clauses = .ok statement) ↔
      (∃ plain, rendering.render { clauses with joins := [] } = .ok plain) ∧
        ∃ written, Join.fragments clauses.joins = .ok written := by
  constructor
  · rintro ⟨statement, ok⟩
    obtain ⟨front, written, back, bound, frames⟩ := framed joined ok
    exact ⟨⟨_, frames [] [] (form _ _) rfl⟩, written, bound⟩
  · rintro ⟨⟨plain, ok⟩, written, bound⟩
    obtain ⟨front, _, back, -, frames⟩ := framed joined ok
    have own := frames clauses.joins written (form _ _) bound
    cases clauses
    exact ⟨_, own⟩

/-- A statement can be written exactly if it can without joins and each join can by itself. -/
theorem ok_iff (joined : rendering.HasJoins) :
    (∃ statement, rendering.render clauses = .ok statement) ↔
      (∃ plain, rendering.render { clauses with joins := [] } = .ok plain) ∧
        ∀ join ∈ clauses.joins, ∃ piece, Fragment.bind join.values join.text = .ok piece := by
  rw [← joins_bound_iff]
  cases rendering with
  | select | counting | update => exact ok_iff_of_form joined fun _ _ => nofun
  | delete =>
    have none : ∃ written, Join.fragments [] = .ok written := ⟨[], rfl⟩
    unfold render
    rw [Clauses.delete_ok_iff, Clauses.delete_ok_iff]
    constructor
    · rintro ⟨accepted, shown, asked⟩
      exact ⟨⟨accepted, none, asked⟩, shown⟩
    · rintro ⟨⟨accepted, -, asked⟩, shown⟩
      exact ⟨accepted, shown, asked⟩
  | insert | written => cases joined

end Rendering

section Shown

variable {notes : List JoinNote}

theorem LastJoined.mem {key : String} {base : Join} {added : List Condition}
    (last : LastJoined notes key base added) {condition : Condition} (member : condition ∈ added) :
    .added key condition ∈ notes := by
  obtain ⟨earlier, later, rfl, -, rfl⟩ := last
  obtain ⟨note, among, told⟩ := List.mem_filterMap.mp member
  cases note with
  | joined => cases told
  | added other condition =>
    obtain ⟨rfl, same⟩ := Option.ite_none_right_eq_some.mp told
    cases same
    simp [among]

theorem ClauseCall.built_of_noted {call : ClauseCall} {key : String} {condition : Condition}
    (noted : call.noted? = some (.added key condition)) :
    ∃ connector arguments, Condition.build connector arguments = .ok condition := by
  cases call with
  | restrictJoin connector target arguments =>
    obtain ⟨other, -, noted⟩ := Option.bind_eq_some_iff.mp noted
    obtain ⟨made, built, noted⟩ := Option.bind_eq_some_iff.mp noted
    cases noted
    refine ⟨connector, arguments, ?_⟩
    cases outcome : Condition.build connector arguments with
    | error => simp [outcome, Except.toOption] at built
    | ok => simpa [outcome, Except.toOption] using built
  | join target condition direction =>
    simp [ClauseCall.noted?, Option.bind_eq_some_iff] at noted
  | _ => cases noted

variable (built : ∀ key condition, JoinNote.added key condition ∈ notes →
  ∃ connector arguments, Condition.build connector arguments = .ok condition)
include built

theorem Stands.shown {key : String} {join : Join} {written : Fragment}
    (stands : Stands notes key join)
    (bound : Fragment.bind join.values join.text = .ok written) : JoinShown notes key written := by
  obtain ⟨keyed, base, last, same⟩ := stands
  obtain ⟨target, pieces, shown⟩ :=
    Join.bound_written (fun condition member => built key condition (last.mem member)) bound
  generalize join.conditions = added at last same shown
  subst same
  exact ⟨base, added, target, pieces, last, keyed,
    ⟨shown.target_eq, shown.pieces_eq, shown.text_eq, shown.arguments_eq, shown.bare_iff⟩⟩

theorem JoinsFollow.shown {joins : List Join} {written : List Fragment}
    (follows : JoinsFollow notes joins) (bound : Join.fragments joins = .ok written) :
    List.Forall₂ (JoinShown notes) (joinedKeys notes) written := by
  have each := joins_bound bound
  unfold JoinsFollow at follows
  generalize joinedKeys notes = keys at follows
  clear bound
  induction follows generalizing written with
  | nil =>
    cases each
    exact .nil
  | cons stands _ ih =>
    cases each with
    | cons here later => exact .cons (stands.shown built here) (ih later)

end Shown

/-- After any calls on clauses without joins, a statement that can be written has one join for each
key that was joined, in the order in which the keys were first joined. A condition is refused, and
changes nothing, if its key was never joined or its arguments are refused. -/
theorem joins_by_key (calls : List ClauseCall) {start : Clauses} (none : start.joins = []) :
    let clauses := ClauseCall.applyAll calls start
    let notes := joinLog calls start
    (joinedKeys notes).Nodup ∧
    (∀ rendering : Rendering, rendering.HasJoins →
      ((∃ statement, rendering.render clauses = .ok statement) ↔
        (∃ plain, rendering.render { clauses with joins := [] } = .ok plain) ∧
          ∀ join ∈ clauses.joins, ∃ piece, Fragment.bind join.values join.text = .ok piece) ∧
      ∀ statement, rendering.render clauses = .ok statement →
        ∃ front written back, rendering.Frames clauses front back ∧
          Join.fragments clauses.joins = .ok written ∧
          statement = spaced (front ++ written ++ back) ∧
          List.Forall₂ (JoinShown notes) (joinedKeys notes) written) ∧
    ∀ connector target arguments,
      let added := (ClauseCall.restrictJoin connector target arguments).apply clauses
      ((∀ key ∈ joinedKeys notes, joinKeyOf target ≠ some key) →
        added = (.error (.joinNotFound (shownJoinKey target)), clauses)) ∧
      ∀ key ∈ joinedKeys notes, joinKeyOf target = some key →
        (∀ reason, Condition.build connector arguments = .error reason →
          added = (.error reason, clauses)) ∧
        ∀ condition, Condition.build connector arguments = .ok condition → added.1 = .ok () := by
  intro clauses notes
  have fresh : JoinsFollow [] start.joins := none ▸ .nil
  have follows : JoinsFollow notes clauses.joins := ClauseCall.applyAll_joinsFollow calls fresh
  have built (key : String) (condition : Condition) (member : .added key condition ∈ notes) :
      ∃ connector arguments, Condition.build connector arguments = .ok condition := by
    obtain ⟨call, -, noted⟩ := ClauseCall.mem_joinLog member
    exact ClauseCall.built_of_noted noted
  refine ⟨joinedKeys_nodup notes, ?_, ?_⟩
  · intro rendering joined
    refine ⟨Rendering.ok_iff joined, fun statement ok => ?_⟩
    obtain ⟨front, written, back, bound, framed⟩ := Rendering.framed joined ok
    refine ⟨front, written, back, framed, bound, ?_, follows.shown built bound⟩
    exact Except.ok.inj (ok.symm.trans (framed.here bound))
  · intro connector target arguments
    exact ⟨ClauseCall.restrictJoin_unjoined follows,
      fun key known named => ClauseCall.restrictJoin_joined follows known named⟩

def usersOnly : Clauses :=
  { tables := [.text "Users"] }

def postsJoin (conditions : List Condition) : Join :=
  ⟨.inner, .table "Posts", "", conditions⟩

/-- Posts joined and restricted, and a condition for tags, which nothing was joined as. -/
def postsCalls (connector : Connector) (arguments : List Value) : List ClauseCall :=
  [.join (.text "Posts") (.text "") (.text "inner"),
    .restrictJoin connector (.text "Tags") arguments,
    .restrictJoin connector (.text "Posts") arguments]

section Posts

variable {connector : Connector} {arguments : List Value} {condition : Condition}

theorem inner_known : JoinDirection.ofValue (.text "inner") = .ok .inner := by
  cbv

theorem posts_target : JoinTarget.ofValue (.text "Posts") = .ok (.table "Posts") := by
  have named : Text.isBlankText "Posts" = false := by decide +kernel
  simp only [JoinTarget.ofValue, named]
  rfl

theorem posts_joined :
    (ClauseCall.join (.text "Posts") (.text "") (.text "inner")).apply usersOnly =
      (.ok (), { usersOnly with joins := [postsJoin []] }) := by
  simp only [ClauseCall.apply, Clauses.join, inner_known, posts_target]
  rfl

theorem tags_refused : (ClauseCall.restrictJoin connector (.text "Tags") arguments).apply
    { usersOnly with joins := [postsJoin []] } =
      (.error (.joinNotFound "Tags"), { usersOnly with joins := [postsJoin []] }) := by
  rfl

theorem posts_restricted (built : Condition.build connector arguments = .ok condition) :
    (ClauseCall.restrictJoin connector (.text "Posts") arguments).apply
      { usersOnly with joins := [postsJoin []] } =
        (.ok (), { usersOnly with joins := [postsJoin [condition]] }) := by
  have found : Clauses.findJoin? (.text "Posts") { usersOnly with joins := [postsJoin []] } =
      some (postsJoin []) := by
    rfl
  simp only [ClauseCall.apply, Clauses.restrictJoin, found, built]
  rfl

theorem postsCalls_log (built : Condition.build connector arguments = .ok condition) :
    joinLog (postsCalls connector arguments) usersOnly =
      [.joined "Posts" (postsJoin []), .added "Posts" condition] := by
  have noted : (ClauseCall.join (.text "Posts") (.text "") (.text "inner")).noted? =
      some (.joined "Posts" (postsJoin [])) := by
    simp only [ClauseCall.noted?, inner_known, posts_target]
    rfl
  have added : (ClauseCall.restrictJoin connector (.text "Posts") arguments).noted? =
      some (.added "Posts" condition) := by
    simp only [ClauseCall.noted?, built]
    rfl
  simp only [postsCalls, joinLog, posts_joined, tags_refused, posts_restricted built, noted, added]
  rfl

theorem postsCalls_applied (built : Condition.build connector arguments = .ok condition) :
    ClauseCall.applyAll (postsCalls connector arguments) usersOnly =
      { usersOnly with joins := [postsJoin [condition]] } := by
  simp only [postsCalls, ClauseCall.applyAll, List.foldl_cons, List.foldl_nil, posts_joined,
    tags_refused, posts_restricted built]

theorem postsCalls_select (built : Condition.build connector arguments = .ok condition)
    {written : Fragment}
    (bound : Fragment.bind (postsJoin [condition]).values (postsJoin [condition]).text =
      .ok written) :
    (ClauseCall.applyAll (postsCalls connector arguments) usersOnly).select [] =
      .ok (spaced [plain "SELECT", plain "*", plain "FROM Users", written]) := by
  have table : ({ usersOnly with joins := [postsJoin [condition]] }).requireTable false =
      .ok () := by
    cbv
  have joins : Join.fragments [postsJoin [condition]] = .ok [written] := by
    rw [Join.fragments, bound]
    rfl
  rw [postsCalls_applied built, Clauses.select, Clauses.selectWith, table, Clauses.sources]
  simp only [usersOnly, joins]
  exact congrArg Except.ok
    (Clauses.assembleSelect_framed [] (plain "*") [plain "FROM Users", written] (by simp) [])

end Posts

theorem seenCalls_shown :
    let calls := postsCalls .either [.text "Seen", .integer 1]
    usersOnly.joins = [] ∧
    ∃ front written back,
      (Rendering.select []).Frames (ClauseCall.applyAll calls usersOnly) front back ∧
      spaced (front ++ written ++ back) =
        ⟨"SELECT * FROM Users INNER JOIN Posts ON (Seen = ?)", [.integer 1]⟩ ∧
      List.Forall₂ (JoinShown (joinLog calls usersOnly)) ["Posts"] written := by
  intro calls
  have none : usersOnly.joins = [] := rfl
  have named : Text.isBlankText "Seen" = false := by decide +kernel
  have bare : Placeholder.count "Seen" = 0 := by decide +kernel
  have built : Condition.build .either [.text "Seen", .integer 1] =
      .ok ⟨.either, .comparison "Seen" "=" (.literal (.integer 1))⟩ := by
    rw [Condition.build, ConditionBody.build_named named, ConditionBody.columnOf_lone bare]
    rfl
  have ok : (ClauseCall.applyAll calls usersOnly).select [] =
      .ok ⟨"SELECT * FROM Users INNER JOIN Posts ON (Seen = ?)", [.integer 1]⟩ :=
    postsCalls_select built rfl
  have keys : joinedKeys (joinLog calls usersOnly) = ["Posts"] := by
    rw [postsCalls_log built]
    rfl
  obtain ⟨front, written, back, framed, -, same, each⟩ :=
    ((joins_by_key calls none).2.1 (.select []) trivial).2 _ ok
  exact ⟨none, front, written, back, framed, same.symm, keys ▸ each⟩

/-- A condition that writes nothing leaves no trace of itself, though it has a value. -/
theorem emptyPattern_unseen :
    let calls := postsCalls .both [.text "At", .expression (.patterned "" (.integer 2017))]
    (∃ condition, LastJoined (joinLog calls usersOnly) "Posts" (postsJoin []) [condition]) ∧
    (ClauseCall.applyAll calls usersOnly).select [] =
      .ok ⟨"SELECT * FROM Users INNER JOIN Posts", [.integer 2017]⟩ := by
  intro calls
  have named : Text.isBlankText "At" = false := by decide +kernel
  have bare : Placeholder.count "At" = 0 := by decide +kernel
  have built : Condition.build .both [.text "At", .expression (.patterned "" (.integer 2017))] =
      .ok ⟨.both, .comparison "At" "=" (.patterned "" (.integer 2017))⟩ := by
    rw [Condition.build, ConditionBody.build_named named, ConditionBody.columnOf_lone bare]
    rfl
  refine ⟨⟨⟨.both, .comparison "At" "=" (.patterned "" (.integer 2017))⟩, ?_⟩,
    postsCalls_select built rfl⟩
  rw [postsCalls_log built]
  exact ⟨[], [.added "Posts" _], rfl, by simp [JoinNote.joinedKey?], rfl⟩

end Querywright
