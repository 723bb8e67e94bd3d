import Mathlib.Logic.Relation
import Querywright.Proofs.ResolvedPaths

/-! Where a column is looked for. Record types refer to one another, and to themselves, by the types
of their fields. The search for a column comes to an end on all of them, finds a field whenever one
that answers to the column can be reached, and its path leads to such a field. -/
namespace Querywright

/-- A column stands for a field by its alias, by the name it is read under, or by its own name. -/
def FieldRule.Answers (column : String) (rule : FieldRule) : Prop :=
  rule.otherName = some column ∨ rule.readingAlias = some (.name column) ∨ rule.name = column

theorem FieldRule.matchesAlias_iff (column : String) (rule : FieldRule) :
    rule.matchesAlias column = true ↔
      rule.otherName = some column ∨ rule.readingAlias = some (.name column) := by
  unfold matchesAlias
  rw [Bool.or_eq_true, beq_iff_eq, beq_iff_eq]

theorem FieldRule.answers_iff (column : String) (rule : FieldRule) :
    rule.Answers column ↔ rule.matchesAlias column = true ∨ rule.name = column := by
  rw [matchesAlias_iff, or_assoc]
  rfl

theorem RecordType.ownField?_eq_none_iff (type : RecordType) (column : String) :
    type.ownField? column = none ↔ ∀ rule ∈ type.openFields, ¬rule.Answers column := by
  unfold ownField?
  rw [Option.or_eq_none_iff, List.find?_eq_none, List.find?_eq_none]
  constructor
  · rintro ⟨unaliased, unnamed⟩ rule member answers
    obtain aliased | named := (rule.answers_iff column).mp answers
    · exact unaliased rule member aliased
    · exact unnamed rule member (beq_iff_eq.mpr named)
  · intro silent
    exact ⟨fun rule member aliased => silent rule member ((rule.answers_iff _).mpr (.inl aliased)),
      fun rule member named =>
        silent rule member ((rule.answers_iff _).mpr (.inr (beq_iff_eq.mp named)))⟩

theorem RecordType.ownField?_answers {type : RecordType} {column : String} {rule : FieldRule}
    (own : type.ownField? column = some rule) : rule.Answers column := by
  rw [FieldRule.answers_iff]
  obtain aliased | ⟨-, named⟩ := Option.or_eq_some_iff.mp own
  · exact .inl (List.find?_some aliased)
  · have same := List.find?_some named
    exact .inr (beq_iff_eq.mp same)

theorem RecordType.ownField?_prefers_alias {type : RecordType} {column : String} {rule : FieldRule}
    (own : type.ownField? column = some rule) {other : FieldRule} (member : other ∈ type.openFields)
    (aliased : other.matchesAlias column = true) : rule.matchesAlias column = true := by
  obtain found | ⟨unaliased, -⟩ := Option.or_eq_some_iff.mp own
  · exact List.find?_some found
  · exact absurd aliased (List.find?_eq_none.mp unaliased other member)

namespace Schema

variable {schema : Schema} {name column : String} {seen : List String} {type : RecordType}

/-! Coming to an end. -/

/-- The search in one record type asks for the search in another: the types left on the way are
written behind each name. -/
def AsksFor (schema : Schema) (column : String) (next state : String × List String) : Prop :=
  ∃ type, schema.find? state.1 = some type ∧ type.ownField? column = none ∧
    ∃ rule ∈ type.openFields, rule.type.record? = some next.1 ∧ next.1 ∉ state.2 ∧
      next.2 = state.1 :: state.2

/-- No search asks for others without end. -/
theorem asksFor_wellFounded (schema : Schema) (column : String) :
    WellFounded (schema.AsksFor column) := by
  refine Subrelation.wf (fun {next state} asks => ?_)
    (measure fun state : String × List String => schema.remaining state.1 state.2).wf
  obtain ⟨type, known, -, rule, -, -, fresh, left⟩ := asks
  change schema.remaining next.1 next.2 < schema.remaining state.1 state.2
  rw [left]
  exact remaining_lt known (Bool.eq_false_iff.mpr fun visited =>
    fresh (List.contains_iff_mem.mp visited))

/-! What can be reached. -/

/-- An open field of one record type has the other as its type, absent values left aside. -/
def Nests (schema : Schema) (outer inner : String) : Prop :=
  ∃ type, schema.find? outer = some type ∧
    ∃ rule ∈ type.openFields, rule.type.record? = some inner

/-- Nesting that goes on in a record type not yet left. -/
def NestsOutside (schema : Schema) (seen : List String) (outer inner : String) : Prop :=
  schema.Nests outer inner ∧ inner ∉ seen

/-- Whatever is reached is reached on a way that does not come back to where it begins. -/
theorem reached_outside {other : String}
    (reached : Relation.ReflTransGen (schema.NestsOutside seen) name other) :
    other = name ∨ ∃ next, schema.NestsOutside (name :: seen) name next ∧
      Relation.ReflTransGen (schema.NestsOutside (name :: seen)) next other := by
  induction reached with
  | refl => exact .inl rfl
  | @tail middle last _ step ih =>
    by_cases back : last = name
    · exact .inl back
    · have outside : last ∉ name :: seen := fun member =>
        (List.mem_cons.mp member).elim back step.2
      obtain rfl | ⟨next, first, rest⟩ := ih
      · exact .inr ⟨last, ⟨step.1, outside⟩, .refl⟩
      · exact .inr ⟨next, first, rest.tail ⟨step.1, outside⟩⟩

/-- A search that finds nothing has looked at all that is reached without coming to a record type
left before. -/
theorem silent_of_findPath_eq_none (nothing : schema.findPath name column seen = none)
    {other : String} (reached : Relation.ReflTransGen (schema.NestsOutside seen) name other)
    {type : RecordType} (known : schema.find? other = some type) :
    ∀ rule ∈ type.openFields, ¬rule.Answers column := by
  induction name, seen using findPath.induct schema column with
  | case1 name seen unknown =>
    obtain rfl | ⟨next, ⟨⟨type', known', -⟩, -⟩, -⟩ := reached_outside reached
    · rw [unknown] at known
      cases known
    · rw [unknown] at known'
      cases known'
  | case2 name seen type' known' rule own =>
    rw [findPath_own known' own] at nothing
    cases nothing
  | case3 name seen type' known' foreign ih =>
    obtain rfl | ⟨next, ⟨⟨outer, known'', rule, member, nested⟩, fresh⟩, rest⟩ :=
      reached_outside reached
    · rw [known] at known'
      cases known'
      exact (type.ownField?_eq_none_iff column).mp foreign
    · rw [known'] at known''
      cases known''
      rw [findPath_inner known' foreign, List.findSome?_eq_none_iff] at nothing
      have unvisited : next ∉ seen := fun member => fresh (List.mem_cons_of_mem _ member)
      refine ih next (Bool.eq_false_iff.mpr fun visited =>
        unvisited (List.contains_iff_mem.mp visited)) ?_ rest
      cases found : schema.findPath next column (name :: seen) with
      | none => rfl
      | some below =>
        have through := pathThrough_eq_some_iff.mpr ⟨next, below, nested, unvisited, found, rfl⟩
        rw [nothing rule member] at through
        cases through

/-! What a path says. -/

/-- A path goes from a record type through open fields, each of the record type that comes next,
and ends at an open field. The record types passed are listed, and the last field is named. -/
inductive Route (schema : Schema) : String → Path → List String → FieldRule → Prop where
  | last {name : String} {type : RecordType} {rule : FieldRule}
      (known : schema.find? name = some type) (member : rule ∈ type.openFields) :
      Route schema name [(rule.name, rule.inputKey)] [name] rule
  | inside {name inner : String} {type : RecordType} {rule : FieldRule} {below : Path}
      {passed : List String} {last : FieldRule} (known : schema.find? name = some type)
      (member : rule ∈ type.openFields) (nested : rule.type.record? = some inner)
      (onwards : Route schema inner below passed last) :
      Route schema name ((rule.name, rule.inputKey) :: below) (name :: passed) last

theorem Route.reached {path : Path} {passed : List String} {last : FieldRule}
    (route : schema.Route name path passed last) :
    ∃ other type, Relation.ReflTransGen schema.Nests name other ∧
      schema.find? other = some type ∧ last ∈ type.openFields := by
  induction route with
  | @last name type rule known member => exact ⟨name, type, .refl, known, member⟩
  | @inside name inner type rule _ _ _ known member nested _ ih =>
    obtain ⟨other, type', reached, rest⟩ := ih
    exact ⟨other, type', .head ⟨type, known, rule, member, nested⟩ reached, rest⟩

/-- How a search comes to its path, with the record types passed and the last field: the record type
has the field itself, or the search goes on through the first open field that leads to the column,
in a record type that was not left before. -/
inductive Found (schema : Schema) (column : String) :
    String → List String → Path → List String → FieldRule → Prop where
  | own {name : String} {seen : List String} {type : RecordType} {rule : FieldRule}
      (known : schema.find? name = some type) (own : type.ownField? column = some rule) :
      Found schema column name seen [(rule.name, rule.inputKey)] [name] rule
  | onwards {name inner : String} {seen : List String} {type : RecordType} {rule : FieldRule}
      {before after : List FieldRule} {below : Path} {passed : List String} {last : FieldRule}
      (known : schema.find? name = some type) (foreign : type.ownField? column = none)
      (split : type.openFields = before ++ rule :: after)
      (missed : ∀ earlier ∈ before, schema.pathThrough column name seen earlier = none)
      (nested : rule.type.record? = some inner) (fresh : inner ∉ seen)
      (further : Found schema column inner (name :: seen) below passed last) :
      Found schema column name seen ((rule.name, rule.inputKey) :: below) (name :: passed) last

theorem found_of_findPath {path : Path} (some' : schema.findPath name column seen = some path) :
    ∃ passed last, schema.Found column name seen path passed last := by
  induction name, seen using findPath.induct schema column generalizing path with
  | case1 name seen unknown =>
    rw [findPath_unknown unknown] at some'
    cases some'
  | case2 name seen type known rule own =>
    rw [findPath_own known own] at some'
    cases some'
    exact ⟨[name], rule, .own known own⟩
  | case3 name seen type known foreign ih =>
    rw [findPath_inner known foreign] at some'
    obtain ⟨before, rule, after, split, through, missed⟩ := List.findSome?_eq_some_iff.mp some'
    obtain ⟨inner, below, nested, fresh, reached, rfl⟩ := pathThrough_eq_some_iff.mp through
    obtain ⟨passed, last, further⟩ := ih inner
      (Bool.eq_false_iff.mpr fun visited => fresh (List.contains_iff_mem.mp visited)) reached
    exact ⟨name :: passed, last, .onwards known foreign split missed nested fresh further⟩

theorem Found.route {path : Path} {passed : List String} {last : FieldRule}
    (found : schema.Found column name seen path passed last) :
    schema.Route name path passed last := by
  induction found with
  | own known own => exact .last known (mem_of_ownField? own)
  | @onwards _ _ _ _ rule before after _ _ _ known _ split _ nested _ _ ih =>
    have member : rule ∈ before ++ rule :: after := List.mem_append_right _ List.mem_cons_self
    rw [← split] at member
    exact .inside known member nested ih

theorem Found.answers {path : Path} {passed : List String} {last : FieldRule}
    (found : schema.Found column name seen path passed last) : last.Answers column := by
  induction found with
  | own _ own => exact RecordType.ownField?_answers own
  | onwards _ _ _ _ _ _ _ ih => exact ih

/-- The search for a column comes to an end from every record type, whatever refers to what. It
finds nothing exactly when no open field that can be reached answers to the column; a path that is
found leads through open fields to one that does; and a field of the record type itself comes
first, by an alias before by its name. -/
theorem column_search_complete (schema : Schema) (root column : String) :
    WellFounded (schema.AsksFor column) ∧
    (schema.findPath root column [] = none ↔
      ∀ name type, Relation.ReflTransGen schema.Nests root name → schema.find? name = some type →
        ∀ rule ∈ type.openFields, ¬rule.Answers column) ∧
    (∀ path, schema.findPath root column [] = some path →
      ∃ passed last, schema.Route root path passed last ∧ last.Answers column) ∧
    ∀ type, schema.find? root = some type → (∃ rule ∈ type.openFields, rule.Answers column) →
      ∃ rule ∈ type.openFields, rule.Answers column ∧
        schema.findPath root column [] = some [(rule.name, rule.inputKey)] ∧
        ((∃ other ∈ type.openFields, other.matchesAlias column = true) →
          rule.matchesAlias column = true) := by
  refine ⟨asksFor_wellFounded schema column, ⟨fun nothing name type reached known => ?_,
    fun silent => ?_⟩, fun path found => ?_, fun type known answering => ?_⟩
  · refine silent_of_findPath_eq_none nothing (Relation.ReflTransGen.mono ?_ _ _ reached) known
    exact fun _ _ step => ⟨step, List.not_mem_nil⟩
  · cases found : schema.findPath root column [] with
    | none => rfl
    | some path =>
      obtain ⟨passed, last, course⟩ := found_of_findPath found
      obtain ⟨other, type, reached, known, member⟩ := course.route.reached
      exact absurd course.answers (silent other type reached known last member)
  · obtain ⟨passed, last, course⟩ := found_of_findPath found
    exact ⟨passed, last, course.route, course.answers⟩
  · cases own : type.ownField? column with
    | none =>
      obtain ⟨rule, member, answers⟩ := answering
      exact absurd answers ((type.ownField?_eq_none_iff column).mp own rule member)
    | some rule =>
      exact ⟨rule, mem_of_ownField? own, RecordType.ownField?_answers own, findPath_own known own,
        fun ⟨_, member, aliased⟩ => RecordType.ownField?_prefers_alias own member aliased⟩

end Schema
end Querywright
