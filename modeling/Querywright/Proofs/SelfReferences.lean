import Mathlib.Data.List.Basic
import Querywright.Proofs.ColumnSearch

/-! Record types that a path passes twice. The search notes a record type as left only when it goes
on from the next one, so it may go from a record type straight into the same one again, through a
field of that very type. It does so just where such a field stands in front of the one through which
the column is reached. -/
namespace Querywright

/-- Among the open fields, one of the record type itself stands in front of the given one. -/
def RecordType.HasOwnBefore (type : RecordType) (rule : FieldRule) : Prop :=
  ∃ before after, type.openFields = before ++ rule :: after ∧
    ∃ own ∈ before, own.type.record? = some type.name

theorem RecordType.HasOwnBefore.mem {type : RecordType} {rule : FieldRule}
    (behind : type.HasOwnBefore rule) : rule ∈ type.openFields := by
  obtain ⟨before, after, split, -⟩ := behind
  rw [split]
  exact List.mem_append_right _ List.mem_cons_self

theorem RecordType.NamesOnce.openFields_nodup {type : RecordType} (once : type.NamesOnce) :
    type.openFields.Nodup :=
  (List.Nodup.of_map _ once).filter _

namespace Schema

variable {schema : Schema} {name column : String} {seen : List String} {type : RecordType}
  {path : Path} {passed : List String} {last : FieldRule}

/-- On its way a path leaves a record type for another one through a field that stands behind a
field of the record type itself. -/
inductive LeavesBehindOwn (schema : Schema) : String → Path → Prop where
  | here {name inner : String} {type : RecordType} {rule : FieldRule} {below : Path}
      (known : schema.find? name = some type) (nested : rule.type.record? = some inner)
      (other : inner ≠ name) (behind : type.HasOwnBefore rule) (onwards : below ≠ []) :
      LeavesBehindOwn schema name ((rule.name, rule.inputKey) :: below)
  | later {name inner : String} {type : RecordType} {rule : FieldRule} {below : Path}
      (known : schema.find? name = some type) (member : rule ∈ type.openFields)
      (nested : rule.type.record? = some inner) (onwards : LeavesBehindOwn schema inner below) :
      LeavesBehindOwn schema name ((rule.name, rule.inputKey) :: below)

theorem LeavesBehindOwn.long (leaves : schema.LeavesBehindOwn name path) : 2 ≤ path.length := by
  induction leaves with
  | here _ _ _ _ onwards => exact Nat.succ_le_succ (List.length_pos_of_ne_nil onwards)
  | later _ _ _ _ ih => exact Nat.le_succ_of_le ih

/-- Which record types are seen matters, and not in which order or how often. -/
theorem findPath_congr {others : List String} (same : ∀ name, name ∈ seen ↔ name ∈ others) :
    schema.findPath name column seen = schema.findPath name column others := by
  induction name, seen using findPath.induct schema column generalizing others with
  | case1 name seen unknown => rw [findPath_unknown unknown, findPath_unknown unknown]
  | case2 name seen type known rule own => rw [findPath_own known own, findPath_own known own]
  | case3 name seen type known foreign ih =>
    rw [findPath_inner known foreign, findPath_inner known foreign]
    refine congrArg (List.findSome? · _) (funext fun rule => ?_)
    unfold pathThrough
    refine congrArg (Option.bind _) (funext fun inner => ?_)
    have visited : seen.contains inner = others.contains inner :=
      Bool.eq_iff_iff.mpr (by rw [List.contains_iff_mem, List.contains_iff_mem, same])
    rw [visited]
    split
    · rfl
    · rename_i fresh
      have grown (other : String) : other ∈ name :: seen ↔ other ∈ name :: others := by
        rw [List.mem_cons, List.mem_cons, same]
      rw [ih inner (by rw [visited]; exact Bool.eq_false_iff.mpr fresh) grown]

/-- A field that leads to the column when its record type is looked at once more leads to it at
once. -/
theorem pathThrough_again {rule : FieldRule}
    (through : schema.pathThrough column name (name :: seen) rule = some path) :
    schema.pathThrough column name seen rule = some path := by
  obtain ⟨inner, below, nested, fresh, reached, rfl⟩ := pathThrough_eq_some_iff.mp through
  refine pathThrough_eq_some_iff.mpr ⟨inner, below, nested,
    fun member => fresh (List.mem_cons_of_mem _ member), ?_, rfl⟩
  rw [← reached]
  exact findPath_congr fun other => by simp

/-- A field that leads to the column through another record type does so too when its own is looked
at once more. -/
theorem pathThrough_anew {rule : FieldRule} {inner : String}
    (nested : rule.type.record? = some inner) (other : inner ≠ name)
    (through : schema.pathThrough column name seen rule = some path) :
    schema.pathThrough column name (name :: seen) rule = some path := by
  obtain ⟨inner', below, nested', fresh, reached, rfl⟩ := pathThrough_eq_some_iff.mp through
  obtain rfl := Option.some.inj (nested.symm.trans nested')
  refine pathThrough_eq_some_iff.mpr ⟨inner, below, nested,
    fun member => (List.mem_cons.mp member).elim other fresh, ?_, rfl⟩
  rw [← reached]
  exact findPath_congr fun other => by simp

theorem Found.full (found : schema.Found column name seen path passed last) : path ≠ [] := by
  cases found <;> exact List.cons_ne_nil _ _

theorem Found.findPath (found : schema.Found column name seen path passed last) :
    schema.findPath name column seen = some path := by
  induction found with
  | own known own => exact findPath_own known own
  | onwards known foreign split missed nested fresh _ ih =>
    rw [findPath_inner known foreign]
    exact List.findSome?_eq_some_iff.mpr ⟨_, _, _, split,
      pathThrough_eq_some_iff.mpr ⟨_, _, nested, fresh, ih, rfl⟩, missed⟩

section Own

variable (known : schema.find? name = some type) {before after : List FieldRule}
  {rule : FieldRule} (split : type.openFields = before ++ rule :: after)
  (missed : ∀ earlier ∈ before, schema.pathThrough column name seen earlier = none)

include known split missed

/-- When the search goes through a field of the record type itself, that field stands in front of
the one through which it goes on. -/
theorem own_before_next (own : rule.type.record? = some name) {next : FieldRule} {inner : String}
    (member : next ∈ type.openFields) (nested : next.type.record? = some inner)
    (other : inner ≠ name)
    (through : schema.pathThrough column name (name :: seen) next = some path) :
    type.HasOwnBefore next := by
  rw [split] at member
  obtain early | late := List.mem_append.mp member
  · have found := pathThrough_again through
    rw [missed next early] at found
    cases found
  · obtain rfl | later := List.mem_cons.mp late
    · exact absurd (Option.some.inj (nested.symm.trans own)) other
    · obtain ⟨between, behind, rfl⟩ := List.append_of_mem later
      refine ⟨before ++ rule :: between, behind, ?_, rule, by simp, ?_⟩
      · rw [split, List.append_assoc, List.cons_append]
      · rw [(mem_of_find? known).2]
        exact own

/-- When the search goes on to another record type, no field of the record type itself stands in
front: the search would have gone through that one. -/
theorem no_own_before (once : type.NamesOnce) (foreign : type.ownField? column = none)
    (fresh : name ∉ seen) {inner : String} (nested : rule.type.record? = some inner)
    (other : inner ≠ name) (through : schema.pathThrough column name seen rule = some path) :
    ¬type.HasOwnBefore rule := by
  rintro ⟨front, behind, ordered, own, early, itself⟩
  rw [(mem_of_find? known).2] at itself
  have distinct := once.openFields_nodup
  rw [split, List.nodup_middle, List.nodup_cons, List.mem_append, not_or] at distinct
  obtain ⟨⟨notBefore, notAfter⟩, -⟩ := distinct
  rw [split] at ordered
  obtain ⟨rfl, -, rfl⟩ :=
    (List.append_cons_inj_of_notMem notBefore notAfter).mp ordered
  have member : rule ∈ type.openFields := by
    rw [split]
    exact List.mem_append_right _ List.mem_cons_self
  cases again : schema.findPath name column (name :: seen) with
  | none =>
    rw [findPath_inner known foreign, List.findSome?_eq_none_iff] at again
    have anew := pathThrough_anew nested other through
    rw [again rule member] at anew
    cases anew
  | some below =>
    have found := pathThrough_eq_some_iff.mpr ⟨name, below, itself, fresh, again, rfl⟩
    rw [missed own early] at found
    cases found

end Own

/-- Behind the record type where it begins, a search comes to none that was left before. -/
theorem Found.fresh (found : schema.Found column name seen path passed last) :
    ∃ further, passed = name :: further ∧ ∀ other ∈ further, other ∉ seen := by
  induction found with
  | own => exact ⟨[], rfl, fun _ member => absurd member List.not_mem_nil⟩
  | @onwards _ inner _ _ _ _ _ _ _ _ _ _ _ _ _ fresh _ ih =>
    obtain ⟨further, rfl, outside⟩ := ih
    refine ⟨inner :: further, rfl, fun other member => ?_⟩
    obtain rfl | later := List.mem_cons.mp member
    · exact fresh
    · exact fun left => outside other later (List.mem_cons_of_mem _ left)

/-- The field at the end can be reached without coming to a record type twice: where the search
went into the same record type again, that step is left out. -/
theorem Found.direct (found : schema.Found column name seen path passed last) :
    ∃ direct further, schema.Route name direct (name :: further) last ∧
      (name :: further).Nodup ∧ ∀ other ∈ further, other ∉ seen := by
  induction found with
  | own known own =>
    exact ⟨_, [], .last known (mem_of_ownField? own), List.nodup_singleton _,
      fun _ member => absurd member List.not_mem_nil⟩
  | @onwards name inner seen type rule before after _ _ _ known _ split _ nested fresh _ ih =>
    obtain ⟨direct, further, route, distinct, outside⟩ := ih
    have elsewhere : ∀ other ∈ further, other ≠ name ∧ other ∉ seen := fun other member =>
      not_or.mp fun left => outside other member (List.mem_cons.mpr left)
    by_cases again : inner = name
    · subst again
      exact ⟨direct, further, route, distinct, fun other member => (elsewhere other member).2⟩
    · have member : rule ∈ before ++ rule :: after := List.mem_append_right _ List.mem_cons_self
      rw [← split] at member
      refine ⟨_, inner :: further, .inside known member nested route,
        List.nodup_cons.mpr ⟨fun back => ?_, distinct⟩, fun other member => ?_⟩
      · obtain same | later := List.mem_cons.mp back
        · exact again same.symm
        · exact (elsewhere name later).1 rfl
      · obtain rfl | later := List.mem_cons.mp member
        · exact fresh
        · exact (elsewhere other later).2

section Once

variable (once : ∀ type ∈ schema, type.NamesOnce)

include once

/-- Open fields of one record type and of one name are the same field. -/
theorem rule_of_name (known : schema.find? name = some type) {rule other : FieldRule}
    (member : rule ∈ type.openFields) (present : other ∈ type.openFields)
    (same : other.name = rule.name) : other = rule :=
  RecordType.rule_unique (once type (mem_of_find? known).1)
    (RecordType.fields_of_openFields present) (RecordType.fields_of_openFields member) same

/-- A path is the path of one route. -/
theorem Route.unique {others : List String} {rule : FieldRule}
    (route : schema.Route name path passed last) (other : schema.Route name path others rule) :
    others = passed ∧ rule = last := by
  induction route generalizing others rule with
  | @last name type last known member =>
    generalize start : [(last.name, last.inputKey)] = path at other
    cases other with
    | last known' present =>
      rw [known] at known'
      cases known'
      exact ⟨rfl, rule_of_name once known member present
        (Prod.mk.inj (List.cons.inj start).1).1.symm⟩
    | inside _ _ _ onwards =>
      obtain ⟨-, rfl⟩ := List.cons.inj start
      cases onwards
  | @inside name inner type step below passed last known member nested onwards ih =>
    generalize start : (step.name, step.inputKey) :: below = path at other
    cases other with
    | last =>
      obtain ⟨-, rfl⟩ := List.cons.inj start
      cases onwards
    | inside known' present nested' onwards =>
      obtain ⟨same, rfl⟩ := List.cons.inj start
      rw [known] at known'
      cases known'
      obtain rfl := rule_of_name once known member present (Prod.mk.inj same).1.symm
      obtain rfl := Option.some.inj (nested.symm.trans nested')
      obtain ⟨rfl, rfl⟩ := ih onwards
      exact ⟨rfl, rfl⟩

theorem leavesBehindOwn_iff {rule : FieldRule} {inner : String} {below : Path}
    (known : schema.find? name = some type) (member : rule ∈ type.openFields)
    (nested : rule.type.record? = some inner) (full : below ≠ []) :
    schema.LeavesBehindOwn name ((rule.name, rule.inputKey) :: below) ↔
      (inner ≠ name ∧ type.HasOwnBefore rule) ∨ schema.LeavesBehindOwn inner below := by
  constructor
  · intro leaves
    generalize start : (rule.name, rule.inputKey) :: below = path at leaves
    cases leaves with
    | here known' nested' apart behind =>
      obtain ⟨same, rfl⟩ := List.cons.inj start
      rw [known] at known'
      cases known'
      obtain rfl := rule_of_name once known member behind.mem (Prod.mk.inj same).1.symm
      obtain rfl := Option.some.inj (nested.symm.trans nested')
      exact .inl ⟨apart, behind⟩
    | later known' present nested' onwards =>
      obtain ⟨same, rfl⟩ := List.cons.inj start
      rw [known] at known'
      cases known'
      obtain rfl := rule_of_name once known member present (Prod.mk.inj same).1.symm
      obtain rfl := Option.some.inj (nested.symm.trans nested')
      exact .inr onwards
  · rintro (⟨apart, behind⟩ | onwards)
    · exact .here known nested apart behind full
    · exact .later known member nested onwards

/-- From a record type not left before, the search passes record types that are distinct unless it
leaves one of them behind a field of that very type. -/
theorem Found.distinct_iff (found : schema.Found column name seen path passed last)
    (fresh : name ∉ seen) : passed.Nodup ↔ ¬schema.LeavesBehindOwn name path := by
  induction found with
  | own =>
    exact ⟨fun _ leaves => absurd leaves.long (by simp), fun _ => List.nodup_singleton _⟩
  | @onwards name inner seen type rule before after below passed _ known foreign split missed nested
      outside found ih =>
    have member : rule ∈ before ++ rule :: after := List.mem_append_right _ List.mem_cons_self
    rw [← split] at member
    rw [leavesBehindOwn_iff once known member nested found.full]
    obtain ⟨further, rfl, unseen⟩ := found.fresh
    by_cases again : inner = name
    -- The same type once more: what leads on from there was tried from here, behind the self-reference.
    · subst again
      refine ⟨fun distinct => absurd List.mem_cons_self (List.nodup_cons.mp distinct).1,
        fun direct => absurd (.inr ?_) direct⟩
      cases found with
      | own known' own =>
        rw [known] at known'
        cases known'
        rw [foreign] at own
        cases own
      | @onwards _ next _ _ step front behind _ _ _ known' _ split' _ nested' outside' found =>
        rw [known] at known'
        cases known'
        have present : step ∈ front ++ step :: behind :=
          List.mem_append_right _ List.mem_cons_self
        rw [← split'] at present
        have other : next ≠ inner := fun same => outside' (same ▸ List.mem_cons_self)
        refine .here known nested' other ?_ found.full
        exact own_before_next known split missed nested present nested' other
          (pathThrough_eq_some_iff.mpr ⟨next, _, nested', outside', found.findPath, rfl⟩)
    -- Another type: a self-reference in front of the field would have led to the column already.
    · have through : schema.pathThrough column name seen rule =
          some ((rule.name, rule.inputKey) :: below) :=
        pathThrough_eq_some_iff.mpr ⟨inner, below, nested, outside, found.findPath, rfl⟩
      have first := no_own_before known split missed (once type (mem_of_find? known).1) foreign
        fresh nested again through
      have apart : name ∉ inner :: further := fun back =>
        (List.mem_cons.mp back).elim (fun same => again same.symm)
          fun later => unseen name later List.mem_cons_self
      rw [List.nodup_cons, ih fun left => (List.mem_cons.mp left).elim again outside]
      tauto

end Once

end Schema

/-- The record types that the path of a column passes are distinct unless it leaves one of them
through a field behind one of that very type; and the field at its end can always be reached without
coming to a record type twice. -/
theorem passed_types_distinct_iff (schema : Schema) (once : ∀ type ∈ schema, type.NamesOnce)
    (root column : String) (path : Path) (found : schema.findPath root column [] = some path)
    (passed : List String) (last : FieldRule) (route : schema.Route root path passed last) :
    (passed.Nodup ↔ ¬schema.LeavesBehindOwn root path) ∧
      ∃ direct others, schema.Route root direct others last ∧ others.Nodup := by
  obtain ⟨passed', last', course⟩ := Schema.found_of_findPath found
  obtain ⟨rfl, rfl⟩ := course.route.unique once route
  obtain ⟨direct, further, straight, distinct, -⟩ := course.direct
  exact ⟨course.distinct_iff once List.not_mem_nil, direct, _, straight, distinct⟩

def townRule : FieldRule :=
  { name := "town", type := .text }

def seatRule : FieldRule :=
  { name := "seat", type := .record "Seat" }

def employerRule : FieldRule :=
  { name := "employer", type := .record "Company" }

def bossRule : FieldRule :=
  { name := "boss", type := .optional (.record "Person"), fallback := some .null }

def headRule : FieldRule :=
  { name := "head", type := .optional (.record "Person"), fallback := some .null }

def seatType : RecordType :=
  { name := "Seat", fields := [townRule] }

def companyType : RecordType :=
  { name := "Company", fields := [headRule, seatRule] }

/-- People with employers, whose heads are people, too. A person's boss comes last. -/
def people : Schema :=
  [{ name := "Person", fields := [employerRule, bossRule] }, companyType, seatType]

def townPath : Path :=
  [("employer", "employer"), ("seat", "seat"), ("town", "town")]

theorem townPath_route :
    people.Route "Person" townPath ["Person", "Company", "Seat"] townRule := by
  have atSeat : people.Route "Seat" [("town", "town")] ["Seat"] townRule :=
    @Schema.Route.last people "Seat" seatType townRule rfl List.mem_cons_self
  have atCompany : people.Route "Company" (("seat", "seat") :: [("town", "town")])
      ("Company" :: ["Seat"]) townRule :=
    @Schema.Route.inside _ _ _ companyType seatRule _ _ _ rfl
      (List.mem_cons_of_mem _ List.mem_cons_self) rfl atSeat
  exact @Schema.Route.inside _ _ _ _ employerRule _ _ _ rfl List.mem_cons_self rfl atCompany

theorem townPath_distinct :
    people.findPath "Person" "town" [] = some townPath ∧
      ¬people.LeavesBehindOwn "Person" townPath ∧ ["Person", "Company", "Seat"].Nodup := by
  have found : people.findPath "Person" "town" [] = some townPath := by decide +kernel
  have distinct := passed_types_distinct_iff people (by decide) "Person" "town" townPath found
    _ _ townPath_route
  exact ⟨found, distinct.1.mp (by decide), by decide⟩

def ownerRule : FieldRule :=
  { name := "owner", type := .optional (.record "Company"), fallback := some .null }

/-- Companies that may belong to another company. -/
def companies : Schema :=
  [{ name := "Company", fields := [ownerRule, seatRule] }, seatType]

/-- The town of a company is looked for with its owner, although the company has a seat itself. -/
theorem owner_passed :
    companies.findPath "Company" "town" [] =
        some [("owner", "owner"), ("seat", "seat"), ("town", "town")] ∧
      companies.Route "Company" [("owner", "owner"), ("seat", "seat"), ("town", "town")]
        ["Company", "Company", "Seat"] townRule ∧
      ¬["Company", "Company", "Seat"].Nodup ∧
      companies.Route "Company" [("seat", "seat"), ("town", "town")] ["Company", "Seat"]
        townRule := by
  have atSeat : companies.Route "Seat" [("town", "town")] ["Seat"] townRule :=
    @Schema.Route.last companies "Seat" seatType townRule rfl List.mem_cons_self
  have direct : companies.Route "Company" (("seat", "seat") :: [("town", "town")])
      ("Company" :: ["Seat"]) townRule :=
    @Schema.Route.inside _ _ _ _ seatRule _ _ _ rfl
      (List.mem_cons_of_mem _ List.mem_cons_self) rfl atSeat
  refine ⟨by decide +kernel, ?_, by decide, direct⟩
  exact @Schema.Route.inside _ _ _ _ ownerRule _ _ _ rfl List.mem_cons_self rfl direct

end Querywright
