import Querywright.Proofs.RefusedCalls

/-! The joins that a run of clause calls leaves, told by what the calls have done: a key is a name
or an alias, joined again and again or extended by conditions. The keys stand in the order in which
they were first joined, and the join of a key is its last one, with the conditions added since. -/
namespace Querywright

/-- A key was joined, or a condition was added to its join. -/
inductive JoinNote where
  | joined (key : String) (base : Join)
  | added (key : String) (condition : Condition)

namespace JoinNote

def joinedKey? : JoinNote → Option String
  | .joined key _ => some key
  | .added .. => none

def addedTo? (key : String) : JoinNote → Option Condition
  | .joined .. => none
  | .added other condition => if other = key then some condition else none

end JoinNote

/-- The keys in the order in which they were first joined. -/
def joinedKeys (notes : List JoinNote) : List String :=
  (notes.filterMap JoinNote.joinedKey?).eraseDups

/-- The last join of a key, and the conditions added to it since, in their order. -/
def LastJoined (notes : List JoinNote) (key : String) (base : Join) (added : List Condition) :
    Prop :=
  ∃ earlier later, notes = earlier ++ .joined key base :: later ∧
    (∀ note ∈ later, note.joinedKey? ≠ some key) ∧ added = later.filterMap (·.addedTo? key)

/-- The join of a key as the notes have it. -/
def Stands (notes : List JoinNote) (key : String) (join : Join) : Prop :=
  join.target.key = some key ∧
    ∃ base, LastJoined notes key base join.conditions ∧
      join = { base with conditions := join.conditions }

/-- One join for each key, in the order of the keys. -/
def JoinsFollow (notes : List JoinNote) (joins : List Join) : Prop :=
  List.Forall₂ (Stands notes) (joinedKeys notes) joins

/-- What a call does to the joins when it is not refused. -/
def ClauseCall.noted? : ClauseCall → Option JoinNote
  | .join target condition direction => do
    let direction ← (JoinDirection.ofValue direction).toOption
    let joined ← (JoinTarget.ofValue target).toOption
    let condition ← (joinConditionOf condition).toOption
    return .joined (← joinKeyOf target) ⟨direction, joined, condition, []⟩
  | .restrictJoin connector target arguments => do
    return .added (← joinKeyOf target) (← (Condition.build connector arguments).toOption)
  | _ => none

/-- The clauses after some calls, going on after those that are refused. -/
def ClauseCall.applyAll (calls : List ClauseCall) (clauses : Clauses) : Clauses :=
  calls.foldl (fun clauses call => (call.apply clauses).2) clauses

/-- What the calls that are not refused do to the joins, in their order. -/
def joinLog : List ClauseCall → Clauses → List JoinNote
  | [], _ => []
  | call :: rest, clauses =>
    (if (call.apply clauses).1.isOk then call.noted?.toList else []) ++
      joinLog rest (call.apply clauses).2

theorem eraseDups_concat (keys : List String) (key : String) :
    (keys ++ [key]).eraseDups =
      if key ∈ keys.eraseDups then keys.eraseDups else keys.eraseDups ++ [key] := by
  rw [List.eraseDups_append]
  by_cases known : key ∈ keys
  · simp [known, List.removeAll]
  · simp [known, List.removeAll, List.eraseDups_cons]

theorem eraseDups_nodup (keys : List String) : keys.eraseDups.Nodup := by
  induction keys using List.reverseRecOn with
  | nil => exact .nil
  | append_singleton keys key ih =>
    rw [eraseDups_concat]
    split
    · exact ih
    · rename_i fresh
      exact ih.append (List.nodup_singleton key) (by simpa using fresh)

section Notes
variable {notes : List JoinNote} {key : String} {base : Join} {added : List Condition}

theorem joinedKeys_nodup (notes : List JoinNote) : (joinedKeys notes).Nodup :=
  eraseDups_nodup _

theorem joinedKeys_joined (notes : List JoinNote) (key : String) (base : Join) :
    joinedKeys (notes ++ [.joined key base]) =
      if key ∈ joinedKeys notes then joinedKeys notes else joinedKeys notes ++ [key] := by
  unfold joinedKeys
  rw [List.filterMap_append]
  exact eraseDups_concat _ key

theorem joinedKeys_added (notes : List JoinNote) (key : String) (condition : Condition) :
    joinedKeys (notes ++ [.added key condition]) = joinedKeys notes := by
  unfold joinedKeys
  rw [List.filterMap_append]
  exact congrArg List.eraseDups (List.append_nil _)

theorem LastJoined.fresh (notes : List JoinNote) (key : String) (base : Join) :
    LastJoined (notes ++ [.joined key base]) key base [] :=
  ⟨notes, [], rfl, by simp, rfl⟩

/-- A later note leaves the last join of a key, unless it is a join of that key itself. -/
theorem LastJoined.concat (last : LastJoined notes key base added) (note : JoinNote)
    (other : note.joinedKey? ≠ some key) :
    LastJoined (notes ++ [note]) key base (added ++ (note.addedTo? key).toList) := by
  obtain ⟨earlier, later, rfl, none, rfl⟩ := last
  refine ⟨earlier, later ++ [note], by simp, ?_, ?_⟩
  · intro one member
    rcases List.mem_append.mp member with old | new
    · exact none one old
    · exact List.mem_singleton.mp new ▸ other
  · rw [List.filterMap_append]
    cases found : note.addedTo? key <;> simp [found]

theorem Stands.concat {join : Join} (stands : Stands notes key join) (note : JoinNote)
    (other : note.joinedKey? ≠ some key) (untouched : note.addedTo? key = none) :
    Stands (notes ++ [note]) key join := by
  obtain ⟨target, base, last, same⟩ := stands
  have later := last.concat note other
  rw [untouched, Option.toList_none, List.append_nil] at later
  exact ⟨target, base, later, same⟩

end Notes

/-- A join takes the place of the one with its key, or the last place. The others stay, and need
only to be seen in another light. -/
theorem Join.insert_follows {old now : String → Join → Prop} {keys : List String}
    {joins : List Join} (all : List.Forall₂ old keys joins) (once : keys.Nodup) {key : String}
    {join : Join} (keyed : ∀ other inner, old other inner → inner.target.key = some other)
    (target : join.target.key = some key) (fresh : now key join)
    (kept : ∀ other inner, other ≠ key → old other inner → now other inner) :
    List.Forall₂ now (if key ∈ keys then keys else keys ++ [key]) (join.insert joins) := by
  induction all with
  | nil => exact .cons fresh .nil
  | @cons other inner keys joins here rest ih =>
    obtain ⟨apart, later⟩ := List.nodup_cons.mp once
    unfold Join.insert
    rw [keyed other inner here, target]
    by_cases same : other = key
    · subst same
      rw [if_pos List.mem_cons_self, if_pos (by simp)]
      have others : ∀ one ∈ keys, one ≠ other := fun one member same => apart (same ▸ member)
      refine .cons fresh (((List.forall₂_and_left _ _).mpr ⟨others, rest⟩).imp ?_)
      exact fun one inner both => kept one inner both.1 both.2
    · have before := List.Forall₂.cons (kept other inner same here) (ih later)
      have unlike : (some other == some key) = false := by simpa using same
      rw [unlike, if_neg Bool.false_ne_true]
      by_cases known : key ∈ keys
      · rw [if_pos known] at before
        rw [if_pos (List.mem_cons_of_mem _ known)]
        exact before
      · rw [if_neg known] at before
        rw [if_neg (List.not_mem_cons_of_ne_of_not_mem (Ne.symm same) known)]
        exact before

namespace JoinsFollow

variable {notes : List JoinNote} {joins : List Join} {key : String} {join found : Join}
  {condition : Condition}

/-- Joining a key, for the first time or anew. -/
theorem joined (follows : JoinsFollow notes joins) (target : join.target.key = some key)
    (bare : join.conditions = []) :
    JoinsFollow (notes ++ [.joined key join]) (join.insert joins) := by
  unfold JoinsFollow
  rw [joinedKeys_joined]
  have stands : Stands (notes ++ [.joined key join]) key join :=
    ⟨target, join, bare ▸ LastJoined.fresh notes key join, by cases join; rfl⟩
  refine Join.insert_follows follows (joinedKeys_nodup notes) (fun _ _ there => there.1) target
    stands ?_
  intro other inner apart there
  exact there.concat _ (fun same => apart (Option.some.inj same).symm) rfl

theorem stands_of_mem (follows : JoinsFollow notes joins) (member : join ∈ joins)
    (target : join.target.key = some key) : key ∈ joinedKeys notes ∧ Stands notes key join := by
  obtain ⟨other, known, stands⟩ := exists_left follows member
  cases target.symm.trans stands.1
  exact ⟨known, stands⟩

theorem exists_join (follows : JoinsFollow notes joins) (known : key ∈ joinedKeys notes) :
    ∃ join ∈ joins, join.target.key = some key := by
  obtain ⟨join, member, stands⟩ := exists_right follows known
  exact ⟨join, member, stands.1⟩

/-- Adding a condition to the join of a key. -/
theorem added (follows : JoinsFollow notes joins) (member : found ∈ joins)
    (target : found.target.key = some key) :
    JoinsFollow (notes ++ [.added key condition])
      (Join.insert { found with conditions := found.conditions ++ [condition] } joins) := by
  obtain ⟨known, -, base, last, same⟩ := follows.stands_of_mem member target
  have unjoined (other : String) : (JoinNote.added key condition).joinedKey? ≠ some other :=
    Option.some_ne_none other |>.symm
  have later := last.concat (.added key condition) (unjoined key)
  let extended : Join := { found with conditions := found.conditions ++ [condition] }
  have aim : extended.target.key = some key := target
  have stands : Stands (notes ++ [.added key condition]) key extended := by
    refine ⟨aim, base, ?_, ?_⟩
    · simpa [extended, JoinNote.addedTo?] using later
    · simp only [extended]
      rw [same]
  have kept (other : String) (inner : Join) (apart : other ≠ key)
      (there : Stands notes other inner) : Stands (notes ++ [.added key condition]) other inner :=
    there.concat _ (unjoined other) (if_neg apart.symm)
  have followed := Join.insert_follows follows (joinedKeys_nodup notes) (fun _ _ there => there.1)
    aim stands kept
  rw [if_pos known] at followed
  unfold JoinsFollow
  rw [joinedKeys_added]
  exact followed

end JoinsFollow

theorem JoinTarget.key_ofValue {target : Value} {joined : JoinTarget}
    (ok : JoinTarget.ofValue target = .ok joined) :
    ∃ key, joinKeyOf target = some key ∧ joined.key = some key := by
  unfold ofValue at ok
  split at ok
  · rename_i subquery
    split at ok
    · cases ok
    · rename_i named
      cases ok
      cases name : subquery.derivedName with
      | none => simp [name] at named
      | some key => exact ⟨key, name, name⟩
  · split at ok
    · cases ok
    · cases ok
      exact ⟨_, rfl, rfl⟩
  · cases ok

namespace Clauses

variable {clauses after : Clauses} {notes : List JoinNote}

theorem join_noted {target condition direction : Value}
    (ok : clauses.join target condition direction = .ok after) :
    ∃ key base, (ClauseCall.join target condition direction).noted? = some (.joined key base) ∧
      base.target.key = some key ∧ base.conditions = [] ∧
      after = { clauses with joins := base.insert clauses.joins } := by
  obtain ⟨taken, known, ok⟩ := bind_success ok
  obtain ⟨joined, found, ok⟩ := bind_success ok
  obtain ⟨text, read, ok⟩ := bind_success ok
  obtain ⟨key, named, keyed⟩ := JoinTarget.key_ofValue found
  refine ⟨key, ⟨taken, joined, text, []⟩, ?_, keyed, rfl, (return_success ok).symm⟩
  simp [ClauseCall.noted?, known, found, read, named, Except.toOption]

theorem findJoin?_eq_some {target : Value} {found : Join}
    (there : clauses.findJoin? target = some found) :
    ∃ key, joinKeyOf target = some key ∧ found ∈ clauses.joins ∧ found.target.key = some key := by
  obtain ⟨key, named, there⟩ := Option.bind_eq_some_iff.mp there
  exact ⟨key, named, List.mem_of_find?_eq_some there, by simpa using List.find?_some there⟩

theorem findJoin?_of_mem {target : Value} {key : String} {join : Join}
    (member : join ∈ clauses.joins) (keyed : join.target.key = some key)
    (named : joinKeyOf target = some key) : ∃ found, clauses.findJoin? target = some found := by
  unfold findJoin?
  rw [named]
  refine Option.isSome_iff_exists.mp (List.find?_isSome.mpr ⟨join, member, ?_⟩)
  simpa using keyed

theorem restrictJoin_noted {connector : Connector} {target : Value} {arguments : List Value}
    (ok : clauses.restrictJoin connector target arguments = .ok after) :
    ∃ key found condition,
      (ClauseCall.restrictJoin connector target arguments).noted? = some (.added key condition) ∧
      found ∈ clauses.joins ∧ found.target.key = some key ∧
      after = { clauses with
        joins := Join.insert { found with conditions := found.conditions ++ [condition] }
          clauses.joins } := by
  unfold restrictJoin at ok
  split at ok
  · cases ok
  · rename_i found there
    obtain ⟨key, named, member, keyed⟩ := findJoin?_eq_some there
    obtain ⟨condition, built, ok⟩ := bind_success ok
    refine ⟨key, found, condition, ?_, member, keyed, (return_success ok).symm⟩
    simp [ClauseCall.noted?, named, built, Except.toOption]

end Clauses

namespace ClauseCall

variable {clauses after : Clauses} {notes : List JoinNote}

theorem settle_success {result : Except Error Clauses}
    (ok : settle clauses result = (.ok (), after)) : result = .ok after := by
  cases result with
  | error reason => cases ok
  | ok changed =>
    cases ok
    rfl

/-- A call that is neither a join nor a condition on one leaves the joins. -/
theorem apply_unjoined {call : ClauseCall} (none : call.noted? = none)
    (ok : call.apply clauses = (.ok (), after)) : after.joins = clauses.joins := by
  cases call with
  | table | groupBy | requestTotal =>
    cases ok
    rfl
  | restrict | restrictGroups | onDuplicate =>
    obtain ⟨_, -, made⟩ := bind_success (settle_success ok)
    cases return_success made
    rfl
  | orderBy column direction ranking =>
    have made := settle_success ok
    unfold Clauses.orderBy at made
    split at made
    · split at made
      · cases made
      · obtain ⟨_, -, made⟩ := bind_success made
        cases return_success made
        rfl
    · cases made
  | limit values =>
    have made := settle_success ok
    unfold Clauses.limitTo at made
    split at made
    · cases made
      rfl
    · cases made
  | options chosen =>
    obtain ⟨added, same⟩ := Clauses.addOptions_frame chosen clauses
    have outcome : (clauses.addOptions chosen).2 = after := congrArg Prod.snd ok
    rw [← outcome, same]
    rfl
  | join target condition direction =>
    obtain ⟨key, base, noted, -⟩ := Clauses.join_noted (settle_success ok)
    cases none.symm.trans noted
  | restrictJoin connector target arguments =>
    obtain ⟨key, found, condition, noted, -⟩ := Clauses.restrictJoin_noted (settle_success ok)
    cases none.symm.trans noted

/-- A step: the joins follow what the calls have done, and with a call that is not refused what that
one does. -/
theorem apply_joinsFollow {call : ClauseCall} (follows : JoinsFollow notes clauses.joins)
    (ok : call.apply clauses = (.ok (), after)) :
    JoinsFollow (notes ++ call.noted?.toList) after.joins := by
  cases noted : call.noted? with
  | none =>
    rw [Option.toList_none, List.append_nil, apply_unjoined noted ok]
    exact follows
  | some note =>
    cases call with
    | join target condition direction =>
      obtain ⟨key, base, found, keyed, bare, rfl⟩ := Clauses.join_noted (settle_success ok)
      cases noted.symm.trans found
      exact follows.joined keyed bare
    | restrictJoin connector target arguments =>
      obtain ⟨key, inner, condition, found, member, keyed, rfl⟩ :=
        Clauses.restrictJoin_noted (settle_success ok)
      cases noted.symm.trans found
      exact follows.added member keyed
    | _ => cases noted

/-- A run: whatever the joins have followed so far, they follow with what the calls do as well. -/
theorem applyAll_joinsFollow (calls : List ClauseCall) (follows : JoinsFollow notes clauses.joins) :
    JoinsFollow (notes ++ joinLog calls clauses) (applyAll calls clauses).joins := by
  induction calls generalizing notes clauses with
  | nil =>
    rw [joinLog, List.append_nil]
    exact follows
  | cons call rest ih =>
    cases applied : call.apply clauses with
    | mk outcome after =>
      have now :
          JoinsFollow (notes ++ if outcome.isOk then call.noted?.toList else []) after.joins := by
        cases outcome with
        | error reason =>
          obtain ⟨options, rfl, -⟩ := apply_refused applied
          exact (List.append_nil notes).symm ▸ follows
        | ok =>
          exact apply_joinsFollow follows applied
      have later := ih now
      rw [joinLog, applied]
      simpa [applyAll, applied] using later

theorem mem_joinLog {calls : List ClauseCall} {note : JoinNote}
    (member : note ∈ joinLog calls clauses) : ∃ call ∈ calls, call.noted? = some note := by
  induction calls generalizing clauses with
  | nil => cases member
  | cons call rest ih =>
    rcases List.mem_append.mp member with here | later
    · refine ⟨call, List.mem_cons_self, ?_⟩
      split at here
      · exact Option.mem_toList.mp here
      · cases here
    · obtain ⟨other, among, noted⟩ := ih later
      exact ⟨other, List.mem_cons_of_mem _ among, noted⟩

section Restricting
variable (follows : JoinsFollow notes clauses.joins) {connector : Connector} {target : Value}
  {arguments : List Value}
include follows

/-- A condition on a key that was never joined is refused, whatever its arguments. -/
theorem restrictJoin_unjoined
    (unjoined : ∀ key ∈ joinedKeys notes, joinKeyOf target ≠ some key) :
    (restrictJoin connector target arguments).apply clauses =
      (.error (.joinNotFound (shownJoinKey target)), clauses) := by
  have missing : clauses.findJoin? target = none := by
    refine Option.eq_none_iff_forall_ne_some.mpr fun found there => ?_
    obtain ⟨key, named, member, keyed⟩ := Clauses.findJoin?_eq_some there
    exact unjoined key (follows.stands_of_mem member keyed).1 named
  have refused : clauses.restrictJoin connector target arguments =
      .error (.joinNotFound (shownJoinKey target)) := by
    unfold Clauses.restrictJoin
    rw [missing]
  change settle clauses (clauses.restrictJoin connector target arguments) = _
  rw [refused]
  rfl

/-- A condition on a joined key is refused exactly for its arguments, and changes nothing then. -/
theorem restrictJoin_joined {key : String} (known : key ∈ joinedKeys notes)
    (named : joinKeyOf target = some key) :
    (∀ reason, Condition.build connector arguments = .error reason →
      (restrictJoin connector target arguments).apply clauses = (.error reason, clauses)) ∧
    ∀ condition, Condition.build connector arguments = .ok condition →
      ((restrictJoin connector target arguments).apply clauses).1 = .ok () := by
  obtain ⟨join, member, keyed⟩ := follows.exists_join known
  obtain ⟨found, there⟩ := Clauses.findJoin?_of_mem member keyed named
  have result : clauses.restrictJoin connector target arguments =
      (Condition.build connector arguments).bind fun condition =>
        .ok { clauses with
          joins := Join.insert { found with conditions := found.conditions ++ [condition] }
            clauses.joins } := by
    unfold Clauses.restrictJoin
    rw [there]
    rfl
  constructor
  · intro reason refused
    change settle clauses (clauses.restrictJoin connector target arguments) = _
    rw [result, refused]
    rfl
  · intro condition built
    change (settle clauses (clauses.restrictJoin connector target arguments)).1 = _
    rw [result, built]
    rfl

end Restricting

end ClauseCall

end Querywright
