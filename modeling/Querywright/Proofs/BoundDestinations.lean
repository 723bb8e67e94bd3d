import Querywright.Proofs.FetchedRows
import Querywright.Proofs.RenderingAlone
import Querywright.Session

/-! The destination of a statement. What is bound belongs to the next terminal operation: if that
fetches rows, its main statement is answered with columns, and the operation has no destination of
its own, the answer is loaded there once; else nothing is. Behind it nothing is bound, and the
destination is not written to until it is bound again. -/
namespace Querywright
open Work

variable {τ : Type}

namespace TerminalCall

theorem entered_shelf (call : TerminalCall) (desk : Desk τ) :
    (call.entered desk).shelf = call.furnished desk.shelf := by
  unfold entered furnished
  cases call.ownDestination? with
  | none => exact (List.append_nil _).symm
  | some own => rfl

theorem entered_binding (call : TerminalCall)
    (fetches : call.takesBound = true ∨ call.ownDestination?.isSome = true) (desk : Desk τ) :
    (call.entered desk).builder.binding = call.target? desk.builder.binding desk.shelf := by
  cases takes : call.takesBound with
  | true =>
    rw [entered_ownless (ownless_of_takes takes), target?, if_pos takes]
    rfl
  | false =>
    rw [takes] at fetches
    obtain ⟨own, owns⟩ := Option.isSome_iff_exists.mp (fetches.resolve_left Bool.false_ne_true)
    rw [entered_own owns, target?, takes, owns]
    rfl

end TerminalCall

/-- What a terminal operation does with what is bound. Rows go where they belong, or to the builder
itself; where there are none or nowhere to go, all is as if nothing were bound. -/
structure Delivers (itself : Bool) (setting : Setting τ) (call : TerminalCall)
    (bound : Option Binding) (desk : Desk τ)
    (outcome : Except Error (Option Value) × Desk τ) : Prop where
  loaded : ∀ binding report, call.target? bound desk.shelf = some binding →
    call.answer? setting desk = some report → report.columns ≠ [] →
    (itself && call.takesBound) = false →
    Takes ((call.furnished desk.shelf).load setting.schema binding report.columns report.rows)
      outcome
  laid : ∀ report, call.answer? setting desk = some report → report.columns ≠ [] →
    (itself && call.takesBound) = true →
    TakesItself ((call.answered setting desk).builder.laid setting.schema report) desk.shelf outcome
  untouched : (call.target? bound desk.shelf = none ∨
      ∀ report, call.answer? setting desk = some report → report.columns = []) →
    outcome = (call.perform setting).run desk.unbound ∧
      outcome.2.shelf = call.furnished desk.shelf
  unbound : outcome.2.builder.binding = none

namespace TerminalCall

theorem conclude_takes {α : Type} {load : Except Error Nat × Shelf}
    {answer : α → Desk τ → Option Value} {outcome : Except Error α × Desk τ}
    (takes : Takes load outcome) :
    Takes load (conclude answer outcome) := by
  obtain ⟨result, after⟩ := outcome
  refine ⟨takes.shelf, takes.count, fun reason failed => ?_⟩
  have same : result = .error reason := takes.failure reason failed
  rw [same]
  rfl

theorem conclude_takesItself {α : Type} {laid : Except Error Nat × Builder} {shelf : Shelf}
    {answer : α → Desk τ → Option Value} {outcome : Except Error α × Desk τ}
    (takes : TakesItself laid shelf outcome) :
    TakesItself laid shelf (conclude answer outcome) := by
  obtain ⟨result, after⟩ := outcome
  refine ⟨takes.shelf, takes.settings, takes.results, fun reason failed => ?_⟩
  have same : result = .error reason := takes.failure reason failed
  rw [same]
  rfl

theorem conclude_unbound {α : Type} {work : Work τ α} (blind : IsBlind work)
    (answer : α → Desk τ → Option Value) (desk : Desk τ) :
    conclude answer (work.run desk.unbound) = conclude answer (work.run desk) := by
  rw [blind.unbound]
  rfl

/-- One statement that takes no notice of what is bound. -/
def IsAside (work : Work τ (Option Value)) : Prop :=
  ∃ (body : Work τ Unit) (answer : Unit → Desk τ → Option Value), IsBlind body ∧
    ∀ desk, work.run desk = conclude answer (body.run desk.begun)

theorem write_aside (setting : Setting τ) (inserted : Bool)
    (render : Clauses → Except Error Fragment) :
    IsAside (do Builder.write setting inserted render; return none) := by
  refine ⟨do
    let rendered ← ofResult (render (← pending))
    takeWrite inserted (← execute setting rendered), fun _ _ => none, ?_, ?_⟩
  · refine .bind .pending fun _ => .bind (.ofResult _) fun _ => ?_
    exact .bind (.execute setting _) fun report => .takeWrite inserted report
  · exact run_scope _ (fun _ => pure none) _ fun _ _ => rfl

theorem perform_aside (setting : Setting τ) (call : TerminalCall)
    (elsewhere : call.takesBound = false) (ownless : call.ownDestination? = none)
    (unlocked : call.locks = false) : IsAside (call.perform setting) := by
  cases call with
  | has =>
    refine ⟨do
      limitOne
      let select ← ofResult ((← pending).select [])
      takeRows setting.schema none (← execute setting select),
      fun _ after => some (.truth (0 < after.builder.results.count)), ?_, fun desk => ?_⟩
    · refine .bind (.changeClauses _) fun _ => .bind .pending fun clauses => ?_
      exact .bind (.ofResult _) fun _ => .bind (.execute setting _) fun _ => .takeRows _ _
    · simp only [perform, Builder.has, bind_assoc]
      exact run_scope _ _ _ (fun _ _ => rfl) desk
  | insertMulti rows =>
    refine ⟨do
      let rows ← ofResult (Builder.rowsOf rows)
      let rendered ← ofResult ((← pending).insert "INSERT" rows)
      takeMany (← execute setting rendered), fun _ _ => none, ?_, ?_⟩
    · refine .bind (.ofResult _) fun rows => .bind .pending fun clauses => ?_
      refine .bind (.ofResult _) fun rendered => .bind (.execute setting _) fun report => ?_
      refine .bind (.takeWrite true report) fun _ => ?_
      cases report with
      | none => exact .pure ()
      | some report => exact .changeResults _
    · exact run_scope _ (fun _ => pure none) _ fun _ _ => rfl
  | insert data | replace data | update data | delete => exact write_aside setting _ _
  | lock | unlock => cases unlocked
  | getValue | getValues | rawQueryValue | rawQueryValues => cases ownless
  | _ => cases elsewhere

section Step

variable {itself : Bool} {setting : Setting τ} {call : TerminalCall} {desk : Desk τ}
  (completed : call.IsCompleted)

include completed

/-- With no rows, or nowhere for them to go, nothing is as good as what is bound. -/
theorem performAs_untouched (takes : call.takesBound = true)
    (loose : (call.fetch itself setting).run (call.entered desk) =
      (call.fetchLoose setting).run (call.entered desk)) :
    (call.performAs itself setting).run desk = (call.perform setting).run desk.unbound ∧
      ((call.performAs itself setting).run desk).2.shelf = call.furnished desk.shelf := by
  have blind := call.fetchLoose_blind setting
  have entered : call.entered desk.unbound = (call.entered desk).unbound := by
    rw [entered_ownless (ownless_of_takes takes), entered_ownless (ownless_of_takes takes)]
    rfl
  have unbound : (call.fetch false setting).run (call.entered desk.unbound) =
      (call.fetchLoose setting).run (call.entered desk).unbound := by
    rw [entered]
    exact call.fetch_unbound setting rfl
  have other : (call.perform setting).run desk.unbound =
      conclude (call.reply desk) ((call.fetchLoose setting).run (call.entered desk)) := by
    rw [← performAs_false, call.performAs_bound setting false completed takes, unbound]
    exact conclude_unbound blind _ _
  rw [call.performAs_bound setting itself completed takes, loose, other]
  refine ⟨rfl, ?_⟩
  rw [← entered_shelf]
  exact blind.shelf (call.entered desk)

theorem bound_delivers (takes : call.takesBound = true)
    (bound : itself = true → desk.builder.binding ≠ none) :
    Delivers itself setting call desk.builder.binding desk
      ((call.performAs itself setting).run desk) := by
  have target := entered_binding call (.inl takes) desk
  have shelf := entered_shelf call desk
  have ran := call.performAs_bound setting itself completed takes desk
  refine ⟨fun binding report found answer rows other => ?_, fun report answer rows same => ?_, ?_,
    by rw [ran]; rfl⟩
  · rw [takes, Bool.and_true] at other
    subst other
    rw [ran, ← shelf]
    exact conclude_takes (fetch_loaded answer rows (target.trans found))
  · rw [takes, Bool.and_true] at same
    subst same
    have plain : (call.entered desk).shelf = desk.shelf := by
      rw [entered_ownless (ownless_of_takes takes)]
      rfl
    rw [ran, ← plain]
    exact conclude_takesItself (fetch_laid answer rows)
  · rintro (nowhere | rowless)
    -- A builder is bound to itself only if something is bound.
    · have none : desk.builder.binding = none := by
        rwa [target?, if_pos takes] at nowhere
      have alone : itself = false := by
        by_contra some
        exact bound (Bool.of_not_eq_false some) none
      refine performAs_untouched completed takes ?_
      rw [alone]
      exact call.fetch_unbound setting (target.trans nowhere)
    · exact performAs_untouched completed takes (call.fetch_rowless setting itself _ rowless)

theorem own_delivers {own : Destination × Sink} (owns : call.ownDestination? = some own) :
    Delivers itself setting call desk.builder.binding desk
      ((call.performAs itself setting).run desk) := by
  have elsewhere := elsewhere_of_owns owns
  have entered : call.entered desk.unbound = call.entered desk := by
    rw [entered_own owns, entered_own owns]
    rfl
  have target := entered_binding call (.inr (by rw [owns]; rfl)) desk
  have shelf := entered_shelf call desk
  have ran := call.perform_own setting completed owns
  rw [performAs_elsewhere elsewhere]
  refine ⟨fun binding report found answer rows _ => ?_, fun report answer rows own => ?_, ?_,
    by rw [ran]; rfl⟩
  · rw [ran, ← shelf]
    exact conclude_takes (fetch_loaded answer rows (target.trans found))
  · rw [elsewhere, Bool.and_false] at own
    cases own
  · rintro (nowhere | rowless)
    · rw [target?, elsewhere, owns] at nowhere
      cases nowhere
    · refine ⟨by rw [ran, ran, entered]; rfl, ?_⟩
      rw [ran, call.fetch_rowless setting false _ rowless, ← shelf]
      exact (call.fetchLoose_blind setting).shelf (call.entered desk)

end Step

theorem performAs_delivers (itself : Bool) (setting : Setting τ) (call : TerminalCall)
    (completed : call.IsCompleted) (unlocked : call.locks = false) (desk : Desk τ)
    (bound : itself = true → desk.builder.binding ≠ none) :
    Delivers itself setting call desk.builder.binding desk
      ((call.performAs itself setting).run desk) := by
  -- Rows go to what is bound or to the call's own destination, or the call fetches none.
  cases takes : call.takesBound with
  | true => exact bound_delivers completed takes bound
  | false =>
    cases owns : call.ownDestination? with
    | some own => exact own_delivers completed owns
    | none =>
      have nowhere : call.target? desk.builder.binding desk.shelf = none := by
        rw [target?, takes, owns]
        rfl
      have bare : call.furnished desk.shelf = desk.shelf := by
        rw [furnished, owns]
        exact List.append_nil _
      obtain ⟨body, answer, blind, ran⟩ := perform_aside setting call takes owns unlocked
      rw [performAs_elsewhere takes]
      refine ⟨fun binding report found => ?_, fun report _ _ own => ?_, fun _ => ⟨?_, ?_⟩,
        by rw [ran]; rfl⟩
      · rw [nowhere] at found
        cases found
      · rw [takes, Bool.and_false] at own
        cases own
      · rw [ran, ran]
        exact (conclude_unbound blind answer desk.begun).symm
      · rw [ran, bare]
        exact blind.shelf desk.begun

end TerminalCall

theorem Shelf.load_length (schema : Schema) (binding : Binding) (columns : List String)
    (rows : List (List Value)) (shelf : Shelf) :
    (shelf.load schema binding columns rows).2.length = shelf.length := by
  unfold Shelf.load
  split
  · rfl
  · exact List.length_set

theorem Shelf.load_apart (schema : Schema) {binding : Binding} (columns : List String)
    (rows : List (List Value)) (shelf : Shelf) {slot : Nat} (apart : binding.slot ≠ slot) :
    (shelf.load schema binding columns rows).2[slot]? = shelf[slot]? := by
  unfold Shelf.load
  split
  · rfl
  · exact List.getElem?_set_ne apart

/-- A destination on the shelf that is not the one bound. -/
structure IsApart (slot : Nat) (desk : Desk τ) : Prop where
  stands : slot < desk.shelf.length
  apart : ∀ binding, desk.builder.binding = some binding → binding.slot ≠ slot

namespace TerminalCall

variable {call : TerminalCall}

theorem furnished_apart {slot : Nat} {shelf : Shelf} (stands : slot < shelf.length) :
    (call.furnished shelf)[slot]? = shelf[slot]? :=
  List.getElem?_append_left stands

theorem target_apart {slot : Nat} {desk : Desk τ} (apart : IsApart slot desk) {binding : Binding}
    (found : call.target? desk.builder.binding desk.shelf = some binding) :
    binding.slot ≠ slot := by
  unfold target? at found
  split at found
  · exact apart.apart binding found
  · obtain ⟨own, -, rfl⟩ := Option.map_eq_some_iff.mp found
    exact (Nat.ne_of_lt apart.stands).symm

end TerminalCall

section Apart

variable {itself : Bool} {setting : Setting τ} {call : TerminalCall} {desk : Desk τ}
  {outcome : Except Error (Option Value) × Desk τ}

/-- What is not bound is not loaded. -/
theorem Delivers.spares (delivers : Delivers itself setting call desk.builder.binding desk outcome)
    {slot : Nat} (apart : IsApart slot desk) :
    outcome.2.shelf[slot]? = desk.shelf[slot]? ∧ IsApart slot outcome.2 := by
  have grown : desk.shelf.length ≤ (call.furnished desk.shelf).length := by
    rw [TerminalCall.furnished, List.length_append]
    exact Nat.le_add_right ..
  -- Behind the operation nothing is bound, so only the slot itself is to be looked at.
  suffices same : outcome.2.shelf[slot]? = desk.shelf[slot]? ∧
      desk.shelf.length ≤ outcome.2.shelf.length by
    refine ⟨same.1, Nat.lt_of_lt_of_le apart.stands same.2, fun binding bound => ?_⟩
    rw [delivers.unbound] at bound
    cases bound
  by_cases rowless : ∀ report, call.answer? setting desk = some report → report.columns = []
  · rw [(delivers.untouched (.inr rowless)).2]
    exact ⟨TerminalCall.furnished_apart apart.stands, grown⟩
  · simp only [not_forall] at rowless
    obtain ⟨report, answer, rows⟩ := rowless
    cases own : itself && call.takesBound with
    | true =>
      rw [(delivers.laid report answer rows own).shelf]
      exact ⟨rfl, Nat.le_refl _⟩
    | false =>
      cases found : call.target? desk.builder.binding desk.shelf with
      | none =>
        rw [(delivers.untouched (.inl found)).2]
        exact ⟨TerminalCall.furnished_apart apart.stands, grown⟩
      | some binding =>
        have loaded := (delivers.loaded binding report found answer rows own).shelf
        rw [loaded, Shelf.load_length,
          Shelf.load_apart _ _ _ _ (TerminalCall.target_apart apart found)]
        exact ⟨TerminalCall.furnished_apart apart.stands, grown⟩

end Apart

/-- Whether the rows of a builder go to the builder itself. -/
def Desk.bindsItself (number : Nat) (desk : Desk τ) : Bool :=
  match desk.builder.binding.bind fun binding => desk.shelf[binding.slot]? with
  | some (.builder other ..) => other == number
  | _ => false

/-- A session tells it from the same builder and the same shelf. -/
theorem Desk.bindsItself_session {σ : Type} (session : Session σ) {number : Nat}
    {builder : Builder} (found : session.builders[number]? = some builder) (outside : τ) :
    Desk.bindsItself number ⟨builder, session.shelf, outside⟩ =
      session.isOwnDestination number := by
  unfold Session.isOwnDestination
  rw [found]
  rfl

namespace Move

/-- A move of the builder with this number. -/
def performBy (number : Nat) (setting : Setting τ) (move : Move) (desk : Desk τ) :
    Except Error (Option Value) × Desk τ :=
  (move.performOn ⟨setting, desk.bindsItself number⟩).run desk

def IsCompleted : Move → Prop
  | .invoke (.terminal call) => call.IsCompleted
  | _ => True

def isTerminal : Move → Bool
  | .invoke (.terminal _) => true
  | _ => false

def BindsTo (slot : Nat) : Move → Prop
  | .invoke (.bind other _) => other = slot
  | _ => False

/-- What is bound behind a move, told by the moves alone: a terminal operation ends what was bound,
and only a destination that can be loaded is bound. -/
def boundBehind (schema : Schema) (shelf : Shelf) (bound : Option Binding) : Move → Option Binding
  | .invoke (.bind slot rule) =>
    match shelf[slot]? with
    | none => bound
    | some destination =>
      match selectSink schema destination rule with
      | .ok sink => some ⟨slot, sink⟩
      | .error _ => bound
  | .invoke (.terminal _) => none
  | _ => bound

end Move

def runBy (number : Nat) : List (Setting τ × Move) → Desk τ → Desk τ
  | [], desk => desk
  | (setting, move) :: rest, desk => runBy number rest (move.performBy number setting desk).2

/-- The destination given to the last bind behind the last terminal operation. -/
def lastBound (number : Nat) :
    List (Setting τ × Move) → Desk τ → Option Binding → Option Binding
  | [], _, bound => bound
  | (setting, move) :: rest, desk, bound =>
    lastBound number rest (move.performBy number setting desk).2
      (move.boundBehind setting.schema desk.shelf bound)

namespace Move

/-- Only terminal operations load, and only a bind binds. -/
theorem performBy_idle (number : Nat) (setting : Setting τ) (move : Move)
    (plain : move.isPlain = true) (other : move.isTerminal = false) (desk : Desk τ) :
    (move.performBy number setting desk).2.builder.binding =
        move.boundBehind setting.schema desk.shelf desk.builder.binding ∧
      ∃ added, (move.performBy number setting desk).2.shelf = desk.shelf ++ added := by
  have nothing (shelf : Shelf) : ∃ added, shelf = shelf ++ added :=
    ⟨[], (List.append_nil shelf).symm⟩
  have left (work : Work τ Unit) :
      ((do work; return none : Work τ (Option Value)).run desk).2 = (work.run desk).2 :=
    run_bind_reading (fun _ _ => rfl) desk
  cases move with
  | clone => cases plain
  | place destination => exact ⟨rfl, [destination], rfl⟩
  | setPageLimit pageLimit => exact ⟨rfl, nothing _⟩
  | invoke call =>
    cases call with
    | terminal call => cases other
    | clause call =>
      have ran : (performBy number setting (.invoke (.clause call)) desk).2 =
          ((BuilderCall.applyClause call).run desk).2 := left _
      rw [ran]
      exact ⟨rfl, nothing _⟩
    | setTrace enabled => exact ⟨rfl, nothing _⟩
    | setLockMethod method =>
      have ran : (performBy number setting (.invoke (.setLockMethod method)) desk).2 =
          desk.renewed (desk.builder.setLockMethod method) := by
        refine (left _).trans ?_
        rw [BuilderCall.run_replaceBuilder]
        cases desk.builder.setLockMethod method <;> rfl
      rw [ran]
      unfold Builder.setLockMethod
      split <;> exact ⟨rfl, nothing _⟩
    | bind slot rule =>
      have ran : (performBy number setting (.invoke (.bind slot rule)) desk).2 =
          desk.renewed (BuilderCall.boundBuilder setting.schema slot rule desk) := by
        refine (left _).trans ?_
        rw [BuilderCall.run_replaceBuilder]
        cases BuilderCall.boundBuilder setting.schema slot rule desk <;> rfl
      rw [ran]
      unfold BuilderCall.boundBuilder
      dsimp only [boundBehind]
      cases desk.shelf[slot]? with
      | none => exact ⟨rfl, nothing _⟩
      | some destination =>
        dsimp only [Builder.bind]
        cases selectSink setting.schema destination rule with
        | error reason => exact ⟨rfl, nothing _⟩
        | ok sink => exact ⟨rfl, nothing _⟩

theorem performBy_terminal (number : Nat) (setting : Setting τ) (call : TerminalCall)
    (plain : (invoke (.terminal call)).isPlain = true) (completed : call.IsCompleted)
    (desk : Desk τ) :
    Delivers (desk.bindsItself number) setting call desk.builder.binding desk
      (performBy number setting (.invoke (.terminal call)) desk) := by
  refine call.performAs_delivers _ setting completed ?_ desk ?_
  · simpa [isPlain] using plain
  · intro itself none
    rw [Desk.bindsItself, none] at itself
    cases itself

/-- What is bound anew has been given to this very bind. -/
theorem boundBehind_cases {schema : Schema} {shelf : Shelf} {bound : Option Binding} {move : Move}
    {binding : Binding} (found : move.boundBehind schema shelf bound = some binding) :
    bound = some binding ∨ move.BindsTo binding.slot := by
  unfold boundBehind at found
  split at found
  · split at found
    · exact .inl found
    · split at found
      · cases found
        exact .inr rfl
      · exact .inl found
  · cases found
  · exact .inl found

variable {number : Nat} {setting : Setting τ} {move : Move}

theorem performBy_binding (plain : move.isPlain = true) (completed : move.IsCompleted)
    (desk : Desk τ) : (move.performBy number setting desk).2.builder.binding =
      move.boundBehind setting.schema desk.shelf desk.builder.binding := by
  cases terminal : move.isTerminal with
  | false => exact (performBy_idle number setting move plain terminal desk).1
  | true =>
    cases move with
    | invoke call =>
      cases call with
      | terminal call => exact (performBy_terminal number setting call plain completed desk).unbound
      | _ => cases terminal
    | _ => cases terminal

theorem performBy_apart (plain : move.isPlain = true) (completed : move.IsCompleted) {slot : Nat}
    (elsewhere : ¬move.BindsTo slot) {desk : Desk τ} (apart : IsApart slot desk) :
    (move.performBy number setting desk).2.shelf[slot]? = desk.shelf[slot]? ∧
      IsApart slot (move.performBy number setting desk).2 := by
  cases terminal : move.isTerminal with
  | false =>
    obtain ⟨binding, added, shelf⟩ := performBy_idle number setting move plain terminal desk
    refine ⟨?_, ?_, fun bound same => ?_⟩
    · rw [shelf]
      exact List.getElem?_append_left apart.stands
    · rw [shelf, List.length_append]
      exact Nat.lt_add_right _ apart.stands
    · rw [binding] at same
      rcases boundBehind_cases same with old | new
      · exact apart.apart bound old
      · rintro rfl
        exact elsewhere new
  | true =>
    cases move with
    | invoke call =>
      cases call with
      | terminal call =>
        exact (performBy_terminal number setting call plain completed desk).spares apart
      | _ => cases terminal
    | _ => cases terminal

end Move

section Run

variable {number : Nat} {moves : List (Setting τ × Move)}
  (proper : ∀ step ∈ moves, step.2.isPlain = true ∧ step.2.IsCompleted)

theorem runBy_append (number : Nat) (front back : List (Setting τ × Move)) (desk : Desk τ) :
    runBy number (front ++ back) desk = runBy number back (runBy number front desk) := by
  induction front generalizing desk with
  | nil => rfl
  | cons step rest ih => exact ih _

/-- Without a terminal operation nothing is loaded. -/
theorem runBy_idle (number : Nat) (idle : ∀ step ∈ moves, step.2.isTerminal = false)
    (plain : ∀ step ∈ moves, step.2.isPlain = true) (desk : Desk τ) :
    ∃ added, (runBy number moves desk).shelf = desk.shelf ++ added := by
  induction moves generalizing desk with
  | nil => exact ⟨[], (List.append_nil _).symm⟩
  | cons step rest ih =>
    obtain ⟨setting, move⟩ := step
    obtain ⟨first, others⟩ := List.forall_mem_cons.mp idle
    obtain ⟨one, more⟩ := List.forall_mem_cons.mp plain
    obtain ⟨-, added, shelf⟩ := Move.performBy_idle number setting move one first desk
    obtain ⟨later, grown⟩ := ih others more (move.performBy number setting desk).2
    exact ⟨added ++ later, grown.trans (by rw [shelf, List.append_assoc])⟩

include proper

theorem runBy_binding (desk : Desk τ) : (runBy number moves desk).builder.binding =
    lastBound number moves desk desk.builder.binding := by
  induction moves generalizing desk with
  | nil => rfl
  | cons step rest ih =>
    obtain ⟨setting, move⟩ := step
    obtain ⟨⟨plain, completed⟩, others⟩ := List.forall_mem_cons.mp proper
    rw [runBy, lastBound, ← Move.performBy_binding plain completed desk]
    exact ih others _

/-- What is not bound, and not bound in the run, is not written to. -/
theorem runBy_apart {slot : Nat} (elsewhere : ∀ step ∈ moves, ¬step.2.BindsTo slot) {desk : Desk τ}
    (apart : IsApart slot desk) : (runBy number moves desk).shelf[slot]? = desk.shelf[slot]? := by
  induction moves generalizing desk with
  | nil => rfl
  | cons step rest ih =>
    obtain ⟨setting, move⟩ := step
    obtain ⟨⟨plain, completed⟩, others⟩ := List.forall_mem_cons.mp proper
    obtain ⟨first, later⟩ := List.forall_mem_cons.mp elsewhere
    -- That the slot is not the one bound is what each move keeps.
    obtain ⟨same, still⟩ := Move.performBy_apart plain completed first apart
    exact (ih others later still).trans same

end Run

/-- What is bound belongs to the next terminal operation: until then nothing is loaded; then it is
loaded once or not at all, as its main statement is answered or not; and behind that nothing is
written to any destination but what is bound anew. -/
theorem destinations_belong_to_statements (number : Nat) (before after : List (Setting τ × Move))
    (setting : Setting τ) (call : TerminalCall) (desk : Desk τ)
    (proper : ∀ step ∈ before ++ (setting, .invoke (.terminal call)) :: after,
      step.2.isPlain = true ∧ step.2.IsCompleted) :
    let entry := runBy number before desk
    let bound := lastBound number before desk desk.builder.binding
    let outcome := Move.performBy number setting (.invoke (.terminal call)) entry
    (∀ front back, before = front ++ back → (∀ step ∈ back, step.2.isTerminal = false) →
      ∃ added, entry.shelf = (runBy number front desk).shelf ++ added) ∧
    entry.builder.binding = bound ∧
    (call.IsTextual → call.takesBound = true ∨ call.ownDestination?.isSome = true →
      ∀ report, call.answer? setting entry = some report ↔ call.IsReported setting entry report) ∧
    Delivers (entry.bindsItself number) setting call bound entry outcome ∧
    ∀ slot < outcome.2.shelf.length, (∀ step ∈ after, ¬step.2.BindsTo slot) →
      (runBy number after outcome.2).shelf[slot]? = outcome.2.shelf[slot]? := by
  intro entry bound outcome
  obtain ⟨earlier, later⟩ := List.forall_mem_append.mp proper
  obtain ⟨⟨plain, completed⟩, others⟩ := List.forall_mem_cons.mp later
  have binding : entry.builder.binding = bound := runBy_binding earlier desk
  have delivers := Move.performBy_terminal number setting call plain completed entry
  refine ⟨?_, binding, fun textual fetches => call.answer?_iff setting textual fetches entry,
    binding ▸ delivers, fun slot stands elsewhere => ?_⟩
  · rintro front back rfl idle
    obtain ⟨added, grown⟩ := runBy_idle number idle
      (fun step member => (earlier step (List.mem_append_right _ member)).1)
      (runBy number front desk)
    exact ⟨added, (congrArg Desk.shelf (runBy_append number front back desk)).trans grown⟩
  · refine runBy_apart others elsewhere ⟨stands, fun other same => ?_⟩
    rw [delivers.unbound] at same
    cases same

def twoRows : Setting Unit :=
  answering { columns := ["a"], rows := [[.integer 1], [.integer 2]] }

def bindList : List (Setting Unit × Move) :=
  [(twoRows, .place (.list [])), (twoRows, .invoke (.bind 0 .mapping))]

def readText (text : String) : Move :=
  .invoke (.terminal (.rawQuery (.text text) []))

/-- The list with an element for each of the two rows. -/
def filledList : Destination :=
  .list [.mapping [(.text "a", .integer 1)], .mapping [(.text "a", .integer 2)]]

theorem list_loaded_once :
    (∀ step ∈ bindList ++ (twoRows, readText "SELECT a FROM T") ::
        [(twoRows, readText "SELECT b FROM U")], step.2.isPlain = true ∧ step.2.IsCompleted) ∧
    let outcome := Move.performBy 0 twoRows (readText "SELECT a FROM T")
      (runBy 0 bindList ⟨{}, [], ()⟩)
    outcome.2.shelf = [filledList] ∧ outcome.2.builder.results.count = 2 ∧
      (runBy 0 [(twoRows, readText "SELECT b FROM U")] outcome.2).shelf[0]? = some filledList := by
  have proper : ∀ step ∈ bindList ++ (twoRows, readText "SELECT a FROM T") ::
      [(twoRows, readText "SELECT b FROM U")], step.2.isPlain = true ∧ step.2.IsCompleted := by
    simp [bindList, readText, Move.isPlain, TerminalCall.locks, Move.IsCompleted,
      TerminalCall.IsCompleted]
  obtain ⟨-, -, -, delivers, later⟩ := destinations_belong_to_statements 0 bindList
    [(twoRows, readText "SELECT b FROM U")] twoRows (.rawQuery (.text "SELECT a FROM T") [])
    ⟨{}, [], ()⟩ proper
  have loaded := delivers.loaded ⟨0, .list .mapping⟩
    { columns := ["a"], rows := [[.integer 1], [.integer 2]] } rfl rfl (by simp) rfl
  have shelf := loaded.shelf
  refine ⟨proper, shelf.trans rfl, loaded.count 2 rfl, ?_⟩
  refine (later 0 ?_ (by simp [readText, Move.BindsTo])).trans ?_
  · rw [shelf]
    decide
  · rw [shelf]
    rfl

/-- A number cannot be completed to a statement, and the list stays bound: the next rows are loaded
there although nothing is bound again. -/
theorem number_keeps_binding :
    let left := Move.performBy 0 twoRows (.invoke (.terminal (.rawQueryOne (.integer 5) [])))
      (runBy 0 bindList ⟨{}, [], ()⟩)
    left.1 = .error (.misuse (.notText "int")) ∧ left.2.shelf[0]? = some (.list []) ∧
      (runBy 0 [(twoRows, readText "SELECT a FROM T")] left.2).shelf[0]? = some filledList := by
  exact ⟨rfl, rfl, rfl⟩

end Querywright
