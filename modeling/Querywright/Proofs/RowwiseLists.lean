import Querywright.Proofs.DeliveredValues

/-! A list is loaded row by row. What a row makes does not depend on the rows around it or on what
the list held, so a load is described by what each row makes when it is loaded alone: the list holds
those elements in the order of the rows, and where a row is refused, those of the rows before it. -/
namespace Querywright

section Rowwise
variable {schema : Schema} {rule : ElementRule} {columns : List String}

/-- The row, loaded alone, makes the element, whatever the list held. -/
def Makes (schema : Schema) (rule : ElementRule) (columns : List String) (row : List Value)
    (element : Value) : Prop :=
  ∀ items, load schema (.list rule) (.list items) columns [row] = (.ok 1, .list [element])

/-- The row, loaded alone, is refused for the reason and leaves the list empty. -/
def Refuses (schema : Schema) (rule : ElementRule) (columns : List String) (row : List Value)
    (reason : Error) : Prop :=
  ∀ items, load schema (.list rule) (.list items) columns [row] = (.error reason, .list [])

/-- How a load leaves a list, told by what its rows do alone. -/
inductive Filled (schema : Schema) (rule : ElementRule) (columns : List String) :
    List (List Value) → Except Error Nat → List Value → Prop
  | whole {rows elements} (made : List.Forall₂ (Makes schema rule columns) rows elements) :
      Filled schema rule columns rows (.ok rows.length) elements
  | stopped {before failed after elements reason}
      (made : List.Forall₂ (Makes schema rule columns) before elements)
      (refused : Refuses schema rule columns failed reason) :
      Filled schema rule columns (before ++ failed :: after) (.error reason) elements
  | untyped {rows kind} (same : rule = .untyped kind) :
      Filled schema rule columns rows (.error (.misuse (.noType kind))) []

/-- A rule that stands for some type, or for a name, is asked about each row. -/
theorem refill_typed (typed : ∀ kind, rule ≠ .untyped kind) (rows : List (List Value)) :
    refill schema columns rule rows = elementsOf schema columns rule rows := by
  cases rule with
  | untyped kind => exact absurd rfl (typed kind)
  | _ => rfl

theorem load_typed (typed : ∀ kind, rule ≠ .untyped kind) (items : List Value)
    (rows : List (List Value)) {elements : List Value} {failure : Option Error}
    (found : elementsOf schema columns rule rows = (elements, failure)) :
    load schema (.list rule) (.list items) columns rows =
      (failure.elim (.ok rows.length) .error, .list elements) := by
  unfold load
  dsimp only
  rw [refill_typed typed, found]
  cases failure <;> rfl

theorem makes_of_element (typed : ∀ kind, rule ≠ .untyped kind) {row : List Value}
    {element : Value} (made : elementOf schema columns rule row = .ok element) :
    Makes schema rule columns row element := by
  intro items
  have found : elementsOf schema columns rule [row] = ([element], none) := by
    simp only [elementsOf, made]
  exact load_typed typed items [row] found

theorem refuses_of_element (typed : ∀ kind, rule ≠ .untyped kind) {row : List Value}
    {reason : Error} (failed : elementOf schema columns rule row = .error reason) :
    Refuses schema rule columns row reason := by
  intro items
  have found : elementsOf schema columns rule [row] = ([], some reason) := by
    simp only [elementsOf, failed]
  exact load_typed typed items [row] found

/-- The elements found row by row, by induction on the rows: the first row settles itself, and
those after it leave off in the same way with its element in front. -/
theorem elementsOf_filled (typed : ∀ kind, rule ≠ .untyped kind) (rows : List (List Value)) :
    Filled schema rule columns rows
      ((elementsOf schema columns rule rows).2.elim (.ok rows.length) .error)
      (elementsOf schema columns rule rows).1 := by
  induction rows with
  | nil => exact .whole .nil
  | cons row rest ih =>
    cases found : elementOf schema columns rule row with
    | error reason =>
      have before : List.Forall₂ (Makes schema rule columns) [] [] := .nil
      simp only [elementsOf, found]
      exact .stopped before (refuses_of_element typed found)
    | ok element =>
      have makes := makes_of_element typed found
      simp only [elementsOf, found]
      generalize elementsOf schema columns rule rest = others at ih
      obtain ⟨elements, failure⟩ := others
      cases failure with
      | none =>
        cases ih with
        | whole made => exact .whole (.cons makes made)
      | some reason =>
        cases ih with
        | stopped made refused => exact .stopped (.cons makes made) refused
        | untyped same => exact absurd same (typed _)

/-- Loading a list. It returns the number of rows, and the list holds for each of them, in order,
what that row makes alone; or it fails with the reason the first refused row has alone, and the list
holds what the rows before it make; or the elements were asked to be of no type, which is found out
before any row and leaves the list empty. What the list held is gone in every case. -/
theorem list_loaded_rowwise (schema : Schema) (rule : ElementRule) (columns : List String)
    (items : List Value) (rows : List (List Value)) :
    ∃ outcome elements,
      load schema (.list rule) (.list items) columns rows = (outcome, .list elements) ∧
        Filled schema rule columns rows outcome elements := by
  by_cases typed : ∀ kind, rule ≠ .untyped kind
  · exact ⟨_, _, load_typed typed items rows rfl, elementsOf_filled typed rows⟩
  · obtain ⟨kind, same⟩ := not_forall_not.mp typed
    subst same
    exact ⟨_, _, rfl, .untyped rfl⟩

end Rowwise
end Querywright
