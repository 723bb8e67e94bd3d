import Querywright.Error
import Mathlib.Data.List.Forall2

/-! Success of computations that may fail, opened step by step. -/
namespace Querywright

variable {α β : Type}

theorem bind_success {first : Except Error α} {next : α → Except Error β} {result : β}
    (ok : (first >>= next) = .ok result) : ∃ value, first = .ok value ∧ next value = .ok result := by
  cases first with
  | error reason => simp [bind, Except.bind] at ok
  | ok value => exact ⟨value, rfl, ok⟩

theorem map_success {first : Except Error α} {change : α → β} {result : β}
    (ok : first.map change = .ok result) : ∃ value, first = .ok value ∧ change value = result := by
  cases first with
  | error reason => simp [Except.map] at ok
  | ok value => exact ⟨value, rfl, Except.ok.inj ok⟩

theorem map_failure {first : Except Error α} {change : α → β} {reason : Error}
    (failed : first.map change = .error reason) : first = .error reason := by
  cases first with
  | error other => simpa [Except.map] using failed
  | ok value => cases failed

theorem bind_failure {first : Except Error α} {next : α → Except Error β} {reason : Error}
    (failed : (first >>= next) = .error reason) :
    first = .error reason ∨ ∃ value, first = .ok value ∧ next value = .error reason := by
  cases first with
  | error other =>
    cases failed
    exact .inl rfl
  | ok value => exact .inr ⟨value, rfl, failed⟩

theorem return_success {value result : α} (ok : (return value : Except Error α) = .ok result) :
    value = result :=
  Except.ok.inj ok

theorem mapM_success (step : α → Except Error β) (items : List α) (results : List β)
    (ok : items.mapM step = .ok results) :
    List.Forall₂ (fun item result => step item = .ok result) items results := by
  induction items generalizing results with
  | nil =>
    rw [List.mapM_nil] at ok
    exact return_success ok ▸ .nil
  | cons item rest ih =>
    rw [List.mapM_cons] at ok
    obtain ⟨first, found, ok⟩ := bind_success ok
    obtain ⟨others, tail, ok⟩ := bind_success ok
    exact return_success ok ▸ .cons found (ih others tail)

theorem exists_left {related : α → β → Prop} {items : List α} {results : List β}
    (all : List.Forall₂ related items results) {result : β} (member : result ∈ results) :
    ∃ item ∈ items, related item result := by
  induction all with
  | nil => simp at member
  | cons found _ ih =>
    rcases List.mem_cons.mp member with rfl | later
    · exact ⟨_, by simp, found⟩
    · obtain ⟨item, present, read⟩ := ih later
      exact ⟨item, by simp [present], read⟩

theorem exists_right {related : α → β → Prop} {items : List α} {results : List β}
    (all : List.Forall₂ related items results) {item : α} (member : item ∈ items) :
    ∃ result ∈ results, related item result := by
  have flipped : List.Forall₂ (fun result item => related item result) results items := all.flip
  exact exists_left flipped member

theorem mapM_member (step : α → Except Error β) (items : List α) (results : List β)
    (ok : items.mapM step = .ok results) (result : β) (member : result ∈ results) :
    ∃ item ∈ items, step item = .ok result :=
  exists_left (mapM_success step items results ok) member

/-- Where a step can only succeed with what a function gives, so can a whole row of steps. -/
theorem mapM_determined {γ : Type} (step : α → Except Error β) (seen : β → γ) (meaning : α → γ)
    (determined : ∀ item result, step item = .ok result → seen result = meaning item)
    (items : List α) (results : List β) (ok : items.mapM step = .ok results) :
    results.map seen = items.map meaning := by
  have related := mapM_success step items results ok
  clear ok
  induction related with
  | nil => rfl
  | cons found _ ih => rw [List.map_cons, List.map_cons, determined _ _ found, ih]

end Querywright
