import Querywright.Placeholder

/-! How a scan for placeholders goes on from one text to the next. Behind a text that leaves no
quote open the scan starts afresh, so placeholders of joined texts are those of the parts. -/
namespace Querywright.Placeholder

def standingAfter (standing : Quoting) (characters : List Char) : Quoting :=
  characters.foldl (fun standing character => (step standing character).1) standing

/-- The number of placeholders among characters read from some standing. -/
def countFrom (standing : Quoting) (characters : List Char) : Nat :=
  (scanFrom standing characters).countP isPlaceholder

/-- A text that leaves no quote open. -/
def IsClosed (text : String) : Prop :=
  standingAfter .outside text.toList = .outside

/-- A closed text without placeholders. -/
def IsBare (text : String) : Prop :=
  IsClosed text ∧ count text = 0

instance (text : String) : Decidable (IsClosed text) :=
  inferInstanceAs (Decidable (_ = _))

instance (text : String) : Decidable (IsBare text) :=
  inferInstanceAs (Decidable (_ ∧ _))

@[simp] theorem standingAfter_nil (standing : Quoting) : standingAfter standing [] = standing :=
  rfl

@[simp] theorem standingAfter_cons (standing : Quoting) (character : Char) (rest : List Char) :
    standingAfter standing (character :: rest) =
      standingAfter (step standing character).1 rest :=
  rfl

theorem standingAfter_append (standing : Quoting) (first second : List Char) :
    standingAfter standing (first ++ second) =
      standingAfter (standingAfter standing first) second :=
  List.foldl_append

@[simp] theorem scanFrom_nil (standing : Quoting) : scanFrom standing [] = [] := by
  cases standing <;> rfl

@[simp] theorem scanFrom_cons (standing : Quoting) (character : Char) (rest : List Char) :
    scanFrom standing (character :: rest) =
      (character, (step standing character).2) :: scanFrom (step standing character).1 rest := by
  cases standing <;> rfl

theorem scanFrom_length (standing : Quoting) (characters : List Char) :
    (scanFrom standing characters).length = characters.length := by
  induction characters generalizing standing with
  | nil => simp
  | cons character rest ih => simp [ih]

theorem scanFrom_append (standing : Quoting) (first second : List Char) :
    scanFrom standing (first ++ second) =
      scanFrom standing first ++ scanFrom (standingAfter standing first) second := by
  induction first generalizing standing with
  | nil => simp
  | cons character rest ih => simp [ih]

theorem countFrom_append (standing : Quoting) (first second : List Char) :
    countFrom standing (first ++ second) =
      countFrom standing first + countFrom (standingAfter standing first) second := by
  rw [countFrom, scanFrom_append, List.countP_append]
  rfl

theorem count_eq_countFrom (text : String) : count text = countFrom .outside text.toList :=
  rfl

theorem IsClosed.append {first second : String} (left : IsClosed first) (right : IsClosed second) :
    IsClosed (first ++ second) := by
  unfold IsClosed at *
  rw [String.toList_append, standingAfter_append, left, right]

theorem count_append {first : String} (closed : IsClosed first) (second : String) :
    count (first ++ second) = count first + count second := by
  rw [count_eq_countFrom, String.toList_append, countFrom_append, closed]
  rfl

theorem IsBare.append {first second : String} (left : IsBare first) (right : IsBare second) :
    IsBare (first ++ second) := by
  refine ⟨left.1.append right.1, ?_⟩
  rw [count_append left.1, left.2, right.2]

def isInert (character : Char) : Bool :=
  !isQuote character && character != '?'

theorem inert_outside {characters : List Char} (inert : characters.all isInert) :
    standingAfter .outside characters = .outside ∧ countFrom .outside characters = 0 := by
  induction characters with
  | nil => exact ⟨rfl, by simp [countFrom]⟩
  | cons character rest ih =>
    simp only [List.all_cons, Bool.and_eq_true] at inert
    obtain ⟨first, others⟩ := inert
    obtain ⟨stands, none⟩ := ih others
    simp only [isInert, Bool.and_eq_true, Bool.not_eq_true', bne_iff_ne] at first
    have outside : step .outside character = (.outside, false) := by simp [step, first.1]
    constructor
    · rw [standingAfter_cons, outside, stands]
    · rw [countFrom, scanFrom_cons, outside, List.countP_cons]
      rw [countFrom] at none
      simp [none, isPlaceholder, first.2]

theorem bare_of_inert {text : String} (inert : text.toList.all isInert) : IsBare text :=
  inert_outside inert

end Querywright.Placeholder
