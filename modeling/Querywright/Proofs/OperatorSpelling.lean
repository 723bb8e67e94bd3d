import Querywright.Condition
import Querywright.Proofs.FailureFamilies
import Querywright.Proofs.SpelledWords

/-! How an operator may be spelled. Behind a column only its words count, in capitals. Behind a
nested select the words of `NOT EXISTS` must also be parted by a single space, so spellings that
differ in blanks alone need not be taken alike there. -/
namespace Querywright

/-- Spellings of the same words, ASCII letters in any case and blanks of any kind around them. -/
def Text.SameSpelling (first second : String) : Prop :=
  (wordLists first.toList).map (List.map Char.caseFoldAsciiOnly) =
    (wordLists second.toList).map (List.map Char.caseFoldAsciiOnly)

instance (first second : String) : Decidable (Text.SameSpelling first second) :=
  inferInstanceAs (Decidable (_ = _))

namespace Text.SameSpelling

variable {first second : String}

theorem keyword (same : SameSpelling first second) : Text.keyword first = Text.keyword second := by
  have folded : capitals ∘ List.map Char.caseFoldAsciiOnly = capitals := funext capitals_folded
  have alike := congrArg (List.map capitals) same
  rw [List.map_map, List.map_map, folded] at alike
  rw [String.ext_iff, toList_keyword, toList_keyword, alike]

theorem isBlankText (same : SameSpelling first second) :
    Text.isBlankText first = Text.isBlankText second := by
  have nothing : wordLists first.toList = [] ↔ wordLists second.toList = [] := by
    rw [← List.map_eq_nil_iff, same, List.map_eq_nil_iff]
  rw [Bool.eq_iff_iff, isBlankText_iff, isBlankText_iff, nothing]

end Text.SameSpelling

/-- An operator of which something is left as a keyword is not blank. -/
theorem Text.unblank_of_keyword {operator keyword : String} (known : Text.keyword operator = keyword)
    (some : keyword ≠ "") : Text.isBlankText operator = false := by
  refine Bool.eq_false_iff.mpr fun blank => some ?_
  rw [isBlankText_iff] at blank
  rw [← known, String.ext_iff, toList_keyword, blank]
  rfl

namespace ConditionBody

variable {column operator : String} {values : List Value}

/-- With an operator there are values behind it; a lone text behind a column is bound. -/
theorem columnOf_operator (bare : Placeholder.count column = 0) (given : values ≠ []) :
    columnOf column (.text operator :: values) =
      if Text.isBlankText operator then .error (.invalidOperator column (Text.quoted operator))
      else operatorOf column operator values := by
  obtain ⟨value, others, rfl⟩ := List.exists_cons_of_ne_nil given
  simp only [columnOf, bare, Nat.lt_irrefl, if_false]
  rfl

theorem operatorOf_spelled {first second : String} (same : Text.keyword first = Text.keyword second) :
    operatorOf column first values = operatorOf column second values := by
  unfold operatorOf
  rw [same]

theorem columnOf_spelled {first second : String} (same : Text.SameSpelling first second)
    (bare : Placeholder.count column = 0) (given : values ≠ []) :
    Follows id (columnOf column (.text first :: values)) (columnOf column (.text second :: values)) := by
  rw [columnOf_operator bare given, columnOf_operator bare given, same.isBlankText,
    operatorOf_spelled same.keyword]
  split
  · exact .failure rfl
  · exact .same _

theorem existenceOf_refused {subquery : Subquery}
    (plain : Text.upper (Text.trim operator) ≠ "EXISTS")
    (negated : Text.upper (Text.trim operator) ≠ "NOT EXISTS") :
    existenceOf subquery [.text operator] = .error .misplacedExistence := by
  simp only [existenceOf]

theorem keyword_of_capitals {text : String} (capitals : Text.upper (Text.trim operator) = text) :
    (Text.keyword operator).toList = [' '].intercalate (Text.wordLists text.toList) := by
  rw [← Text.keyword_trim, Text.toList_keyword, ← Text.wordLists_capitals, ← Text.toList_upper,
    capitals]

theorem keyword_of_exists (capitals : Text.upper (Text.trim operator) = "EXISTS") :
    Text.keyword operator = "EXISTS" :=
  String.ext ((keyword_of_capitals capitals).trans (by decide +kernel))

theorem keyword_of_notExists (capitals : Text.upper (Text.trim operator) = "NOT EXISTS") :
    Text.keyword operator = "NOT EXISTS" :=
  String.ext ((keyword_of_capitals capitals).trans (by decide +kernel))

theorem existenceOf_exists {subquery : Subquery} (known : Text.keyword operator = "EXISTS") :
    existenceOf subquery [.text operator] = .ok (.existence false subquery) := by
  have isWord : Text.IsWord "EXISTS".toList := .of_all (by decide) (by cbv)
  have capitals := (Text.upper_trim_iff operator).mpr (Text.singleSpaced_of_word isWord known)
  rw [known] at capitals
  simp [existenceOf, capitals]

theorem existenceOf_notExists {subquery : Subquery} (known : Text.keyword operator = "NOT EXISTS") :
    existenceOf subquery [.text operator] =
      if Text.IsSingleSpaced operator then .ok (.existence true subquery)
      else .error .misplacedExistence := by
  have capitals := Text.upper_trim_iff operator
  rw [known] at capitals
  by_cases spaced : Text.IsSingleSpaced operator
  · simp [existenceOf, capitals.mpr spaced, spaced]
  · rw [if_neg spaced]
    refine existenceOf_refused (fun plain => ?_) (fun negated => spaced (capitals.mp negated))
    rw [keyword_of_exists plain] at known
    exact absurd known (by decide)

theorem existenceOf_other {subquery : Subquery} (plain : Text.keyword operator ≠ "EXISTS")
    (negated : Text.keyword operator ≠ "NOT EXISTS") :
    existenceOf subquery [.text operator] = .error .misplacedExistence :=
  existenceOf_refused (fun capitals => plain (keyword_of_exists capitals))
    (fun capitals => negated (keyword_of_notExists capitals))

/-- Behind a nested select two spellings are taken alike but for the blanks inside `NOT EXISTS`. -/
theorem existenceOf_spelled_iff {first second : String} (same : Text.SameSpelling first second)
    (subquery : Subquery) (others : List Value) :
    Follows id (existenceOf subquery (.text first :: others))
        (existenceOf subquery (.text second :: others)) ↔
      (others = [] → Text.keyword first = "NOT EXISTS" →
        (Text.IsSingleSpaced first ↔ Text.IsSingleSpaced second)) := by
  cases others with
  | cons other more =>
    exact ⟨fun _ none => absurd none (List.cons_ne_nil _ _), fun _ => .failure rfl⟩
  | nil =>
    by_cases plain : Text.keyword first = "EXISTS"
    · rw [existenceOf_exists plain, existenceOf_exists (same.keyword ▸ plain)]
      simp only [plain]
      exact ⟨fun _ _ negated => absurd negated (by decide), fun _ => .success _⟩
    by_cases negated : Text.keyword first = "NOT EXISTS"
    · rw [existenceOf_notExists negated, existenceOf_notExists (same.keyword ▸ negated)]
      simp only [negated, forall_const]
      by_cases spaced : Text.IsSingleSpaced first <;>
        by_cases besides : Text.IsSingleSpaced second <;>
          simp only [spaced, besides, if_true, if_false, iff_true, iff_false, not_true]
      · exact .success _
      · intro alike
        cases alike
      · intro alike
        cases alike
      · exact .failure rfl
    · rw [existenceOf_other plain negated,
        existenceOf_other (same.keyword ▸ plain) (same.keyword ▸ negated)]
      exact ⟨fun _ _ known => absurd known negated, fun _ => .failure rfl⟩

theorem build_spelled {first second : String} (same : Text.SameSpelling first second)
    (bare : Placeholder.count column = 0) (given : values ≠ []) :
    Follows id (build (.text column :: .text first :: values))
      (build (.text column :: .text second :: values)) := by
  simp only [build]
  split
  · exact .failure rfl
  · exact columnOf_spelled same bare given

end ConditionBody

theorem Condition.build_follows_iff (connector : Connector) (arguments others : List Value) :
    Follows id (Condition.build connector arguments) (Condition.build connector others) ↔
      Follows id (ConditionBody.build arguments) (ConditionBody.build others) :=
  ⟨Follows.of_map fun _ _ same => (Condition.mk.inj same).2,
    fun followed => followed.map fun _ => rfl⟩

/-- Spellings of one operator are taken alike behind every column, and behind a nested select but
for the blanks inside `NOT EXISTS`. -/
theorem operator_spelling (connector : Connector) {first second : String}
    (same : Text.SameSpelling first second) :
    (∀ column values, Placeholder.count column = 0 → values ≠ [] →
      Follows id (Condition.build connector (.text column :: .text first :: values))
        (Condition.build connector (.text column :: .text second :: values))) ∧
    ∀ subquery others,
      Follows id
          (Condition.build connector (.expression (.subquery subquery) :: .text first :: others))
          (Condition.build connector (.expression (.subquery subquery) :: .text second :: others)) ↔
        (others = [] → Text.keyword first = "NOT EXISTS" →
          (Text.IsSingleSpaced first ↔ Text.IsSingleSpaced second)) := by
  constructor
  · intro column values bare given
    exact (Condition.build_follows_iff ..).mpr (ConditionBody.build_spelled same bare given)
  · intro subquery others
    rw [Condition.build_follows_iff]
    exact ConditionBody.existenceOf_spelled_iff same subquery others

def usersSelect : Subquery :=
  ⟨{ tables := [.text "Users"] }, 20, none, none⟩

theorem notExists_spelling :
    Text.SameSpelling " not\texists" "NOT  EXISTS" ∧
    Follows id
      (Condition.build .both [.expression (.subquery usersSelect), .text " not\texists"])
      (Condition.build .both [.expression (.subquery usersSelect), .text "NOT  EXISTS"]) ∧
    Follows id (Condition.build .both [.text "Seen", .text " not\texists", .null])
      (Condition.build .both [.text "Seen", .text "NOT  EXISTS", .null]) := by
  have same : Text.SameSpelling " not\texists" "NOT  EXISTS" := by decide +kernel
  have parted : ¬ Text.IsSingleSpaced " not\texists" := by decide +kernel
  have doubled : ¬ Text.IsSingleSpaced "NOT  EXISTS" := by decide +kernel
  have alike := operator_spelling .both same
  exact ⟨same, (alike.2 usersSelect []).mpr fun _ _ => iff_of_false parted doubled,
    alike.1 "Seen" [.null] (by decide) (by simp)⟩

/-- One more blank in `NOT EXISTS` has the condition refused. -/
theorem doubleSpaced_refused :
    Text.SameSpelling "NOT EXISTS" "NOT  EXISTS" ∧
    Condition.build .both [.expression (.subquery usersSelect), .text "NOT EXISTS"] =
      .ok ⟨.both, .existence true usersSelect⟩ ∧
    Condition.build .both [.expression (.subquery usersSelect), .text "NOT  EXISTS"] =
      .error .misplacedExistence := by
  exact ⟨by decide +kernel, by cbv, by cbv⟩

end Querywright
