import Mathlib
import Querywright.Proofs.SpelledWords
import Querywright.Proofs.TerminalSends
import Querywright.Router

/-! The first word of a statement. Whatever the clauses hold, a statement is rendered with its
keyword in front and a blank behind it, and by that word alone it is told whether the statement
writes. -/
namespace Querywright

/-- A keyword all of whose characters belong to a word wherever they stand, and whether it is one
of those that write. -/
def IsKeyword (writes : Bool) (keyword : String) : Prop :=
  keyword.toList ≠ [] ∧
    (∀ character ∈ keyword.toList, isLeadIn character = false ∧ Text.isBlank character = false) ∧
    writeKeywords.contains (Text.upper keyword) = writes

namespace IsKeyword

theorem of_all {writes : Bool} {keyword : String} (present : keyword.toList ≠ [])
    (each : keyword.toList.all (fun character =>
      !isLeadIn character && !Text.isBlank character) = true)
    (known : writeKeywords.contains (Text.upper keyword) = writes) : IsKeyword writes keyword :=
  ⟨present, fun character member => by simpa using List.all_eq_true.mp each character member, known⟩

theorem select : IsKeyword false "SELECT" :=
  of_all (by decide) (by cbv) (by cbv)

theorem insert : IsKeyword true "INSERT" :=
  of_all (by decide) (by cbv) (by cbv)

theorem replace : IsKeyword true "REPLACE" :=
  of_all (by decide) (by cbv) (by cbv)

theorem update : IsKeyword true "UPDATE" :=
  of_all (by decide) (by cbv) (by cbv)

theorem delete : IsKeyword true "DELETE" :=
  of_all (by decide) (by cbv) (by cbv)

end IsKeyword

/-- A statement is told by its first word. -/
theorem isWriteStatement_led {writes : Bool} {keyword : String} (word : IsKeyword writes keyword)
    (rest : String) : isWriteStatement (keyword ++ " " ++ rest) = .ok writes := by
  obtain ⟨present, each, known⟩ := word
  have characters : (keyword ++ " " ++ rest).toList = keyword.toList ++ ' ' :: rest.toList := by
    simp
  have undropped : (keyword ++ " " ++ rest).toList.dropWhile isLeadIn =
      keyword.toList ++ ' ' :: rest.toList := by
    rw [characters]
    cases first : keyword.toList with
    | nil => exact absurd first present
    | cons character others =>
      have kept := (each character (first ▸ List.mem_cons_self)).1
      simp [kept]
  have words : Text.wordLists (keyword.toList ++ ' ' :: rest.toList) =
      keyword.toList :: Text.wordLists rest.toList := by
    have pieces := Text.pieces_cut (by decide +kernel : Text.isBlank ' ' = true)
      (fun character member => (each character member).2) rest.toList
    simp [Text.wordLists, pieces, present]
  unfold isWriteStatement
  rw [undropped]
  split
  · rename_i empty
    simp at empty
  · rw [words]
    simpa using known

/-- A fragment whose text is a keyword, a blank and something else. -/
def Fragment.LedBy (keyword : String) (fragment : Fragment) : Prop :=
  ∃ rest, fragment.text = keyword ++ " " ++ rest

theorem Fragment.spaced_led (keyword : String) (next : Fragment) (others : List Fragment) :
    (Fragment.spaced (Fragment.plain keyword :: next :: others)).LedBy keyword := by
  refine ⟨" ".intercalate ((next :: others).map Fragment.text), ?_⟩
  simp [Fragment.spaced, Fragment.joined, Fragment.plain, String.intercalate_cons_cons]

theorem Fragment.spaced_led_append (keyword : String) {others : List Fragment}
    (more : others ≠ []) :
    (Fragment.spaced (Fragment.plain keyword :: others)).LedBy keyword := by
  obtain ⟨next, rest, rfl⟩ := List.exists_cons_of_ne_nil more
  exact Fragment.spaced_led keyword next rest

namespace Clauses

variable {clauses : Clauses} {fragment : Fragment}

theorem select_led {columns : List Value} (rendered : clauses.select columns = .ok fragment) :
    fragment.LedBy "SELECT" := by
  unfold select selectWith at rendered
  obtain ⟨-, -, rendered⟩ := bind_success rendered
  obtain ⟨written, -, rendered⟩ := bind_success rendered
  obtain ⟨sources, -, rendered⟩ := bind_success rendered
  rw [← return_success rendered]
  exact Fragment.spaced_led_append _ (by simp)

/-- The statement for the total has the select in brackets, and a keyword of its own. -/
theorem countRows_led {columns : List Value}
    (rendered : clauses.countRows columns = .ok fragment) : fragment.LedBy "SELECT" := by
  obtain ⟨inner, -, rfl⟩ := map_success rendered
  refine ⟨"COUNT(*) FROM (" ++ inner.text ++ ") AS counted", ?_⟩
  have opening : "SELECT COUNT(*) FROM (" = "SELECT" ++ " " ++ "COUNT(*) FROM (" := by decide
  simp only [Fragment.surrounded, opening, String.append_assoc]

theorem insert_led {keyword : String} {rows : List Value}
    (rendered : clauses.insert keyword rows = .ok fragment) : fragment.LedBy keyword := by
  unfold insert at rendered
  obtain ⟨-, -, rendered⟩ := bind_success rendered
  obtain ⟨payloads, -, rendered⟩ := bind_success rendered
  cases payloads with
  | nil => cases rendered
  | cons first others =>
    obtain ⟨tuples, -, rendered⟩ := bind_success rendered
    rw [← return_success rendered]
    exact Fragment.spaced_led_append _ (by simp)

theorem update_led {data : Value} (rendered : clauses.update data = .ok fragment) :
    fragment.LedBy "UPDATE" := by
  unfold update at rendered
  obtain ⟨-, -, rendered⟩ := bind_success rendered
  obtain ⟨payload, -, rendered⟩ := bind_success rendered
  obtain ⟨joins, -, rendered⟩ := bind_success rendered
  obtain ⟨assignments, -, rendered⟩ := bind_success rendered
  obtain ⟨conditions, -, rendered⟩ := bind_success rendered
  rw [← return_success rendered]
  exact Fragment.spaced_led_append _ (by simp)

theorem delete_led (rendered : clauses.delete = .ok fragment) : fragment.LedBy "DELETE" := by
  unfold delete at rendered
  obtain ⟨-, -, rendered⟩ := bind_success rendered
  dsimp only at rendered
  split at rendered
  · obtain ⟨joins, -, rendered⟩ := bind_success rendered
    obtain ⟨conditions, -, rendered⟩ := bind_success rendered
    rw [← return_success rendered]
    exact Fragment.spaced_led_append _ (by simp)
  · obtain ⟨conditions, -, rendered⟩ := bind_success rendered
    rw [← return_success rendered]
    exact Fragment.spaced_led_append _ (by simp)

end Clauses

/-- The side of a router with replicas that a call is for, if it sends statements of its own
making. -/
def TerminalCall.side? : TerminalCall → Option Side
  | .get _ | .getOne _ | .getValue _ | .getValues _ | .paginate .. | .has => some .replica
  | .insert _ | .insertMulti _ | .replace _ | .update _ | .delete => some .primary
  | _ => none

section Writing

variable {statement : Value}

theorem isWriting_of_led {render : Clauses → Except Error Fragment} {writes : Bool}
    {keyword : String} (word : IsKeyword writes keyword)
    (led : ∀ clauses fragment, render clauses = .ok fragment → fragment.LedBy keyword)
    (sent : IsTextOf render statement) : isWriting statement = .ok writes := by
  obtain ⟨clauses, fragment, rendered, rfl⟩ := sent
  obtain ⟨rest, same⟩ := led clauses fragment rendered
  rw [same]
  exact isWriteStatement_led word rest

theorem IsSelectOrTotal.reads {columns : List Value} (sent : IsSelectOrTotal columns statement) :
    isWriting statement = .ok false := by
  rcases sent with rows | total
  · exact isWriting_of_led .select (fun _ _ => Clauses.select_led) rows
  · exact isWriting_of_led .select (fun _ _ => Clauses.countRows_led) total

/-- Every statement of a call's own making is told to be for the side that the call is for. -/
theorem TerminalCall.CanSend.isWriting {call : TerminalCall} {side : Side}
    (sided : call.side? = some side) (sent : call.CanSend statement) :
    Querywright.isWriting statement = .ok (side == .primary) := by
  cases call with
  | get | getOne | getValue | getValues | paginate =>
    cases sided
    exact IsSelectOrTotal.reads sent
  | has =>
    cases sided
    exact IsSelectOrTotal.reads (.inl sent)
  | insert data =>
    cases sided
    exact isWriting_of_led .insert (fun _ _ => Clauses.insert_led) sent
  | replace data =>
    cases sided
    exact isWriting_of_led .replace (fun _ _ => Clauses.insert_led) sent
  | insertMulti rows =>
    cases sided
    obtain ⟨rows, sent⟩ := sent
    exact isWriting_of_led .insert (fun _ _ => Clauses.insert_led) sent
  | update data =>
    cases sided
    exact isWriting_of_led .update (fun _ _ => Clauses.update_led) sent
  | delete =>
    cases sided
    exact isWriting_of_led .delete (fun _ _ => Clauses.delete_led) sent
  | _ => cases sided

end Writing
end Querywright
