import Querywright.Fragment
import Querywright.Proofs.PlaceholderScan
import Mathlib.Data.List.Basic

/-! A statement as a row of pieces, each with the values it was supplied with. Its values stand
where they belong when every placeholder is a piece's own: then each piece has as many
placeholders, where it stands, as it has values. -/
namespace Querywright
namespace Fragment
open Placeholder

/-- Pieces side by side, with nothing between. -/
def ofPieces (pieces : List Fragment) : Fragment :=
  ⟨String.ofList (pieces.flatMap (·.text.toList)), pieces.flatMap (·.arguments)⟩

/-- Rows of pieces with a separator between each and the next. -/
def separated (separator : String) : List (List Fragment) → List Fragment
  | [] => []
  | [row] => row
  | row :: next :: rest => row ++ plain separator :: separated separator (next :: rest)

/-- A piece that leaves no quote open and has a placeholder for each of its values. -/
structure IsWhole (piece : Fragment) : Prop where
  closed : IsClosed piece.text
  balanced : count piece.text = piece.arguments.length

instance (piece : Fragment) : Decidable piece.IsWhole :=
  decidable_of_iff (IsClosed piece.text ∧ count piece.text = piece.arguments.length)
    ⟨fun ⟨closed, balanced⟩ => ⟨closed, balanced⟩, fun ⟨closed, balanced⟩ => ⟨closed, balanced⟩⟩

@[simp] theorem ofPieces_nil : ofPieces [] = ⟨"", []⟩ :=
  rfl

@[simp] theorem ofPieces_arguments (pieces : List Fragment) :
    (ofPieces pieces).arguments = pieces.flatMap (·.arguments) :=
  rfl

@[simp] theorem ofPieces_characters (pieces : List Fragment) :
    (ofPieces pieces).text.toList = pieces.flatMap (·.text.toList) := by
  simp [ofPieces]

@[ext] theorem ext_characters {left right : Fragment}
    (text : left.text.toList = right.text.toList)
    (arguments : left.arguments = right.arguments) : left = right := by
  cases left
  cases right
  simp_all [String.toList_inj]

@[simp] theorem ofPieces_singleton (piece : Fragment) : ofPieces [piece] = piece := by
  ext1 <;> simp

theorem ofPieces_append (first second : List Fragment) :
    ofPieces (first ++ second) =
      ⟨(ofPieces first).text ++ (ofPieces second).text,
        (ofPieces first).arguments ++ (ofPieces second).arguments⟩ := by
  ext1 <;> simp

theorem ofPieces_cons (piece : Fragment) (rest : List Fragment) :
    ofPieces (piece :: rest) =
      ⟨piece.text ++ (ofPieces rest).text, piece.arguments ++ (ofPieces rest).arguments⟩ := by
  ext1 <;> simp

theorem joined_ofPieces (separator : String) (rows : List (List Fragment)) :
    joined separator (rows.map ofPieces) = ofPieces (separated separator rows) := by
  induction rows with
  | nil => rfl
  | cons row rest ih =>
    cases rest with
    | nil => ext1 <;> simp [joined, separated]
    | cons next rest =>
      have tail := congrArg (fun fragment => fragment.text.toList) ih
      simp only [joined, List.map_cons, ofPieces_characters] at tail
      ext1
      · simp only [joined, separated, List.map_cons, ofPieces_characters, List.flatMap_append,
          List.flatMap_cons, String.intercalate_cons_cons, String.toList_append, tail]
        simp [plain]
      · have values := congrArg Fragment.arguments ih
        simp only [joined, ofPieces_arguments] at values
        simp only [joined, separated, List.map_cons, List.flatMap_cons, ofPieces_arguments,
          List.flatMap_append]
        simp only [List.map_cons, List.flatMap_cons, ofPieces_arguments] at values
        rw [values]
        simp [plain]

theorem surrounded_ofPieces (opening closing : String) (pieces : List Fragment) :
    surrounded opening closing (ofPieces pieces) =
      ofPieces (plain opening :: pieces ++ [plain closing]) := by
  ext1 <;> simp [surrounded, plain]

theorem checked_balanced {fragment result : Fragment} (ok : fragment.checked = .ok result) :
    fragment.isBalanced ∧ result = fragment := by
  unfold checked at ok
  split at ok
  · rename_i balanced
    exact ⟨balanced, (Except.ok.inj ok).symm⟩
  · cases ok

end Fragment
end Querywright
