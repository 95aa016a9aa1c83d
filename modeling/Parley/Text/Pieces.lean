/-
Texts with marks in them.

`cut?` splits a text at the first mark, `pieces` at every mark. Pieces
joined by the mark give the text back.
-/
namespace Parley.Text

/-- The texts before and behind the first mark. -/
def cut? (mark : Char) (s : List Char) : Option (List Char × List Char) :=
  match s.dropWhile (· ≠ mark) with
  | _ :: behind => some (s.takeWhile (· ≠ mark), behind)
  | [] => none

/-- The pieces of a text between marks. -/
def pieces (mark : Char) : List Char → List (List Char)
  | [] => [[]]
  | c :: s =>
    if c = mark then [] :: pieces mark s
    else match pieces mark s with
      | piece :: rest => (c :: piece) :: rest
      | [] => [[c]]

/-! ## What the pieces hold -/

theorem pieces_ne_nil (mark : Char) (s : List Char) : pieces mark s ≠ [] := by
  fun_cases pieces mark s <;> simp

theorem intercalate_pieces (mark : Char) (s : List Char) :
    [mark].intercalate (pieces mark s) = s := by
  fun_induction pieces mark s with
  | case1 => simp [List.intercalate]
  | case2 s ih =>
    obtain ⟨piece, rest, h⟩ := List.exists_cons_of_ne_nil (pieces_ne_nil mark s)
    rw [h] at ih ⊢
    simpa [List.intercalate, List.intersperse] using ih
  | case3 c s hc piece rest h ih =>
    rw [h] at ih
    cases rest <;> simpa [List.intercalate, List.intersperse] using ih
  | case4 c s hc h => exact absurd h (pieces_ne_nil mark s)

end Parley.Text
