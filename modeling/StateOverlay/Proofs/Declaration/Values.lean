/-
The values between the braces of a record.

The contents of the braces are split at commas and the pieces trimmed.  Pieces are dropped from the
end as long as they are empty, and of what is left the first three are the values.  So each value
keeps the position of its piece, and how many values there are depends on the last piece that is not
empty, also where that one stands behind the third and is cut off itself.

* `getElem?_rdropWhile_eq_some_iff` — what dropping items from the end of a list leaves;
* `getElem?_splitValues_eq_some_iff` — the value at a position, and where there is one;
* `lt_length_splitValues_iff` — how many values there are;
* `values_keep_positions` — the values by position, and where the last of them is empty.
-/
import Mathlib.Data.List.DropRight
import Mathlib.Tactic.ByContra
import StateOverlay.Declaration

namespace StateOverlay.Declaration

/-- Dropping items from the end of a list leaves those at or in front of an item that is kept. -/
theorem getElem?_rdropWhile_eq_some_iff {α : Type} {drops : α → Bool} {items : List α} {i : Nat}
    {item : α} :
    (items.rdropWhile drops)[i]? = some item ↔
      items[i]? = some item ∧ ∃ kept ∈ items.drop i, drops kept = false := by
  -- the list is gone through from its end, as the items are dropped
  induction items using List.reverseRecOn with
  | nil => simp
  | append_singleton items last ih =>
    cases hlast : drops last with
    | true =>
      rw [List.rdropWhile_concat_pos _ _ _ hlast, ih]
      by_cases hi : i < items.length
      · rw [List.getElem?_append_left hi, List.drop_append_of_le_length hi.le]
        simp [hlast]
      · -- at this position or behind it stands the dropped item at most
        have hnone : ¬ ∃ kept ∈ [last].drop (i - items.length), drops kept = false := by
          rintro ⟨kept, hmem, hkept⟩
          rw [List.mem_singleton.mp (List.mem_of_mem_drop hmem)] at hkept
          cases hlast.symm.trans hkept
        rw [List.drop_append, List.drop_eq_nil_of_le (Nat.le_of_not_lt hi), List.nil_append]
        simp [hnone]
    | false =>
      rw [List.rdropWhile_concat_neg _ _ _ (by simp [hlast])]
      refine ⟨fun hitem => ⟨hitem, last, ?_, hlast⟩, And.left⟩
      have hi : i ≤ items.length := by
        have hlt := (List.getElem?_eq_some_iff.mp hitem).1
        rw [List.length_append] at hlt
        exact Nat.le_of_lt_succ hlt
      rw [List.drop_append_of_le_length hi]
      exact List.mem_append_right _ List.mem_cons_self

/-! ### Values and pieces -/

/-- The pieces of a text between its commas, without outer white space. -/
def trimmedPieces (contents : Text) : List Text := (contents.splitOn ',').map Text.trim

theorem splitValues_eq (contents : Text) :
    splitValues contents = ((trimmedPieces contents).rdropWhile List.isEmpty).take 3 := rfl

theorem length_splitValues (contents : Text) : (splitValues contents).length ≤ 3 :=
  List.length_take_le 3 _

/-- The value at one of the first three positions is the piece there, if that piece or one behind it
is not empty. -/
theorem getElem?_splitValues_eq_some_iff {contents value : Text} {i : Nat} :
    (splitValues contents)[i]? = some value ↔
      i < 3 ∧ (trimmedPieces contents)[i]? = some value ∧
        ∃ piece ∈ (trimmedPieces contents).drop i, piece ≠ [] := by
  have hempty : ∀ piece : Text, piece.isEmpty = false ↔ piece ≠ [] := fun piece => by
    rw [← Bool.not_eq_true, List.isEmpty_iff]
  simp only [splitValues_eq, List.getElem?_take, Option.ite_none_right_eq_some,
    getElem?_rdropWhile_eq_some_iff, hempty]

/-- There is a value for each of the first three positions at or in front of a piece that is not
empty. -/
theorem lt_length_splitValues_iff {contents : Text} {i : Nat} :
    i < (splitValues contents).length ↔
      i < 3 ∧ ∃ piece ∈ (trimmedPieces contents).drop i, piece ≠ [] := by
  constructor
  · intro hi
    obtain ⟨hlt, _, hkept⟩ := getElem?_splitValues_eq_some_iff.mp (List.getElem?_eq_getElem hi)
    exact ⟨hlt, hkept⟩
  · rintro ⟨hlt, piece, hmem, hne⟩
    have hi : i < (trimmedPieces contents).length := by
      have hpos := List.length_pos_of_mem hmem
      rw [List.length_drop] at hpos
      exact Nat.lt_of_sub_pos hpos
    have hvalue := getElem?_splitValues_eq_some_iff.mpr
      ⟨hlt, List.getElem?_eq_getElem hi, piece, hmem, hne⟩
    exact (List.getElem?_eq_some_iff.mp hvalue).1

/-- The values of a record are trimmed pieces of its contents. -/
theorem exists_piece_of_mem_splitValues {contents value : Text} (h : value ∈ splitValues contents) :
    ∃ piece ∈ contents.splitOn ',', Text.trim piece = value := by
  obtain ⟨i, hi⟩ := List.mem_iff_getElem?.mp h
  obtain ⟨_, hpiece, _⟩ := getElem?_splitValues_eq_some_iff.mp hi
  exact List.mem_map.mp (List.mem_of_getElem? hpiece)

/-- Behind an empty piece stands one that is not, if one does there or behind. -/
theorem exists_mem_drop_succ {pieces : List Text} {i : Nat} (hi : pieces[i]? = some [])
    (h : ∃ piece ∈ pieces.drop i, piece ≠ []) : ∃ piece ∈ pieces.drop (i + 1), piece ≠ [] := by
  obtain ⟨hlt, hpiece⟩ := List.getElem?_eq_some_iff.mp hi
  rw [List.drop_eq_getElem_cons hlt, hpiece] at h
  simpa using h

/-- **The values of a record are its first three pieces, up to the last one that is not empty.**
There are three at most, and each is the trimmed piece at its own position.  A piece among the first
three is left out exactly if it is empty and so are all behind it.  The last value is empty only as
the third of three, where the third piece is empty and one behind it is not. -/
theorem values_keep_positions (contents : Text) :
    let pieces := (contents.splitOn ',').map Text.trim
    let values := splitValues contents
    values.length ≤ 3 ∧
    (∀ i value, values[i]? = some value ↔
      i < 3 ∧ pieces[i]? = some value ∧ ∃ piece ∈ pieces.drop i, piece ≠ []) ∧
    (values.getLast? = some [] ↔ pieces[2]? = some [] ∧ ∃ piece ∈ pieces.drop 3, piece ≠ []) := by
  intro pieces values
  have hlength : values.length ≤ 3 := length_splitValues contents
  refine ⟨hlength, fun i value => getElem?_splitValues_eq_some_iff, ?_⟩
  rw [List.getLast?_eq_getElem?]
  constructor
  · intro hlast
    obtain ⟨_, hpiece, hkept⟩ := getElem?_splitValues_eq_some_iff.mp hlast
    have hbehind := exists_mem_drop_succ hpiece hkept
    have hthird : values.length - 1 = 2 := by
      by_contra hother
      -- the piece behind the last value would be a value too
      have hnext : values.length - 1 + 1 < values.length :=
        lt_length_splitValues_iff.mpr ⟨by omega, hbehind⟩
      omega
    rw [hthird] at hpiece hbehind
    exact ⟨hpiece, hbehind⟩
  · rintro ⟨hpiece, piece, hmem, hne⟩
    have hthird : values[2]? = some [] := getElem?_splitValues_eq_some_iff.mpr
      ⟨by decide, hpiece, piece, List.drop_subset_drop_left pieces (by decide) hmem, hne⟩
    have hlt := (List.getElem?_eq_some_iff.mp hthird).1
    have hlast : values.length - 1 = 2 := by omega
    rwa [hlast]

/-- A fourth value keeps the empty second and third in place, and is cut off itself. -/
theorem values_end_empty_before_fourth :
    let values := splitValues "1, , , 4".toList
    values = [['1'], [], []] ∧ ¬ ∀ value ∈ values.getLast?, value ≠ [] := by
  decide +kernel

end StateOverlay.Declaration
