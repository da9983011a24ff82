/-
The bytes of texts.

In the UTF-8 form of a text the bytes of the ASCII range stand for the characters of that range and
for no others.  So the bytes of a text come apart at slashes where the text does, and what is cut
out of a path that is a text and put together again is a text:

* `slash_mem_bytes_iff` — there is a slash in the bytes of a text exactly if there is one in it;
* `splitOn_bytes` — the pieces of a text between slashes;
* `Bytes.IsText` — bytes that are the form of a text;
* `Bytes.IsText.parent`, `Bytes.IsText.join` — what is made of a path that is a text.
-/
import Mathlib.Data.List.Basic
import Mathlib.Tactic.SplitIfs
import StateOverlay.Files.Path
import StateOverlay.Proofs.Text.Lines

namespace StateOverlay

/-! ### The bytes of a text -/

/-- A byte of the ASCII range is part of the form of one character only. -/
theorem mem_utf8EncodeChar_iff {byte : UInt8} (h : byte.toNat < 0x80) (c : Char) :
    byte ∈ String.utf8EncodeChar c ↔ c.toNat = byte.toNat := by
  have hnumber : c.val.toNat = c.toNat := rfl
  have hbyte : ∀ n, byte = UInt8.ofNat n ↔ byte.toNat = n % 256 := fun n => by
    rw [← UInt8.toNat_inj, UInt8.toNat_ofNat']
  rw [String.utf8EncodeChar, hnumber]
  split_ifs <;> simp only [List.mem_cons, List.not_mem_nil, or_false, hbyte] <;> omega

theorem slash_mem_bytes_iff {s : Text} : Path.slash ∈ s.bytes ↔ '/' ∈ s := by
  rw [Text.bytes, List.mem_flatMap]
  constructor
  · rintro ⟨c, hc, hmem⟩
    obtain rfl : c = '/' := Char.toNat_inj.mp ((mem_utf8EncodeChar_iff (by decide) c).mp hmem)
    exact hc
  · exact fun hmem => ⟨'/', hmem, (mem_utf8EncodeChar_iff (by decide) '/').mpr rfl⟩

theorem bytes_injective : Function.Injective Text.bytes := by
  intro s t h
  have hs := Bytes.text?_eq_some_iff.mpr h
  rw [Bytes.text?_eq_some_iff.mpr rfl] at hs
  exact (Option.some.inj hs).symm

/-- The bytes of joined texts are their joined bytes. -/
theorem bytes_intercalate (pieces : List Text) :
    Text.bytes (['/'].intercalate pieces) =
      [Path.slash].intercalate (pieces.map Text.bytes) := by
  induction pieces with
  | nil => rfl
  | cons first rest ih =>
    cases rest with
    | nil => rw [List.map_singleton, List.intercalate_singleton, List.intercalate_singleton]
    | cons second rest =>
      rw [List.intercalate_cons_cons, Text.bytes_append, Text.bytes_append, ih]
      simp only [List.map_cons, List.intercalate_cons_cons]
      rfl

/-- The bytes of a text come apart at slashes where the text does. -/
theorem splitOn_bytes (s : Text) :
    s.bytes.splitOn Path.slash = (s.splitOn '/').map Text.bytes := by
  have hpieces : ∀ piece ∈ (s.splitOn '/').map Text.bytes, Path.slash ∉ piece := by
    intro piece hpiece
    obtain ⟨piece, hmem, rfl⟩ := List.mem_map.mp hpiece
    exact fun hslash => not_mem_of_mem_splitOn hmem (slash_mem_bytes_iff.mp hslash)
  have hne : (s.splitOn '/').map Text.bytes ≠ [] :=
    List.map_eq_nil_iff.not.mpr (List.splitOn_ne_nil '/' s)
  rw [← List.splitOn_intercalate Path.slash hpieces hne, ← bytes_intercalate,
    List.intercalate_splitOn]

/-! ### Bytes that are a text -/

/-- Bytes that are the form of a text. -/
def Bytes.IsText (bytes : Bytes) : Prop := ∃ s : Text, s.bytes = bytes

namespace Bytes

theorem isText_bytes (s : Text) : IsText s.bytes := ⟨s, rfl⟩

theorem IsText.append {first last : Bytes} (h : first.IsText) (h' : last.IsText) :
    IsText (first ++ last) := by
  obtain ⟨s, rfl⟩ := h
  obtain ⟨t, rfl⟩ := h'
  exact ⟨s ++ t, Text.bytes_append s t⟩

theorem IsText.of_mem_splitOn {path piece : Bytes} (h : path.IsText)
    (hpiece : piece ∈ path.splitOn Path.slash) : piece.IsText := by
  obtain ⟨s, rfl⟩ := h
  rw [splitOn_bytes] at hpiece
  obtain ⟨t, _, rfl⟩ := List.mem_map.mp hpiece
  exact isText_bytes t

theorem isText_intercalate {pieces : List Bytes} (h : ∀ piece ∈ pieces, piece.IsText) :
    IsText ([Path.slash].intercalate pieces) := by
  induction pieces with
  | nil => exact isText_bytes []
  | cons first rest ih =>
    rw [List.forall_mem_cons] at h
    cases rest with
    | nil => rw [List.intercalate_singleton]; exact h.1
    | cons second rest =>
      rw [List.intercalate_cons_cons]
      exact (h.1.append (isText_bytes ['/'])).append (ih h.2)

theorem dropIdle_subset (pieces : List Bytes) : Path.dropIdle pieces ⊆ pieces := by
  intro piece hpiece
  have hmem := (List.dropWhile_sublist _).subset (List.mem_reverse.mp hpiece)
  exact List.mem_reverse.mp hmem

/-- The parent of a path that is a text is a text. -/
theorem IsText.parent {path : Path} (h : path.IsText) : IsText path.parent := by
  rw [Path.parent]
  split
  · exact isText_bytes []
  · case h_2 first rest hpieces =>
    have hpiece : ∀ piece ∈ first :: rest, IsText piece :=
      fun piece hmem => h.of_mem_splitOn (hpieces ▸ hmem)
    rw [List.forall_mem_cons] at hpiece
    split
    · exact isText_bytes []
    · dsimp only
      split
      · exact isText_bytes ['/']
      · refine isText_intercalate (List.forall_mem_cons.mpr ⟨hpiece.1, fun piece hmem => ?_⟩)
        exact hpiece.2 piece
          (dropIdle_subset _ (List.dropLast_subset _ (dropIdle_subset _ hmem)))

/-- So is the path of a text in a directory whose path is a text. -/
theorem IsText.join {directory name : Path} (h : directory.IsText) (h' : name.IsText) :
    IsText (Path.join directory name) := by
  rw [Path.join]
  split
  · exact h'
  · split
    · exact h.append h'
    · exact (h.append (isText_bytes ['/'])).append h'

end Bytes

end StateOverlay
