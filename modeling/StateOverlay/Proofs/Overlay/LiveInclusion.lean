/-
Whether the inclusion of the overlay is read as a directive.

The new header keeps the lines of the preamble and puts the inclusion in the place of the first line
of the body.  So a reader of C comes to the inclusion as to that line.  The preamble ends at the
first line that does not begin with a comment of its own, and that line may be the second one of a
comment that the preamble opens: then the inclusion is part of this comment.

* `placeAt_newHeader` — a reader comes to the inclusion as to the first line of the body;
* `inclusion_in_comment_iff` — the inclusion is inside a block comment exactly if that line is;
* `inclusion_in_comment_of_two_lines` — a header with a comment of two lines, where it is.
-/
import StateOverlay.Proofs.Scan.Recognition
import StateOverlay.Proofs.Text.Comments

namespace StateOverlay

open Comments

theorem take_length_preambleLines (source : Text) :
    (Text.lines source).take (preambleLines source).length = preambleLines source :=
  (List.prefix_iff_eq_take.mp (List.takeWhile_prefix _)).symm

/-- A reader of the new header comes to the inclusion as a reader of the old header comes to the
first line of its body, or to its end if it has none. -/
theorem placeAt_newHeader {config : Config} (hfile : '\n' ∉ config.overlayFile) (source : Text) :
    placeAt (newHeader config source) (preambleLines source).length
      = placeAt source (preambleLines source).length := by
  apply placeAt_congr
  rw [lines_newHeader hfile, take_length_preambleLines]
  exact List.take_left' (List.length_map _)

/-- **The inclusion of the overlay is live unless a comment goes on behind the preamble**: in a
header whose block comments are all closed, the inclusion that ends the new header is inside a block
comment of it exactly if there is a body and its first line begins inside a block comment, which can
only be one that the preamble opens. -/
theorem inclusion_in_comment_iff {config : Config} (hfile : '\n' ∉ config.overlayFile)
    {source : Text} (hclosed : CommentsClosed source) :
    let scan := Scan.ofSource config source
    let header := (Overlay.generate config scan).header
    let place := scan.preamble.length
    Text.lines header = scan.preamble.map (Text.dropFinal '\r') ++ [config.overlayInclude, []] ∧
      (IsInComment header place ↔
        ∃ first, (Text.lines source)[place]? = some first ∧ IsInComment source place) := by
  intro scan header place
  have hplace : placeAt header place = placeAt source place := placeAt_newHeader hfile source
  refine ⟨lines_newHeader hfile source, ?_⟩
  rw [IsInComment, hplace]
  constructor
  · intro hcomment
    cases hfirst : (Text.lines source)[place]? with
    | some first => exact ⟨first, rfl, hcomment⟩
    | none =>
      -- all lines are preamble, and a comment that is open behind them is never closed
      have hlength : (Text.lines source).length ≤ place := List.getElem?_eq_none_iff.mp hfirst
      have hall : place = (Text.lines source).length :=
        Nat.le_antisymm (List.takeWhile_prefix _).length_le hlength
      rw [hall] at hcomment
      exact absurd hcomment hclosed
  · rintro ⟨_, _, hcomment⟩
    exact hcomment

/-- A preamble with a comment that a second comment line closes, and with what looks like the
opening of a third one. -/
theorem inclusion_in_comment_iff_closed :
    let source := "/* a\r\n/* b */ char *s = \"/*\"; // /*\r\nint x; /* c\r\n*/\r\n".toList
    let header := (Overlay.generate {} (Scan.ofSource {} source)).header
    '\n' ∉ ({} : Config).overlayFile ∧ CommentsClosed source ∧ IsInComment source 1 ∧
      (Text.lines header)[2]? = some ({} : Config).overlayInclude ∧ ¬ IsInComment header 2 := by
  intro source header
  have hfile : '\n' ∉ ({} : Config).overlayFile := by decide
  have hclosed : CommentsClosed source := by decide +kernel
  have hbody : ¬ IsInComment source 2 := by decide +kernel
  have hplace : (Scan.ofSource {} source).preamble.length = 2 := by decide +kernel
  obtain ⟨hlines, hcomment⟩ := inclusion_in_comment_iff hfile hclosed
  rw [hplace] at hcomment
  refine ⟨hfile, hclosed, by decide +kernel, by rw [hlines]; decide +kernel, ?_⟩
  exact fun hinside => hbody (hcomment.mp hinside).choose_spec.2

/-- A comment of two lines is cut behind its first, and the inclusion is what it goes on with. -/
theorem inclusion_in_comment_of_two_lines :
    let source := "/* a\n * b */\nstatic int x;\n".toList
    let header := (Overlay.generate {} (Scan.ofSource {} source)).header
    '\n' ∉ ({} : Config).overlayFile ∧ CommentsClosed source ∧ '"' ∉ source ∧
      header = "/* a\n#include \"cobolana_locals_overlay.h\"\n".toList ∧
      (Text.lines header)[1]? = some ({} : Config).overlayInclude ∧ IsInComment header 1 := by
  decide +kernel

end StateOverlay
