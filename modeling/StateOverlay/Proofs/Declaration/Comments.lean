/-
Comments behind the code of a line.

A line is cut where its first comment opens, and what is left is trimmed.  So neither the comment
nor white space in front of it shows:

* `opener_not_infix_stripComment` — what is left of a line opens no comment;
* `stripComment_append_comment` — a comment that is opened behind a line is cut off;
* `exists_stripComment_append_blanks` — white space behind a line is kept or cut off with it;
* `stripComment_append` — a line that opens no comment is what is left in front of one;
* `trim_terminated` — a line that ends in a semicolon is its declaration and the semicolon.
-/
import StateOverlay.Proofs.Text.Lines
import StateOverlay.Declaration

namespace StateOverlay

/-! ### The cut -/

namespace Declaration

/-- A line is cut where the opening of a comment stands, and goes on with its next character where
none does. -/
theorem stripComment_cons (c : Char) (rest : Text) :
    stripComment (c :: rest)
      = if ['/', '*'] <+: c :: rest then [] else c :: stripComment rest := by
  rw [stripComment, stripComment, Text.upTo, Text.upTo, Text.cutAt?, Text.cutAt?, search]
  by_cases hopener : ['/', '*'] <+: c :: rest
  · rw [if_pos hopener, if_pos (List.isPrefixOf_iff_prefix.mpr hopener)]
  · rw [if_neg hopener, if_neg (mt List.isPrefixOf_iff_prefix.mp hopener)]
    dsimp only
    cases search (fun rest => if ['/', '*'].isPrefixOf rest then some rest else none) rest with
    | none => rfl
    | some found => rfl

/-- What is left of a line stands at its front. -/
theorem stripComment_isPrefix (line : Text) : stripComment line <+: line := by
  induction line with
  | nil => exact List.prefix_rfl
  | cons c rest ih =>
    rw [stripComment_cons]
    split
    · exact List.nil_prefix
    · rw [List.cons_prefix_cons]
      exact ⟨rfl, ih⟩

/-- No comment is opened in what is left of a line. -/
theorem opener_not_infix_stripComment (line : Text) : ¬ ['/', '*'] <:+: stripComment line := by
  induction line with
  | nil => exact of_decide_eq_false rfl
  | cons c rest ih =>
    rw [stripComment_cons]
    split
    · exact of_decide_eq_false rfl
    · case isFalse hopener =>
      rw [List.infix_cons_iff, not_or]
      refine ⟨fun hfirst => hopener (hfirst.trans ?_), ih⟩
      rw [List.cons_prefix_cons]
      exact ⟨rfl, stripComment_isPrefix rest⟩

/-- The white space that a line begins with is not cut off. -/
theorem stripComment_blanks_append {margin : Text} (h : ∀ c ∈ margin, isBlank c) (s : Text) :
    stripComment (margin ++ s) = margin ++ stripComment s := by
  induction margin with
  | nil => rfl
  | cons c margin ih =>
    rw [List.forall_mem_cons] at h
    have hopener : ¬ ['/', '*'] <+: c :: (margin ++ s) := by
      rw [List.cons_prefix_cons]
      rintro ⟨rfl, _⟩
      exact absurd h.1 (by decide)
    rw [List.cons_append, stripComment_cons, if_neg hopener, ih h.2, List.cons_append]

/-- Of the white space that a line ends with all is kept, or nothing if the line is cut before. -/
theorem exists_stripComment_append_blanks {margin : Text} (h : ∀ c ∈ margin, isBlank c) (s : Text) :
    ∃ kept, (∀ c ∈ kept, isBlank c) ∧ stripComment (s ++ margin) = stripComment s ++ kept := by
  induction s with
  | nil =>
    refine ⟨margin, h, ?_⟩
    have hmargin := stripComment_blanks_append h []
    rw [List.append_nil] at hmargin
    exact hmargin.trans (List.append_nil margin)
  | cons c s ih =>
    rw [List.cons_append, stripComment_cons, stripComment_cons]
    by_cases hopener : ['/', '*'] <+: c :: s
    · have hlonger : ['/', '*'] <+: c :: (s ++ margin) :=
        hopener.trans (List.prefix_append (c :: s) margin)
      exact ⟨[], List.forall_mem_nil _, by rw [if_pos hopener, if_pos hlonger]; rfl⟩
    · -- the opening of a comment does not end in white space
      have hlonger : ¬ ['/', '*'] <+: c :: (s ++ margin) := by
        cases margin with
        | nil => rwa [List.append_nil]
        | cons d margin =>
          have hd : isBlank d = true := h d List.mem_cons_self
          have hnot : d ∉ ['/', '*'] := by
            intro hmem
            have hall : ∀ e ∈ ['/', '*'], isBlank e = false := by decide
            exact absurd hd (by simp [hall d hmem])
          exact fun hprefix => hopener (@prefix_of_prefix_append_cons _ (c :: s) _ _ hprefix hnot)
      obtain ⟨kept, hkept, hstrip⟩ := ih
      exact ⟨kept, hkept, by rw [if_neg hopener, if_neg hlonger, hstrip, List.cons_append]⟩

end Declaration

/-- The opening of a comment behind a text stands in front of it only if the text is empty. -/
theorem opener_prefix_append_iff {s comment : Text} :
    ['/', '*'] <+: s ++ '/' :: '*' :: comment ↔ s = [] ∨ ['/', '*'] <+: s := by
  rcases s with _ | ⟨c, _ | ⟨d, s⟩⟩
  · simp
  · simp
  · simp [List.cons_prefix_cons]

/-- A comment that is opened behind a line is cut off. -/
theorem Declaration.stripComment_append_comment (s comment : Text) :
    stripComment (s ++ '/' :: '*' :: comment) = stripComment s := by
  induction s with
  | nil =>
    rw [List.nil_append, stripComment_cons, if_pos ⟨comment, rfl⟩]
    rfl
  | cons c s ih =>
    have hopener : ['/', '*'] <+: c :: (s ++ '/' :: '*' :: comment) ↔ ['/', '*'] <+: c :: s :=
      (@opener_prefix_append_iff (c :: s) comment).trans (or_iff_right (List.cons_ne_nil c s))
    rw [List.cons_append, stripComment_cons, stripComment_cons, ih]
    by_cases hhere : ['/', '*'] <+: c :: s
    · rw [if_pos hhere, if_pos (hopener.mpr hhere)]
    · rw [if_neg hhere, if_neg (mt hopener.mp hhere)]

namespace Declaration

/-- A line that opens no comment is what is left in front of one. -/
theorem stripComment_append {code comment : Text} (hcode : ¬ ['/', '*'] <:+: code)
    (hcomment : comment = [] ∨ ['/', '*'] <+: comment) : stripComment (code ++ comment) = code := by
  have hself : stripComment code = code := upTo_eq_self hcode
  rcases hcomment with rfl | ⟨rest, rfl⟩
  · rw [List.append_nil, hself]
  · exact (stripComment_append_comment code rest).trans hself

/-- A line that ends in a semicolon, without outer white space. -/
theorem trim_terminated {margin declaration ending : Text} (hmargin : ∀ c ∈ margin, isBlank c)
    (hending : ∀ c ∈ ending, isBlank c) :
    Text.trim (margin ++ declaration ++ [';'] ++ ending) = Text.trimStart declaration ++ [';'] := by
  have hstop : ∀ c, [';'].head? = some c → isBlank c = false := by
    rintro c ⟨rfl⟩
    decide
  rw [trim_append_append (List.cons_ne_nil _ _) hstop hstop hending, Text.trimStart,
    List.dropWhile_append_of_pos hmargin]
  rfl

end Declaration

end StateOverlay
