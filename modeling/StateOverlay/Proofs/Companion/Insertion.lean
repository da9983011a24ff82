/-
The one inclusion in a patched companion.

A line of inclusion begins with a number sign and holds no other, if the name of its file holds
none.  So it cannot stand in a text across the place where another such line begins, and patching a
source without the line makes one place of it and no more:

* `Text.places`, `mem_places_iff` — the places of a text at which a fixed text stands;
* `prefix_of_prefix_append_first` — a line whose first character comes only once does not reach over
  that character;
* `places_insertion` — a line that is inserted between two parts stands nowhere else;
* `companion_patched_completely` — what patching comes to, for every marker and source.
-/
import StateOverlay.Proofs.Companion.Patching

namespace StateOverlay

/-! ### Places -/

/-- The places of a text at which a needle stands, those that overlap included. -/
def Text.places (needle s : Text) : List Nat :=
  (List.range (s.length + 1)).filter fun i => needle.isPrefixOf (s.drop i)

/-- A needle stands at a place if the text goes on with it behind so many characters. -/
theorem mem_places_iff {needle s : Text} {i : Nat} :
    i ∈ Text.places needle s ↔
      ∃ before rest, s = before ++ rest ∧ before.length = i ∧ needle <+: rest := by
  rw [Text.places, List.mem_filter, List.mem_range, List.isPrefixOf_iff_prefix]
  constructor
  · rintro ⟨hi, hneedle⟩
    refine ⟨s.take i, s.drop i, (List.take_append_drop i s).symm, ?_, hneedle⟩
    rw [List.length_take]
    omega
  · rintro ⟨before, rest, rfl, rfl, hneedle⟩
    rw [List.drop_left, List.length_append]
    exact ⟨by omega, hneedle⟩

theorem nodup_places (needle s : Text) : (Text.places needle s).Nodup :=
  List.nodup_range.filter _

/-- The first place of a needle is where a text is cut. -/
theorem le_of_mem_places_of_cutAt? {needle s before rest : Text}
    (hcut : Text.cutAt? needle s = some (before, rest)) :
    ∀ i ∈ Text.places needle s, before.length ≤ i := by
  intro i hi
  obtain ⟨_, _, hfirst⟩ := cutAt?_eq_some_iff.mp hcut
  obtain ⟨shorter, longer, hs, rfl, hneedle⟩ := mem_places_iff.mp hi
  by_contra hlt
  exact hfirst shorter longer hs (Nat.lt_of_not_le hlt) hneedle

/-! ### An inserted line -/

section Insertion

variable {c : Char} {tail : Text} (hc : c ∉ tail)

include hc

/-- A line whose first character comes only once does not reach over that character. -/
theorem prefix_of_prefix_append_first {front rest : Text} (hfront : front ≠ [])
    (h : c :: tail <+: front ++ c :: rest) : c :: tail <+: front := by
  obtain ⟨d, front, rfl⟩ := List.exists_cons_of_ne_nil hfront
  rw [List.cons_append, List.cons_prefix_cons] at h
  exact List.cons_prefix_cons.mpr ⟨h.1, prefix_of_prefix_append_cons h.2 hc⟩

/-- Behind the first character of such a line it can stand again only behind its end. -/
theorem infix_of_prefix_of_append_eq {front back rest : Text}
    (hsplit : tail ++ rest = front ++ back) (h : c :: tail <+: back) : c :: tail <:+: rest := by
  obtain ⟨after, rfl⟩ := h
  rcases List.append_eq_append_iff.mp hsplit with ⟨more, _, hrest⟩ | ⟨more, htail, hback⟩
  · exact ⟨more, after, by rw [hrest, List.append_assoc]⟩
  · cases more with
    | nil => exact ⟨[], after, by rw [List.nil_append, hback, List.nil_append]⟩
    | cons d more =>
      -- the line would begin inside its own end
      obtain ⟨rfl, _⟩ := List.cons.inj hback
      exact absurd (htail ▸ List.mem_append_right front List.mem_cons_self) hc

/-- A line that is inserted between two parts in which it does not occur stands in one place. -/
theorem places_insertion {before rest : Text} (hbefore : ¬ c :: tail <:+: before)
    (hrest : ¬ c :: tail <:+: rest) :
    Text.places (c :: tail) (before ++ c :: tail ++ rest) = [before.length] := by
  have hplace : ∀ i, i ∈ Text.places (c :: tail) (before ++ c :: tail ++ rest) ↔
      i ∈ [before.length] := by
    intro i
    rw [mem_places_iff, List.mem_singleton]
    constructor
    · rintro ⟨front, back, hsplit, rfl, hline⟩
      rw [List.append_assoc] at hsplit
      rcases List.append_eq_append_iff.mp hsplit with ⟨more, hfront, hback⟩ | ⟨more, hfront, hback⟩
      · cases more with
        | nil => rw [hfront, List.append_nil]
        | cons d more =>
          -- the line would begin behind the first character of the inserted one
          obtain ⟨rfl, hbehind⟩ := List.cons.inj hback
          exact absurd (infix_of_prefix_of_append_eq hc hbehind hline) hrest
      · by_cases hmore : more = []
        · rw [hfront, hmore, List.append_nil]
        · -- the line would begin in the part in front of the inserted one
          rw [hback, List.cons_append] at hline
          have hinfix := (prefix_of_prefix_append_first hc hmore hline).isInfix
          exact absurd (hfront ▸ hinfix.trans (List.suffix_append front more).isInfix) hbefore
    · rintro rfl
      exact ⟨before, c :: tail ++ rest, List.append_assoc .., rfl, List.prefix_append _ _⟩
  exact List.perm_singleton.mp
    ((List.perm_ext_iff_of_nodup (nodup_places _ _) (List.pairwise_singleton _ _)).mpr hplace)

end Insertion

/-- **Companion patching, completely**: a source with the inclusion is left alone, a source with
neither inclusion nor marker is refused, and in front of the first marker of any other the inclusion
is inserted, so that it stands in the patched source once and is found there again. -/
theorem companion_patched_completely {config : Config} (hfile : '#' ∉ config.cleanupFile)
    (marker source : Text) :
    let inclusion := config.cleanupInclude
    (patch inclusion marker source = .alreadyPatched ↔ inclusion <:+: source) ∧
    (patch inclusion marker source = .markerMissing ↔
      ¬ inclusion <:+: source ∧ ¬ marker <:+: source) ∧
    (¬ inclusion <:+: source → marker <:+: source →
      ∃ before rest patched, patched = before ++ inclusion ++ ['\n', '\n'] ++ rest ∧
        patch inclusion marker source = .inserted patched ∧
        source = before ++ rest ∧ marker <+: rest ∧
        (∀ i ∈ Text.places marker source, before.length ≤ i) ∧
        Text.places inclusion patched = [before.length] ∧
        patch inclusion marker patched = .alreadyPatched) := by
  intro inclusion
  refine ⟨patch_eq_alreadyPatched_iff, patch_eq_markerMissing_iff, ?_⟩
  intro hnew hmarker
  obtain ⟨⟨before, rest⟩, hcut⟩ := Option.isSome_iff_exists.mp (occursIn_iff.mpr hmarker)
  obtain ⟨hsource, hprefix, _⟩ := cutAt?_eq_some_iff.mp hcut
  have hpatch : patch inclusion marker source
      = .inserted (before ++ inclusion ++ ['\n', '\n'] ++ rest) :=
    patch_eq_inserted_iff.mpr ⟨hnew, before, rest, hcut, rfl⟩
  -- the inclusion is a number sign and a rest without one
  obtain ⟨tail, hinclusion, htail⟩ : ∃ tail, inclusion = '#' :: tail ∧ '#' ∉ tail := by
    refine ⟨"include \"".toList ++ config.cleanupFile ++ ['"'], rfl, ?_⟩
    exact List.not_mem_append (List.not_mem_append (by decide) hfile) (by decide)
  have hbefore : ¬ inclusion <:+: before := fun h =>
    hnew (hsource ▸ h.trans (List.prefix_append before rest).isInfix)
  have hrest : ¬ inclusion <:+: ['\n', '\n'] ++ rest := by
    intro h
    rw [hinclusion, List.cons_append, List.cons_append, List.infix_cons_iff,
      List.infix_cons_iff] at h
    rcases h with h | h | h
    · exact absurd (List.cons_prefix_cons.mp h).1 (by decide)
    · exact absurd (List.cons_prefix_cons.mp h).1 (by decide)
    · exact hnew (hsource ▸ hinclusion ▸ h.trans (List.suffix_append before rest).isInfix)
  refine ⟨before, rest, _, rfl, hpatch, hsource, hprefix, le_of_mem_places_of_cutAt? hcut, ?_,
    patch_eq_alreadyPatched_iff.mpr (infix_of_patch_eq_inserted hpatch)⟩
  rw [List.append_assoc _ ['\n', '\n'] rest]
  rw [hinclusion] at hbefore hrest ⊢
  exact places_insertion htail hbefore hrest

/-- A marker that is a part of the inclusion, in a source where other parts of it stand around both
places of the marker. -/
theorem companion_patched_completely_overlapping :
    let config : Config := { cleanupFile := ['c'] }
    let marker := "\"c".toList
    let source := "#include #include \"c#include \"c".toList
    let patched := "#include #include #include \"c\"\n\n\"c#include \"c".toList
    '#' ∉ config.cleanupFile ∧ ¬ config.cleanupInclude <:+: source ∧ marker <:+: source ∧
      Text.places marker source = [18, 29] ∧
      patch config.cleanupInclude marker source = .inserted patched ∧
      Text.places config.cleanupInclude patched = [18] ∧
      patch config.cleanupInclude marker patched = .alreadyPatched := by
  intro config marker source patched
  have hfile : '#' ∉ config.cleanupFile := by decide
  have hnew : ¬ config.cleanupInclude <:+: source := by
    rw [← occursIn_iff]
    decide +kernel
  have hmarkers : Text.places marker source = [18, 29] := by decide +kernel
  have hmarker : marker <:+: source := occursIn_iff.mp (by decide +kernel)
  have hinserted : patch config.cleanupInclude marker source = .inserted patched := by
    decide +kernel
  obtain ⟨before, rest, _, _, hpatch, hsource, hprefix, hfirst, hplaces, hagain⟩ :=
    (companion_patched_completely hfile marker source).2.2 hnew hmarker
  cases hinserted.symm.trans hpatch
  -- the inclusion stands at the first of the two places of the marker
  have hplace : before.length ∈ Text.places marker source :=
    mem_places_iff.mpr ⟨before, rest, hsource, rfl, hprefix⟩
  have hlength : before.length = 18 := by
    have hle : before.length ≤ 18 := hfirst 18 (by simp [hmarkers])
    rw [hmarkers, List.mem_cons, List.mem_singleton] at hplace
    omega
  rw [hlength] at hplaces
  exact ⟨hfile, hnew, hmarker, hmarkers, hinserted, hplaces, hagain⟩

end StateOverlay
