/-
Texts as lists of characters, with the searches, cuts and orders the library needs.

A text is a list of characters from its first read to its last write, so that every law about
it is a law about lists:

* `search_eq_some_iff` — a search answers at the leftmost suffix where its test answers;
* `search_eq_none_iff` — a search gives up only if the test answers nowhere;
* `leq_total`, `leq_trans` — code point order is a total order;
* `inRanges` — membership in a table of ascending code point ranges.

Design notes: `search` is the one left-to-right search of the library.  Looking for a fixed
text, for a declaration and for a trailing name are all searches with different tests.
-/

namespace StateOverlay

/-- A text, as the list of its characters. -/
abbrev Text := List Char

/-- The first suffix of a text on which `test` answers: what stands before it, and the answer. -/
def search {α : Type} (test : Text → Option α) : Text → Option (Text × α)
  | [] => (test []).map fun answer => ([], answer)
  | c :: rest =>
    match test (c :: rest) with
    | some answer => some ([], answer)
    | none => (search test rest).map fun (before, answer) => (c :: before, answer)

/-- A search gives up exactly if its test answers on no suffix. -/
theorem search_eq_none_iff {α : Type} {test : Text → Option α} {s : Text} :
    search test s = none ↔ ∀ before rest, s = before ++ rest → test rest = none := by
  induction s with
  | nil =>
    simp only [search, Option.map_eq_none_iff]
    constructor
    · intro h before rest hs
      obtain ⟨rfl, rfl⟩ := List.append_eq_nil_iff.mp hs.symm
      exact h
    · intro h
      exact h [] [] rfl
  | cons c rest ih =>
    cases htest : test (c :: rest) with
    | some answer =>
      simp only [search, htest]
      constructor
      · intro h
        cases h
      · intro h
        rw [h [] _ rfl] at htest
        cases htest
    | none =>
      simp only [search, htest, Option.map_eq_none_iff, ih]
      constructor
      · intro h before suffix hs
        -- the whole text is a suffix too, and the test has failed on it
        cases before with
        | nil => rwa [hs] at htest
        | cons b before =>
          obtain ⟨rfl, htail⟩ := List.cons.inj hs
          exact h before suffix htail
      · intro h before suffix hs
        exact h (c :: before) suffix (by rw [hs, List.cons_append])

/-- A search answers with the leftmost suffix on which its test answers. -/
theorem search_eq_some_iff {α : Type} {test : Text → Option α} {s before : Text} {answer : α} :
    search test s = some (before, answer) ↔
      ∃ rest, s = before ++ rest ∧ test rest = some answer ∧
        ∀ shorter longer, s = shorter ++ longer → shorter.length < before.length →
          test longer = none := by
  induction s generalizing before with
  | nil =>
    simp only [search, Option.map_eq_some_iff]
    constructor
    · rintro ⟨a, ha, heq⟩
      cases heq
      exact ⟨[], rfl, ha, fun _ _ _ hlen => absurd hlen (by simp)⟩
    · rintro ⟨rest, hs, ha, _⟩
      obtain ⟨rfl, rfl⟩ := List.append_eq_nil_iff.mp hs.symm
      exact ⟨answer, ha, rfl⟩
  | cons c tail ih =>
    cases htest : test (c :: tail) with
    | some a =>
      simp only [search, htest, Option.some.injEq, Prod.mk.injEq]
      constructor
      · rintro ⟨rfl, rfl⟩
        exact ⟨c :: tail, rfl, htest, fun _ _ _ hlen => absurd hlen (by simp)⟩
      · rintro ⟨rest, hs, ha, hfirst⟩
        cases before with
        | nil =>
          rw [List.nil_append] at hs
          rw [← hs, htest] at ha
          exact ⟨rfl, Option.some.inj ha⟩
        | cons b before =>
          -- a later suffix would have the whole text before it, where the test answers
          rw [hfirst [] (c :: tail) rfl (by simp)] at htest
          cases htest
    | none =>
      simp only [search, htest, Option.map_eq_some_iff]
      constructor
      · rintro ⟨⟨inner, a⟩, hinner, heq⟩
        cases heq
        obtain ⟨rest, hs, ha, hfirst⟩ := ih.mp hinner
        refine ⟨rest, by rw [hs, List.cons_append], ha, fun shorter longer hsplit hlen => ?_⟩
        cases shorter with
        | nil => rwa [hsplit] at htest
        | cons b shorter =>
          obtain ⟨rfl, htail⟩ := List.cons.inj hsplit
          exact hfirst shorter longer htail (by simpa using hlen)
      · rintro ⟨rest, hs, ha, hfirst⟩
        cases before with
        | nil =>
          rw [List.nil_append] at hs
          rw [← hs, htest] at ha
          cases ha
        | cons b inner =>
          obtain ⟨rfl, htail⟩ := List.cons.inj hs
          refine ⟨(inner, answer), ih.mpr ⟨rest, htail, ha, ?_⟩, rfl⟩
          intro shorter longer hsplit hlen
          exact hfirst (c :: shorter) longer (by rw [hsplit, List.cons_append])
            (by simpa using hlen)

/-- Taking a literal off the front of a text leaves exactly what follows it. -/
theorem isPrefixOf?_eq_some_iff {p s rest : Text} :
    p.isPrefixOf? s = some rest ↔ s = p ++ rest := by
  induction p generalizing s with
  | nil =>
    show some s = some rest ↔ s = rest
    exact Option.some_inj
  | cons a p ih =>
    cases s with
    | nil =>
      show none = some rest ↔ [] = a :: p ++ rest
      simp
    | cons b s =>
      show (if a == b then p.isPrefixOf? s else none) = some rest ↔ b :: s = a :: p ++ rest
      by_cases hab : a = b
      · simp [hab, ih]
      · simp [hab, Ne.symm hab]

/-- Taking a literal off makes no text longer. -/
theorem length_of_isPrefixOf? {p s rest : Text} (h : p.isPrefixOf? s = some rest) :
    rest.length ≤ s.length := by
  rw [isPrefixOf?_eq_some_iff.mp h, List.length_append]
  exact Nat.le_add_left ..

namespace Text

/-- Cuts a text in front of the first place where `needle` stands. -/
def cutAt? (needle s : Text) : Option (Text × Text) :=
  search (fun rest => if needle.isPrefixOf rest then some rest else none) s

/-- Whether `needle` stands somewhere in a text. -/
def occursIn (needle s : Text) : Bool := (cutAt? needle s).isSome

/-- A text up to the first place where `needle` stands, or all of it if there is none. -/
def upTo (needle s : Text) : Text :=
  match cutAt? needle s with
  | some (before, _) => before
  | none => s

/-- A text without its last character, if that is `c`. -/
def dropFinal (c : Char) (s : Text) : Text := if s.getLast? = some c then s.dropLast else s

/-- The lines of a text: the pieces between line feeds, each without one final carriage return. -/
def lines (s : Text) : List Text := (s.splitOn '\n').map (dropFinal '\r')

/-- The lines of a text, one after another, with a line feed between each two. -/
def unlines (lines : List Text) : Text := ['\n'].intercalate lines

/-- The number of bytes of a text in UTF-8. -/
def utf8Size : Text → Nat
  | [] => 0
  | c :: rest => c.utf8Size + utf8Size rest

/-- The characters that begin within the first bytes of a text. -/
def takeBytes : Nat → Text → Text
  | _, [] => []
  | bytes, c :: rest => if bytes = 0 then [] else c :: takeBytes (bytes - c.utf8Size) rest

/-- The characters that begin behind the first bytes of a text. -/
def dropBytes : Nat → Text → Text
  | _, [] => []
  | bytes, c :: rest => if bytes = 0 then c :: rest else dropBytes (bytes - c.utf8Size) rest

/-- The order of texts by their first differing code point, a text before its extensions. -/
def leq : Text → Text → Bool
  | [], _ => true
  | _ :: _, [] => false
  | a :: s, b :: t => a.toNat < b.toNat || (a.toNat == b.toNat && leq s t)

/-- Any two texts are in order one way or the other. -/
theorem leq_total (s t : Text) : (leq s t || leq t s) = true := by
  induction s generalizing t with
  | nil => rfl
  | cons a s ih =>
    cases t with
    | nil => rfl
    | cons b t =>
      have := ih t
      grind [leq]

/-- The order of texts carries over. -/
theorem leq_trans (s t u : Text) : leq s t = true → leq t u = true → leq s u = true := by
  induction s generalizing t u with
  | nil => intros; rfl
  | cons a s ih =>
    cases t with
    | nil => intro h; cases h
    | cons b t =>
      cases u with
      | nil => intro _ h; cases h
      | cons c u =>
        have := ih t u
        grind [leq]

/-- Texts in code point order. -/
def sort (texts : List Text) : List Text := texts.mergeSort leq

/-- A number in decimal digits. -/
def ofNat (n : Nat) : Text := Nat.toDigits 10 n

end Text

/-- Whether a number lies in one of some ascending ranges, ends included. -/
def inRanges : List (Nat × Nat) → Nat → Bool
  | [], _ => false
  | (low, high) :: rest, n => if n ≤ high then low ≤ n else inRanges rest n

end StateOverlay
