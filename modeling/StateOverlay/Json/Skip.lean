/-
Skipping a value of any kind.

`skipValue` reads a value only to find its end.  It keeps the brackets that are open in a list, the
innermost first, so that its depth is no depth of recursion and the text left is all that has to
grow shorter.
-/
import StateOverlay.Json.Scalar

namespace StateOverlay.Json

/-- A bracket that is open. -/
inductive Bracket where
  | list
  | object
deriving DecidableEq

/-- The bracket that a character opens. -/
def Bracket.openedBy? (c : Char) : Option Bracket :=
  if c = '[' then some .list else if c = '{' then some .object else none

/-- The problem of a text that ends inside a bracket. -/
def Bracket.atEnd : Bracket → Problem
  | .list => .endInList
  | .object => .endInObject

/-- The problem of a text where a bracket's next item or its end is missing. -/
def Bracket.unexpected : Bracket → Problem
  | .list => .expectedListEnd
  | .object => .expectedObjectEnd

/-- The character that closes a bracket. -/
def Bracket.closing : Bracket → Char
  | .list => ']'
  | .object => '}'

/-- What follows a key and its colon, if the item of a bracket has one. -/
def skipKey (bracket : Bracket) (s : Text) : Except Fault Text :=
  match bracket with
  | .list => .ok s
  | .object =>
    match skipSpaces s with
    | [] => failAt .endInObject [] 0
    | '"' :: rest =>
      match skipString rest with
      | .error fault => .error fault
      | .ok rest =>
        match skipSpaces rest with
        | [] => failAt .endInObject [] 0
        | ':' :: rest => .ok rest
        | rest => failAt .expectedColon rest 1
    | rest => failAt .keyNotString rest 1

/-- Skipping spaces makes no text longer. -/
theorem length_of_skipSpaces {s t : Text} (h : skipSpaces s = t) : t.length ≤ s.length :=
  h ▸ length_skipSpaces s

/-- Skipping a key makes no text longer. -/
theorem length_of_skipKey {bracket : Bracket} {s rest : Text} (h : skipKey bracket s = .ok rest) :
    rest.length ≤ s.length := by
  simp only [skipKey] at h
  split at h
  · cases h
    exact Nat.le_refl _
  · split at h
    · cases h
    · next tail htail =>
      have htail := length_of_skipSpaces htail
      split at h
      · cases h
      · next after hstring =>
        have hstring := length_of_skipString hstring
        split at h
        · cases h
        · next tail' htail' =>
          have htail' := length_of_skipSpaces htail'
          cases h
          simp only [List.length_cons] at htail htail'
          omega
        · cases h
    · cases h

mutual

/-- Skips a value, and then the rest of the brackets open around it. -/
def skipValue (stack : List Bracket) (s : Text) : Except Fault Text :=
  match _hs : skipSpaces s with
  | [] => failAt .endInValue [] 0
  | c :: rest =>
    match Bracket.openedBy? c with
    | some bracket =>
      match _hrest : skipSpaces rest with
      | [] => failAt bracket.atEnd [] 0
      | d :: inside =>
        if d = bracket.closing then skipOut stack inside
        else
          match _hkey : skipKey bracket (d :: inside) with
          | .error fault => .error fault
          | .ok item => skipValue (bracket :: stack) item
    | none =>
      match _hscalar : skipScalar (c :: rest) with
      | .error fault => .error fault
      | .ok after => skipOut stack after
termination_by s.length
decreasing_by
  · have := length_of_skipSpaces _hs
    have := length_of_skipSpaces _hrest
    simp only [List.length_cons] at *
    omega
  · have := length_of_skipSpaces _hs
    have := length_of_skipSpaces _hrest
    have := length_of_skipKey _hkey
    simp only [List.length_cons] at *
    omega
  · have := length_of_skipSpaces _hs
    have := length_of_skipScalar _hscalar
    omega

/-- Skips the rest of some open brackets, the innermost of which holds the item just read. -/
def skipOut (stack : List Bracket) (s : Text) : Except Fault Text :=
  match stack with
  | [] => .ok s
  | bracket :: stack =>
    match _hs : skipSpaces s with
    | [] => failAt bracket.atEnd [] 0
    | c :: rest =>
      if c = bracket.closing then skipOut stack rest
      else if c = ',' then
        match _hkey : skipKey bracket rest with
        | .error fault => .error fault
        | .ok item => skipValue (bracket :: stack) item
      else failAt bracket.unexpected (c :: rest) 1
termination_by s.length
decreasing_by
  · have := length_of_skipSpaces _hs
    simp only [List.length_cons] at *
    omega
  · have := length_of_skipSpaces _hs
    have := length_of_skipKey _hkey
    simp only [List.length_cons] at *
    omega

end

/-- Both halves of the skipping leave less, by induction on a bound of the length. -/
theorem length_of_skip (n : Nat) :
    (∀ stack s rest, s.length ≤ n → skipValue stack s = .ok rest → rest.length < s.length) ∧
      ∀ stack s rest, s.length ≤ n → skipOut stack s = .ok rest → rest.length ≤ s.length := by
  induction n with
  | zero =>
    refine ⟨fun stack s rest hn h => ?_, fun stack s rest hn h => ?_⟩
    all_goals obtain rfl := List.length_eq_zero_iff.mp (Nat.le_zero.mp hn)
    · rw [skipValue] at h
      cases h
    · rw [skipOut.eq_def] at h
      cases stack <;> cases h
      exact Nat.le_refl _
  | succ n ih =>
    obtain ⟨ihValue, ihOut⟩ := ih
    refine ⟨fun stack s rest hn h => ?_, fun stack s rest hn h => ?_⟩
    · rw [skipValue] at h
      split at h
      · cases h
      · next c tail htail =>
        have htail := length_of_skipSpaces htail
        simp only [List.length_cons] at htail
        split at h
        · split at h
          · cases h
          · next d inside hinside =>
            have hinside := length_of_skipSpaces hinside
            simp only [List.length_cons] at hinside
            split at h
            · have := ihOut _ _ _ (by omega) h
              omega
            · split at h
              · cases h
              · next item hkey =>
                have hkey := length_of_skipKey hkey
                simp only [List.length_cons] at hkey
                have := ihValue _ _ _ (by omega) h
                omega
        · split at h
          · cases h
          · next after hscalar =>
            have hscalar := length_of_skipScalar hscalar
            simp only [List.length_cons] at hscalar
            have := ihOut _ _ _ (by omega) h
            omega
    · rw [skipOut.eq_def] at h
      split at h
      · cases h
        exact Nat.le_refl _
      · next bracket stack =>
        split at h
        · cases h
        · next c tail htail =>
          have htail := length_of_skipSpaces htail
          simp only [List.length_cons] at htail
          split at h
          · have := ihOut _ _ _ (by omega) h
            omega
          · split at h
            · split at h
              · cases h
              · next item hkey =>
                have hkey := length_of_skipKey hkey
                have := ihValue _ _ _ (by omega) h
                omega
            · cases h

/-- A skipped value leaves less. -/
theorem length_of_skipValue {stack : List Bracket} {s rest : Text}
    (h : skipValue stack s = .ok rest) : rest.length < s.length :=
  (length_of_skip s.length).1 stack s rest (Nat.le_refl _) h

end StateOverlay.Json
