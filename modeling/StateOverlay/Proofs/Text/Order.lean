/-
The order of texts.

Texts are sorted by their first differing code point.  UTF-8 keeps that order: a character with a
larger code point has no fewer bytes, and the first byte in which two characters differ is larger in
the larger one.  So texts in code point order are in the order of their bytes, too:

* `leq_antisymm` — two texts that are in order both ways are equal;
* `sixBits`, `utf8EncodeChar_eq` — a character as a first byte and bytes of six bits;
* `utf8EncodeChar_append_lt` — two different characters decide the order of bytes;
* `bytes_lt_iff` — the order of code points is that of the bytes;
* `sort_congr` — the order in which texts come does not matter when they are sorted;
* `pairwise_sort` — different texts are sorted in strictly ascending order.
-/
import Mathlib.Algebra.Group.Nat.Defs
import Mathlib.Data.List.Nodup
import StateOverlay.Text.Bytes

namespace StateOverlay.Text

/-! ### Code points -/

/-- Two texts that are in order both ways are equal. -/
theorem leq_antisymm {s t : Text} (h : leq s t = true) (h' : leq t s = true) : s = t := by
  induction s generalizing t with
  | nil =>
    cases t with
    | nil => rfl
    | cons b t => cases h'
  | cons a s ih =>
    cases t with
    | nil => cases h
    | cons b t =>
      simp only [leq, Bool.or_eq_true, decide_eq_true_eq, Bool.and_eq_true, beq_iff_eq] at h h'
      -- neither of the two first characters comes before the other
      have hfirst : a.toNat = b.toNat := by omega
      have hs : leq s t = true := by
        rcases h with h | h
        · omega
        · exact h.2
      have ht : leq t s = true := by
        rcases h' with h' | h'
        · omega
        · exact h'.2
      rw [Char.toNat_inj.mp hfirst, ih hs ht]

/-! ### Bytes -/

theorem bytes_cons (c : Char) (s : Text) : bytes (c :: s) = String.utf8EncodeChar c ++ bytes s :=
  List.flatMap_cons

/-- A smaller byte comes first, whatever bytes come behind. -/
theorem ofNat_cons_lt {a b : Nat} (h : a < b) (hb : b < 256) (s t : List UInt8) :
    UInt8.ofNat a :: s < UInt8.ofNat b :: t := by
  refine List.cons_lt_cons_iff.mpr (.inl ?_)
  rw [UInt8.lt_iff_toNat_lt, UInt8.toNat_ofNat', UInt8.toNat_ofNat']
  omega

/-- A number as a first byte above a mark and some bytes of six bits each. -/
def sixBits (base mark : Nat) : Nat → Nat → List UInt8
  | 0, v => [UInt8.ofNat (v % base + mark)]
  | n + 1, v => sixBits base mark n (v / 64) ++ [UInt8.ofNat (v % 64 + 128)]

/-- Of two numbers with as many bytes the smaller comes first. -/
theorem sixBits_append_lt {base mark n v w : Nat} (h : v < w) (hw : w < base * 64 ^ n)
    (hmark : base + mark ≤ 256) (s t : List UInt8) :
    sixBits base mark n v ++ s < sixBits base mark n w ++ t := by
  induction n generalizing v w s t with
  | zero =>
    rw [Nat.pow_zero, Nat.mul_one] at hw
    have hv : v % base = v := Nat.mod_eq_of_lt (Nat.lt_trans h hw)
    have hw' : w % base = w := Nat.mod_eq_of_lt hw
    rw [sixBits, sixBits, hv, hw']
    exact ofNat_cons_lt (by omega) (by omega) s t
  | succ n ih =>
    rw [sixBits, sixBits, List.append_assoc, List.append_assoc]
    by_cases hlt : v / 64 < w / 64
    · rw [Nat.pow_succ, ← Nat.mul_assoc, Nat.mul_comm] at hw
      exact ih hlt (Nat.div_lt_of_lt_mul hw) _ _
    · -- all but the last six bits are the same
      have hsame : v / 64 = w / 64 := by omega
      rw [hsame]
      exact List.append_left_lt (ofNat_cons_lt (by omega) (by omega) s t)

theorem exists_sixBits_eq_cons {base : Nat} (hbase : 0 < base) (mark n v : Nat) :
    ∃ first rest, first < base ∧ sixBits base mark n v = UInt8.ofNat (first + mark) :: rest := by
  induction n generalizing v with
  | zero => exact ⟨v % base, [], Nat.mod_lt v hbase, rfl⟩
  | succ n ih =>
    obtain ⟨first, rest, hfirst, hbits⟩ := ih (v / 64)
    exact ⟨first, rest ++ [UInt8.ofNat (v % 64 + 128)], hfirst, by rw [sixBits, hbits]; rfl⟩

/-- The number with the higher mark comes last. -/
theorem sixBits_append_lt_of_mark {base mark base' mark' : Nat} (h : base + mark ≤ mark')
    (hbase : 0 < base) (hbase' : 0 < base') (hmark : base' + mark' ≤ 256) {n m v w : Nat}
    (s t : List UInt8) : sixBits base mark n v ++ s < sixBits base' mark' m w ++ t := by
  obtain ⟨first, rest, hfirst, hbits⟩ := exists_sixBits_eq_cons hbase mark n v
  obtain ⟨first', rest', hfirst', hbits'⟩ := exists_sixBits_eq_cons hbase' mark' m w
  rw [hbits, hbits']
  exact ofNat_cons_lt (by omega) (by omega) _ _

/-- The bytes of a character, by how many there are. -/
theorem utf8EncodeChar_eq (c : Char) :
    String.utf8EncodeChar c =
      if c.toNat ≤ 0x7F then sixBits 128 0 0 c.toNat
      else if c.toNat ≤ 0x7FF then sixBits 32 192 1 c.toNat
      else if c.toNat ≤ 0xFFFF then sixBits 16 224 2 c.toNat
      else sixBits 8 240 3 c.toNat := by
  show (if c.toNat ≤ 127 then _ else _) = _
  simp only [sixBits, Nat.div_div_eq_div_mul, Nat.add_zero]
  by_cases hone : c.toNat ≤ 127
  · rw [if_pos hone, if_pos hone, Nat.mod_eq_of_lt (by omega)]
    rfl
  · rw [if_neg hone, if_neg hone]
    rfl

/-- The character with the smaller code point comes first, whatever bytes come behind. -/
theorem utf8EncodeChar_append_lt {c d : Char} (h : c.toNat < d.toNat) (s t : List UInt8) :
    String.utf8EncodeChar c ++ s < String.utf8EncodeChar d ++ t := by
  have hlast : d.toNat < 0x110000 := by
    have hvalid := d.valid
    simp only [UInt32.isValidChar, Nat.isValidChar] at hvalid
    show d.val.toNat < _
    omega
  rw [utf8EncodeChar_eq, utf8EncodeChar_eq]
  -- with as many bytes the six bits decide, and with more of them the mark is higher
  by_cases hone : d.toNat ≤ 0x7F
  · rw [if_pos hone, if_pos (show c.toNat ≤ 0x7F by omega)]
    exact sixBits_append_lt h (by omega) (by omega) s t
  rw [if_neg hone]
  by_cases htwo : d.toNat ≤ 0x7FF
  · rw [if_pos htwo, if_pos (show c.toNat ≤ 0x7FF by omega)]
    split
    · exact sixBits_append_lt_of_mark (by omega) (by omega) (by omega) (by omega) s t
    · exact sixBits_append_lt h (by omega) (by omega) s t
  rw [if_neg htwo]
  by_cases hthree : d.toNat ≤ 0xFFFF
  · rw [if_pos hthree, if_pos (show c.toNat ≤ 0xFFFF by omega)]
    repeat' split
    · exact sixBits_append_lt_of_mark (by omega) (by omega) (by omega) (by omega) s t
    · exact sixBits_append_lt_of_mark (by omega) (by omega) (by omega) (by omega) s t
    · exact sixBits_append_lt h (by omega) (by omega) s t
  · rw [if_neg hthree]
    repeat' split
    · exact sixBits_append_lt_of_mark (by omega) (by omega) (by omega) (by omega) s t
    · exact sixBits_append_lt_of_mark (by omega) (by omega) (by omega) (by omega) s t
    · exact sixBits_append_lt_of_mark (by omega) (by omega) (by omega) (by omega) s t
    · exact sixBits_append_lt h (by omega) (by omega) s t

/-- Different texts in the order of code points are in the order of their bytes. -/
theorem bytes_lt_of_leq {s t : Text} (h : leq s t = true) (hne : s ≠ t) :
    bytes s < bytes t := by
  induction s generalizing t with
  | nil =>
    cases t with
    | nil => exact absurd rfl hne
    | cons b t =>
      rw [bytes_cons]
      obtain ⟨first, rest, hfirst⟩ := List.exists_cons_of_ne_nil (@String.utf8EncodeChar_ne_nil b)
      rw [hfirst]
      exact List.nil_lt_cons _ _
  | cons a s ih =>
    cases t with
    | nil => cases h
    | cons b t =>
      rw [bytes_cons, bytes_cons]
      simp only [leq, Bool.or_eq_true, decide_eq_true_eq, Bool.and_eq_true, beq_iff_eq] at h
      rcases h with hlt | ⟨hsame, hst⟩
      · exact utf8EncodeChar_append_lt hlt _ _
      · obtain rfl := Char.toNat_inj.mp hsame
        exact List.append_left_lt (ih hst fun heq => hne (by rw [heq]))

/-- **The order of code points is the order of bytes**: a text has the smaller bytes exactly if it
comes first and is another text. -/
theorem bytes_lt_iff {s t : Text} : bytes s < bytes t ↔ leq s t = true ∧ s ≠ t := by
  constructor
  · intro hlt
    have hne : s ≠ t := by
      rintro rfl
      exact List.lt_irrefl _ hlt
    refine ⟨?_, hne⟩
    by_contra hleq
    -- then the texts are in order the other way round, and so are their bytes
    have htotal := leq_total t s
    rw [Bool.not_eq_true] at hleq
    rw [hleq, Bool.or_false] at htotal
    exact List.lt_asymm hlt (bytes_lt_of_leq htotal hne.symm)
  · rintro ⟨hleq, hne⟩
    exact bytes_lt_of_leq hleq hne

/-! ### Sorting -/

theorem sort_perm (texts : List Text) : (sort texts).Perm texts := List.mergeSort_perm texts leq

/-- Texts in order are what all their permutations are sorted to. -/
theorem sort_eq_of_pairwise {texts sorted : List Text} (h : texts.Perm sorted)
    (hsorted : sorted.Pairwise fun s t => leq s t = true) : sort texts = sorted :=
  ((sort_perm texts).trans h).eq_of_pairwise (fun _ _ _ _ hst hts => leq_antisymm hst hts)
    (List.pairwise_mergeSort leq_trans leq_total texts) hsorted

/-- The order in which texts come does not matter when they are sorted. -/
theorem sort_congr {texts others : List Text} (h : texts.Perm others) :
    sort texts = sort others :=
  sort_eq_of_pairwise (h.trans (sort_perm others).symm)
    (List.pairwise_mergeSort leq_trans leq_total others)

/-- Different texts are sorted in the strictly ascending order of their bytes. -/
theorem pairwise_sort {texts : List Text} (h : texts.Nodup) :
    (sort texts).Pairwise fun s t => bytes s < bytes t := by
  have hsorted : (sort texts).Pairwise fun s t => leq s t = true :=
    List.pairwise_mergeSort leq_trans leq_total texts
  have hdistinct : (sort texts).Pairwise (· ≠ ·) := (sort_perm texts).nodup_iff.mpr h
  exact (hsorted.and hdistinct).imp fun hst => bytes_lt_iff.mpr hst

end StateOverlay.Text
