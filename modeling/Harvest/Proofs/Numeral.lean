import Harvest.Text.Numeral

/-!
# Written numbers read back

A reader is given the bound of a word, a writer is not. Within the bound the two are inverse: the
digits of a number denote that number, and a sign in front is read as it was written. These are the
laws that counts, times and lengths in a version token rest on.
-/

namespace Harvest.Text

/-! ## Digits -/

theorem digit?_digitChar {n : Nat} (h : n < 10) : digit? 10 n.digitChar = some n := by
  have hdigit : n.digitChar.isDigit = true := by rw [Nat.isDigit_digitChar, decide_eq_true h]
  unfold digit?
  rw [if_pos hdigit, Nat.toNat_digitChar_of_lt_ten h]
  have hv : 48 + n - '0'.toNat = n := by simp
  simp only [hv, if_pos h]

/-- Digits that follow each other are read one part after the other. -/
theorem digitsFrom?_append (base : Nat) : ∀ (acc : Nat) (cs ds : List Char),
    digitsFrom? base acc (cs ++ ds) = (digitsFrom? base acc cs).bind (digitsFrom? base · ds)
  | _, [], _ => rfl
  | acc, c :: cs, ds => by
      rw [List.cons_append, digitsFrom?, digitsFrom?]
      cases digit? base c with
      | none => rfl
      | some d => exact digitsFrom?_append base _ cs ds

/-- The induction drops the last digit, which is how the writer finds the ones before it. -/
theorem digitsFrom?_decimal (n : Nat) : digitsFrom? 10 0 (decimal n) = some n := by
  induction n using Nat.strongRecOn with
  | ind n ih =>
    unfold decimal
    by_cases h : n < 10
    · rw [Nat.toDigits_of_lt_base h, digitsFrom?, digit?_digitChar h]
      simp [digitsFrom?]
    · rw [Nat.toDigits_of_base_le (by omega) (by omega), digitsFrom?_append]
      have hrec : digitsFrom? 10 0 (Nat.toDigits 10 (n / 10)) = some (n / 10) :=
        ih (n / 10) (by omega)
      rw [hrec, Option.bind_some, digitsFrom?, digit?_digitChar (Nat.mod_lt n (by omega))]
      simp only [digitsFrom?, Option.some.injEq]
      omega

theorem decimal_ne_nil (n : Nat) : decimal n ≠ [] := Nat.toDigits_ne_nil

theorem digits?_decimal (n : Nat) : digits? 10 (decimal n) = some n := by
  unfold digits?
  split
  · rename_i h; exact absurd h (decimal_ne_nil n)
  · exact digitsFrom?_decimal n

/-- A written number starts with a digit, never with a sign. -/
theorem decimal_eq_cons (n : Nat) : ∃ c cs, decimal n = c :: cs ∧ c ≠ '+' ∧ c ≠ '-' := by
  cases h : decimal n with
  | nil => exact absurd h (decimal_ne_nil n)
  | cons c cs =>
      have hd : c.isDigit = true :=
        Nat.isDigit_of_mem_toDigits (b := 10) (n := n) (by decide) (by decide)
          (by rw [show Nat.toDigits 10 n = c :: cs from h]; exact List.mem_cons_self)
      refine ⟨c, cs, rfl, ?_, ?_⟩
      · rintro rfl; exact absurd hd (by decide)
      · rintro rfl; exact absurd hd (by decide)

/-- Numbers that are written alike are alike. -/
theorem decimal_injective {m n : Nat} (h : decimal m = decimal n) : m = n := by
  have hm := digits?_decimal m
  rw [h, digits?_decimal n] at hm
  exact (Option.some.inj hm).symm

/-- Further digits make a number no smaller. -/
theorem le_of_digitsFrom? {base n : Nat} (hbase : 1 ≤ base) : ∀ {acc : Nat} {cs : List Char},
    digitsFrom? base acc cs = some n → acc ≤ n
  | _, [], h => Nat.le_of_eq (Option.some.inj h)
  | acc, c :: cs, h => by
      rw [digitsFrom?] at h
      cases hd : digit? base c with
      | none => rw [hd] at h; cases h
      | some d =>
          rw [hd] at h
          have hle := le_of_digitsFrom? hbase h
          have hmul : acc * 1 ≤ acc * base := Nat.mul_le_mul_left acc hbase
          omega

/-! ## Words -/

theorem natural?_decimal {n max : Nat} (h : n ≤ max) : natural? max (decimal n) = some n := by
  obtain ⟨c, cs, heq, hplus, _⟩ := decimal_eq_cons n
  have hbody : natural? max (decimal n) = (digits? 10 (decimal n)).filter (· ≤ max) := by
    -- a leading digit is not taken for a sign
    rw [heq]
    unfold natural?
    split
    · rename_i hc; exact absurd (List.cons.inj hc).1 hplus
    · rfl
  rw [hbody, digits?_decimal]
  simp [h]

/-- What is left of a written number that breaks off is a smaller number, unless nothing is left. -/
theorem natural?_of_prefix {n max : Nat} (h : n ≤ max) {cut : List Char} (hcut : cut <+: decimal n)
    (hne : cut ≠ []) : ∃ m, natural? max cut = some m := by
  obtain ⟨c, cs, heq, hplus, _⟩ := decimal_eq_cons n
  obtain ⟨more, hmore⟩ := hcut
  cases cut with
  | nil => exact absurd rfl hne
  | cons c' cut =>
      obtain rfl : c' = c := by
        rw [heq] at hmore
        exact (List.cons.inj hmore).1
      have hall := digitsFrom?_decimal n
      rw [← hmore, digitsFrom?_append] at hall
      obtain ⟨m, hm, hrest⟩ := Option.bind_eq_some_iff.mp hall
      have hle : m ≤ max := Nat.le_trans (le_of_digitsFrom? (by decide) hrest) h
      refine ⟨m, ?_⟩
      -- the first digit is not taken for a sign
      unfold natural?
      split
      · rename_i hc
        exact absurd (List.cons.inj hc).1 hplus
      · exact Option.filter_eq_some_iff.mpr ⟨hm, decide_eq_true hle⟩

theorem signedDecimal_ofNat (n : Nat) : signedDecimal (Int.ofNat n) = decimal n := rfl

theorem integer?_signedDecimal {min max i : Int} (hmin : min ≤ i) (hmax : i ≤ max) :
    integer? min max (signedDecimal i) = some i := by
  cases i with
  | ofNat n =>
      obtain ⟨c, cs, heq, hplus, hminus⟩ := decimal_eq_cons n
      have hvalue : integer? min max (decimal n) =
          ((digits? 10 (decimal n)).map Int.ofNat).filter (fun k => min ≤ k ∧ k ≤ max) := by
        rw [heq]
        unfold integer?
        split
        · rename_i hc; exact absurd (List.cons.inj hc).1 hplus
        · rename_i hc; exact absurd (List.cons.inj hc).1 hminus
        · rfl
      rw [signedDecimal_ofNat, hvalue, digits?_decimal]
      simp only [Option.map_some]
      exact Option.filter_eq_some_iff.mpr ⟨rfl, by simpa using ⟨hmin, hmax⟩⟩
  | negSucc n =>
      -- the sign is read first, and the digits of the absolute value behind it
      rw [signedDecimal, integer?, digits?_decimal]
      have hneg : (-Int.ofNat (n + 1)) = Int.negSucc n := rfl
      simp only [Option.map_some, hneg]
      exact Option.filter_eq_some_iff.mpr ⟨rfl, by simpa using ⟨hmin, hmax⟩⟩

/-- Integers that are written alike are alike. -/
theorem signedDecimal_injective {i j : Int} (h : signedDecimal i = signedDecimal j) : i = j := by
  have hi := integer?_signedDecimal (Int.min_le_left i j) (Int.le_max_left i j)
  have hj := integer?_signedDecimal (Int.min_le_right i j) (Int.le_max_right i j)
  rw [h, hj] at hi
  exact (Option.some.inj hi).symm

/-- A word of 64 bits is read back from its digits. -/
theorem uint64?_decimal (n : UInt64) : uint64? (decimal n.toNat) = some n := by
  have hn : n.toNat ≤ UInt64.size - 1 := by have := n.toNat_lt_size; omega
  rw [uint64?, natural?_decimal hn]
  simp

/-- A signed word of 64 bits is read back from its digits. -/
theorem int64?_signedDecimal (n : Int64) : int64? (signedDecimal n.toInt) = some n := by
  rw [int64?, integer?_signedDecimal n.minValue_le_toInt n.toInt_le]
  simp

end Harvest.Text
