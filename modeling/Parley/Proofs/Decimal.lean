/-
Written integers: what they are made of, and that reading gives them back.

`natural` is read back digit by digit (`digitsValue?_natural`), so no two
numbers are written alike (`integer_injective`), and a written integer is
read as 64 bits exactly when it fits (`readInt64_integer`).
-/
import Parley.Text.Decimal

namespace Parley.Text

/-! ## Digits -/

theorem digitValue?_digit {n : Nat} (h : n < 10) : digitValue? (digit n) = some n := by
  have all : ∀ k ∈ List.range 10, digitValue? (digit k) = some k := by decide
  exact all n (List.mem_range.mpr h)

theorem digitsFrom_append (v : Nat) (s t : List Char) :
    digitsFrom v (s ++ t) = (digitsFrom v s).bind fun w => digitsFrom w t := by
  induction s generalizing v with
  | nil => rfl
  | cons c s ih =>
    simp only [List.cons_append, digitsFrom]
    cases digitValue? c with
    | none => rfl
    | some d => exact ih _

theorem digitsFrom_natural (n : Nat) : digitsFrom 0 (natural n) = some n := by
  induction n using Nat.strongRecOn with
  | ind n ih =>
    rw [natural]
    split
    · next h => simp [digitsFrom, digitValue?_digit h]
    · next h =>
      have hd : n % 10 < 10 := Nat.mod_lt _ (by omega)
      rw [digitsFrom_append, ih (n / 10) (by omega)]
      simp only [Option.bind_some, digitsFrom, digitValue?_digit hd]
      congr 1
      omega

theorem mem_natural {n : Nat} {c : Char} (h : c ∈ natural n) : ∃ d < 10, c = digit d := by
  induction n using Nat.strongRecOn with
  | ind n ih =>
    rw [natural] at h
    split at h
    · next hn => exact ⟨n, hn, by simpa using h⟩
    · next hn =>
      rcases List.mem_append.mp h with h | h
      · exact ih (n / 10) (by omega) h
      · exact ⟨n % 10, Nat.mod_lt _ (by omega), by simpa using h⟩

theorem natural_ne_nil (n : Nat) : natural n ≠ [] := by
  rw [natural]
  split <;> simp

theorem natural_injective {m n : Nat} (h : natural m = natural n) : m = n := by
  have := (digitsFrom_natural m).symm.trans (h ▸ digitsFrom_natural n)
  simpa using this

theorem digitsValue?_natural (n : Nat) : digitsValue? (natural n) = some n := by
  obtain ⟨c, s, h⟩ := List.exists_cons_of_ne_nil (natural_ne_nil n)
  have hn := digitsFrom_natural n
  rw [h] at hn ⊢
  exact hn

/-! ## Marks -/

theorem not_mem_natural {n : Nat} {c : Char} (h : isDigit c = false) : c ∉ natural n := by
  intro hc
  obtain ⟨d, hd, rfl⟩ := mem_natural hc
  rw [isDigit, digitValue?_digit hd] at h
  simp at h

theorem isDigit_of_mem_natural {n : Nat} {c : Char} (h : c ∈ natural n) : isDigit c = true := by
  cases hdigit : isDigit c with
  | true => rfl
  | false => exact absurd h (not_mem_natural hdigit)

theorem not_mem_integer {i : Int} {c : Char} (h : isDigit c = false) (hm : c ≠ '-') :
    c ∉ integer i := by
  cases i with
  | ofNat n => exact not_mem_natural h
  | negSucc n =>
    simp only [integer, List.mem_cons, not_or]
    exact ⟨hm, not_mem_natural h⟩

theorem mem_integer {i : Int} {c : Char} (h : c ∈ integer i) : isDigit c = true ∨ c = '-' := by
  cases hdigit : isDigit c with
  | true => exact .inl rfl
  | false =>
    by_cases hminus : c = '-'
    · exact .inr hminus
    · exact absurd h (not_mem_integer hdigit hminus)

theorem integer_injective {i j : Int} (h : integer i = integer j) : i = j := by
  have minus : ∀ m n : Nat, natural m ≠ '-' :: natural n := by
    intro m n h
    exact not_mem_natural (n := m) (c := '-') (by decide) (h ▸ List.mem_cons_self)
  cases i with
  | ofNat m =>
    cases j with
    | ofNat n => exact congrArg Int.ofNat (natural_injective h)
    | negSucc n => exact absurd h (minus m (n + 1))
  | negSucc m =>
    cases j with
    | ofNat n => exact absurd h.symm (minus n (m + 1))
    | negSucc n =>
      have := natural_injective (List.cons.inj h).2
      rw [Nat.add_right_cancel this]

/-! ## Reading back -/

theorem read_natural (r : IntRange) (n : Nat) : r.read (natural n) = r.check n := by
  have hplus : '+' ∉ natural n := not_mem_natural (by decide)
  have hminus : '-' ∉ natural n := not_mem_natural (by decide)
  have hread : r.read (natural n) = (digitsValue? (natural n)).bind fun k => r.check k := by
    rw [IntRange.read]
    · rintro s hs
      exact hplus (hs ▸ List.mem_cons_self)
    · rintro s hs
      exact hminus (hs ▸ List.mem_cons_self)
  rw [hread, digitsValue?_natural, Option.bind_some]

theorem read_negative {r : IntRange} (h : r.least < 0) (n : Nat) :
    r.read ('-' :: natural n) = r.check (-(n : Int)) := by
  simp only [IntRange.read, h, if_true, digitsValue?_natural, Option.bind_some]

theorem readInt64_integer (i : Int) : readInt64 (integer i) = IntRange.int64.check i := by
  have hneg : IntRange.int64.least < 0 := by simp [IntRange.int64]
  unfold readInt64
  generalize IntRange.int64 = r at hneg
  cases i with
  | ofNat n => exact read_natural r n
  | negSucc n => exact read_negative hneg (n + 1)

theorem IntRange.contains_iff {r : IntRange} {i : Int} :
    r.contains i = true ↔ r.least ≤ i ∧ i ≤ r.greatest := by
  simp only [IntRange.contains, Bool.and_eq_true, decide_eq_true_eq]

theorem IntRange.bounds_of_check {r : IntRange} {i j : Int} (h : r.check i = some j) :
    r.least ≤ j ∧ j ≤ r.greatest := by
  unfold check at h
  split at h
  · next hc => exact Option.some.inj h ▸ contains_iff.mp hc
  · cases h

theorem readInt64_bounds {s : List Char} {i : Int} (h : readInt64 s = some i) :
    IntRange.int64.least ≤ i ∧ i ≤ IntRange.int64.greatest := by
  unfold readInt64 IntRange.read at h
  split at h
  · obtain ⟨n, -, hn⟩ := Option.bind_eq_some_iff.mp h
    exact IntRange.bounds_of_check hn
  · split at h
    · obtain ⟨n, -, hn⟩ := Option.bind_eq_some_iff.mp h
      exact IntRange.bounds_of_check hn
    · cases h
  · obtain ⟨n, -, hn⟩ := Option.bind_eq_some_iff.mp h
    exact IntRange.bounds_of_check hn

theorem readInt64_integer_of_pos {i : Int} (h : 0 < i) (hi : i ≤ IntRange.int64.greatest) :
    readInt64 (integer i) = some i := by
  have hc : IntRange.int64.contains i = true := by
    rw [IntRange.contains_iff]
    simp only [IntRange.int64] at hi ⊢
    omega
  rw [readInt64_integer, IntRange.check, if_pos hc]

end Parley.Text
