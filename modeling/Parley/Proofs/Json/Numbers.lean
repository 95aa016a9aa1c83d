/-
Which words and numbers reading comes to.

A whole number is read only if it fits 64 bits with or without its sign
(`scalar?_fits`), and each number of that range is read back from its
decimal text (`scalar?_writeScalar`).
-/
import Mathlib.Data.List.TakeWhile
import Parley.Json.Writer
import Parley.Proofs.Decimal

namespace Parley.Json

open Text (IntRange digit digitValue? digitsFrom isDigit natural integer)

/-- What a word or number can stand for: a whole number must fit 64 bits with
or without its sign. -/
def Fits : Json → Prop
  | .null | .bool _ | .double _ => True
  | .int i => IntRange.int64.least ≤ i ∧ i ≤ IntRange.word64.greatest
  | _ => False

/-! ## What is read fits -/

theorem takeWhole_le {x : Decimal} (h : x.significand ≤ greatestSignificand) (s : List Char) :
    (x.takeWhole s).significand ≤ greatestSignificand := by
  induction s generalizing x with
  | nil => exact h
  | cons c s ih =>
    simp only [Decimal.takeWhole]
    split
    · next hfits => exact ih hfits.2
    · exact ih h

theorem toDouble_fits {negative : Bool} {x : Decimal} {v : Json}
    (h : x.toDouble negative = .value v) : v.Fits := by
  unfold Decimal.toDouble at h
  split at h
  · cases h
    trivial
  · cases h

theorem toWhole_fits {negative : Bool} {x : Decimal} {v : Json}
    (hx : x.significand ≤ greatestSignificand) (h : x.toWhole negative = .value v) : v.Fits := by
  unfold Decimal.toWhole at h
  simp only at h
  generalize hvalue : (if negative then -(x.significand : Int) else x.significand) = value at h
  have hupper : value ≤ IntRange.word64.greatest := by
    unfold greatestSignificand at hx
    simp only [← hvalue, IntRange.word64]
    split <;> omega
  by_cases hrange : x.power = 0 ∧ -0x8000000000000000 ≤ value ∧ ¬(negative ∧ x.significand = 0)
  · rw [if_pos hrange] at h
    cases h
    exact ⟨hrange.2.1, hupper⟩
  · rw [if_neg hrange] at h
    exact toDouble_fits h

theorem withExponent_fits {negative down : Bool} {x : Decimal} {exponent : List Char} {v : Json}
    (h : x.withExponent negative down exponent = some (.value v)) : v.Fits := by
  obtain ⟨e, -, h⟩ := Option.bind_eq_some_iff.mp h
  split at h
  · exact toDouble_fits (Option.some.inj h)
  split at h
  · cases h
    trivial
  · cases h

theorem readExponent_fits {negative : Bool} {x : Decimal} {s : List Char} {v : Json}
    (h : x.readExponent negative s = some (.value v)) : v.Fits := by
  cases s with
  | nil => exact toDouble_fits (Option.some.inj h)
  | cons mark s =>
    simp only [Decimal.readExponent] at h
    split at h
    · split at h
      all_goals exact withExponent_fits h
    · cases h

theorem readMagnitude_fits {negative : Bool} {s : List Char} {v : Json}
    (h : readMagnitude negative s = some (.value v)) : v.Fits := by
  unfold readMagnitude at h
  simp only at h
  split at h
  · split at h
    · exact toWhole_fits (takeWhole_le (Nat.zero_le _) _) (Option.some.inj h)
    · split at h
      · cases h
      · exact readExponent_fits h
    · exact readExponent_fits h
  · cases h

theorem readNumber_fits {s : List Char} {v : Json} (h : readNumber s = some (.value v)) : v.Fits := by
  unfold readNumber at h
  split at h
  all_goals exact readMagnitude_fits h

theorem scalar?_fits {run : List Char} {v : Json} (h : scalar? run = some (.scalar v)) : v.Fits := by
  unfold scalar? at h
  split at h
  · cases h
    trivial
  split at h
  · cases h
    trivial
  split at h
  · cases h
    trivial
  · obtain ⟨outcome, houtcome, hv⟩ := Option.map_eq_some_iff.mp h
    cases outcome with
    | value w =>
      cases hv
      exact readNumber_fits houtcome
    | failed => cases hv

/-! ## What is written is read back -/

theorem digitsFrom_le {s : List Char} {m n : Nat} (h : digitsFrom m s = some n) : m ≤ n := by
  induction s generalizing m with
  | nil => exact Nat.le_of_eq (Option.some.inj h)
  | cons c s ih =>
    rw [digitsFrom] at h
    split at h
    · exact Nat.le_trans (by omega) (ih h)
    · cases h

theorem takeWhole_eq {s : List Char} {m n : Nat} (h : digitsFrom m s = some n)
    (hn : n ≤ greatestSignificand) : Decimal.takeWhole ⟨m, 0⟩ s = ⟨n, 0⟩ := by
  induction s generalizing m with
  | nil => rw [Decimal.takeWhole, Option.some.inj h]
  | cons c s ih =>
    rw [digitsFrom] at h
    split at h
    · next d hd =>
      have hlonger : 10 * m + d ≤ greatestSignificand := Nat.le_trans (digitsFrom_le h) hn
      simp only [Decimal.takeWhole, hd, Option.getD_some, hlonger, and_self, if_true]
      exact ih h
    · cases h

theorem natural_eq_zero {n : Nat} {s : List Char} (h : natural n = '0' :: s) : n = 0 ∧ s = [] := by
  induction n using Nat.strongRecOn generalizing s with
  | ind n ih =>
    rw [natural] at h
    split at h
    · next hn =>
      obtain ⟨hdigit, hs⟩ := List.cons.inj h
      have hvalue : digitValue? (digit n) = some 0 := by
        rw [hdigit]
        rfl
      rw [Text.digitValue?_digit hn] at hvalue
      exact ⟨Option.some.inj hvalue, hs.symm⟩
    · next hn =>
      -- The digits in front of the last one begin with a zero as well.
      obtain ⟨c, front, hfront⟩ := List.exists_cons_of_ne_nil (Text.natural_ne_nil (n / 10))
      rw [hfront, List.cons_append] at h
      have hzero := (ih (n / 10) (by omega) (hfront.trans (by rw [(List.cons.inj h).1]))).1
      omega

theorem wellFormedWhole_natural (n : Nat) : wellFormedWhole (natural n) = true := by
  unfold wellFormedWhole
  split
  · next h => exact absurd h (Text.natural_ne_nil n)
  · rfl
  · next s hne h =>
    obtain ⟨-, hs⟩ := natural_eq_zero h
    exact (hne (by rw [hs])).elim
  · rfl

theorem readMagnitude_natural (negative : Bool) {n : Nat} (h : n ≤ greatestSignificand) :
    readMagnitude negative (natural n) = some (Decimal.toWhole negative ⟨n, 0⟩) := by
  have hdigits : ∀ c ∈ natural n, isDigit c = true := fun _ => Text.isDigit_of_mem_natural
  have htake : (natural n).takeWhile isDigit = natural n := List.takeWhile_eq_self_iff.mpr hdigits
  have hdrop : (natural n).dropWhile isDigit = [] := List.dropWhile_eq_nil_iff.mpr hdigits
  simp only [readMagnitude, htake, hdrop, wellFormedWhole_natural, if_true,
    takeWhole_eq (Text.digitsFrom_natural n) h]

theorem readNumber_integer {i : Int} (h : (Json.int i).Fits) :
    readNumber (integer i) = some (.value (.int i)) := by
  obtain ⟨hleast, hgreatest⟩ := h
  simp only [IntRange.int64, IntRange.word64] at hleast hgreatest
  cases i with
  | ofNat n =>
    have hn : n ≤ greatestSignificand := by
      unfold greatestSignificand
      exact Int.ofNat_le.mp hgreatest
    have hminus : ∀ s, natural n ≠ '-' :: s := by
      intro s hs
      exact Text.not_mem_natural (n := n) (c := '-') (by decide) (hs ▸ List.mem_cons_self)
    have hread : readNumber (natural n) = readMagnitude false (natural n) := by
      rw [readNumber]
      exact hminus
    rw [integer, hread, readMagnitude_natural false hn]
    have hrange : -0x8000000000000000 ≤ (n : Int) := by omega
    simp [Decimal.toWhole, hrange]
  | negSucc n =>
    have hn : n + 1 ≤ 0x8000000000000000 := by omega
    have hlarge : n + 1 ≤ greatestSignificand := Nat.le_trans hn (by decide)
    rw [integer, readNumber, readMagnitude_natural true hlarge]
    have hrange : -0x8000000000000000 ≤ -((n + 1 : Nat) : Int) := by omega
    simp only [Decimal.toWhole, hrange, true_and, if_true]
    simp [Int.negSucc_eq]

theorem isRunChar_of_mem_integer {i : Int} {c : Char} (h : c ∈ integer i) : isRunChar c = true := by
  rcases Text.mem_integer h with hdigit | rfl
  · simp [isRunChar, isNumberChar, hdigit]
  · rfl

theorem scalar?_integer {i : Int} (h : (Json.int i).Fits) :
    scalar? (integer i) = some (.scalar (.int i)) := by
  have hword : ∀ c s, isDigit c = false → c ≠ '-' → integer i ≠ c :: s := fun c s hdigit hminus hi =>
    Text.not_mem_integer hdigit hminus (hi ▸ List.mem_cons_self)
  unfold scalar?
  rw [if_neg (hword _ _ rfl (by decide)), if_neg (hword _ _ rfl (by decide)),
    if_neg (hword _ _ rfl (by decide)), readNumber_integer h]
  rfl

theorem scalar?_writeScalar {v : Json} (h : v.Fits) (hdouble : ∀ x, v ≠ .double x) :
    scalar? (writeScalar v) = some (.scalar v) ∧ ∀ c ∈ writeScalar v, isRunChar c = true := by
  cases v with
  | null => exact ⟨rfl, List.all_eq_true.mp rfl⟩
  | bool b =>
    cases b
    · exact ⟨rfl, List.all_eq_true.mp rfl⟩
    · exact ⟨rfl, List.all_eq_true.mp rfl⟩
  | int i => exact ⟨scalar?_integer h, fun c => isRunChar_of_mem_integer⟩
  | double x => exact absurd rfl (hdouble x)
  | _ => exact h.elim

end Parley.Json
