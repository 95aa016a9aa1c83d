/-
Instants are read back from what is written of them.

What can be read is an instant of a year that reading allows, with its leap second, if
any, behind the last second of a minute (`Instant.Legible`, `legible_of_read?`). Each
part that is written of such an instant is read back whatever stands behind it, so
`read?` takes `write` back to the instant (`read?_write`).
-/
import Mathlib.Algebra.Group.Nat.Defs
import Mathlib.Data.List.TakeWhile
import Parley.Proofs.Decimal
import Parley.Proofs.Time.Calendar
import Parley.Time.Rfc3339

namespace Parley.Time

open Text

/-! ## Digits -/

theorem length_natural_le {n width : Nat} (hwidth : 0 < width) (h : n < 10 ^ width) :
    (natural n).length ≤ width := by
  induction width generalizing n with
  | zero => omega
  | succ width ih =>
    rw [natural]
    split
    · simp
    · next hn =>
      rw [Nat.pow_succ] at h
      have hpos : 0 < width := by
        rcases Nat.eq_zero_or_pos width with rfl | hpos
        · simp at h
          omega
        · exact hpos
      have := ih hpos (n := n / 10) (by omega)
      simp only [List.length_append, List.length_singleton]
      omega

theorem length_padded {n width : Nat} (hwidth : 0 < width) (h : n < 10 ^ width) :
    (padded width n).length = width := by
  have := length_natural_le hwidth h
  simp only [padded, List.length_append, List.length_replicate]
  omega

theorem isDigit_of_mem_padded (width n : Nat) : ∀ c ∈ padded width n, isDigit c = true := by
  intro c h
  rcases List.mem_append.mp h with h | h
  · rw [List.eq_of_mem_replicate h]
    rfl
  · exact isDigit_of_mem_natural h

theorem padded_ne_nil (width n : Nat) : padded width n ≠ [] := fun h =>
  natural_ne_nil n (List.append_eq_nil_iff.mp h).2

theorem digitsFrom_zeros (k : Nat) (s : List Char) :
    digitsFrom 0 (List.replicate k '0' ++ s) = digitsFrom 0 s := by
  induction k with
  | zero => rfl
  | succ k ih => exact ih

theorem digitsValue?_padded (width n : Nat) : digitsValue? (padded width n) = some n := by
  have hvalue : digitsFrom 0 (padded width n) = some n := by
    rw [padded, digitsFrom_zeros, digitsFrom_natural]
  obtain ⟨c, s, h⟩ := List.exists_cons_of_ne_nil (padded_ne_nil width n)
  rw [h] at hvalue ⊢
  exact hvalue

theorem digitsFrom_lt {s : List Char} {v n : Nat} (h : digitsFrom v s = some n) :
    n < (v + 1) * 10 ^ s.length := by
  induction s generalizing v with
  | nil =>
    cases h
    simp
  | cons c s ih =>
    rw [digitsFrom] at h
    cases hc : digitValue? c with
    | none => simp [hc] at h
    | some d =>
      rw [hc] at h
      have hd : d < 10 := by
        unfold digitValue? at hc
        split at hc
        · cases hc
          omega
        · cases hc
      refine (ih h).trans_le ?_
      rw [List.length_cons, Nat.pow_succ, Nat.mul_comm (10 ^ s.length), ← Nat.mul_assoc]
      exact Nat.mul_le_mul_right _ (by omega)

/-- Whether a text does not go on with a digit. -/
def EndsDigits (s : List Char) : Prop := ∀ c, s.head? = some c → isDigit c = false

theorem takeWhile_digits {digits s : List Char} (hdigits : ∀ c ∈ digits, isDigit c = true)
    (hs : EndsDigits s) : (digits ++ s).takeWhile isDigit = digits := by
  rw [List.takeWhile_append_of_pos hdigits]
  cases s with
  | nil => simp
  | cons c s => simp [hs c rfl]

theorem dropWhile_digits {digits s : List Char} (hdigits : ∀ c ∈ digits, isDigit c = true)
    (hs : EndsDigits s) : (digits ++ s).dropWhile isDigit = s := by
  rw [List.dropWhile_append_of_pos hdigits]
  cases s with
  | nil => simp
  | cons c s => simp [hs c rfl]

theorem readDigits_append {width n : Nat} {digits s : List Char}
    (hdigits : ∀ c ∈ digits, isDigit c = true) (hvalue : digitsValue? digits = some n)
    (hs : EndsDigits s) (hwidth : digits.length ≤ width) :
    readDigits width (digits ++ s) = some (n, s) := by
  have htake : ((digits ++ s).take width).takeWhile isDigit = digits := by
    rw [List.take_append, List.take_of_length_le hwidth]
    refine takeWhile_digits hdigits fun c hc => hs c ?_
    cases s with
    | nil => simp at hc
    | cons d s =>
      cases hw : width - digits.length with
      | zero => simp [hw] at hc
      | succ k => simpa [hw] using hc
  rw [readDigits, htake, hvalue, Option.map_some, List.drop_left']
  rfl

theorem trimStart_cons {c : Char} {s : List Char} (h : isBlank c = false) :
    trimStart (c :: s) = c :: s := by
  simp [trimStart, h]

theorem isBlank_of_isDigit {c : Char} (h : isDigit c = true) : isBlank c = false := by
  unfold isDigit digitValue? at h
  split at h
  · next hc =>
    unfold isBlank
    simp
    omega
  · cases h

theorem trimStart_padded (width n : Nat) (s : List Char) :
    trimStart (padded width n ++ s) = padded width n ++ s := by
  cases h : padded width n with
  | nil => exact (padded_ne_nil width n h).elim
  | cons c digits =>
    have hc : isDigit c = true := isDigit_of_mem_padded width n c (h ▸ List.mem_cons_self)
    exact trimStart_cons (isBlank_of_isDigit hc)

theorem readNumber_padded {width n : Nat} (hwidth : 0 < width) (h : n < 10 ^ width) {s : List Char}
    (hs : EndsDigits s) : readNumber width (padded width n ++ s) = some (n, s) := by
  rw [readNumber, trimStart_padded]
  exact readDigits_append (isDigit_of_mem_padded _ _) (digitsValue?_padded width n) hs
    (length_padded hwidth h).le

theorem readMark_cons {mark : Char} (h : isBlank mark = false) (s : List Char) :
    readMark mark (mark :: s) = some s := by
  simp [readMark, trimStart_cons h]

/-! ## Parts -/

theorem endsDigits_cons {c : Char} (h : isDigit c = false) (s : List Char) : EndsDigits (c :: s) := by
  rintro d ⟨⟩
  exact h

theorem readYear_writeYear (year : Int) {s : List Char} (hs : EndsDigits s) :
    readYear (writeYear year ++ s) = some (year, s) := by
  have hsigned (n : Nat) : readDigits (padded 4 n ++ s).length (padded 4 n ++ s) = some (n, s) :=
    readDigits_append (isDigit_of_mem_padded _ _) (digitsValue?_padded 4 n) hs (by simp)
  unfold writeYear
  split
  · next h =>
    have hyear : ((year.toNat : Nat) : Int) = year := Int.toNat_of_nonneg h.1
    have hread : readDigits 4 (padded 4 year.toNat ++ s) = some (year.toNat, s) :=
      readDigits_append (isDigit_of_mem_padded _ _) (digitsValue?_padded 4 _) hs
        (length_padded (by omega) (by omega)).le
    unfold readYear
    rw [trimStart_padded]
    -- A digit is no sign.
    obtain ⟨c, digits, hdigits⟩ := List.exists_cons_of_ne_nil (padded_ne_nil 4 year.toNat)
    have hc : isDigit c = true :=
      isDigit_of_mem_padded 4 year.toNat c (hdigits ▸ List.mem_cons_self)
    rw [hdigits, List.cons_append] at hread ⊢
    split
    · next heq =>
      cases heq
      cases hc
    · next heq =>
      cases heq
      cases hc
    · rw [hread, Option.map_some]
      exact congrArg (fun y => some (y, s)) hyear
  split
  · have hyear : -(((-year).toNat : Nat) : Int) = year := by omega
    rw [List.cons_append, readYear, trimStart_cons (by decide)]
    simp only [hsigned, Option.map_some, hyear]
  · have hyear : ((year.toNat : Nat) : Int) = year := by omega
    rw [List.cons_append, readYear, trimStart_cons (by decide)]
    simp only [hsigned, Option.map_some, hyear]

theorem readFraction_padded {width n : Nat} (hwidth : 0 < width) (hmost : width ≤ 9) (h : n < 10 ^ width)
    {s : List Char} (hs : EndsDigits s) :
    readFraction ('.' :: (padded width n ++ s)) = some (n * 10 ^ (9 - width), s) := by
  have hlength := length_padded hwidth h
  simp only [readFraction, takeWhile_digits (isDigit_of_mem_padded _ _) hs,
    dropWhile_digits (isDigit_of_mem_padded _ _) hs, hlength]
  rw [List.take_of_length_le (by omega), digitsValue?_padded]
  rfl

theorem readFraction_writeFraction {nano : Nat} (h : nano < Instant.nanosPerSecond) {s : List Char}
    (hs : EndsDigits s) (hpoint : s.head? ≠ some '.') :
    readFraction (writeFraction nano ++ s) = some (nano, s) := by
  simp only [Instant.nanosPerSecond] at h
  unfold writeFraction
  split
  · next hzero =>
    rw [List.nil_append, hzero]
    unfold readFraction
    split
    · next => exact (hpoint rfl).elim
    · rfl
  split
  · next hmilli =>
    rw [List.cons_append, readFraction_padded (by omega) (by omega) (by omega) hs]
    congr 2
    omega
  split
  · next hmicro =>
    rw [List.cons_append, readFraction_padded (by omega) (by omega) (by omega) hs]
    congr 2
    omega
  · rw [List.cons_append, readFraction_padded (by omega) (by omega) (by omega) hs]
    congr 2
    omega

theorem readZone_Z : readZone ['Z'] = some (0, []) := by decide

/-! ## Instants -/

namespace Instant

/-- What an instant can be that is read: its year is one that reading allows, and a
leap second follows the last second of a minute. -/
structure Legible (t : Instant) : Prop where
  year : yearRange.contains t.date.year = true
  nano : t.nano < 2 * nanosPerSecond
  leap : nanosPerSecond ≤ t.nano → t.second % 60 = 59

variable {t : Instant}

theorem Legible.instantOf?_eq (h : t.Legible) :
    instantOf? t.date (t.secondOfDay / 3600) (t.secondOfDay / 60 % 60)
      (t.secondOfDay % 60 + t.nano / nanosPerSecond) (t.nano % nanosPerSecond) 0 = some t := by
  have hnano := h.nano
  have hleap := h.leap
  have hsecond : (t.secondOfDay : Int) = t.second % 86400 := by
    unfold secondOfDay
    omega
  have hday : dayNumber t.date = t.second / 86400 := dayNumber_dateOf t.day
  simp only [nanosPerSecond] at hnano hleap ⊢
  have hclock : t.secondOfDay / 3600 ≤ 23 ∧ t.secondOfDay / 60 % 60 ≤ 59 ∧
      t.secondOfDay % 60 + t.nano / 1000000000 ≤ 60 := by omega
  have hminute : (t.secondOfDay % 60 + t.nano / 1000000000) / 60 = t.nano / 1000000000 := by omega
  have heq : (⟨dayNumber t.date * 86400 + ((t.secondOfDay / 3600 * 3600 + t.secondOfDay / 60 % 60 * 60 +
      (t.secondOfDay % 60 + t.nano / 1000000000 - t.nano / 1000000000) : Nat) : Int) - 0,
      t.nano % 1000000000 + t.nano / 1000000000 * 1000000000⟩ : Instant) = t := by
    cases t
    simp only [Instant.mk.injEq] at hday hsecond ⊢
    omega
  unfold instantOf?
  rw [if_pos ⟨valid_dateOf t.day, h.year, hclock.1, hclock.2.1, hclock.2.2, by omega, by omega⟩]
  simp only [hminute, nanosPerSecond, heq, h.year, if_true]

/-- **What is written of an instant is read back as the instant.** -/
theorem Legible.read?_write (h : t.Legible) : read? t.write = some t := by
  obtain ⟨hmonth, hday⟩ := dateOf_bounds t.day
  have hnano := h.nano
  have hsecond : t.secondOfDay < 86400 := by
    unfold secondOfDay
    omega
  simp only [nanosPerSecond] at hnano
  have hfraction : readFraction (writeFraction (t.nano % nanosPerSecond) ++ ['Z']) =
      some (t.nano % nanosPerSecond, ['Z']) :=
    readFraction_writeFraction (Nat.mod_lt _ (by decide)) (endsDigits_cons (by decide) _) (by decide)
  have hbehind : EndsDigits (writeFraction (t.nano % nanosPerSecond) ++ ['Z']) := by
    unfold writeFraction
    split
    · exact endsDigits_cons (by decide) _
    split
    · exact endsDigits_cons (by decide) _
    split <;> exact endsDigits_cons (by decide) _
  have hwrite : t.write = writeYear t.date.year ++ '-' :: (padded 2 t.date.month ++ '-' ::
      (padded 2 t.date.day ++ 'T' :: (padded 2 (t.secondOfDay / 3600) ++ ':' ::
      (padded 2 (t.secondOfDay / 60 % 60) ++ ':' ::
      (padded 2 (t.secondOfDay % 60 + t.nano / nanosPerSecond) ++
      (writeFraction (t.nano % nanosPerSecond) ++ ['Z'])))))) := by
    simp [write, writeDate, writeTime]
  have hzone : trimStart ['Z'] = ['Z'] := by decide
  rw [hwrite, read?, readYear_writeYear _ (endsDigits_cons (by decide) _)]
  dsimp only [Option.bind_eq_bind, Option.bind_some]
  rw [readMark_cons (by decide), Option.bind_some,
    readNumber_padded (by decide) (by exact hmonth) (endsDigits_cons (by decide) _)]
  dsimp only [Option.bind_some]
  rw [readMark_cons (by decide), Option.bind_some,
    readNumber_padded (by decide) (by exact hday) (endsDigits_cons (by decide) _)]
  dsimp only [Option.bind_some]
  rw [if_pos (.inr (.inl rfl)), readNumber_padded (by decide) (by omega) (endsDigits_cons (by decide) _)]
  dsimp only [Option.bind_some]
  rw [readMark_cons (by decide), Option.bind_some,
    readNumber_padded (by decide) (by omega) (endsDigits_cons (by decide) _)]
  dsimp only [Option.bind_some]
  rw [readMark_cons (by decide), Option.bind_some,
    readNumber_padded (by decide) (by simp only [nanosPerSecond]; omega) hbehind]
  dsimp only [Option.bind_some]
  rw [hfraction]
  dsimp only [Option.bind_some]
  rw [hzone, readZone_Z]
  exact h.instantOf?_eq

theorem legible_of_instantOf? {d : Date} {hour minute second nano : Nat} {offset : Int}
    (hnano : nano < nanosPerSecond) (h : instantOf? d hour minute second nano offset = some t)
    (hoffset : offset % 60 = 0) : t.Legible := by
  unfold instantOf? at h
  split at h
  · next hparts =>
    obtain ⟨-, -, -, -, hsecond, -⟩ := hparts
    rw [Option.ite_none_right_eq_some] at h
    obtain ⟨hyear, ⟨⟩⟩ := h
    simp only [nanosPerSecond] at hnano
    refine ⟨hyear, ?_, fun hleap => ?_⟩
    · simp only [nanosPerSecond]
      omega
    · simp only [nanosPerSecond] at hleap ⊢
      have hsixty : second = 60 := by omega
      subst hsixty
      omega
  · cases h

theorem readFraction_lt {s rest : List Char} {nano : Nat} (h : readFraction s = some (nano, rest)) :
    nano < nanosPerSecond := by
  unfold readFraction at h
  split at h
  · next s =>
    obtain ⟨n, hn, h⟩ := Option.bind_eq_some_iff.mp h
    cases h
    have hlt : n < 10 ^ (min 9 (s.takeWhile isDigit).length) := by
      rw [← List.length_take]
      cases hdigits : (s.takeWhile isDigit).take 9 with
      | nil => simp [hdigits, digitsValue?] at hn
      | cons c digits =>
        rw [hdigits] at hn
        simpa using digitsFrom_lt hn
    -- Digits and the zeros behind them are nine together.
    have hnine : 10 ^ (min 9 (s.takeWhile isDigit).length) * 10 ^ (9 - (s.takeWhile isDigit).length) =
        nanosPerSecond := by
      rw [← Nat.pow_add, show min 9 (s.takeWhile isDigit).length + (9 - (s.takeWhile isDigit).length) = 9 by omega]
      rfl
    exact (Nat.mul_lt_mul_of_pos_right hlt (Nat.pow_pos (by omega))).trans_eq hnine
  · cases h
    decide

theorem readOffset_mod {s rest : List Char} {offset : Int} (h : readOffset s = some (offset, rest)) :
    offset % 60 = 0 := by
  unfold readOffset at h
  obtain ⟨⟨hours, s⟩, -, h⟩ := Option.bind_eq_some_iff.mp h
  obtain ⟨⟨minutes, s⟩, -, h⟩ := Option.bind_eq_some_iff.mp h
  obtain ⟨-, h⟩ := Option.ite_none_right_eq_some.mp h
  cases h
  omega

theorem readZone_mod {s rest : List Char} {offset : Int} (h : readZone s = some (offset, rest)) :
    offset % 60 = 0 := by
  have hsigned {s : List Char} (h : readZone.signed s = some (offset, rest)) : offset % 60 = 0 := by
    unfold readZone.signed at h
    split at h
    · cases h
    split at h
    · cases h
      rfl
    split at h
    · exact readOffset_mod h
    split at h
    · obtain ⟨⟨n, rest⟩, hn, h⟩ := Option.map_eq_some_iff.mp h
      cases h
      have := readOffset_mod hn
      omega
    · cases h
  unfold readZone at h
  split at h
  · split at h
    · cases h
      rfl
    · exact hsigned h
  · exact hsigned h

theorem legible_of_read? {s : List Char} (h : read? s = some t) : t.Legible := by
  unfold read? at h
  obtain ⟨⟨year, s₁⟩, -, h⟩ := Option.bind_eq_some_iff.mp h
  obtain ⟨s₂, -, h⟩ := Option.bind_eq_some_iff.mp h
  obtain ⟨⟨month, s₃⟩, -, h⟩ := Option.bind_eq_some_iff.mp h
  obtain ⟨s₄, -, h⟩ := Option.bind_eq_some_iff.mp h
  obtain ⟨⟨day, s₅⟩, -, h⟩ := Option.bind_eq_some_iff.mp h
  simp only at h
  split at h
  case h_2 => cases h
  split at h
  case isFalse => cases h
  obtain ⟨s₆, -, h⟩ := Option.bind_eq_some_iff.mp h
  obtain ⟨⟨hour, s₇⟩, -, h⟩ := Option.bind_eq_some_iff.mp h
  obtain ⟨s₈, -, h⟩ := Option.bind_eq_some_iff.mp h
  obtain ⟨⟨minute, s₉⟩, -, h⟩ := Option.bind_eq_some_iff.mp h
  obtain ⟨s₁₀, -, h⟩ := Option.bind_eq_some_iff.mp h
  obtain ⟨⟨second, s₁₁⟩, -, h⟩ := Option.bind_eq_some_iff.mp h
  obtain ⟨⟨nano, s₁₂⟩, hnano, h⟩ := Option.bind_eq_some_iff.mp h
  obtain ⟨⟨offset, s₁₃⟩, hoffset, h⟩ := Option.bind_eq_some_iff.mp h
  obtain ⟨-, h⟩ := Option.ite_none_right_eq_some.mp h
  exact legible_of_instantOf? (readFraction_lt hnano) h (readZone_mod hoffset)

end Instant
end Parley.Time
