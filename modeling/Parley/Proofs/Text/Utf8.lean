/-
Text is read back from its octets.

A first octet announces as many octets as `encodeChar` writes behind it, and
the bounds of the second one let every scalar value through
(`scan_encodeChar`). So the octets of a text are scanned as its characters
(`scan_encode`).
-/
import Parley.Text.Utf8

namespace Parley.Text.Utf8

/-! ## First octets -/

theorem toNat_toUInt8 {n : Nat} (h : n < 256) : n.toUInt8.toNat = n := by
  rw [UInt8.toNat_ofNat', Nat.mod_eq_of_lt h]

theorem lead?_two {n : Nat} (h : 0x80 ≤ n) (h' : n < 0x800) :
    lead? (0xC0 + n / 64).toUInt8 = some ⟨n / 64, [tail]⟩ := by
  have hoctet : (0xC0 + n / 64).toUInt8.toNat = 0xC0 + n / 64 := toNat_toUInt8 (by omega)
  unfold lead?
  simp only [hoctet]
  rw [if_neg (by omega), if_neg (by omega), if_pos (by omega), Nat.add_sub_cancel_left]

/-- The first of three octets, and the bounds of the second: after 0xE0 it keeps what
has two octets out, after 0xED the surrogates. -/
theorem lead?_three {n : Nat} (h : 0x800 ≤ n) (h' : n < 0x10000) (hscalar : n < 0xD800 ∨ 0xDFFF < n) :
    ∃ low high, lead? (0xE0 + n / 4096).toUInt8 = some ⟨n / 4096, [(low, high), tail]⟩ ∧
      low ≤ 0x80 + n / 64 % 64 ∧ 0x80 + n / 64 % 64 ≤ high := by
  have hoctet : (0xE0 + n / 4096).toUInt8.toNat = 0xE0 + n / 4096 := toNat_toUInt8 (by omega)
  unfold lead?
  simp only [hoctet]
  rw [if_neg (by omega), if_neg (by omega), if_neg (by omega)]
  by_cases hfirst : n < 0x1000
  · rw [if_pos (by omega)]
    exact ⟨0xA0, 0xBF, by rw [show n / 4096 = 0 by omega], by omega, by omega⟩
  · rw [if_neg (by omega)]
    by_cases hsurrogate : n / 4096 = 0xD
    · rw [if_pos (by omega)]
      exact ⟨0x80, 0x9F, by rw [hsurrogate], by omega, by omega⟩
    · rw [if_neg (by omega), if_pos (by omega), Nat.add_sub_cancel_left]
      exact ⟨0x80, 0xBF, rfl, by omega, by omega⟩

/-- The first of four octets, and the bounds of the second: after 0xF0 it keeps what has
three octets out, after 0xF4 what is no scalar value. -/
theorem lead?_four {n : Nat} (h : 0x10000 ≤ n) (h' : n < 0x110000) :
    ∃ low high, lead? (0xF0 + n / 262144).toUInt8 = some ⟨n / 262144, [(low, high), tail, tail]⟩ ∧
      low ≤ 0x80 + n / 4096 % 64 ∧ 0x80 + n / 4096 % 64 ≤ high := by
  have hoctet : (0xF0 + n / 262144).toUInt8.toNat = 0xF0 + n / 262144 := toNat_toUInt8 (by omega)
  unfold lead?
  simp only [hoctet]
  rw [if_neg (by omega), if_neg (by omega), if_neg (by omega), if_neg (by omega), if_neg (by omega),
    if_neg (by omega)]
  by_cases hfirst : n < 0x40000
  · rw [if_pos (by omega)]
    exact ⟨0x90, 0xBF, by rw [show n / 262144 = 0 by omega], by omega, by omega⟩
  · rw [if_neg (by omega)]
    by_cases hlast : n < 0x100000
    · rw [if_pos (by omega), Nat.add_sub_cancel_left]
      exact ⟨0x80, 0xBF, rfl, by omega, by omega⟩
    · rw [if_neg (by omega), if_pos (by omega)]
      exact ⟨0x80, 0x8F, by rw [show n / 262144 = 4 by omega], by omega, by omega⟩

/-! ## Octets that are owed -/

variable {payload low high n : Nat} {owed : List (Nat × Nat)} {rest : Octets}

theorem scan_owed (h : low ≤ 0x80 + n % 64) (h' : 0x80 + n % 64 ≤ high) :
    scan (some ⟨payload, (low, high) :: owed⟩) ((0x80 + n % 64).toUInt8 :: rest) =
      if owed.isEmpty then some (Char.ofNat (payload * 64 + n % 64)) :: scan none rest
      else scan (some ⟨payload * 64 + n % 64, owed⟩) rest := by
  have hoctet : (0x80 + n % 64).toUInt8.toNat = 0x80 + n % 64 := toNat_toUInt8 (by omega)
  have hbits : (0x80 + n % 64) % 64 = n % 64 := by omega
  rw [scan]
  simp only [hoctet, hbits]
  rw [if_pos ⟨h, h'⟩]

theorem scan_tail : scan (some ⟨payload, tail :: owed⟩) ((0x80 + n % 64).toUInt8 :: rest) =
    if owed.isEmpty then some (Char.ofNat (payload * 64 + n % 64)) :: scan none rest
    else scan (some ⟨payload * 64 + n % 64, owed⟩) rest :=
  scan_owed (by omega) (by omega)

theorem scan_none (b : UInt8) : scan none (b :: rest) = match lead? b with
    | none => none :: scan none rest
    | some ⟨payload, []⟩ => some (Char.ofNat payload) :: scan none rest
    | some ⟨payload, owed⟩ => scan (some ⟨payload, owed⟩) rest := rfl

theorem scan_lead {b : UInt8} {bound : Nat × Nat} (h : lead? b = some ⟨payload, bound :: owed⟩) :
    scan none (b :: rest) = scan (some ⟨payload, bound :: owed⟩) rest := by
  rw [scan_none, h]

/-! ## Characters and texts -/

theorem scan_encodeChar (c : Char) (rest : Octets) :
    scan none (encodeChar c ++ rest) = some c :: scan none rest := by
  have hscalar : c.toNat < 0xD800 ∨ 0xDFFF < c.toNat ∧ c.toNat < 0x110000 := c.valid
  have hchar : Char.ofNat c.toNat = c := Char.ofNat_toNat c
  unfold encodeChar
  generalize c.toNat = n at hscalar hchar
  by_cases hone : n < 0x80
  · have hoctet : n.toUInt8.toNat = n := toNat_toUInt8 (by omega)
    simp only [if_pos hone, List.singleton_append]
    rw [scan_none]
    simp only [lead?, hoctet, if_pos hone, hchar]
  by_cases htwo : n < 0x800
  · have hvalue : n / 64 * 64 + n % 64 = n := by omega
    simp only [if_neg hone, if_pos htwo, List.cons_append, List.nil_append]
    rw [scan_lead (lead?_two (by omega) htwo), scan_tail, hvalue, hchar]
    rfl
  by_cases hthree : n < 0x10000
  · obtain ⟨low, high, hlead, hlow, hhigh⟩ := lead?_three (by omega) hthree (by omega)
    have hvalue : (n / 4096 * 64 + n / 64 % 64) * 64 + n % 64 = n := by omega
    simp only [if_neg hone, if_neg htwo, if_pos hthree, List.cons_append, List.nil_append]
    rw [scan_lead hlead, scan_owed hlow hhigh]
    simp only [List.isEmpty_cons, List.isEmpty_nil, Bool.false_eq_true, if_false, if_true, scan_tail,
      hvalue, hchar]
  · obtain ⟨low, high, hlead, hlow, hhigh⟩ := lead?_four (n := n) (by omega) (by omega)
    have hvalue : ((n / 262144 * 64 + n / 4096 % 64) * 64 + n / 64 % 64) * 64 + n % 64 = n := by omega
    simp only [if_neg hone, if_neg htwo, if_neg hthree, List.cons_append, List.nil_append]
    rw [scan_lead hlead, scan_owed hlow hhigh]
    simp only [List.isEmpty_cons, List.isEmpty_nil, Bool.false_eq_true, if_false, if_true, scan_tail,
      hvalue, hchar]

/-- **The octets of a text are scanned as the text.** -/
theorem scan_encode (s : List Char) : scan none (encode s) = s.map some := by
  induction s with
  | nil => rfl
  | cons c s ih =>
    rw [encode, List.flatMap_cons, scan_encodeChar, ← encode, ih]
    rfl

end Parley.Text.Utf8
