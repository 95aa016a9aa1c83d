/-
Octets are read back from their text.

The text of octets has a symbol for each six bits of them (`encode_eq`), and
six bits at a time they are joined to the octets again: what one or two
octets at the end leave over in the last value is zero (`join_sextets`). So
no two lists of octets have the same text (`encode_injective`), and the text
holds symbols of the alphabet only (`not_mem_encode`).
-/
import Parley.Text.Base64Url

namespace Parley.Text.Base64Url

open Utf8 (Octets)

/-! ## Six bits at a time -/

/-- The bits of octets, six at a time, with zeros at the end. -/
def sextets : Octets → List Nat
  | x :: y :: z :: rest =>
    x.toNat / 4 :: (x.toNat % 4 * 16 + y.toNat / 16) :: (y.toNat % 16 * 4 + z.toNat / 64) ::
      z.toNat % 64 :: sextets rest
  | [x, y] => [x.toNat / 4, x.toNat % 4 * 16 + y.toNat / 16, y.toNat % 16 * 4]
  | [x] => [x.toNat / 4, x.toNat % 4 * 16]
  | [] => []

theorem sextets_lt (octets : Octets) : ∀ n ∈ sextets octets, n < 64 := by
  fun_induction sextets octets with
  | case1 x y z rest ih =>
    have hx := x.toNat_lt
    have hy := y.toNat_lt
    have hz := z.toNat_lt
    simp only [List.forall_mem_cons]
    exact ⟨by omega, by omega, by omega, by omega, ih⟩
  | case2 x y =>
    have hx := x.toNat_lt
    have hy := y.toNat_lt
    simp only [List.forall_mem_cons]
    exact ⟨by omega, by omega, by omega, nofun⟩
  | case3 x =>
    have hx := x.toNat_lt
    simp only [List.forall_mem_cons]
    exact ⟨by omega, by omega, nofun⟩
  | case4 => exact nofun

theorem toUInt8_eq {n : Nat} {b : UInt8} (h : n = b.toNat) : n.toUInt8 = b := by
  rw [h]
  exact UInt8.ofNat_toNat

theorem join_sextets (octets : Octets) : join (sextets octets) = some octets := by
  fun_induction sextets octets with
  | case1 x y z rest ih =>
    have hx := x.toNat_lt
    have hy := y.toNat_lt
    have hz := z.toNat_lt
    rw [join, ih, toUInt8_eq (b := x) (by omega), toUInt8_eq (b := y) (by omega),
      toUInt8_eq (b := z) (by omega)]
    rfl
  | case2 x y =>
    have hx := x.toNat_lt
    have hy := y.toNat_lt
    rw [join, if_pos (by omega), toUInt8_eq (b := x) (by omega), toUInt8_eq (b := y) (by omega)]
  | case3 x =>
    have hx := x.toNat_lt
    rw [join, if_pos (by omega), toUInt8_eq (b := x) (by omega)]
  | case4 => rfl

/-! ## The alphabet -/

theorem value?_symbol {n : Nat} (h : n < 64) : value? (symbol n) = some n := by
  have all : ∀ k ∈ List.range 64, value? (symbol k) = some k := by decide
  exact all n (List.mem_range.mpr h)

theorem mapM_symbol {ns : List Nat} (h : ∀ n ∈ ns, n < 64) : (ns.map symbol).mapM value? = some ns := by
  induction ns with
  | nil => rfl
  | cons n ns ih =>
    obtain ⟨hn, hns⟩ := List.forall_mem_cons.mp h
    rw [List.map_cons, List.mapM_cons, value?_symbol hn, ih hns]
    rfl

theorem encode_eq (octets : Octets) : encode octets = (sextets octets).map symbol := by
  fun_induction sextets octets with
  | case1 x y z rest ih => rw [encode, ih]; rfl
  | case2 | case3 | case4 => rfl

theorem not_mem_encode (octets : Octets) {c : Char} (h : value? c = none) : c ∉ encode octets := by
  rw [encode_eq, List.mem_map]
  rintro ⟨n, hn, rfl⟩
  rw [value?_symbol (sextets_lt octets n hn)] at h
  cases h

/-! ## Texts of octets -/

theorem decode?_encode (octets : Octets) : decode? (encode octets) = some octets := by
  rw [decode?, encode_eq, mapM_symbol (sextets_lt octets), Option.bind_some, join_sextets]

theorem encode_injective {octets octets' : Octets} (h : encode octets = encode octets') :
    octets = octets' :=
  Option.some.inj (by rw [← decode?_encode, h, decode?_encode])

end Parley.Text.Base64Url
