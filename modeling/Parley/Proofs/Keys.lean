/-
The keys of a pair tell its users.

An id stands for one unordered pair (`id_eq_id_iff`) and an owner key for
one ordered pair (`ownerKey_eq_iff`), whatever the numbers. An id that is
read back gives the two numbers that it was made of (`ofId?_id`). What is
read of any other text are two users as well, each the counterpart of the
other (`keys_faithful`).
-/
import Mathlib.Data.Set.Insert
import Parley.Pair
import Parley.Proofs.Decimal

namespace Parley.Pair

open Text (IntRange cut? integer integer_injective not_mem_integer readInt64 readInt64_bounds
  readInt64_integer readInt64_integer_of_pos)

/-! ## Texts with one mark -/

theorem cut?_append {mark : Char} {s : List Char} (h : mark ∉ s) (t : List Char) :
    cut? mark (s ++ mark :: t) = some (s, t) := by
  have other : ∀ c ∈ s, decide (c ≠ mark) = true := by
    intro c hc
    exact decide_eq_true fun he => h (he ▸ hc)
  rw [cut?, List.dropWhile_append_of_pos other, List.takeWhile_append_of_pos other]
  simp

theorem append_mark_inj {mark : Char} {s s' t t' : List Char} (h : mark ∉ s) (h' : mark ∉ s')
    (he : s ++ mark :: t = s' ++ mark :: t') : s = s' ∧ t = t' := by
  have := cut?_append h t
  rw [he, cut?_append h'] at this
  simp only [Option.some.injEq, Prod.mk.injEq] at this
  exact ⟨this.1.symm, this.2.symm⟩

theorem underscore_not_mem (i : Int) : '_' ∉ integer i := not_mem_integer (by decide) (by decide)

theorem colon_not_mem (i : Int) : ':' ∉ integer i := not_mem_integer (by decide) (by decide)

/-! ## Two keys -/

/-- **An owner key stands for one ordered pair.** -/
theorem ownerKey_eq_iff {a b c d : Int} : ownerKey a b = ownerKey c d ↔ a = c ∧ b = d := by
  constructor
  · intro h
    obtain ⟨h₁, h₂⟩ := append_mark_inj (colon_not_mem a) (colon_not_mem c)
      (String.ofList_injective h)
    exact ⟨integer_injective h₁, integer_injective h₂⟩
  · rintro ⟨rfl, rfl⟩
    rfl

/-- **An id stands for one unordered pair.** -/
theorem id_eq_id_iff {a b c d : Int} :
    id a b = id c d ↔ (a = c ∧ b = d) ∨ (a = d ∧ b = c) := by
  constructor
  · intro h
    obtain ⟨h₁, h₂⟩ := append_mark_inj (underscore_not_mem _) (underscore_not_mem _)
      (String.ofList_injective h)
    have hmin := integer_injective h₁
    have hmax := integer_injective h₂
    omega
  · rintro (⟨rfl, rfl⟩ | ⟨rfl, rfl⟩)
    · rfl
    · simp only [id, Int.min_comm, Int.max_comm]

theorem id_comm (a b : Int) : id a b = id b a := id_eq_id_iff.mpr (.inr ⟨rfl, rfl⟩)

theorem id_right_inj {a b c : Int} : id a b = id a c ↔ b = c := by
  rw [id_eq_id_iff]
  omega

/-! ## Reading an id -/

theorem ofId?_id (a b : Int) :
    ofId? (id a b) =
      (readInt64 (integer (min a b))).bind fun low =>
        (readInt64 (integer (max a b))).bind fun high =>
          if 0 < low ∧ 0 < high ∧ low ≤ high then some (low, high) else none := by
  simp only [ofId?, id, String.toList_ofList, cut?_append (underscore_not_mem _)]
  rfl

theorem ofId?_id_of_pos {a b : Int} (ha : 0 < a) (ha' : a ≤ IntRange.int64.greatest) (hb : 0 < b)
    (hb' : b ≤ IntRange.int64.greatest) : ofId? (id a b) = some (min a b, max a b) := by
  rw [ofId?_id, readInt64_integer_of_pos (by omega) (by omega),
    readInt64_integer_of_pos (by omega) (by omega)]
  simp only [Option.bind_some]
  rw [if_pos (by omega)]

theorem ofId?_id_eq_some {a b low high : Int} (h : ofId? (id a b) = some (low, high)) :
    low = min a b ∧ high = max a b := by
  simp only [ofId?_id, readInt64_integer, IntRange.check,
    Option.bind_eq_some_iff, Option.ite_none_right_eq_some, Option.some.injEq, Prod.mk.injEq] at h
  obtain ⟨_, ⟨-, rfl⟩, _, ⟨-, rfl⟩, -, rfl, rfl⟩ := h
  exact ⟨rfl, rfl⟩

theorem ofId?_bounds {c : String} {low high : Int} (h : ofId? c = some (low, high)) :
    0 < low ∧ low ≤ high ∧ high ≤ IntRange.int64.greatest := by
  simp only [ofId?, Option.bind_eq_bind, Option.bind_eq_some_iff, Option.ite_none_right_eq_some,
    Option.some.injEq, Prod.exists, Prod.mk.injEq] at h
  obtain ⟨front, behind, -, _, -, _, hhigh, ⟨hlow, -, hle⟩, rfl, rfl⟩ := h
  exact ⟨hlow, hle, (readInt64_bounds hhigh).2⟩

theorem counterpart?_eq_some_iff {c : String} {user other : Int} :
    counterpart? c user = some other ↔ ∃ low high : Int, ofId? c = some (low, high) ∧
      (user = low ∧ other = high ∨ user ≠ low ∧ user = high ∧ other = low) := by
  simp only [counterpart?, Option.bind_eq_bind, Option.bind_eq_some_iff, Prod.exists]
  refine exists_congr fun low => exists_congr fun high => and_congr_right fun _ => ?_
  by_cases hl : user = low
  · rw [if_pos hl]
    simp [hl, eq_comm]
  · rw [if_neg hl]
    simp [hl, eq_comm]

theorem counterpart?_of_ofId? {c : String} {user low high : Int} (h : ofId? c = some (low, high))
    (huser : user = low ∨ user = high) :
    counterpart? c user = some (if user = low then high else low) := by
  refine counterpart?_eq_some_iff.mpr ⟨low, high, h, ?_⟩
  split
  · next hlow => exact .inl ⟨hlow, rfl⟩
  · next hlow => exact .inr ⟨hlow, huser.resolve_left hlow, rfl⟩

theorem id_eq_of_counterpart? {a b user other : Int}
    (h : counterpart? (id a b) user = some other) : id a b = id user other := by
  obtain ⟨low, high, hread, h⟩ := counterpart?_eq_some_iff.mp h
  obtain ⟨rfl, rfl⟩ := ofId?_id_eq_some hread
  rw [id_eq_id_iff]
  omega

theorem counterpart?_id {a b : Int} (ha : 0 < a) (ha' : a ≤ IntRange.int64.greatest) (hb : 0 < b)
    (hb' : b ≤ IntRange.int64.greatest) : counterpart? (id a b) a = some b := by
  refine counterpart?_eq_some_iff.mpr ⟨_, _, ofId?_id_of_pos ha ha' hb hb', ?_⟩
  omega

theorem ofId?_id_of_not_pos {a b : Int} (h : ¬(0 < a ∧ 0 < b)) : ofId? (id a b) = none := by
  refine Option.eq_none_iff_forall_ne_some.mpr fun (low, high) hread => h ?_
  obtain ⟨hmin, hmax⟩ := ofId?_id_eq_some hread
  obtain ⟨hlow, -, -⟩ := ofId?_bounds hread
  omega

theorem counterpart?_id_of_ne {a b user : Int} (ha : user ≠ a) (hb : user ≠ b) :
    counterpart? (id a b) user = none := by
  refine Option.eq_none_iff_forall_ne_some.mpr fun other hother => ?_
  obtain ⟨low, high, hread, huser⟩ := counterpart?_eq_some_iff.mp hother
  obtain ⟨hmin, hmax⟩ := ofId?_id_eq_some hread
  omega

/-! ## All keys -/

/-- **Keys are faithful.** Two ids are the same just if they are of the same two
users, in whatever order, and two owner keys just if they are in the same order. An
id of two numbers of 64 bits is read back as them, the lower first, if both are
positive, and not at all otherwise; then it tells each of its users the other, and
nobody else anyone. Whatever text is read as an id, it names two users with positive
numbers, the lower first, and tells each of them the other. -/
theorem keys_faithful :
    (∀ a b c d : UserId, id a b = id c d ↔ ({a, b} : Set UserId) = {c, d}) ∧
    (∀ a b c d : UserId, ownerKey a b = ownerKey c d ↔ a = c ∧ b = d) ∧
    (∀ a b : UserId, IntRange.int64.contains a = true → IntRange.int64.contains b = true →
      ofId? (id a b) = (if 0 < a ∧ 0 < b then some (min a b, max a b) else none) ∧
      (0 < a ∧ 0 < b → counterpart? (id a b) a = some b ∧ counterpart? (id a b) b = some a ∧
        ∀ user, user ≠ a → user ≠ b → counterpart? (id a b) user = none)) ∧
    ∀ (text : String) (low high : UserId), ofId? text = some (low, high) →
      1 ≤ low ∧ low ≤ high ∧ high ≤ IntRange.int64.greatest ∧
        counterpart? text low = some high ∧ counterpart? text high = some low := by
  refine ⟨fun a b c d => id_eq_id_iff.trans Set.pair_eq_pair_iff.symm, fun a b c d => ownerKey_eq_iff,
    fun a b ha hb => ?_, fun text low high hread => ?_⟩
  · have ha' := (IntRange.contains_iff.mp ha).2
    have hb' := (IntRange.contains_iff.mp hb).2
    by_cases hpos : 0 < a ∧ 0 < b
    · rw [if_pos hpos]
      obtain ⟨hapos, hbpos⟩ := hpos
      refine ⟨ofId?_id_of_pos hapos ha' hbpos hb', fun _ => ⟨counterpart?_id hapos ha' hbpos hb', ?_,
        fun user hua hub => counterpart?_id_of_ne hua hub⟩⟩
      rw [id_comm]
      exact counterpart?_id hbpos hb' hapos ha'
    · rw [if_neg hpos]
      exact ⟨ofId?_id_of_not_pos hpos, fun h => absurd h hpos⟩
  · obtain ⟨hlow, hle, hhigh⟩ := ofId?_bounds hread
    refine ⟨hlow, hle, hhigh, counterpart?_eq_some_iff.mpr ⟨low, high, hread, .inl ⟨rfl, rfl⟩⟩, ?_⟩
    rw [counterpart?_of_ofId? hread (.inr rfl)]
    split
    · next h => rw [h]
    · rfl

/-- The greatest number of 64 bits makes an id with the least positive one, and none
with the least number of all. Text that is no written id names users as well. -/
theorem keys_faithful_at_the_bounds :
    ofId? (id 0x7FFFFFFFFFFFFFFF 1) = some (1, 0x7FFFFFFFFFFFFFFF) ∧
    counterpart? (id 0x7FFFFFFFFFFFFFFF 1) 1 = some 0x7FFFFFFFFFFFFFFF ∧
    ofId? (id (-0x8000000000000000) 1) = none ∧
    counterpart? "+7_042" 42 = some 7 := by
  obtain ⟨-, -, hids, htexts⟩ := keys_faithful
  have hgreat := hids 0x7FFFFFFFFFFFFFFF 1 (by decide) (by decide)
  have hleast := hids (-0x8000000000000000) 1 (by decide) (by decide)
  have hspelled := htexts "+7_042" 7 42 (by decide)
  exact ⟨hgreat.1, (hgreat.2 (by decide)).2.1, hleast.1, hspelled.2.2.2.2⟩

end Parley.Pair
