/-
What the order of members counts for.

The normal form of a value is sorted, so it is its own normal form
(`normal_normal`). Trees that differ in the order of members of different
names have one normal form (`Reordered.normal_eq`), and a record read from
them is the same as long as it is made of normal forms
(`Reordered.ofRaw?_eq`).
-/
import Parley.Json.Normal
import Parley.Json.Record
import Parley.Proofs.Json.Values

namespace Parley.Json

/-! ## Sorted members -/

def Sorted (members : List (String × Json)) : Prop := members.Pairwise fun m m' => m.1 < m'.1

theorem lt_of_not_lt {a b : String} (hne : a ≠ b) (h : ¬ a < b) : b < a := by
  rcases Decidable.em (b < a) with hlt | hnot
  · exact hlt
  · exact absurd (String.le_antisymm (String.not_lt.mp hnot) (String.not_lt.mp h)) hne

theorem mem_insertMember {name : String} {v : Json} {members : List (String × Json)}
    {m : String × Json} (h : m ∈ insertMember name v members) : m = (name, v) ∨ m ∈ members := by
  induction members with
  | nil => exact .inl (List.mem_singleton.mp h)
  | cons other members ih =>
    rw [insertMember] at h
    split at h
    · rcases List.mem_cons.mp h with rfl | h
      · exact .inl rfl
      · exact .inr (List.mem_cons_of_mem _ h)
    split at h
    · exact List.mem_cons.mp h
    · rcases List.mem_cons.mp h with rfl | h
      · exact .inr List.mem_cons_self
      · rcases ih h with hm | hm
        · exact .inl hm
        · exact .inr (List.mem_cons_of_mem _ hm)

theorem Sorted.insertMember {name : String} {v : Json} {members : List (String × Json)}
    (h : Sorted members) : Sorted (insertMember name v members) := by
  induction members with
  | nil => exact List.pairwise_singleton _ _
  | cons other members ih =>
    obtain ⟨hother, hmembers⟩ := List.pairwise_cons.mp h
    rw [Json.insertMember]
    split
    · next heq =>
      subst heq
      exact List.pairwise_cons.mpr ⟨hother, hmembers⟩
    split
    · next hlt =>
      refine List.pairwise_cons.mpr ⟨fun m hm => ?_, h⟩
      rcases List.mem_cons.mp hm with rfl | hm
      · exact hlt
      · exact String.lt_trans hlt (hother m hm)
    · next hne hnot =>
      refine List.pairwise_cons.mpr ⟨fun m hm => ?_, ih hmembers⟩
      rcases mem_insertMember hm with rfl | hm
      · exact lt_of_not_lt hne hnot
      · exact hother m hm

theorem insertMember_last {name : String} {v : Json} {members : List (String × Json)}
    (h : ∀ m ∈ members, m.1 < name) : insertMember name v members = members ++ [(name, v)] := by
  induction members with
  | nil => rfl
  | cons other members ih =>
    have hlt : other.1 < name := h other List.mem_cons_self
    rw [insertMember, if_neg (String.ne_of_lt hlt).symm, if_neg (String.lt_asymm hlt),
      ih fun m hm => h m (List.mem_cons_of_mem _ hm), List.cons_append]

theorem insertMember_first {name : String} {v : Json} {members : List (String × Json)}
    (h : ∀ m ∈ members.head?, name < m.1) : insertMember name v members = (name, v) :: members := by
  cases members with
  | nil => rfl
  | cons other members =>
    have hlt : name < other.1 := h other rfl
    rw [insertMember, if_neg (String.ne_of_lt hlt), if_pos hlt]

theorem insertMember_same (v : Json) (other : String × Json) (members : List (String × Json)) :
    insertMember other.1 v (other :: members) = (other.1, v) :: members := by
  rw [insertMember, if_pos rfl]

theorem insertMember_behind {name : String} {v : Json} {other : String × Json}
    {members : List (String × Json)} (h : other.1 < name) :
    insertMember name v (other :: members) = other :: insertMember name v members := by
  rw [insertMember, if_neg (String.ne_of_lt h).symm, if_neg (String.lt_asymm h)]

theorem insertMember_comm_of_lt {a b : String} (h : a < b) (v w : Json)
    (members : List (String × Json)) :
    insertMember b w (insertMember a v members) = insertMember a v (insertMember b w members) := by
  induction members with
  | nil =>
    rw [insertMember, insertMember_behind h, insertMember, insertMember_first (by simpa using h)]
  | cons other members ih =>
    by_cases heq : a = other.1
    · -- The member of the smaller name is replaced, the other comes behind it.
      subst heq
      have hput : insertMember b w ((other.1, v) :: members) = (other.1, v) :: insertMember b w members :=
        insertMember_behind h
      rw [insertMember_same, hput, insertMember_behind h, insertMember_same]
    by_cases hlt : a < other.1
    · -- The member of the smaller name comes first, whatever the other does.
      have hfirst : ∀ m ∈ (insertMember b w (other :: members)).head?, a < m.1 := by
        intro m hm
        rw [insertMember] at hm
        split at hm
        · cases hm
          exact h
        split at hm
        · cases hm
          exact h
        · cases hm
          exact hlt
      have hfront : insertMember a v (other :: members) = (a, v) :: other :: members :=
        insertMember_first (by simpa using hlt)
      rw [hfront, insertMember_behind h, insertMember_first hfirst]
    · -- Both come behind the first member.
      have hother : other.1 < a := lt_of_not_lt heq hlt
      have hother' : other.1 < b := String.lt_trans hother h
      rw [insertMember_behind hother, insertMember_behind hother', ih, insertMember_behind hother',
        insertMember_behind hother]

theorem insertMember_comm {a b : String} (hne : a ≠ b) (v w : Json) (members : List (String × Json)) :
    insertMember b w (insertMember a v members) = insertMember a v (insertMember b w members) := by
  by_cases h : a < b
  · exact insertMember_comm_of_lt h v w members
  · exact (insertMember_comm_of_lt (lt_of_not_lt hne h) w v members).symm

/-! ## Normal forms -/

theorem normalItems_eq (items : List Json) : normalItems items = items.map normal := by
  induction items with
  | nil => rfl
  | cons v items ih => rw [normalItems, ih, List.map_cons]

theorem mem_normalMembers {members sorted : List (String × Json)} {m : String × Json}
    (h : m ∈ normalMembers members sorted) : m ∈ sorted ∨ ∃ m' ∈ members, m = (m'.1, m'.2.normal) := by
  induction members generalizing sorted with
  | nil => exact .inl h
  | cons first members ih =>
    rw [normalMembers] at h
    rcases ih h with h | ⟨m', hm', rfl⟩
    · rcases mem_insertMember h with rfl | h
      · exact .inr ⟨first, List.mem_cons_self, rfl⟩
      · exact .inl h
    · exact .inr ⟨m', List.mem_cons_of_mem _ hm', rfl⟩

theorem Sorted.normalMembers {members sorted : List (String × Json)} (h : Sorted sorted) :
    Sorted (normalMembers members sorted) := by
  induction members generalizing sorted with
  | nil => exact h
  | cons m members ih =>
    rw [Json.normalMembers]
    exact ih h.insertMember

theorem normalMembers_of_sorted {members sorted : List (String × Json)}
    (h : Sorted (sorted ++ members)) (hnormal : ∀ m ∈ members, m.2.normal = m.2) :
    normalMembers members sorted = sorted ++ members := by
  induction members generalizing sorted with
  | nil => rw [normalMembers, List.append_nil]
  | cons m members ih =>
    have hlast : ∀ m' ∈ sorted, m'.1 < m.1 := fun m' hm' =>
      (List.pairwise_append.mp h).2.2 m' hm' m List.mem_cons_self
    rw [normalMembers, hnormal m List.mem_cons_self, insertMember_last hlast,
      ih (by simpa using h) fun m hm => hnormal m (List.mem_cons_of_mem _ hm), List.append_assoc]
    rfl

mutual

theorem normal_normal : ∀ v : Json, v.normal.normal = v.normal
  | .arr items => by
    have hitems : (items.map normal).map normal = items.map normal := by
      rw [List.map_map]
      exact List.map_congr_left (normal_normal_items items)
    rw [normal, normal, normalItems_eq, normalItems_eq, hitems]
  | .obj members => by
    have hsorted : Sorted (normalMembers members []) := Sorted.normalMembers List.Pairwise.nil
    rw [normal, normal, normalMembers_of_sorted (by simpa using hsorted)]
    · rfl
    · intro m hm
      rcases mem_normalMembers hm with hm | ⟨m', hm', rfl⟩
      · cases hm
      · exact normal_normal_members members m' hm'
  | .null | .bool _ | .int _ | .double _ | .str _ => rfl

theorem normal_normal_items : ∀ items : List Json, ∀ v ∈ items, v.normal.normal = v.normal
  | [], _, h => nomatch h
  | v :: items, w, h => by
    rcases List.mem_cons.mp h with heq | h
    · rw [heq]
      exact normal_normal v
    · exact normal_normal_items items w h

theorem normal_normal_members :
    ∀ members : List (String × Json), ∀ m ∈ members, m.2.normal.normal = m.2.normal
  | [], _, h => nomatch h
  | (name, v) :: members, m, h => by
    rcases List.mem_cons.mp h with heq | h
    · rw [heq]
      exact normal_normal v
    · exact normal_normal_members members m h

end

theorem Readable.normal {n : Nat} {v : Json} (h : Readable n v) : Readable n v.normal := by
  induction h with
  | @scalar n v h =>
    cases v with
    | str | arr | obj => exact h.elim
    | _ => exact .scalar h
  | str s => exact .str s
  | arr _ ih =>
    rw [Json.normal, normalItems_eq]
    exact .arr (List.forall_mem_map.mpr ih)
  | obj _ ih =>
    rw [Json.normal]
    refine .obj fun m hm => ?_
    rcases mem_normalMembers hm with hm | ⟨m', hm', rfl⟩
    · cases hm
    · exact ih m' hm'

/-! ## Trees in another order -/

/-- Trees that differ in the order of members of different names, at any
depth. -/
inductive Reordered : Raw → Raw → Prop
  | refl (r : Raw) : Reordered r r
  | trans {r r' r'' : Raw} (h : Reordered r r') (h' : Reordered r' r'') : Reordered r r''
  | item (before after : List Raw) {r r' : Raw} (h : Reordered r r') :
      Reordered (.arr (before ++ r :: after)) (.arr (before ++ r' :: after))
  | member (before after : List (Option String × Raw)) (name : Option String) {r r' : Raw}
      (h : Reordered r r') :
      Reordered (.obj (before ++ (name, r) :: after)) (.obj (before ++ (name, r') :: after))
  | swap (before after : List (Option String × Raw)) {m m' : Option String × Raw} (h : m.1 ≠ m'.1) :
      Reordered (.obj (before ++ m :: m' :: after)) (.obj (before ++ m' :: m :: after))

section
open Raw

variable {n : Nat} {r r' : Raw}

/-- The normal form of the value of a tree. -/
def normalWithin? (n : Nat) (r : Raw) : Option Json := (r.valueWithin? n).map normal

/-- The normal forms of the items. -/
def normalItemsWithin? (n : Nat) (items : List Raw) : Option (List Json) :=
  (itemsWithin? n items).map (·.map normal)

/-- The members put into a sorted list one after the other. -/
def sortWithin? (n : Nat) (members : List (Option String × Raw)) (sorted : List (String × Json)) :
    Option (List (String × Json)) :=
  (membersWithin? n members).map fun members => normalMembers members sorted

theorem normalItemsWithin?_cons (item : Raw) (items : List Raw) :
    normalItemsWithin? n (item :: items) =
      (normalWithin? n item).bind fun v => (normalItemsWithin? n items).map (v :: ·) := by
  unfold normalItemsWithin? normalWithin?
  rw [itemsWithin?]
  cases valueWithin? n item with
  | none => rfl
  | some v => cases itemsWithin? n items <;> rfl

theorem sortWithin?_cons (m : Option String × Raw) (members : List (Option String × Raw))
    (sorted : List (String × Json)) :
    sortWithin? n (m :: members) sorted = m.1.bind fun name =>
      (normalWithin? n m.2).bind fun v => sortWithin? n members (insertMember name v sorted) := by
  obtain ⟨name, r⟩ := m
  unfold sortWithin? normalWithin?
  rw [membersWithin?]
  cases name with
  | none => rfl
  | some name =>
    cases valueWithin? n r with
    | none => rfl
    | some v => cases membersWithin? n members <;> rfl

theorem normalWithin?_arr (items : List Raw) :
    normalWithin? (n + 1) (.arr items) = (normalItemsWithin? n items).map .arr := by
  unfold normalWithin? normalItemsWithin?
  rw [valueWithin?, if_neg (Nat.succ_ne_zero n), Nat.add_sub_cancel]
  cases itemsWithin? n items with
  | none => rfl
  | some vs => simp [normal, normalItems_eq]

theorem normalWithin?_obj (members : List (Option String × Raw)) :
    normalWithin? (n + 1) (.obj members) = (sortWithin? n members []).map .obj := by
  unfold normalWithin? sortWithin?
  rw [valueWithin?, if_neg (Nat.succ_ne_zero n), Nat.add_sub_cancel]
  cases membersWithin? n members with
  | none => rfl
  | some vs => simp [normal]

theorem normalItemsWithin?_congr (before after : List Raw) (h : normalWithin? n r = normalWithin? n r') :
    normalItemsWithin? n (before ++ r :: after) = normalItemsWithin? n (before ++ r' :: after) := by
  induction before with
  | nil => rw [List.nil_append, List.nil_append, normalItemsWithin?_cons, normalItemsWithin?_cons, h]
  | cons item before ih =>
    rw [List.cons_append, List.cons_append, normalItemsWithin?_cons, normalItemsWithin?_cons, ih]

theorem sortWithin?_append {after after' : List (Option String × Raw)}
    (h : ∀ sorted, sortWithin? n after sorted = sortWithin? n after' sorted)
    (before : List (Option String × Raw)) (sorted : List (String × Json)) :
    sortWithin? n (before ++ after) sorted = sortWithin? n (before ++ after') sorted := by
  induction before generalizing sorted with
  | nil => exact h sorted
  | cons m before ih =>
    rw [List.cons_append, List.cons_append, sortWithin?_cons, sortWithin?_cons]
    simp only [ih]

theorem sortWithin?_swap {m m' : Option String × Raw} (hne : m.1 ≠ m'.1)
    (members : List (Option String × Raw)) (sorted : List (String × Json)) :
    sortWithin? n (m :: m' :: members) sorted = sortWithin? n (m' :: m :: members) sorted := by
  obtain ⟨name, r⟩ := m
  obtain ⟨name', r'⟩ := m'
  simp only [sortWithin?_cons]
  cases name with
  | none => cases name' <;> cases normalWithin? n r' <;> rfl
  | some name =>
    cases name' with
    | none => cases normalWithin? n r <;> rfl
    | some name' =>
      have hnames : name ≠ name' := fun heq => hne (by rw [heq])
      cases hr : normalWithin? n r with
      | none => cases normalWithin? n r' <;> rfl
      | some v =>
        cases hr' : normalWithin? n r' with
        | none => rfl
        | some w =>
          simp only [Option.bind_some]
          rw [insertMember_comm hnames]

/-- **The order of members of different names does not show in the normal
form.** -/
theorem Reordered.normal_eq (h : Reordered r r') (n : Nat) :
    normalWithin? n r = normalWithin? n r' := by
  induction h generalizing n with
  | refl => rfl
  | trans _ _ ih ih' => exact (ih n).trans (ih' n)
  | item before after _ ih =>
    cases n with
    | zero => rfl
    | succ n => rw [normalWithin?_arr, normalWithin?_arr, normalItemsWithin?_congr before after (ih n)]
  | member before after name _ ih =>
    cases n with
    | zero => rfl
    | succ n =>
      rw [normalWithin?_obj, normalWithin?_obj, sortWithin?_append fun sorted => ?_]
      rw [sortWithin?_cons, sortWithin?_cons, ih n]
  | swap before after hne =>
    cases n with
    | zero => rfl
    | succ n =>
      rw [normalWithin?_obj, normalWithin?_obj, sortWithin?_append fun sorted => ?_]
      exact sortWithin?_swap hne after sorted

end

end Parley.Json
