/-
Records that are read from values in normal form.

A form that looks at the normal forms of its fields alone reads the same
record from texts that differ in blanks, in the way strings are written and
in the order of members of different names (`Respelled.scanned?_eq`).
-/
import Mathlib.Data.List.Nodup
import Parley.Proofs.Json.Order

namespace Parley.Json

/-! ## Records -/

/-- A member with the normal form of its value. -/
def normalMember (m : String × Json) : String × Json := (m.1, m.2.normal)

theorem distinct_iff {names : List String} : distinct names = true ↔ names.Nodup := by
  induction names with
  | nil => simp [distinct]
  | cons name names ih => simp [distinct, ih]

theorem names_normalMember (found : List (String × Json)) :
    (found.map normalMember).map (·.1) = found.map (·.1) := by
  rw [List.map_map]
  rfl

namespace Record

theorem get?_normal (positional : Bool) (found : List (String × Json)) (name : String) :
    (Record.get? ⟨positional, found⟩ name).map normal =
      Record.get? ⟨positional, found.map normalMember⟩ name := by
  unfold get?
  rw [List.find?_map, Option.map_map, Option.map_map]
  rfl

theorem get?_perm {positional : Bool} {found found' : List (String × Json)} (h : found.Perm found')
    (hdistinct : (found.map (·.1)).Nodup) (name : String) :
    Record.get? ⟨positional, found⟩ name = Record.get? ⟨positional, found'⟩ name := by
  unfold get?
  congr 1
  induction h with
  | nil => rfl
  | cons m _ ih =>
    rw [List.find?_cons, List.find?_cons, ih (List.nodup_cons.mp hdistinct).2]
  | swap m m' found =>
    rw [List.map_cons, List.map_cons, List.nodup_cons] at hdistinct
    have hne : m'.1 ≠ m.1 := fun heq => hdistinct.1 (heq ▸ List.mem_cons_self)
    simp only [List.find?_cons]
    by_cases hm : m.1 = name
    · have hm' : (m'.1 == name) = false := by simpa [← hm] using hne
      simp [hm, hm']
    · have hm : (m.1 == name) = false := by simpa using hm
      simp [hm]
  | trans h _ ih ih' => exact (ih hdistinct).trans (ih' ((h.map _).nodup_iff.mp hdistinct))

variable {R R' : Record} {name : String}

theorem required_congr {α : Type} {read : Json → Option α} (hread : ∀ v, read v.normal = read v)
    (h : (R.get? name).map normal = (R'.get? name).map normal) :
    R.required name read = R'.required name read := by
  have hvia (R : Record) : R.required name read = ((R.get? name).map normal).bind read := by
    unfold required
    cases R.get? name with
    | none => rfl
    | some v => exact (hread v).symm
  rw [hvia, hvia, h]

theorem defaulted_congr {absent : Json} (h : (R.get? name).map normal = (R'.get? name).map normal) :
    (R.defaulted name absent some).map normal = (R'.defaulted name absent some).map normal := by
  unfold defaulted
  cases hR : R.get? name with
  | none =>
    rw [hR] at h
    cases hR' : R'.get? name with
    | none => rfl
    | some v => simp [hR'] at h
  | some v =>
    rw [hR] at h
    cases hR' : R'.get? name with
    | none => simp [hR'] at h
    | some v' => simpa [hR'] using h

end Record

/-! ## Forms -/

namespace Form

variable {α : Type} {f : Form α}

/-- What is made of a record depends on the normal forms of its fields
alone. -/
def Normalizing (f : Form α) : Prop :=
  ∀ R R' : Record, R.positional = R'.positional →
    (∀ name, (R.get? name).map normal = (R'.get? name).map normal) → f.make R = f.make R'

theorem Normalizing.ofJson?_obj (hf : f.Normalizing) {members members' : List (String × Json)}
    (h : (members.map normalMember).Perm (members'.map normalMember)) :
    f.ofJson? (.obj members) = f.ofJson? (.obj members') := by
  -- What is found keeps its names, and the values change with their normal forms.
  have hfilter (l : List (String × Json)) : (l.filter fun m => f.names.contains m.1).map normalMember =
      (l.map normalMember).filter fun m => f.names.contains m.1 := by
    rw [List.filter_map]
    rfl
  have hfound : ((members.filter fun m => f.names.contains m.1).map normalMember).Perm
      ((members'.filter fun m => f.names.contains m.1).map normalMember) := by
    rw [hfilter, hfilter]
    exact h.filter _
  have hnames := hfound.map (·.1)
  rw [names_normalMember, names_normalMember] at hnames
  unfold ofJson? record?
  simp only
  by_cases hdistinct : ((members.filter fun m => f.names.contains m.1).map (·.1)).Nodup
  · rw [if_pos (distinct_iff.mpr hdistinct), if_pos (distinct_iff.mpr (hnames.nodup_iff.mp hdistinct))]
    refine hf _ _ rfl fun name => ?_
    rw [Record.get?_normal, Record.get?_normal]
    exact Record.get?_perm hfound (by rwa [names_normalMember]) name
  · rw [if_neg fun hd => hdistinct (distinct_iff.mp hd),
      if_neg fun hd => hdistinct (hnames.nodup_iff.mpr (distinct_iff.mp hd))]

theorem Normalizing.ofJson?_arr (hf : f.Normalizing) {items items' : List Json}
    (h : items.map normal = items'.map normal) : f.ofJson? (.arr items) = f.ofJson? (.arr items') := by
  have hlength : items.length = items'.length := by simpa using congrArg List.length h
  have hzip (l : List Json) : (f.names.zip l).map normalMember = f.names.zip (l.map normal) := by
    rw [List.zip_map_right]
    rfl
  unfold ofJson? record?
  simp only [hlength]
  split
  · refine hf _ _ rfl fun name => ?_
    rw [Record.get?_normal, Record.get?_normal, hzip, hzip, h]
  · rfl

end Form

/-! ## Trees in another order -/

section
open Raw

variable {names : List String} {r r' : Raw}

/-- The members of those names with the normal forms of their values. -/
def seen? (names : List String) (members : List (Option String × Raw)) : Option (List (String × Json)) :=
  (restrictMembers? names members).map (·.map normalMember)

theorem seen?_cons (m : Option String × Raw) (members : List (Option String × Raw)) :
    seen? names (m :: members) = m.1.bind fun name => (seen? names members).bind fun rest =>
      if names.contains name then
        (normalWithin? (greatestDepth - 1) m.2).map fun v => (name, v) :: rest
      else some rest := by
  obtain ⟨name, r⟩ := m
  unfold seen? normalWithin?
  rw [restrictMembers?]
  cases name with
  | none => rfl
  | some name =>
    cases restrictMembers? names members with
    | none => rfl
    | some rest =>
      simp only [Option.bind_eq_bind, Option.bind_some, Option.map_some, partValue?]
      split
      · cases valueWithin? (greatestDepth - 1) r <;> rfl
      · rfl

theorem seen?_self (members : List (Option String × Raw)) :
    Option.Rel List.Perm (seen? names members) (seen? names members) := by
  cases seen? names members with
  | none => exact .none
  | some found => exact .some (.refl found)

theorem seen?_append {after after' : List (Option String × Raw)}
    (h : Option.Rel List.Perm (seen? names after) (seen? names after'))
    (before : List (Option String × Raw)) :
    Option.Rel List.Perm (seen? names (before ++ after)) (seen? names (before ++ after')) := by
  induction before with
  | nil => exact h
  | cons m before ih =>
    rw [List.cons_append, List.cons_append, seen?_cons, seen?_cons]
    cases m.1 with
    | none => exact .none
    | some name =>
      simp only [Option.bind_some]
      generalize seen? names (before ++ after) = found at ih
      generalize seen? names (before ++ after') = found' at ih
      cases ih with
      | none => exact .none
      | some hrest =>
        simp only [Option.bind_some]
        split
        · cases normalWithin? (greatestDepth - 1) m.2 with
          | none => exact .none
          | some v => exact .some (hrest.cons _)
        · exact .some hrest

theorem seen?_swap (m m' : Option String × Raw) (members : List (Option String × Raw)) :
    Option.Rel List.Perm (seen? names (m :: m' :: members)) (seen? names (m' :: m :: members)) := by
  simp only [seen?_cons]
  cases m.1 with
  | none => cases m'.1 <;> exact .none
  | some name =>
    cases m'.1 with
    | none => exact .none
    | some name' =>
      simp only [Option.bind_some]
      cases seen? names members with
      | none => exact .none
      | some rest =>
        simp only [Option.bind_some]
        by_cases h : names.contains name <;> by_cases h' : names.contains name' <;>
          simp only [h, h', if_true, if_false, Bool.false_eq_true, Option.bind_some]
        · cases normalWithin? (greatestDepth - 1) m.2 <;>
            cases normalWithin? (greatestDepth - 1) m'.2
          · exact .none
          · exact .none
          · exact .none
          · exact .some (.swap _ _ _)
        · cases normalWithin? (greatestDepth - 1) m.2
          · exact .none
          · exact .some (.refl _)
        · cases normalWithin? (greatestDepth - 1) m'.2
          · exact .none
          · exact .some (.refl _)
        · exact .some (.refl _)

variable {α : Type} {f : Form α}

theorem Form.Normalizing.ofRaw?_obj (hf : f.Normalizing) {members members' : List (Option String × Raw)}
    (h : Option.Rel List.Perm (seen? f.names members) (seen? f.names members')) :
    f.ofRaw? (.obj members) = f.ofRaw? (.obj members') := by
  unfold Form.ofRaw? restrict?
  simp only
  unfold seen? at h
  cases hm : restrictMembers? f.names members with
  | none =>
    cases hm' : restrictMembers? f.names members' with
    | none => rfl
    | some vs =>
      rw [hm, hm'] at h
      cases h
  | some vs =>
    cases hm' : restrictMembers? f.names members' with
    | none =>
      rw [hm, hm'] at h
      cases h
    | some vs' =>
      rw [hm, hm'] at h
      cases h with
      | some h => exact hf.ofJson?_obj h

theorem Form.Normalizing.ofRaw?_arr (hf : f.Normalizing) {items items' : List Raw}
    (h : normalItemsWithin? (greatestDepth - 1) items = normalItemsWithin? (greatestDepth - 1) items') :
    f.ofRaw? (.arr items) = f.ofRaw? (.arr items') := by
  unfold Form.ofRaw? restrict? value?
  simp only [valueWithin?, greatestDepth] at h ⊢
  unfold normalItemsWithin? at h
  cases hi : itemsWithin? 126 items with
  | none =>
    cases hi' : itemsWithin? 126 items' with
    | none => rfl
    | some vs => simp [hi, hi'] at h
  | some vs =>
    cases hi' : itemsWithin? 126 items' with
    | none => simp [hi, hi'] at h
    | some vs' =>
      have hvs : vs.map normal = vs'.map normal := by simpa [hi, hi'] using h
      exact hf.ofJson?_arr hvs

/-- **A record of normal forms does not show the order of members.** -/
theorem Reordered.ofRaw?_eq (hf : f.Normalizing) (h : Reordered r r') : f.ofRaw? r = f.ofRaw? r' := by
  induction h with
  | refl => rfl
  | trans _ _ ih ih' => exact ih.trans ih'
  | item before after h => exact hf.ofRaw?_arr (normalItemsWithin?_congr before after (h.normal_eq _))
  | @member before after name r r' h _ =>
    have hsame : seen? f.names ((name, r) :: after) = seen? f.names ((name, r') :: after) := by
      rw [seen?_cons, seen?_cons, h.normal_eq]
    refine hf.ofRaw?_obj (seen?_append ?_ before)
    rw [hsame]
    exact seen?_self _
  | swap before after => exact hf.ofRaw?_obj (seen?_append (seen?_swap _ _ after) before)

end

/-! ## Texts -/

section

variable {α : Type} {f : Form α}

/-- What a text describes in which a `none` stands for octets that are no
character. -/
def Form.scanned? (f : Form α) (s : List (Option Char)) : Option α := (raw? s).bind f.ofRaw?

theorem Form.ofText?_eq (s : String) : f.ofText? s = f.scanned? (s.toList.map some) := rfl

/-- The texts differ in blanks, in the way strings are written and in the
order of members of different names at most. -/
def Respelled (s s' : List (Option Char)) : Prop := ∃ r r', Written s r ∧ Written s' r' ∧ Reordered r r'

theorem Respelled.scanned?_eq {s s' : List (Option Char)} (hf : f.Normalizing) (h : Respelled s s') :
    f.scanned? s = f.scanned? s' := by
  obtain ⟨r, r', hr, hr', hordered⟩ := h
  rw [Form.scanned?, Form.scanned?, raw?_eq_some_iff.mpr hr, raw?_eq_some_iff.mpr hr', Option.bind_some,
    Option.bind_some, hordered.ofRaw?_eq hf]

end

/-! ## What is asked for -/

theorem Spells.of_member {ts : List Token} {members : List (Option String × Raw)}
    (h : Spells ts (.obj members)) {m : Option String × Raw} (hm : m ∈ members) :
    ∃ ts', Spells ts' m.2 ∧ ∀ t ∈ ts', t ∈ ts := by
  cases h with
  | obj parts hnames hparts =>
    obtain ⟨p, hp, rfl⟩ := List.mem_map.mp hm
    refine ⟨p.tokens, hparts p hp, fun t ht => ?_⟩
    refine List.mem_append_left _ (List.mem_cons_of_mem _ (mem_separated (List.mem_map_of_mem hp) ?_))
    exact List.mem_cons_of_mem _ (List.mem_cons_of_mem _ ht)

theorem Raw.mem_restrictMembers? {names : List String} {members : List (Option String × Raw)}
    {found : List (String × Json)} (h : restrictMembers? names members = some found)
    {m : String × Json} (hm : m ∈ found) : ∃ m' ∈ members, m'.2.partValue? = some m.2 := by
  induction members generalizing found with
  | nil =>
    cases h
    cases hm
  | cons first members ih =>
    obtain ⟨label, r⟩ := first
    rw [restrictMembers?] at h
    obtain ⟨name, -, h⟩ := Option.bind_eq_some_iff.mp h
    obtain ⟨rest, hrest, h⟩ := Option.bind_eq_some_iff.mp h
    have behind (hm : m ∈ rest) : ∃ m' ∈ (label, r) :: members, m'.2.partValue? = some m.2 := by
      obtain ⟨m', hm', hvalue⟩ := ih hrest hm
      exact ⟨m', List.mem_cons_of_mem _ hm', hvalue⟩
    split at h
    · obtain ⟨v, hv, h⟩ := Option.bind_eq_some_iff.mp h
      cases h
      rcases List.mem_cons.mp hm with rfl | hm
      · exact ⟨_, List.mem_cons_self, hv⟩
      · exact behind hm
    · cases h
      exact behind hm

theorem Written.readable_restrict {s : List (Option Char)} {r : Raw} {names : List String} {v : Json}
    (h : Written s r) (hv : r.restrict? names = some v) : Readable Raw.greatestDepth v := by
  cases r with
  | obj members =>
    obtain ⟨found, hfound, rfl⟩ := Option.map_eq_some_iff.mp hv
    obtain ⟨ts, hlexed, hspells⟩ := h
    refine Readable.obj fun m hm => ?_
    obtain ⟨m', hm', hvalue⟩ := Raw.mem_restrictMembers? hfound hm
    obtain ⟨ts', hts', hsub⟩ := hspells.of_member hm'
    exact hts'.readable (fun w hw => hlexed.fits w (hsub _ hw)) hvalue
  | _ => exact h.readable hv

theorem Readable.of_record? {n : Nat} {v : Json} (h : Readable (n + 1) v) {names : List String}
    {found : Record} (hfound : v.record? names = some found) : ∀ m ∈ found.found, Readable n m.2 := by
  cases h with
  | @scalar _ v h =>
    cases v with
    | arr | obj => exact h.elim
    | _ => cases hfound
  | str => cases hfound
  | arr h =>
    rw [record?] at hfound
    split at hfound
    · cases hfound
      exact fun m hm => h _ (List.of_mem_zip hm).2
    · cases hfound
  | obj h =>
    simp only [record?] at hfound
    split at hfound
    · cases hfound
      exact fun m hm => h m (List.mem_of_mem_filter hm)
    · cases hfound

theorem Record.mem_of_get? {R : Record} {name : String} {v : Json} (h : R.get? name = some v) :
    ∃ m ∈ R.found, m.2 = v := by
  obtain ⟨m, hm, rfl⟩ := Option.map_eq_some_iff.mp h
  exact ⟨m, List.mem_of_find?_eq_some hm, rfl⟩

theorem Form.readable_of_scanned? {α : Type} {f : Form α} {s : List (Option Char)} {a : α}
    (h : f.scanned? s = some a) : ∃ R : Record, f.make R = some a ∧
      ∀ name v, R.get? name = some v → Readable (Raw.greatestDepth - 1) v := by
  obtain ⟨r, hr, h⟩ := Option.bind_eq_some_iff.mp h
  obtain ⟨v, hv, h⟩ := Option.bind_eq_some_iff.mp h
  obtain ⟨R, hR, hmake⟩ := Option.bind_eq_some_iff.mp h
  refine ⟨R, hmake, fun name w hw => ?_⟩
  obtain ⟨m, hm, rfl⟩ := Record.mem_of_get? hw
  have hv : Readable (Raw.greatestDepth - 1 + 1) v := (raw?_eq_some_iff.mp hr).readable_restrict hv
  exact hv.of_record? hR m hm

end Parley.Json
