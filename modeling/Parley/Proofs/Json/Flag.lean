/-
Records with one field, which is a truth value.

`Flag` tells which trees give that value: an object with one member of the
name, or an array of one item. The members of other names may hold anything
that is well formed, but a second member of the name, a value of another
kind or a longer array is no answer (`flagForm_scanned?_iff`).
-/
import Parley.Proofs.Json.Forms

namespace Parley.Json

/-- The members have names, and all of them another one. -/
def Others (name : String) (members : List (Option String × Raw)) : Prop :=
  ∀ m ∈ members, ∃ other, m.1 = some other ∧ other ≠ name

/-- The trees that tell one truth value: objects with one member of that
name, in which nothing is asked of the values of the others, and arrays of
one item. -/
inductive Flag (name : String) (b : Bool) : Raw → Prop
  | member {before after : List (Option String × Raw)} (hbefore : Others name before)
      (hafter : Others name after) : Flag name b (.obj (before ++ (some name, .scalar (.bool b)) :: after))
  | item : Flag name b (.arr [.scalar (.bool b)])

/-- A record whose one field is a truth value. -/
def flagForm (name : String) : Form Bool := ⟨[name], fun r => r.required name bool?⟩

variable {name : String} {b : Bool}

theorem bool?_eq_some_iff {v : Json} : bool? v = some b ↔ v = .bool b := by
  cases v <;> simp [bool?]

theorem Raw.valueWithin?_eq_bool_iff {depth : Nat} {r : Raw} :
    r.valueWithin? depth = some (.bool b) ↔ r = .scalar (.bool b) := by
  cases r with
  | scalar v => simp [valueWithin?]
  | broken behind => simp [valueWithin?]
  | arr items =>
    rw [valueWithin?]
    split <;> simp
  | obj members =>
    rw [valueWithin?]
    split <;> simp

theorem Raw.restrictMembers?_cons_iff {names : List String} {label : Option String} {r : Raw}
    {members : List (Option String × Raw)} {found : List (String × Json)} :
    restrictMembers? names ((label, r) :: members) = some found ↔
      ∃ other rest, label = some other ∧ restrictMembers? names members = some rest ∧
        (other ∈ names ∧ (∃ v, r.partValue? = some v ∧ found = (other, v) :: rest) ∨
          other ∉ names ∧ found = rest) := by
  rw [restrictMembers?]
  cases label with
  | none => simp
  | some other =>
    cases restrictMembers? names members with
    | none => simp
    | some rest =>
      by_cases hother : other ∈ names
      · cases hv : r.partValue? with
        | none => simp [hother]
        | some v => simp [hother, eq_comm]
      · simp [hother, eq_comm]

theorem Raw.names_restrictMembers? {names : List String} {members : List (Option String × Raw)}
    {found : List (String × Json)} (h : restrictMembers? names members = some found) :
    ∀ m ∈ found, m.1 ∈ names := by
  induction members generalizing found with
  | nil =>
    cases h
    exact nofun
  | cons m members ih =>
    obtain ⟨other, rest, -, hrest, ⟨hother, v, -, rfl⟩ | ⟨-, rfl⟩⟩ := restrictMembers?_cons_iff.mp h
    · exact List.forall_mem_cons.mpr ⟨hother, ih hrest⟩
    · exact ih hrest

theorem Others.restrictMembers? {before after : List (Option String × Raw)} {found : List (String × Json)}
    (h : Others name before) (hafter : Raw.restrictMembers? [name] after = some found) :
    Raw.restrictMembers? [name] (before ++ after) = some found := by
  induction before with
  | nil => exact hafter
  | cons m before ih =>
    obtain ⟨⟨other, hlabel, hother⟩, hrest⟩ := List.forall_mem_cons.mp h
    exact Raw.restrictMembers?_cons_iff.mpr ⟨other, found, hlabel, ih hrest, .inr ⟨by simpa using hother, rfl⟩⟩

theorem Raw.restrictMembers?_split {members : List (Option String × Raw)} {found : List (String × Json)}
    (h : restrictMembers? [name] members = some found) :
    found = [] ∧ Others name members ∨
      ∃ before r after v rest, members = before ++ (some name, r) :: after ∧ found = (name, v) :: rest ∧
        Others name before ∧ r.partValue? = some v ∧ restrictMembers? [name] after = some rest := by
  induction members generalizing found with
  | nil =>
    cases h
    exact .inl ⟨rfl, nofun⟩
  | cons m members ih =>
    obtain ⟨label, r⟩ := m
    obtain ⟨other, rest, rfl, hrest, ⟨hname, v, hv, rfl⟩ | ⟨hname, rfl⟩⟩ := restrictMembers?_cons_iff.mp h
    · obtain rfl := List.mem_singleton.mp hname
      exact .inr ⟨[], r, members, v, rest, rfl, rfl, nofun, hv, hrest⟩
    · have hother : ∃ o, some other = some o ∧ o ≠ name := ⟨other, rfl, by simpa using hname⟩
      rcases ih hrest with ⟨rfl, hothers⟩ | ⟨before, r', after, v, rest', rfl, rfl, hothers, hv, hafter⟩
      · exact .inl ⟨rfl, List.forall_mem_cons.mpr ⟨hother, hothers⟩⟩
      · exact .inr ⟨(some other, r) :: before, r', after, v, rest', rfl, rfl,
          List.forall_mem_cons.mpr ⟨hother, hothers⟩, hv, hafter⟩

theorem Written.not_container {s : List (Option Char)} {v : Json} (h : Written s (.scalar v)) :
    v.Fits ∨ ∃ t, v = .str t := by
  obtain ⟨ts, hlexed, hspells⟩ := h
  cases hspells with
  | text t => exact .inr ⟨t, rfl⟩
  | scalar => exact .inl (hlexed.fits v (List.mem_singleton.mpr rfl))

theorem flagForm_ofJson?_obj {found : List (String × Json)} (h : ∀ m ∈ found, m.1 ∈ [name]) :
    (flagForm name).ofJson? (.obj found) = some b ↔ found = [(name, .bool b)] := by
  have hnamed (m : String × Json) (hm : m ∈ found) : m.1 = name := List.mem_singleton.mp (h m hm)
  have hknown : (found.filter fun m => [name].contains m.1) = found :=
    List.filter_eq_self.mpr fun m hm => by simp [hnamed m hm]
  unfold Form.ofJson? record? flagForm
  simp only [hknown]
  match found, hnamed with
  | [], _ => simp [distinct, Record.required, Record.get?]
  | [(label, v)], hnamed =>
    obtain rfl : label = name := hnamed (label, v) List.mem_cons_self
    simp [distinct, Record.required, Record.get?, bool?_eq_some_iff]
  | (label, v) :: (label', v') :: rest, hnamed =>
    obtain rfl : label = name := hnamed (label, v) List.mem_cons_self
    obtain rfl : label' = label := hnamed (label', v') (List.mem_cons_of_mem _ List.mem_cons_self)
    simp [distinct]

theorem flagForm_ofJson?_arr {items : List Json} :
    (flagForm name).ofJson? (.arr items) = some b ↔ items = [.bool b] := by
  unfold Form.ofJson? record? flagForm
  match items with
  | [] => simp [Record.required, Record.get?]
  | [v] => simp [Record.required, Record.get?, bool?_eq_some_iff]
  | v :: v' :: rest => simp

theorem Flag.ofRaw? {r : Raw} (h : Flag name b r) : (flagForm name).ofRaw? r = some b := by
  cases h with
  | @member before after hbefore hafter =>
    have hrest : Raw.restrictMembers? [name] after = some [] := by
      simpa using hafter.restrictMembers? (show Raw.restrictMembers? [name] [] = some [] from rfl)
    have hone : Raw.restrictMembers? [name] ((some name, .scalar (.bool b)) :: after) = some [(name, .bool b)] :=
      Raw.restrictMembers?_cons_iff.mpr ⟨name, [], rfl, hrest, .inl ⟨by simp, .bool b, rfl, rfl⟩⟩
    refine Option.bind_eq_some_iff.mpr ⟨.obj [(name, .bool b)], ?_, ?_⟩
    · exact Option.map_eq_some_iff.mpr ⟨_, hbefore.restrictMembers? hone, rfl⟩
    · exact (flagForm_ofJson?_obj (by simp)).mpr rfl
  | item => exact Option.bind_eq_some_iff.mpr ⟨.arr [.bool b], rfl, flagForm_ofJson?_arr.mpr rfl⟩

theorem Raw.itemsWithin?_eq_bool {depth : Nat} {items : List Raw}
    (h : itemsWithin? depth items = some [.bool b]) : items = [.scalar (.bool b)] := by
  rw [itemsWithin?_eq_some_iff] at h
  obtain ⟨item, rest, hitem, hrest, rfl⟩ := List.forall₂_cons_right_iff.mp h
  obtain rfl := List.forall₂_nil_right_iff.mp hrest
  obtain rfl := valueWithin?_eq_bool_iff.mp hitem
  rfl

theorem Flag.of_ofRaw? {s : List (Option Char)} {r : Raw} (hwritten : Written s r)
    (h : (flagForm name).ofRaw? r = some b) : Flag name b r := by
  obtain ⟨v, hv, h⟩ := Option.bind_eq_some_iff.mp h
  cases r with
  | obj members =>
    obtain ⟨found, hfound, rfl⟩ := Option.map_eq_some_iff.mp hv
    obtain rfl := (flagForm_ofJson?_obj (Raw.names_restrictMembers? hfound)).mp h
    rcases Raw.restrictMembers?_split hfound with ⟨hnone, -⟩ |
      ⟨before, r, after, v, rest, rfl, hone, hbefore, hr, hafter⟩
    · cases hnone
    cases hone
    obtain rfl := Raw.valueWithin?_eq_bool_iff.mp hr
    rcases Raw.restrictMembers?_split hafter with ⟨-, hothers⟩ | ⟨_, _, _, _, _, _, hmore, _⟩
    · exact .member hbefore hothers
    · cases hmore
  | arr items =>
    obtain ⟨vs, hvs, rfl⟩ := Option.map_eq_some_iff.mp (show (Raw.itemsWithin? 126 items).map Json.arr = some v from hv)
    obtain rfl := flagForm_ofJson?_arr.mp h
    rw [Raw.itemsWithin?_eq_bool hvs]
    exact .item
  | scalar w =>
    cases hv
    rcases hwritten.not_container with hfits | ⟨t, rfl⟩
    · cases v with
      | arr | obj => exact hfits.elim
      | _ => cases h
    · cases h
  | broken behind => cases hv

/-- **A truth value is read from a text of exactly the trees that tell it.** -/
theorem flagForm_scanned?_iff {s : List (Option Char)} :
    (flagForm name).scanned? s = some b ↔ ∃ r, Written s r ∧ Flag name b r := by
  constructor
  · intro h
    obtain ⟨r, hr, h⟩ := Option.bind_eq_some_iff.mp h
    exact ⟨r, raw?_eq_some_iff.mp hr, .of_ofRaw? (raw?_eq_some_iff.mp hr) h⟩
  · rintro ⟨r, hr, h⟩
    exact Option.bind_eq_some_iff.mpr ⟨r, raw?_eq_some_iff.mpr hr, h.ofRaw?⟩

end Parley.Json
