/-
What a text gives for the fields of a record.

A part of a text is given for a field by its name in an object and by its place in an
array (`Raw.Gives`), and the record that is read from the text has the values of the
parts (`Form.get?_eq_some_iff`). A text that was written of a value is read as the value
is (`Form.ofText?_toText`).
-/
import Parley.Proofs.Json.Flag

namespace Parley.Json

open Text (IntRange)

/-! ## Parts -/

namespace Raw

/-- Whether a part of a tree is given for a field: under its name in an object, or at
its place in an array. -/
inductive Gives (names : List String) (name : String) : Raw → Raw → Prop
  | member {members : List (Option String × Raw)} {part : Raw} (h : (some name, part) ∈ members) :
    Gives names name (.obj members) part
  | item {items : List Raw} {part : Raw} (h : (name, part) ∈ names.zip items) :
    Gives names name (.arr items) part

/-- Whether something is given for a field, and nothing but what is meant. -/
def GivesOnly (names : List String) (name : String) (meant : Raw → Prop) (r : Raw) : Prop :=
  (∃ part, r.Gives names name part) ∧ ∀ part, r.Gives names name part → meant part

theorem GivesOnly.imp {names : List String} {name : String} {meant meant' : Raw → Prop} {r : Raw}
    (h : r.GivesOnly names name meant) (himp : ∀ part, meant part → meant' part) :
    r.GivesOnly names name meant' :=
  ⟨h.1, fun part hpart => himp part (h.2 part hpart)⟩

/-- Whether a part is a whole number of a range. -/
def isWhole (range : IntRange) : Raw → Bool
  | .scalar (.int i) => range.contains i
  | _ => false

theorem isWhole_iff {range : IntRange} {r : Raw} :
    r.isWhole range = true ↔ ∃ i, r = .scalar (.int i) ∧ range.contains i = true := by
  constructor
  · intro h
    unfold isWhole at h
    split at h
    · exact ⟨_, rfl, h⟩
    · cases h
  · rintro ⟨i, rfl, h⟩
    exact h

theorem valueWithin?_eq_scalar_iff {depth : Nat} {r : Raw} {v : Json}
    (harr : ∀ items, v ≠ .arr items) (hobj : ∀ members, v ≠ .obj members) :
    r.valueWithin? depth = some v ↔ r = .scalar v := by
  cases r with
  | scalar w => simp [valueWithin?]
  | broken behind => simp [valueWithin?]
  | arr items =>
    rw [valueWithin?]
    split
    · simp
    · simp [Ne.symm (harr _)]
  | obj members =>
    rw [valueWithin?]
    split
    · simp
    · simp [Ne.symm (hobj _)]

theorem mem_restrictMembers?_iff {names : List String} {members : List (Option String × Raw)}
    {found : List (String × Json)} (h : restrictMembers? names members = some found) {name : String}
    (hname : name ∈ names) {v : Json} :
    (name, v) ∈ found ↔ ∃ part, (some name, part) ∈ members ∧ part.partValue? = some v := by
  induction members generalizing found with
  | nil =>
    cases h
    simp
  | cons m members ih =>
    obtain ⟨label, r⟩ := m
    obtain ⟨other, rest, rfl, hrest, ⟨hother, w, hw, rfl⟩ | ⟨hother, rfl⟩⟩ := restrictMembers?_cons_iff.mp h
    · simp only [List.mem_cons, Prod.mk.injEq, ih hrest, Option.some.injEq]
      constructor
      · rintro (⟨rfl, rfl⟩ | ⟨part, hpart, hv⟩)
        · exact ⟨r, .inl ⟨rfl, rfl⟩, hw⟩
        · exact ⟨part, .inr hpart, hv⟩
      · rintro ⟨part, ⟨rfl, rfl⟩ | hpart, hv⟩
        · exact .inl ⟨rfl, Option.some.inj (hv.symm.trans hw)⟩
        · exact .inr ⟨part, hpart, hv⟩
    · have hne : name ≠ other := fun heq => hother (heq ▸ hname)
      simp only [ih hrest, List.mem_cons, Prod.mk.injEq, Option.some.injEq, hne, false_and, false_or]

theorem exists_of_restrictMembers? {names : List String} {members : List (Option String × Raw)}
    {found : List (String × Json)} (h : restrictMembers? names members = some found) {name : String}
    (hname : name ∈ names) {part : Raw} (hpart : (some name, part) ∈ members) :
    ∃ v, part.partValue? = some v := by
  induction members generalizing found with
  | nil => cases hpart
  | cons m members ih =>
    obtain ⟨label, r⟩ := m
    obtain ⟨other, rest, rfl, hrest, hcase⟩ := restrictMembers?_cons_iff.mp h
    rcases List.mem_cons.mp hpart with heq | hpart
    · cases heq
      rcases hcase with ⟨-, w, hw, -⟩ | ⟨hother, -⟩
      · exact ⟨w, hw⟩
      · exact (hother hname).elim
    · exact ih hrest hpart

end Raw

/-! ## Values that are written -/

theorem readable_int {n : Nat} {i : Int} (h : IntRange.int64.contains i = true) : Readable n (.int i) := by
  have := IntRange.contains_iff.mp h
  refine .scalar ⟨this.1, ?_⟩
  simp only [IntRange.int64, IntRange.word64] at this ⊢
  omega

theorem Readable.ofString?_toText {v : Json} (h : Readable Raw.greatestDepth v) (hwhole : v.whole = true) :
    ofString? v.toText = some v := by
  have hraw : raw? ((write v).map some) = some (tree v) := h.raw?_write hwhole
  rw [ofString?, read?, toText, String.toList_ofList, hraw]
  exact h.valueWithin?_tree

/-! ## Records -/

theorem int?_eq_some_iff {range : IntRange} {v : Json} {i : Int} :
    int? range v = some i ↔ v = .int i ∧ range.contains i = true := by
  cases v with
  | int j =>
    simp only [int?, IntRange.check, Option.ite_none_right_eq_some, Option.some.injEq, int.injEq]
    constructor
    · rintro ⟨h, rfl⟩
      exact ⟨rfl, h⟩
    · rintro ⟨rfl, h⟩
      exact ⟨h, rfl⟩
  | _ => simp [int?]

theorem Record.get?_eq_some_iff {positional : Bool} {found : List (String × Json)}
    (hdistinct : (found.map (·.1)).Nodup) {name : String} {v : Json} :
    Record.get? ⟨positional, found⟩ name = some v ↔ (name, v) ∈ found := by
  unfold get?
  rw [Option.map_eq_some_iff]
  constructor
  · rintro ⟨m, hm, rfl⟩
    have hname : m.1 = name := by simpa using List.find?_some hm
    exact hname ▸ List.mem_of_find?_eq_some hm
  · intro hmem
    cases hf : found.find? fun m => m.1 == name with
    | none =>
      have := List.find?_eq_none.mp hf _ hmem
      simp at this
    | some m =>
      have hname : m.1 = name := by simpa using List.find?_some hf
      have heq := List.inj_on_of_nodup_map hdistinct (List.mem_of_find?_eq_some hf) hmem hname
      exact ⟨m, rfl, by rw [heq]⟩

theorem Record.required_of_mem {α : Type} {positional : Bool} {found : List (String × Json)}
    (hdistinct : (found.map (·.1)).Nodup) {name : String} {v : Json} (hmem : (name, v) ∈ found)
    {read : Json → Option α} {a : α} (hv : read v = some a) :
    Record.required ⟨positional, found⟩ name read = some a := by
  rw [required, (get?_eq_some_iff hdistinct).mpr hmem, Option.bind_some, hv]

theorem Record.optional_of_mem {α : Type} {positional : Bool} {found : List (String × Json)}
    (hdistinct : (found.map (·.1)).Nodup) {name : String} {v : Json} (hmem : (name, v) ∈ found)
    {read : Json → Option α} {a : Option α} (hv : orNull read v = some a) :
    Record.optional ⟨positional, found⟩ name read = some a := by
  rw [optional, (get?_eq_some_iff hdistinct).mpr hmem]
  exact hv

theorem Record.exists_of_required {α : Type} {R : Record} {name : String} {read : Json → Option α} {a : α}
    (h : R.required name read = some a) : ∃ v, read v = some a := by
  obtain ⟨v, -, hv⟩ := Option.bind_eq_some_iff.mp h
  exact ⟨v, hv⟩

theorem Record.required_of_optional {α : Type} {R : Record} {name : String} {read : Json → Option α} {a : α}
    (h : R.optional name read = some (some a)) : R.required name read = some a := by
  unfold optional at h
  unfold required
  split at h
  · next v hv =>
    rw [hv, Option.bind_some]
    unfold orNull at h
    split at h
    · cases h
    · obtain ⟨b, hb, ⟨⟩⟩ := Option.map_eq_some_iff.mp h
      exact hb
  · split at h <;> cases h

theorem Record.contains_of_required {R : Record} {name : String} {range : IntRange} {i : Int}
    (h : R.required name (int? range) = some i) : range.contains i = true := by
  obtain ⟨v, hv⟩ := exists_of_required h
  exact (int?_eq_some_iff.mp hv).2

theorem Record.required_imp {α β : Type} {R : Record} {name : String} {read : Json → Option α} {a : α}
    {read' : Json → Option β} {b : β} (h : R.required name read = some a)
    (himp : ∀ v, read v = some a → read' v = some b) : R.required name read' = some b := by
  obtain ⟨v, hget, hv⟩ := Option.bind_eq_some_iff.mp h
  exact Option.bind_eq_some_iff.mpr ⟨v, hget, himp v hv⟩

theorem nodup_zip {names : List String} (h : names.Nodup) (vs : List Json) :
    ((names.zip vs).map (·.1)).Nodup := by
  induction names generalizing vs with
  | nil => simp
  | cons name names ih =>
    cases vs with
    | nil => simp
    | cons v vs =>
      obtain ⟨hname, hnames⟩ := List.nodup_cons.mp h
      rw [List.zip_cons_cons, List.map_cons, List.nodup_cons]
      refine ⟨fun hmem => hname ?_, ih hnames vs⟩
      obtain ⟨m, hm, rfl⟩ := List.mem_map.mp hmem
      exact (List.of_mem_zip hm).1

theorem mem_zip_iff {names : List String} {items : List Raw} {vs : List Json}
    (h : List.Forall₂ (fun r v => r.partValue? = some v) items vs) {name : String} {v : Json} :
    (name, v) ∈ names.zip vs ↔ ∃ part, (name, part) ∈ names.zip items ∧ part.partValue? = some v := by
  induction h generalizing names with
  | nil => simp
  | @cons r w items vs hr _ ih =>
    cases names with
    | nil => simp
    | cons other names =>
      simp only [List.zip_cons_cons, List.mem_cons, Prod.mk.injEq, ih]
      constructor
      · rintro (⟨rfl, rfl⟩ | ⟨part, hpart, hv⟩)
        · exact ⟨r, .inl ⟨rfl, rfl⟩, hr⟩
        · exact ⟨part, .inr hpart, hv⟩
      · rintro ⟨part, ⟨rfl, rfl⟩ | hpart, hv⟩
        · exact .inl ⟨rfl, Option.some.inj (hv.symm.trans hr)⟩
        · exact .inr ⟨part, hpart, hv⟩

theorem exists_of_zip {names : List String} {items : List Raw} {vs : List Json}
    (h : List.Forall₂ (fun r v => r.partValue? = some v) items vs) {name : String} {part : Raw}
    (hpart : (name, part) ∈ names.zip items) : ∃ v, part.partValue? = some v := by
  obtain ⟨i, hi, rfl⟩ := List.getElem_of_mem (List.of_mem_zip hpart).2
  exact ⟨_, h.get hi (h.length_eq ▸ hi)⟩

/-! ## Forms -/

namespace Form

variable {α : Type} {f : Form α}

/-- The record of a tree. -/
def record? (f : Form α) (r : Raw) : Option Record := (r.restrict? f.names).bind fun v => v.record? f.names

theorem ofRaw?_eq (r : Raw) : f.ofRaw? r = (f.record? r).bind f.make := by
  rw [ofRaw?, record?, Option.bind_assoc]
  rfl

variable {s : List (Option Char)} {r : Raw} {R : Record} {name : String}

theorem record?_cases (hwritten : Written s r) (hR : f.record? r = some R) :
    (∃ members found, r = .obj members ∧ Raw.restrictMembers? f.names members = some found ∧
      (found.map (·.1)).Nodup ∧ R = ⟨false, found⟩) ∨
    ∃ items vs, r = .arr items ∧ List.Forall₂ (fun r v => r.partValue? = some v) items vs ∧
      R = ⟨true, f.names.zip vs⟩ := by
  obtain ⟨v, hv, hR⟩ := Option.bind_eq_some_iff.mp hR
  cases r with
  | scalar w =>
    cases hv
    rcases hwritten.not_container with hfits | ⟨t, rfl⟩
    · cases v with
      | arr | obj => exact hfits.elim
      | _ => cases hR
    · cases hR
  | broken => cases hv
  | arr items =>
    obtain ⟨vs, hvs, rfl⟩ := Option.map_eq_some_iff.mp hv
    obtain ⟨-, ⟨⟩⟩ := Option.ite_none_right_eq_some.mp hR
    exact .inr ⟨items, vs, rfl, itemsWithin?_eq_some_iff.mp hvs, rfl⟩
  | obj members =>
    obtain ⟨found, hfound, rfl⟩ := Option.map_eq_some_iff.mp hv
    have hknown : found.filter (fun m => f.names.contains m.1) = found :=
      List.filter_eq_self.mpr fun m hm => by simpa using Raw.names_restrictMembers? hfound m hm
    simp only [Json.record?, hknown, Option.ite_none_right_eq_some, distinct_iff] at hR
    obtain ⟨hdistinct, ⟨⟩⟩ := hR
    exact .inl ⟨members, found, rfl, hfound, hdistinct, rfl⟩

/-- **The fields of a record have the values of the parts that the text gives for them.** -/
theorem get?_eq_some_iff (hwritten : Written s r) (hnames : f.names.Nodup) (hR : f.record? r = some R)
    (hname : name ∈ f.names) {v : Json} :
    R.get? name = some v ↔ ∃ part, r.Gives f.names name part ∧ part.partValue? = some v := by
  rcases record?_cases hwritten hR with ⟨members, found, rfl, hfound, hdistinct, rfl⟩ | ⟨items, vs, rfl, hvs, rfl⟩
  · rw [Record.get?_eq_some_iff hdistinct, Raw.mem_restrictMembers?_iff hfound hname]
    exact ⟨fun ⟨part, hpart, hv⟩ => ⟨part, .member hpart, hv⟩, fun ⟨part, .member hpart, hv⟩ => ⟨part, hpart, hv⟩⟩
  · rw [Record.get?_eq_some_iff (nodup_zip hnames vs), mem_zip_iff hvs]
    exact ⟨fun ⟨part, hpart, hv⟩ => ⟨part, .item hpart, hv⟩, fun ⟨part, .item hpart, hv⟩ => ⟨part, hpart, hv⟩⟩

theorem get?_of_gives (hwritten : Written s r) (hnames : f.names.Nodup) (hR : f.record? r = some R)
    (hname : name ∈ f.names) {part : Raw} (hpart : r.Gives f.names name part) :
    ∃ v, part.partValue? = some v ∧ R.get? name = some v := by
  obtain ⟨v, hv⟩ : ∃ v, part.partValue? = some v := by
    rcases record?_cases hwritten hR with ⟨members, found, rfl, hfound, -, -⟩ | ⟨items, vs, rfl, hvs, -⟩
    · cases hpart with
      | member h => exact Raw.exists_of_restrictMembers? hfound hname h
    · cases hpart with
      | item h => exact exists_of_zip hvs h
  exact ⟨v, hv, (get?_eq_some_iff hwritten hnames hR hname).mpr ⟨part, hpart, hv⟩⟩

theorem givesOnly_of_required {β : Type} {read : Json → Option β} {b : β} (hwritten : Written s r)
    (hnames : f.names.Nodup) (hR : f.record? r = some R) (hname : name ∈ f.names)
    (h : R.required name read = some b) :
    r.GivesOnly f.names name fun part => ∃ v, part.partValue? = some v ∧ read v = some b := by
  obtain ⟨v, hget, hv⟩ := Option.bind_eq_some_iff.mp h
  obtain ⟨part, hpart, -⟩ := (get?_eq_some_iff hwritten hnames hR hname).mp hget
  refine ⟨⟨part, hpart⟩, fun part hpart => ?_⟩
  obtain ⟨w, hw, hget'⟩ := get?_of_gives hwritten hnames hR hname hpart
  obtain rfl : v = w := Option.some.inj (hget.symm.trans hget')
  exact ⟨v, hw, hv⟩

theorem ofText?_eq_some_iff {s : String} {a : α} : f.ofText? s = some a ↔
    ∃ r R, Raw.ofString? s = some r ∧ Written (s.toList.map some) r ∧ f.record? r = some R ∧ f.make R = some a := by
  simp only [ofText?, Option.bind_eq_some_iff, ofRaw?_eq]
  constructor
  · rintro ⟨r, hr, R, hR, ha⟩
    exact ⟨r, R, hr, raw?_eq_some_iff.mp hr, hR, ha⟩
  · rintro ⟨r, R, hr, -, hR, ha⟩
    exact ⟨r, hr, R, hR, ha⟩

theorem isWhole_of_gives {range : IntRange} (hwritten : Written s r) (hnames : f.names.Nodup)
    (hR : f.record? r = some R) (hname : name ∈ f.names) {i : Int} (hi : R.required name (int? range) = some i)
    {part : Raw} (hpart : r.Gives f.names name part) :
    part = .scalar (.int i) ∧ part.isWhole range = true := by
  obtain ⟨v, hv, hget⟩ := get?_of_gives hwritten hnames hR hname hpart
  rw [Record.required, hget, Option.bind_some, int?_eq_some_iff] at hi
  obtain ⟨rfl, hi⟩ := hi
  have hint : part.partValue? = some (.int i) ↔ part = .scalar (.int i) :=
    Raw.valueWithin?_eq_scalar_iff (by simp) (by simp)
  exact ⟨hint.mp hv, Raw.isWhole_iff.mpr ⟨i, hint.mp hv, hi⟩⟩

theorem optional_eq_none_iff {β : Type} {read : Json → Option β} {o : Option β} (hwritten : Written s r)
    (hnames : f.names.Nodup) (hR : f.record? r = some R) (hname : name ∈ f.names)
    (ho : R.optional name read = some o) :
    o = none ↔ ∀ part, r.Gives f.names name part → part = .scalar .null := by
  have hnull {part : Raw} : part.partValue? = some .null ↔ part = .scalar .null :=
    Raw.valueWithin?_eq_scalar_iff (by simp) (by simp)
  unfold Record.optional at ho
  constructor
  · rintro rfl part hpart
    obtain ⟨v, hv, hget⟩ := get?_of_gives hwritten hnames hR hname hpart
    simp only [hget] at ho
    unfold Record.orNull at ho
    split at ho
    · exact hnull.mp hv
    · obtain ⟨b, -, h⟩ := Option.map_eq_some_iff.mp ho
      cases h
  · intro hparts
    cases hget : R.get? name with
    | none =>
      simp only [hget] at ho
      split at ho <;> cases ho
      rfl
    | some v =>
      obtain ⟨part, hpart, hv⟩ := (get?_eq_some_iff hwritten hnames hR hname).mp hget
      rw [hparts part hpart] at hv
      cases hv
      simp only [hget] at ho
      cases ho
      rfl

/-! ## Written texts -/

/-- **The tree of a value is read as the value is.** -/
theorem ofRaw?_tree {v : Json} (h : Readable Raw.greatestDepth v) : f.ofRaw? (tree v) = f.ofJson? v := by
  rw [ofRaw?]
  cases v with
  | obj members =>
    have hrestrict : Raw.restrictMembers? f.names (treeOfMembers members) =
        some (members.filter fun m => f.names.contains m.1) := by
      cases h with
      | scalar h => exact h.elim
      | obj hmembers =>
        induction members with
        | nil => rfl
        | cons m members ih =>
          obtain ⟨hm, hmembers⟩ := List.forall_mem_cons.mp hmembers
          rw [treeOfMembers, Raw.restrictMembers?_cons_iff]
          refine ⟨m.1, _, rfl, ih hmembers, ?_⟩
          by_cases hname : m.1 ∈ f.names
          · exact .inl ⟨hname, m.2, hm.valueWithin?_tree, by simp [hname]⟩
          · exact .inr ⟨hname, by simp [hname]⟩
    rw [tree, Raw.restrict?, hrestrict]
    simp only [Option.map_some, Option.bind_some, ofJson?, Json.record?, List.filter_filter, Bool.and_self]
  | arr items =>
    have hvalue : (Raw.arr (treeOfItems items)).value? = some (.arr items) := h.valueWithin?_tree
    rw [tree, Raw.restrict?, hvalue]
    · rfl
    · simp
  | _ => rfl

theorem ofText?_toText {v : Json} (h : Readable Raw.greatestDepth v) (hwhole : v.whole = true) :
    f.ofText? v.toText = f.ofJson? v := by
  have hraw : raw? (v.toText.toList.map some) = some (tree v) := by
    rw [toText, String.toList_ofList]
    exact h.raw?_write hwhole
  rw [ofText?_eq, scanned?, hraw, Option.bind_some, ofRaw?_tree h]

end Form

end Parley.Json
