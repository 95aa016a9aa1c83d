/-
The values of texts and the texts of values.

`Readable n v` says what a value can be that is read with at most `n` nested
containers (`Written.readable`). Whatever is readable and has no double is
read back from its text (`Readable.raw?_write`, `Readable.valueWithin?_tree`).
-/
import Mathlib.Data.List.Forall2
import Parley.Proofs.Frame
import Parley.Proofs.Json.Grammar
import Parley.Proofs.Json.Numbers

namespace Parley.Json

/-! ## Containers by their parts -/

theorem exists_of_forall₂ {α β : Type} {R : α → β → Prop} {l : List α} {l' : List β}
    (h : List.Forall₂ R l l') {b : β} (hb : b ∈ l') : ∃ a ∈ l, R a b := by
  obtain ⟨i, hi, rfl⟩ := List.getElem_of_mem hb
  have hlength : i < l.length := h.length_eq ▸ hi
  exact ⟨l[i], List.getElem_mem hlength, h.get hlength hi⟩

section
open Raw

variable {n : Nat}

theorem itemsWithin?_eq_some_iff {items : List Raw} {vs : List Json} :
    itemsWithin? n items = some vs ↔
      List.Forall₂ (fun r v => valueWithin? n r = some v) items vs := by
  induction items generalizing vs with
  | nil => simp [itemsWithin?, eq_comm]
  | cons r items ih =>
    rw [itemsWithin?, List.forall₂_cons_left_iff]
    simp only [Option.bind_eq_bind, Option.bind_eq_some_iff, Option.pure_def, Option.some.injEq, ih]
    constructor
    · rintro ⟨v, hv, vs', hvs, rfl⟩
      exact ⟨v, vs', hv, hvs, rfl⟩
    · rintro ⟨v, vs', hv, hvs, rfl⟩
      exact ⟨v, hv, vs', hvs, rfl⟩

theorem membersWithin?_eq_some_iff {members : List (Option String × Raw)}
    {vs : List (String × Json)} :
    membersWithin? n members = some vs ↔
      List.Forall₂ (fun m v => m.1 = some v.1 ∧ valueWithin? n m.2 = some v.2) members vs := by
  induction members generalizing vs with
  | nil => simp [membersWithin?, eq_comm]
  | cons m members ih =>
    rw [membersWithin?, List.forall₂_cons_left_iff]
    simp only [Option.bind_eq_bind, Option.bind_eq_some_iff, Option.pure_def, Option.some.injEq, ih]
    constructor
    · rintro ⟨name, hname, v, hv, vs', hvs, rfl⟩
      exact ⟨(name, v), vs', ⟨hname, hv⟩, hvs, rfl⟩
    · rintro ⟨⟨name, v⟩, vs', ⟨hname, hv⟩, hvs, rfl⟩
      exact ⟨name, hname, v, hv, vs', hvs, rfl⟩

end

theorem tokensOfItems_eq (items : List Json) : tokensOfItems items = items.map tokens := by
  induction items with
  | nil => rfl
  | cons v items ih => rw [tokensOfItems, ih, List.map_cons]

theorem tokensOfMembers_eq (members : List (String × Json)) :
    tokensOfMembers members = members.map fun m => .text m.1 :: .colon :: tokens m.2 := by
  induction members with
  | nil => rfl
  | cons m members ih => rw [tokensOfMembers, ih, List.map_cons]

theorem mem_separated {t : Token} {ts : List Token} {parts : List (List Token)} (hts : ts ∈ parts)
    (h : t ∈ ts) : t ∈ separated parts := by
  obtain ⟨first, rest, rfl⟩ := List.exists_cons_of_ne_nil (List.ne_nil_of_mem hts)
  rw [separated_cons, List.mem_append, List.mem_flatMap]
  rcases List.mem_cons.mp hts with rfl | hts
  · exact .inl h
  · exact .inr ⟨ts, hts, List.mem_cons_of_mem _ h⟩

/-! ## What is read -/

/-- What can be read with at most so many nested containers. -/
inductive Readable : Nat → Json → Prop
  | scalar {n : Nat} {v : Json} (h : v.Fits) : Readable n v
  | str {n : Nat} (s : String) : Readable n (.str s)
  | arr {n : Nat} {items : List Json} (h : ∀ v ∈ items, Readable n v) : Readable (n + 1) (.arr items)
  | obj {n : Nat} {members : List (String × Json)} (h : ∀ m ∈ members, Readable n m.2) :
      Readable (n + 1) (.obj members)

theorem Spells.readable {n : Nat} {ts : List Token} {r : Raw} {v : Json} (h : Spells ts r)
    (fits : ∀ w, .scalar w ∈ ts → w.Fits) (hv : r.valueWithin? n = some v) : Readable n v := by
  induction h generalizing n v with
  | text s =>
    cases hv
    exact .str s
  | scalar w =>
    cases hv
    exact .scalar (fits w (List.mem_singleton.mpr rfl))
  | broken => cases hv
  | arr parts _ ih =>
    rw [Raw.valueWithin?] at hv
    split at hv
    · cases hv
    · next hn =>
      obtain ⟨n, rfl⟩ := Nat.exists_eq_succ_of_ne_zero hn
      obtain ⟨vs, hvs, rfl⟩ := Option.map_eq_some_iff.mp hv
      rw [itemsWithin?_eq_some_iff, List.forall₂_map_left_iff] at hvs
      refine .arr fun v hmem => ?_
      obtain ⟨p, hp, hpv⟩ := exists_of_forall₂ hvs hmem
      refine ih p hp (fun w hw => fits w ?_) hpv
      exact List.mem_append_left _ (List.mem_cons_of_mem _ (mem_separated (List.mem_map_of_mem hp) hw))
  | obj parts _ _ ih =>
    rw [Raw.valueWithin?] at hv
    split at hv
    · cases hv
    · next hn =>
      obtain ⟨n, rfl⟩ := Nat.exists_eq_succ_of_ne_zero hn
      obtain ⟨vs, hvs, rfl⟩ := Option.map_eq_some_iff.mp hv
      rw [membersWithin?_eq_some_iff, List.forall₂_map_left_iff] at hvs
      refine .obj fun m hmem => ?_
      obtain ⟨p, hp, -, hpv⟩ := exists_of_forall₂ hvs hmem
      refine ih p hp (fun w hw => fits w ?_) hpv
      refine List.mem_append_left _ (List.mem_cons_of_mem _ (mem_separated (List.mem_map_of_mem hp) ?_))
      exact List.mem_cons_of_mem _ (List.mem_cons_of_mem _ hw)

theorem Lexed.fits {s : List (Option Char)} {ts : List Token} (h : Lexed s ts) :
    ∀ v, .scalar v ∈ ts → v.Fits := by
  induction h with
  | nil => nofun
  | blank _ _ ih => exact ih
  | @mark c t s ts h _ ih =>
    intro v hv
    rcases List.mem_cons.mp hv with rfl | hv
    · unfold punctuation? at h
      split at h
      all_goals cases h
    · exact ih v hv
  | @string u s pieces ts h _ ih =>
    intro v hv
    rcases List.mem_cons.mp hv with hstring | hv
    · cases hunquote : unquote pieces <;> simp [hunquote, Token.ofString] at hstring
    · exact ih v hv
  | run _ h _ _ ih =>
    intro v hv
    rcases List.mem_cons.mp hv with rfl | hv
    · exact scalar?_fits h
    · exact ih v hv

theorem Written.readable {n : Nat} {s : List (Option Char)} {r : Raw} {v : Json} (h : Written s r)
    (hv : r.valueWithin? n = some v) : Readable n v := by
  obtain ⟨ts, hlexed, hspells⟩ := h
  exact hspells.readable hlexed.fits hv

/-! ## The tree of a value -/

mutual

/-- The tree of a value. -/
def tree : Json → Raw
  | .arr items => .arr (treeOfItems items)
  | .obj members => .obj (treeOfMembers members)
  | v => .scalar v

/-- The trees of the items. -/
def treeOfItems : List Json → List Raw
  | [] => []
  | v :: items => tree v :: treeOfItems items

/-- The trees of the members. -/
def treeOfMembers : List (String × Json) → List (Option String × Raw)
  | [] => []
  | (name, v) :: members => (some name, tree v) :: treeOfMembers members

end

theorem treeOfItems_eq (items : List Json) : treeOfItems items = items.map tree := by
  induction items with
  | nil => rfl
  | cons v items ih => rw [treeOfItems, ih, List.map_cons]

theorem treeOfMembers_eq (members : List (String × Json)) :
    treeOfMembers members = members.map fun m => (some m.1, tree m.2) := by
  induction members with
  | nil => rfl
  | cons m members ih => rw [treeOfMembers, ih, List.map_cons]

theorem Readable.valueWithin?_tree {n : Nat} {v : Json} (h : Readable n v) :
    (tree v).valueWithin? n = some v := by
  induction h with
  | @scalar n v h =>
    cases v with
    | arr | obj => exact h.elim
    | _ => rfl
  | str s => rfl
  | @arr n items _ ih =>
    have hitems : Raw.itemsWithin? n (items.map tree) = some items := by
      rw [itemsWithin?_eq_some_iff, List.forall₂_map_left_iff]
      exact List.forall₂_same.mpr ih
    rw [tree, treeOfItems_eq, Raw.valueWithin?, if_neg (Nat.succ_ne_zero n), Nat.add_sub_cancel, hitems]
    rfl
  | @obj n members _ ih =>
    have hmembers : Raw.membersWithin? n (members.map fun m => (some m.1, tree m.2)) = some members := by
      rw [membersWithin?_eq_some_iff, List.forall₂_map_left_iff]
      exact List.forall₂_same.mpr fun m hm => ⟨rfl, ih m hm⟩
    rw [tree, treeOfMembers_eq, Raw.valueWithin?, if_neg (Nat.succ_ne_zero n), Nat.add_sub_cancel,
      hmembers]
    rfl

theorem Readable.spells_tree {n : Nat} {v : Json} (h : Readable n v) : Spells (tokens v) (tree v) := by
  induction h with
  | @scalar n v h =>
    cases v with
    | str | arr | obj => exact h.elim
    | _ => exact .scalar _
  | str s => exact .text s
  | @arr n items _ ih =>
    have harr := Spells.arr (items.map fun v => (tokens v, tree v)) (List.forall_mem_map.mpr ih)
    simpa only [tokens, tree, tokensOfItems_eq, treeOfItems_eq, List.map_map, Function.comp_def] using harr
  | @obj n members _ ih =>
    have hobj := Spells.obj (members.map fun m => ⟨.text m.1, some m.1, tokens m.2, tree m.2⟩)
      (List.forall_mem_map.mpr fun m _ => .text m.1) (List.forall_mem_map.mpr ih)
    simpa only [tokens, tree, tokensOfMembers_eq, treeOfMembers_eq, List.map_map, Function.comp_def,
      SpelledMember.all, SpelledMember.member] using hobj

/-! ## The text of a value -/

mutual

/-- Whether no number of a value is a double. -/
def whole : Json → Bool
  | .double _ => false
  | .arr items => wholeItems items
  | .obj members => wholeMembers members
  | _ => true

def wholeItems : List Json → Bool
  | [] => true
  | v :: items => whole v && wholeItems items

def wholeMembers : List (String × Json) → Bool
  | [] => true
  | (_, v) :: members => whole v && wholeMembers members

end

theorem wholeItems_iff {items : List Json} : wholeItems items = true ↔ ∀ v ∈ items, whole v = true := by
  induction items with
  | nil => simp [wholeItems]
  | cons v items ih => simp [wholeItems, ih]

theorem wholeMembers_iff {members : List (String × Json)} :
    wholeMembers members = true ↔ ∀ m ∈ members, whole m.2 = true := by
  induction members with
  | nil => simp [wholeMembers]
  | cons m members ih => simp [wholeMembers, ih]

theorem stroke_escape (c : Char) : ∃ p, Stroke ((escape c).map some) p ∧
    ∀ read foreign pieces, assemble read foreign (p :: pieces) = assemble (c :: read) foreign pieces := by
  rcases escape_cases c with ⟨letter, hletter, hescape⟩ | ⟨hcontrol, hescape⟩ |
    ⟨hquote, hslash, hcontrol, hescape⟩
  · rw [hescape]
    exact ⟨.char c, .short hletter, fun _ _ _ => rfl⟩
  · have hvalue : hexFrom 0 ['0', '0', hexDigit (c.toNat / 16), hexDigit (c.toNat % 16)] =
        some c.toNat := by
      have hzero : hexDigit? '0' = some 0 := rfl
      simp only [hexFrom, hzero, hexDigit?_hexDigit (show c.toNat / 16 < 16 by omega),
        hexDigit?_hexDigit (show c.toNat % 16 < 16 by omega), Option.bind_some, Option.some.injEq]
      omega
    rw [hescape]
    refine ⟨.unit c.toNat, .unit rfl hvalue, fun read foreign pieces => ?_⟩
    have hlow : isLowSurrogate c.toNat = false := by
      simp [isLowSurrogate]
      omega
    have hhigh : isHighSurrogate c.toNat = false := by
      simp [isHighSurrogate]
      omega
    rw [assemble.eq_def]
    simp only [hlow, hhigh, Char.ofNat_toNat, Bool.false_eq_true, if_false]
  · rw [hescape]
    exact ⟨.char c, .plain hquote hslash hcontrol, fun _ _ _ => rfl⟩

theorem strokes_escape (s : List Char) : ∃ pieces, Strokes ((s.flatMap escape).map some) pieces ∧
    ∀ read, assemble read false pieces = .value (String.ofList (read.reverse ++ s)) := by
  induction s with
  | nil => exact ⟨[], .nil, fun read => by simp [assemble]⟩
  | cons c s ih =>
    obtain ⟨pieces, hstrokes, hvalue⟩ := ih
    obtain ⟨p, hp, hassemble⟩ := stroke_escape c
    refine ⟨p :: pieces, ?_, fun read => ?_⟩
    · rw [List.flatMap_cons, List.map_append]
      exact .cons hp hstrokes
    · rw [hassemble, hvalue]
      simp

/-- The tokens are those of their text, whatever stands behind it that does
not continue it. -/
def Spellable (ts : List Token) : Prop :=
  ∀ s more, Lexed s more → StopsRun s → Lexed ((ts.flatMap Token.spell).map some ++ s) (ts ++ more)

theorem spellable_text (s : String) : Spellable [.text s] := by
  intro t more ht _
  obtain ⟨pieces, hstrokes, hvalue⟩ := strokes_escape s.toList
  have htoken : Token.ofString (unquote pieces) = .text s := by
    rw [unquote, hvalue, List.reverse_nil, List.nil_append, String.ofList_toList]
    rfl
  have hstring := Lexed.string hstrokes ht
  rw [htoken] at hstring
  simpa [Token.spell, quote] using hstring

theorem spellable_scalar {v : Json} (h : v.Fits) (hdouble : ∀ x, v ≠ .double x) :
    Spellable [.scalar v] := by
  intro s more hs hstop
  obtain ⟨hscalar, hrun⟩ := scalar?_writeScalar h hdouble
  cases htext : writeScalar v with
  | nil =>
    rw [htext] at hscalar
    cases hscalar
  | cons c run =>
    rw [htext] at hscalar hrun
    simpa [Token.spell, htext] using Lexed.run hrun hscalar hstop hs

theorem stopsRun_cons {c : Char} (h : isRunChar c = false) (s : List (Option Char)) :
    StopsRun (some c :: s) := by
  rintro d ⟨⟩
  exact h

theorem spellable_separated {parts : List (List Token)} (h : ∀ ts ∈ parts, Spellable ts) :
    Spellable (separated parts) := by
  induction parts with
  | nil => exact fun s more hs _ => hs
  | cons ts parts ih =>
    have hts := h ts List.mem_cons_self
    cases parts with
    | nil => exact hts
    | cons ts' parts =>
      intro s more hs hstop
      have hrest := ih (fun ts hmem => h ts (List.mem_cons_of_mem _ hmem)) s more hs hstop
      have hcomma := hts _ _ (Lexed.mark (c := ',') rfl hrest) (stopsRun_cons rfl _)
      simpa [separated, Token.spell] using hcomma

theorem spellable_member {ts : List Token} (name : String) (h : Spellable ts) :
    Spellable (.text name :: .colon :: ts) := by
  intro s more hs hstop
  have hname := spellable_text name _ _ (Lexed.mark (c := ':') rfl (h s more hs hstop)) (stopsRun_cons rfl _)
  simpa [Token.spell] using hname

theorem spellable_array {ts : List Token} (h : Spellable ts) :
    Spellable (.beginArray :: ts ++ [.endArray]) := by
  intro s more hs _
  have hbody := h _ _ (Lexed.mark (c := ']') rfl hs) (stopsRun_cons rfl _)
  simpa [Token.spell] using Lexed.mark (c := '[') rfl hbody

theorem spellable_object {ts : List Token} (h : Spellable ts) :
    Spellable (.beginObject :: ts ++ [.endObject]) := by
  intro s more hs _
  have hbody := h _ _ (Lexed.mark (c := '\x7d') rfl hs) (stopsRun_cons rfl _)
  simpa [Token.spell] using Lexed.mark (c := '\x7b') rfl hbody

theorem Readable.spellable {n : Nat} {v : Json} (h : Readable n v) (hwhole : v.whole = true) :
    Spellable (tokens v) := by
  induction h with
  | @scalar n v h =>
    cases v with
    | str | arr | obj => exact h.elim
    | double => cases hwhole
    | _ => exact spellable_scalar h nofun
  | str s => exact spellable_text s
  | @arr n items _ ih =>
    rw [tokens, tokensOfItems_eq]
    refine spellable_array (spellable_separated ?_)
    rw [List.forall_mem_map]
    exact fun v hv => ih v hv (wholeItems_iff.mp hwhole v hv)
  | @obj n members _ ih =>
    rw [tokens, tokensOfMembers_eq]
    refine spellable_object (spellable_separated ?_)
    rw [List.forall_mem_map]
    exact fun m hm => spellable_member m.1 (ih m hm (wholeMembers_iff.mp hwhole m hm))

/-- **The text of a value is read back as its tree**, unless there is a
double in it. -/
theorem Readable.raw?_write {n : Nat} {v : Json} (h : Readable n v) (hwhole : v.whole = true) :
    raw? ((write v).map some) = some (tree v) := by
  rw [raw?_eq_some_iff]
  refine ⟨tokens v, ?_, h.spells_tree⟩
  have hlexed := h.spellable hwhole [] [] .nil nofun
  simpa [write] using hlexed

end Parley.Json
