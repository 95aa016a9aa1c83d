/-
Which trees tokens have, without the machine that reads them.

`Spells` is the grammar of values over tokens. A tree is read from tokens
exactly if they spell it (`ofTokens?_eq_some_iff`), so a text is read exactly
if it is `Written` as the tree (`raw?_eq_some_iff`).
-/
import Parley.Json.Reader
import Parley.Json.Writer
import Parley.Proofs.Json.Lexing

namespace Parley.Json

/-! ## The grammar -/

/-- The token of a name; one without a value has a broken token. -/
inductive SpellsName : Token → Option String → Prop
  | text (name : String) : SpellsName (.text name) (some name)
  | broken (behind : Bool) : SpellsName (.broken behind) none

/-- A member of an object and its tokens. -/
structure SpelledMember where
  mark : Token
  name : Option String
  tokens : List Token
  value : Raw

namespace SpelledMember

def all (m : SpelledMember) : List Token := m.mark :: .colon :: m.tokens

def member (m : SpelledMember) : Option String × Raw := (m.name, m.value)

end SpelledMember

/-- `Spells ts r`: the tokens `ts` are those of the tree `r`. -/
inductive Spells : List Token → Raw → Prop
  | text (s : String) : Spells [.text s] (.scalar (.str s))
  | scalar (v : Json) : Spells [.scalar v] (.scalar v)
  | broken (behind : Bool) : Spells [.broken behind] (.broken behind)
  | arr (parts : List (List Token × Raw)) (h : ∀ p ∈ parts, Spells p.1 p.2) :
      Spells (.beginArray :: separated (parts.map (·.1)) ++ [.endArray]) (.arr (parts.map (·.2)))
  | obj (parts : List SpelledMember) (hnames : ∀ m ∈ parts, SpellsName m.mark m.name)
      (h : ∀ m ∈ parts, Spells m.tokens m.value) :
      Spells (.beginObject :: separated (parts.map (·.all)) ++ [.endObject])
        (.obj (parts.map (·.member)))

/-- `Written s r`: the text `s` is one of the tree `r`. -/
def Written (s : List (Option Char)) (r : Raw) : Prop := ∃ ts, Lexed s ts ∧ Spells ts r

theorem separated_cons (ts : List Token) (rest : List (List Token)) :
    separated (ts :: rest) = ts ++ rest.flatMap (.comma :: ·) := by
  induction rest generalizing ts with
  | nil => simp [separated]
  | cons ts' rest ih => rw [separated, ih, List.flatMap_cons, List.cons_append]; simp

/-! ## The tree is read -/

open Parse (takeAll value)

variable {p q : Parse} {t : Token} {ts more : List Token} {r : Raw} {stack : List Open}

theorem takeAll_cons (h : p.take t = some q) : p.takeAll (t :: ts) = q.takeAll ts := by
  simp [takeAll, h]

theorem Spells.first (h : Spells ts r) (stack : List Open) (more : List Token) :
    takeAll ⟨stack, .firstItem⟩ (ts ++ more) = takeAll ⟨stack, .value⟩ (ts ++ more) := by
  cases h <;> rfl

theorem takeAll_items {parts : List (List Token × Raw)}
    (h : ∀ p ∈ parts, ∀ stack more, takeAll ⟨stack, .value⟩ (p.1 ++ more) = takeAll (value p.2 stack) more)
    (items : List Raw) :
    takeAll ⟨.array items :: stack, .next⟩ ((parts.map (·.1)).flatMap (.comma :: ·) ++ .endArray :: more) =
      takeAll (value (.arr (items.reverse ++ parts.map (·.2))) stack) more := by
  induction parts generalizing items with
  | nil => rw [List.map_nil, List.flatMap_nil, List.nil_append, takeAll_cons (by rfl)]; simp
  | cons p parts ih =>
    rw [List.map_cons, List.flatMap_cons, List.cons_append, List.cons_append, List.append_assoc,
      takeAll_cons (by rfl), h p List.mem_cons_self, value,
      ih fun p hp => h p (List.mem_cons_of_mem _ hp)]
    simp

theorem takeAll_name {name : Option String} {members : List (Option String × Raw)}
    {old : Option String} {expected : Expected} (h : SpellsName t name)
    (hexpected : expected = .name ∨ expected = .firstName) :
    takeAll ⟨.object members old :: stack, expected⟩ (t :: .colon :: ts) =
      takeAll ⟨.object members name :: stack, .value⟩ ts := by
  rcases hexpected with rfl | rfl <;> cases h <;> rfl

theorem takeAll_members {parts : List SpelledMember} (hnames : ∀ m ∈ parts, SpellsName m.mark m.name)
    (h : ∀ m ∈ parts, ∀ stack more,
      takeAll ⟨stack, .value⟩ (m.tokens ++ more) = takeAll (value m.value stack) more)
    (members : List (Option String × Raw)) (name : Option String) :
    takeAll ⟨.object members name :: stack, .next⟩
        ((parts.map (·.all)).flatMap (.comma :: ·) ++ .endObject :: more) =
      takeAll (value (.obj (members.reverse ++ parts.map (·.member))) stack) more := by
  induction parts generalizing members name with
  | nil => rw [List.map_nil, List.flatMap_nil, List.nil_append, takeAll_cons (by rfl)]; simp
  | cons m parts ih =>
    rw [List.map_cons, List.flatMap_cons, List.cons_append, List.cons_append, takeAll_cons (by rfl),
      SpelledMember.all, List.append_assoc, List.cons_append, List.cons_append,
      takeAll_name (hnames m List.mem_cons_self) (.inl rfl), h m List.mem_cons_self, value,
      ih (fun m hm => hnames m (List.mem_cons_of_mem _ hm)) fun m hm => h m (List.mem_cons_of_mem _ hm)]
    simp [SpelledMember.member]

/-- **Where a value may stand, the tokens of a tree are taken as the tree.** -/
theorem Spells.takeAll (h : Spells ts r) (stack : List Open) (more : List Token) :
    Parse.takeAll ⟨stack, .value⟩ (ts ++ more) = Parse.takeAll (value r stack) more := by
  induction h generalizing stack more with
  | text | scalar | broken => rfl
  | arr parts h ih =>
    rw [List.append_assoc, List.cons_append, takeAll_cons (by rfl)]
    cases parts with
    | nil => rfl
    | cons p parts =>
      rw [List.map_cons, separated_cons, List.append_assoc, (h p List.mem_cons_self).first,
        ih p List.mem_cons_self, value, List.singleton_append,
        takeAll_items fun p hp => ih p (List.mem_cons_of_mem _ hp)]
      rfl
  | obj parts hnames h ih =>
    rw [List.append_assoc, List.cons_append, takeAll_cons (by rfl)]
    cases parts with
    | nil => rfl
    | cons m parts =>
      rw [List.map_cons, separated_cons, List.append_assoc, SpelledMember.all, List.cons_append,
        List.cons_append, takeAll_name (hnames m List.mem_cons_self) (.inr rfl),
        ih m List.mem_cons_self, value, List.singleton_append,
        takeAll_members (fun m hm => hnames m (List.mem_cons_of_mem _ hm))
          fun m hm => ih m (List.mem_cons_of_mem _ hm)]
      rfl

/-! ## Only the tree is read -/

/-- The tokens are all that is missing for the tree to be complete. -/
def Completes (p : Parse) (ts : List Token) (r : Raw) : Prop := (p.takeAll ts).bind Parse.result? = some r

theorem Completes.cons (h : Completes p (t :: ts) r) : ∃ q, p.take t = some q ∧ Completes q ts r := by
  unfold Completes takeAll at h
  split at h
  · next q hq => exact ⟨q, hq, h⟩
  · cases h

theorem Completes.eq_of_nil (h : Completes p [] r) : p.expected = .nothing r := by
  unfold Completes takeAll Parse.result? at h
  simp only [Option.bind_some] at h
  split at h
  · next r' hexpected => rw [hexpected, Option.some.inj h]
  · cases h

/-- A value stands first, and the rest comes behind it. -/
def BeginsValue (stack : List Open) (ts : List Token) (r : Raw) : Prop :=
  ∃ first r' rest, ts = first ++ rest ∧ rest.length < ts.length ∧ Spells first r' ∧
    Completes (value r' stack) rest r

/-- Tokens that complete a parse that expects a value begin with one. -/
def ValuesBegin (n : Nat) : Prop :=
  ∀ ts, ts.length < n → ∀ stack r, Completes ⟨stack, .value⟩ ts r → BeginsValue stack ts r

theorem items_of_completes {n : Nat} (hvalues : ValuesBegin n) {items : List Raw}
    (hlength : ts.length ≤ n) (h : Completes ⟨.array items :: stack, .next⟩ ts r) :
    ∃ (parts : List (List Token × Raw)) (rest : List Token),
      ts = (parts.map (·.1)).flatMap (.comma :: ·) ++ .endArray :: rest ∧
        (∀ p ∈ parts, Spells p.1 p.2) ∧
        Completes (value (.arr (items.reverse ++ parts.map (·.2))) stack) rest r := by
  induction hn : ts.length using Nat.strongRecOn generalizing ts items with
  | ind k ih =>
    subst hn
    cases ts with
    | nil => cases h.eq_of_nil
    | cons t ts =>
      obtain ⟨q, htake, hq⟩ := h.cons
      cases t with
      | comma =>
        cases htake
        obtain ⟨first, r', rest, rfl, hshort, hfirst, hrest⟩ := hvalues ts hlength _ _ hq
        obtain ⟨parts, rest', rfl, hparts, hdone⟩ :=
          ih rest.length (Nat.lt_succ_of_lt hshort)
            (Nat.le_of_lt (Nat.lt_of_lt_of_le hshort (Nat.le_of_lt hlength))) hrest rfl
        exact ⟨(first, r') :: parts, rest', by simp, List.forall_mem_cons.mpr ⟨hfirst, hparts⟩,
          by simpa using hdone⟩
      | endArray =>
        cases htake
        exact ⟨[], ts, rfl, nofun, by simpa using hq⟩
      | _ => cases htake

theorem member_of_completes {n : Nat} (hvalues : ValuesBegin n) {members : List (Option String × Raw)}
    {old : Option String} {expected : Expected} (hlength : ts.length ≤ n)
    (hexpected : expected = .name ∨ expected = .firstName ∧ ∀ rest, ts ≠ .endObject :: rest)
    (h : Completes ⟨.object members old :: stack, expected⟩ ts r) :
    ∃ (m : SpelledMember) (rest : List Token), ts = m.all ++ rest ∧ rest.length < ts.length ∧
      SpellsName m.mark m.name ∧ Spells m.tokens m.value ∧
      Completes ⟨.object (m.member :: members) m.name :: stack, .next⟩ rest r := by
  cases ts with
  | nil =>
    rcases hexpected with rfl | ⟨rfl, -⟩
    all_goals cases h.eq_of_nil
  | cons t ts =>
    obtain ⟨q, htake, hq⟩ := h.cons
    have hname : ∃ name, SpellsName t name ∧ q = ⟨.object members name :: stack, .colon⟩ := by
      rcases hexpected with rfl | ⟨rfl, hend⟩
      · cases t with
        | text name =>
          cases htake
          exact ⟨_, .text name, rfl⟩
        | broken behind =>
          cases htake
          exact ⟨_, .broken behind, rfl⟩
        | _ => cases htake
      · cases t with
        | text name =>
          cases htake
          exact ⟨_, .text name, rfl⟩
        | broken behind =>
          cases htake
          exact ⟨_, .broken behind, rfl⟩
        | endObject => exact absurd rfl (hend ts)
        | _ => cases htake
    obtain ⟨name, hspells, rfl⟩ := hname
    cases ts with
    | nil => cases hq.eq_of_nil
    | cons t' ts =>
      obtain ⟨q', htake', hq'⟩ := hq.cons
      cases t' with
      | colon =>
        cases htake'
        have hlength' : ts.length < n := by
          simp only [List.length_cons] at hlength
          omega
        obtain ⟨first, r', rest, rfl, hshort, hfirst, hrest⟩ := hvalues ts hlength' _ _ hq'
        refine ⟨⟨t, name, first, r'⟩, rest, rfl, ?_, hspells, hfirst, hrest⟩
        simp only [List.length_cons]
        omega
      | _ => cases htake'

theorem members_of_completes {n : Nat} (hvalues : ValuesBegin n) {members : List (Option String × Raw)}
    {name : Option String} (hlength : ts.length ≤ n)
    (h : Completes ⟨.object members name :: stack, .next⟩ ts r) :
    ∃ (parts : List SpelledMember) (rest : List Token),
      ts = (parts.map (·.all)).flatMap (.comma :: ·) ++ .endObject :: rest ∧
        (∀ m ∈ parts, SpellsName m.mark m.name) ∧ (∀ m ∈ parts, Spells m.tokens m.value) ∧
        Completes (value (.obj (members.reverse ++ parts.map (·.member))) stack) rest r := by
  induction hn : ts.length using Nat.strongRecOn generalizing ts members name with
  | ind k ih =>
    subst hn
    cases ts with
    | nil => cases h.eq_of_nil
    | cons t ts =>
      obtain ⟨q, htake, hq⟩ := h.cons
      cases t with
      | comma =>
        cases htake
        obtain ⟨m, rest, rfl, hshort, hname, hvalue, hrest⟩ :=
          member_of_completes hvalues (Nat.le_of_lt hlength) (.inl rfl) hq
        obtain ⟨parts, rest', rfl, hnames, hparts, hdone⟩ :=
          ih rest.length (Nat.lt_succ_of_lt hshort)
            (Nat.le_of_lt (Nat.lt_of_lt_of_le hshort (Nat.le_of_lt hlength))) hrest rfl
        exact ⟨m :: parts, rest', by simp, List.forall_mem_cons.mpr ⟨hname, hnames⟩,
          List.forall_mem_cons.mpr ⟨hvalue, hparts⟩, by simpa using hdone⟩
      | endObject =>
        cases htake
        exact ⟨[], ts, rfl, nofun, nofun, by simpa using hq⟩
      | _ => cases htake

theorem array_of_completes {n : Nat} (hvalues : ValuesBegin n) (hlength : ts.length < n)
    (h : Completes ⟨.array [] :: stack, .firstItem⟩ ts r) : BeginsValue stack (.beginArray :: ts) r := by
  cases ts with
  | nil => cases h.eq_of_nil
  | cons t ts =>
    by_cases hend : t = .endArray
    · obtain ⟨q, htake, hq⟩ := h.cons
      subst hend
      cases htake
      refine ⟨[.beginArray, .endArray], .arr [], ts, rfl, ?_, .arr [] nofun, hq⟩
      simp only [List.length_cons]
      omega
    · have hfirst : Completes ⟨.array [] :: stack, .value⟩ (t :: ts) r := by
        obtain ⟨q, htake, hq⟩ := h.cons
        have hvalue : Parse.take ⟨.array [] :: stack, .value⟩ t = some q := by
          rw [← htake]
          cases t with
          | endArray => exact absurd rfl hend
          | _ => rfl
        rwa [Completes, takeAll_cons hvalue]
      obtain ⟨first, r', rest, hts, hshort, hfirst, hrest⟩ := hvalues _ hlength _ _ hfirst
      obtain ⟨parts, rest', rfl, hparts, hdone⟩ :=
        items_of_completes hvalues (Nat.le_of_lt (Nat.lt_trans hshort hlength)) hrest
      have harr := Spells.arr ((first, r') :: parts) (List.forall_mem_cons.mpr ⟨hfirst, hparts⟩)
      refine ⟨_, _, rest', ?_, ?_, harr, hdone⟩
      · rw [hts, List.map_cons, separated_cons]
        simp
      · rw [hts]
        simp only [List.length_cons, List.length_append]
        omega

theorem object_of_completes {n : Nat} (hvalues : ValuesBegin n) (hlength : ts.length < n)
    (h : Completes ⟨.object [] none :: stack, .firstName⟩ ts r) :
    BeginsValue stack (.beginObject :: ts) r := by
  by_cases hend : ∃ rest, ts = .endObject :: rest
  · obtain ⟨rest, rfl⟩ := hend
    obtain ⟨q, htake, hq⟩ := h.cons
    cases htake
    refine ⟨[.beginObject, .endObject], .obj [], rest, rfl, ?_, .obj [] nofun nofun, hq⟩
    simp only [List.length_cons]
    omega
  · obtain ⟨m, rest, rfl, hshort, hname, hvalue, hrest⟩ :=
      member_of_completes hvalues (Nat.le_of_lt hlength) (.inr ⟨rfl, not_exists.mp hend⟩) h
    obtain ⟨parts, rest', rfl, hnames, hparts, hdone⟩ :=
      members_of_completes hvalues (Nat.le_of_lt (Nat.lt_trans hshort hlength)) hrest
    have hobj := Spells.obj (m :: parts) (List.forall_mem_cons.mpr ⟨hname, hnames⟩)
      (List.forall_mem_cons.mpr ⟨hvalue, hparts⟩)
    refine ⟨_, _, rest', ?_, ?_, hobj, hdone⟩
    · rw [List.map_cons, separated_cons]
      simp
    · simp only [List.length_cons, List.length_append]
      omega

theorem valuesBegin (n : Nat) : ValuesBegin n := by
  induction n with
  | zero => exact fun ts h => absurd h (Nat.not_lt_zero _)
  | succ n ih =>
    intro ts hlength stack r h
    cases ts with
    | nil => cases h.eq_of_nil
    | cons t ts =>
      obtain ⟨q, htake, hq⟩ := h.cons
      have hts : ts.length < n := Nat.lt_of_succ_lt_succ hlength
      cases t with
      | beginArray =>
        cases htake
        exact array_of_completes ih hts hq
      | beginObject =>
        cases htake
        exact object_of_completes ih hts hq
      | text s =>
        cases htake
        exact ⟨[.text s], _, ts, rfl, Nat.lt_succ_self _, .text s, hq⟩
      | scalar v =>
        cases htake
        exact ⟨[.scalar v], _, ts, rfl, Nat.lt_succ_self _, .scalar v, hq⟩
      | broken behind =>
        cases htake
        exact ⟨[.broken behind], _, ts, rfl, Nat.lt_succ_self _, .broken behind, hq⟩
      | _ => cases htake

theorem ofTokens?_eq_some_iff : ofTokens? ts = some r ↔ Spells ts r := by
  constructor
  · intro h
    obtain ⟨first, r', rest, rfl, -, hfirst, hrest⟩ := valuesBegin _ ts (Nat.lt_succ_self _) [] r h
    cases rest with
    | nil =>
      obtain rfl : r' = r := by simpa [value] using hrest.eq_of_nil
      rwa [List.append_nil]
    | cons t rest =>
      obtain ⟨q, htake, -⟩ := hrest.cons
      cases htake
  · intro h
    have := h.takeAll [] []
    rw [List.append_nil] at this
    rw [ofTokens?, Parse.empty, this]
    rfl

/-- **A text is read as the tree that it is written as, and as no other.** -/
theorem raw?_eq_some_iff {s : List (Option Char)} : raw? s = some r ↔ Written s r := by
  rw [raw?, Option.bind_eq_some_iff, Written]
  simp only [tokens?_eq_some_iff, ofTokens?_eq_some_iff]

end Parley.Json
