/-
Pages of conversations partition the list of a user.

Rows are sorted by the time of their last change and their number, which no two
rows share, so there is one order in which they can come (`rowsOf_eq_of_perm`).
A page is a window of that list (`Store.Paged`): windows side by side make up
what they cover (`take_mul_eq_flatMap`), and what the offset is held down to is
never less than the number of rows, for a user has no more peers than there are
numbers for them (`length_rowsOf_le`).

A row changes its time when a message of its pair is stored, and at no other
time (`Store.Stamped`), so with a growing clock the order is that of the latest
messages (`Stamped.newer`).
-/
import Mathlib.Data.Int.Interval
import Parley.Proofs.Retirement
import Parley.Proofs.Sending
import Parley.Proofs.Structure

namespace Parley

open Time (Instant)

/-! ## Times -/

namespace Time.Instant

theorem eq_iff {a b : Instant} : a = b ↔ a.second = b.second ∧ a.nano = b.nano := by
  cases a
  cases b
  exact Instant.mk.injEq .. ▸ Iff.rfl

theorem before_iff {a b : Instant} :
    a.before b = true ↔ a.second < b.second ∨ a.second = b.second ∧ a.nano < b.nano := by
  simp only [before, Bool.or_eq_true, Bool.and_eq_true, decide_eq_true_eq]

theorem not_before_of_before {a b : Instant} (h : a.before b = true) : ¬b.before a = true := by
  rw [before_iff] at *
  omega

end Time.Instant

/-! ## The order of rows -/

namespace Store

variable {s s' : Store} {user : UserId}

theorem rowBefore_iff {r r' : Conversation} : rowBefore r r' = true ↔
    r'.updatedAt.before r.updatedAt = true ∨ r.updatedAt = r'.updatedAt ∧ r'.id ≤ r.id := by
  simp only [rowBefore, Bool.or_eq_true, Bool.and_eq_true, decide_eq_true_eq]

theorem rowBefore_trans (a b c : Conversation) (hab : rowBefore a b = true) (hbc : rowBefore b c = true) :
    rowBefore a c = true := by
  simp only [rowBefore_iff, Time.Instant.before_iff, Time.Instant.eq_iff] at *
  omega

theorem rowBefore_total (a b : Conversation) : (rowBefore a b || rowBefore b a) = true := by
  simp only [Bool.or_eq_true, rowBefore_iff, Time.Instant.before_iff, Time.Instant.eq_iff]
  omega

theorem rowBefore_antisymm {a b : Conversation} (hab : rowBefore a b = true) (hba : rowBefore b a = true) :
    a.id = b.id := by
  simp only [rowBefore_iff, Time.Instant.before_iff, Time.Instant.eq_iff] at *
  omega

theorem rowsOf_perm (s : Store) (user : UserId) :
    (s.rowsOf user).Perm (s.rows.filter fun r => r.owner == user) := List.mergeSort_perm _ _

theorem mem_rowsOf {r : Conversation} : r ∈ s.rowsOf user ↔ r ∈ s.rows ∧ r.owner = user := by
  rw [(rowsOf_perm s user).mem_iff, List.mem_filter, beq_iff_eq]

theorem rowsOf_pairwise (s : Store) (user : UserId) :
    (s.rowsOf user).Pairwise fun r r' => rowBefore r r' = true :=
  List.pairwise_mergeSort rowBefore_trans rowBefore_total _

/-- **Rows with different numbers come in one order**, however they are kept. -/
theorem rowsOf_eq_of_perm (distinct : (s.rows.map (·.id)).Nodup) {rows : List Conversation}
    (h : rows.Perm s.rows) (user : UserId) : rowsOf { s with rows := rows } user = s.rowsOf user := by
  refine List.Perm.eq_of_pairwise (fun r r' hr hr' hrr' hr'r => ?_) (rowsOf_pairwise _ user)
    (rowsOf_pairwise s user) ?_
  · exact List.inj_on_of_nodup_map distinct (h.subset (mem_rowsOf.mp hr).1) (mem_rowsOf.mp hr').1
      (rowBefore_antisymm hrr' hr'r)
  · exact (rowsOf_perm _ user).trans ((h.filter _).trans (rowsOf_perm s user).symm)

/-- The rows of a user, each once, the latest change first and then the higher
number. -/
structure Lists (s : Store) (user : UserId) (rows : List Conversation) : Prop where
  mem : ∀ r, r ∈ rows ↔ r ∈ s.rows ∧ r.owner = user
  once : rows.Nodup
  ordered : rows.Pairwise fun r r' =>
    r'.updatedAt.before r.updatedAt = true ∨ r.updatedAt = r'.updatedAt ∧ r'.id < r.id

theorem lists_rowsOf (distinct : (s.rows.map (·.id)).Nodup) (user : UserId) : s.Lists user (s.rowsOf user) where
  mem _ := mem_rowsOf
  once := (rowsOf_perm s user).nodup_iff.mpr (distinct.of_map.filter _)
  ordered := by
    have hids : ((s.rowsOf user).map (·.id)).Nodup :=
      ((rowsOf_perm s user).map _).nodup_iff.mpr (distinct.sublist (List.filter_sublist.map _))
    refine ((rowsOf_pairwise s user).and (List.pairwise_map.mp hids)).imp fun ⟨hbefore, hne⟩ => ?_
    exact (rowBefore_iff.mp hbefore).imp_right fun ⟨he, hle⟩ => ⟨he, lt_of_le_of_ne hle (Ne.symm hne)⟩

end Store

/-! ## Windows -/

theorem take_mul_eq_flatMap {α : Type} (l : List α) (size count : Nat) :
    l.take (count * size) = (List.range count).flatMap fun i => (l.drop (i * size)).take size := by
  induction count with
  | zero => simp
  | succ count ih => rw [Nat.succ_mul, List.take_add, ih, List.range_succ, List.flatMap_append, List.flatMap_singleton]

namespace Inbox

open Text (IntRange)

theorem pageLimit_bounds (limit : Option Int) : 1 ≤ pageLimit limit ∧ pageLimit limit ≤ 50 := by
  unfold pageLimit
  cases limit with
  | none => decide
  | some n =>
    by_cases hn : 0 < n
    · simp only [Option.filter_some, hn, decide_true, if_true, Option.map_some, Option.getD_some]
      omega
    · simp [Option.filter_some, hn]

/-- Which window of the rows is asked for, and that it fits in 64 bits. -/
structure Window (page limit : Option Int) : Prop where
  number : ∀ n ∈ page, 0 < n → pageNumber page = n
  first : (∀ n ∈ page, n ≤ 0) → pageNumber page = 1
  size : ∀ n ∈ limit, 0 < n → pageLimit limit = min n 50
  usual : (∀ n ∈ limit, n ≤ 0) → pageLimit limit = 20
  sizes : 1 ≤ pageLimit limit ∧ pageLimit limit ≤ 50
  /-- The number of pages before fits. -/
  before : 0 ≤ pageNumber page - 1 ∧ pageNumber page - 1 ≤ IntRange.int64.greatest
  /-- The number of rows before fits, for it is held down to the greatest number. -/
  offset : pageOffset (pageNumber page) (pageLimit limit) =
    min ((pageNumber page - 1) * pageLimit limit) IntRange.int64.greatest
  nonneg : 0 ≤ pageOffset (pageNumber page) (pageLimit limit)

theorem pageNumber_some {n : Int} (hn : 0 < n) : pageNumber (some n) = n := by
  simp [pageNumber, Option.filter_some, hn]

theorem pageNumber_eq_one {page : Option Int} (h : ∀ n ∈ page, n ≤ 0) : pageNumber page = 1 := by
  cases page with
  | none => rfl
  | some n => simp [pageNumber, Option.filter_some, Int.not_lt.mpr (h n rfl)]

theorem pageOffset_eq {page limit : Int} (hp : 1 ≤ page) (hl : 0 ≤ limit) :
    pageOffset page limit = min ((page - 1) * limit) IntRange.int64.greatest := by
  have hpos : 0 ≤ (page - 1) * limit := Int.mul_nonneg (by omega) hl
  unfold pageOffset IntRange.clamp IntRange.int64
  simp only
  omega

theorem window {page : Option Int} (fits : ∀ n ∈ page, n ≤ IntRange.int64.greatest) (limit : Option Int) :
    Window page limit := by
  have hnumber : 1 ≤ pageNumber page ∧ pageNumber page ≤ IntRange.int64.greatest := by
    by_cases hpos : ∃ n ∈ page, 0 < n
    · obtain ⟨n, rfl, hn⟩ := hpos
      rw [pageNumber_some hn]
      exact ⟨hn, fits n rfl⟩
    · rw [pageNumber_eq_one fun n hn => Int.not_lt.mp fun h => hpos ⟨n, hn, h⟩]
      decide
  have hlimit := pageLimit_bounds limit
  have hoffset := pageOffset_eq hnumber.1 (by omega : 0 ≤ pageLimit limit)
  refine ⟨?_, pageNumber_eq_one, ?_, ?_, hlimit, ?_, hoffset, ?_⟩
  · rintro n rfl hn
    exact pageNumber_some hn
  · rintro n rfl hn
    simp [pageLimit, Option.filter_some, hn]
  · intro h
    cases limit with
    | none => rfl
    | some n => simp [pageLimit, Option.filter_some, Int.not_lt.mpr (h n rfl)]
  · omega
  · rw [hoffset]
    exact le_min (Int.mul_nonneg (by omega) (by omega)) (by decide)

end Inbox

namespace Store

open Text (IntRange)
open Inbox (pageOffset)

variable {s s' : Store} {user : UserId}

/-- The number of pages that some rows make. -/
def pages (total limit : Int) : Int := (total + limit - 1) / limit

/-- The pages of a user's rows: one after another they are the list, all behind
them are empty, and each tells the number of all rows. -/
structure Paged (s : Store) (user : UserId) (limit : Int) : Prop where
  together : (oneTo (pages (s.rowsOf user).length limit).toNat).flatMap
    (fun p => (s.page user (pageOffset p limit) limit).1) = s.rowsOf user
  behind : ∀ p, pages (s.rowsOf user).length limit < p → (s.page user (pageOffset p limit) limit).1 = []
  total : ∀ p, (s.page user (pageOffset p limit) limit).2 = s.rows.countP fun r => r.owner == user

theorem length_rowsOf (s : Store) (user : UserId) :
    (s.rowsOf user).length = s.rows.countP fun r => r.owner == user := by
  rw [(rowsOf_perm s user).length_eq, List.countP_eq_length_filter]

theorem paged (fits : ((s.rowsOf user).length : Int) ≤ IntRange.int64.greatest) {limit : Int} (hl : 1 ≤ limit) :
    s.Paged user limit := by
  generalize hrows : s.rowsOf user = rows at *
  have hpage (p : Int) : s.page user (pageOffset p limit) limit =
      ((rows.drop (pageOffset p limit).toNat).take limit.toNat, (rows.length : Int)) := by
    rw [page, hrows]
  obtain ⟨size, rfl⟩ : ∃ size : Nat, limit = size := ⟨limit.toNat, by omega⟩
  have hsize : (0 : Int) < size := by omega
  -- Rounding up: so many pages cover all rows, and each of them begins before the last row.
  have hcover : (rows.length : Int) ≤ pages rows.length size * size := by
    have := Int.lt_ediv_add_one_mul_self ((rows.length : Int) + size - 1) hsize
    unfold pages
    rw [Int.add_mul] at this
    omega
  have hbegins {i : Nat} (hi : (i : Int) < pages rows.length size) : (i * size : Nat) < rows.length := by
    have := (Int.le_ediv_iff_mul_le hsize).mp (Int.add_one_le_of_lt hi)
    rw [Int.add_mul] at this
    push_cast [← Int.ofNat_lt]
    omega
  have hnonneg : 0 ≤ pages rows.length size := Int.ediv_nonneg (by omega) (by omega)
  obtain ⟨count, hcount⟩ := Int.eq_ofNat_of_zero_le hnonneg
  rw [hcount] at hcover hbegins
  refine ⟨?_, fun p hp => ?_, fun p => ?_⟩
  · have hwindows : ∀ i ∈ List.range count,
        (s.page user (pageOffset (i + 1) size) size).1 = (rows.drop (i * size)).take size := by
      intro i hi
      have hlt := hbegins (Int.ofNat_lt.mpr (List.mem_range.mp hi))
      have hoffset : (pageOffset (i + 1) size).toNat = i * size := by
        rw [Inbox.pageOffset_eq (by omega) (by omega), Int.add_sub_cancel, ← Int.natCast_mul]
        omega
      rw [hpage, hoffset, Int.toNat_natCast]
    rw [hrows, hcount, oneTo, List.flatMap_map, Int.toNat_natCast, List.flatMap_congr hwindows,
      ← take_mul_eq_flatMap]
    exact List.take_of_length_le (by exact_mod_cast hcover)
  · rw [hrows, hcount] at hp
    have hfar : (count : Int) * size ≤ (p - 1) * size := Int.mul_le_mul_of_nonneg_right (by omega) (by omega)
    have hoffset := Inbox.pageOffset_eq (by omega : 1 ≤ p) (by omega : (0 : Int) ≤ size)
    rw [hpage, List.drop_of_length_le (by omega), List.take_nil]
  · rw [hpage, ← length_rowsOf, hrows]

theorem length_rowsOf_le (h : s.Sound) (peers : ∀ r ∈ s.rows, 0 < r.peer ∧ r.peer ≤ IntRange.int64.greatest) :
    ((s.rowsOf user).length : Int) ≤ IntRange.int64.greatest := by
  have hdistinct : ((s.rowsOf user).map (·.peer)).Nodup := by
    refine List.Nodup.map_on (fun r hr r' hr' hp => ?_) ((rowsOf_perm s user).nodup_iff.mpr (h.rowsDistinct.filter _))
    obtain ⟨hr, ho⟩ := mem_rowsOf.mp hr
    obtain ⟨hr', ho'⟩ := mem_rowsOf.mp hr'
    refine h.eq_of_key hr hr' ?_
    rw [(h.owned r hr).1, (h.owned r' hr').1, ho, ho', hp]
  have hrange : ((s.rowsOf user).map (·.peer)).toFinset ⊆ Finset.Icc 1 IntRange.int64.greatest := by
    intro p hp
    obtain ⟨r, hr, rfl⟩ := List.mem_map.mp (List.mem_toFinset.mp hp)
    exact Finset.mem_Icc.mpr (peers r (mem_rowsOf.mp hr).1)
  have hcard := Finset.card_le_card hrange
  rw [List.toFinset_card_of_nodup hdistinct, List.length_map, Int.card_Icc] at hcard
  unfold IntRange.int64 at hcard ⊢
  simp only at hcard ⊢
  omega

/-! ## When rows change their time -/

/-- A row was changed last when the latest message of its pair was stored. -/
def Stamped (s : Store) : Prop :=
  ∀ r ∈ s.rows, ∃ m, (s.messagesOf r.conversation).getLast? = some m ∧ r.updatedAt = m.createdAt

theorem Stamped.empty : Stamped .empty := by simp [Stamped, Store.empty]

theorem Stamped.outline : s.outline.Stamped ↔ s.Stamped := by
  have hlast (c : String) : (s.outline.messagesOf c).getLast? = (s.messagesOf c).getLast?.map Message.fixed := by
    rw [messagesOf_outline, List.getLast?_map]
  have hrow (r : Conversation) :
      (∃ m, (s.outline.messagesOf r.side.conversation).getLast? = some m ∧ r.side.updatedAt = m.createdAt) ↔
        ∃ m, (s.messagesOf r.conversation).getLast? = some m ∧ r.updatedAt = m.createdAt := by
    change (∃ m, (s.outline.messagesOf r.conversation).getLast? = some m ∧ r.updatedAt = m.createdAt) ↔ _
    simp only [hlast, Option.map_eq_some_iff]
    constructor
    · rintro ⟨_, ⟨m, hm, rfl⟩, he⟩
      exact ⟨m, hm, he⟩
    · rintro ⟨m, hm, he⟩
      exact ⟨m.fixed, ⟨m, hm, rfl⟩, he⟩
  simp only [Stamped, Store.outline, List.forall_mem_map]
  exact forall₂_congr fun r _ => hrow r

theorem Stamped.add (h : s.Sound) (hs : s.Stamped) (draft : Draft) (now : Instant) : (s.add draft now).2.Stamped := by
  have hrows := (h.withRows draft now).1
  rw [add_eq]
  generalize hm : s.messageOf draft now = m at *
  have hname : m.conversation = draft.conversation := by rw [← hm]; rfl
  have hstored : m.conversation = Pair.id m.sender m.recipient := by rw [← hm]; rfl
  have hmessages (c : String) : (messagesOf { s.withRows draft now with
      messages := s.messages ++ [m], counters := bump draft.conversation s.counters, lastMessage := m.id,
      rows := (s.withRows draft now).rows.map (afterStoring m) } c) =
        s.messagesOf c ++ if m.conversation = c then [m] else [] := messagesOf_append s m c
  refine List.forall_mem_map.mpr fun r hr => ?_
  rw [hmessages, (afterStoring_keepsOwner m).conversation]
  rcases hrows.afterStoring_cases hr hstored with ⟨hc, _, he⟩ | ⟨hc, he⟩
  · rw [if_pos hc.symm, List.getLast?_concat, he]
    exact ⟨m, rfl, rfl⟩
  · -- Rows of other conversations are old, and so are their messages.
    rw [if_neg (Ne.symm hc), List.append_nil, he]
    exact hs r ((mem_withRows hr).resolve_right fun h => hc (h.trans hname.symm))

theorem Sound.of_getLast? (h : s.Sound) {c : String} {m : Message} (hm : (s.messagesOf c).getLast? = some m) :
    m ∈ s.messages ∧ m.conversation = c ∧ ∀ m' ∈ s.messages, m'.conversation = c → m'.id ≤ m.id := by
  obtain ⟨front, hfront⟩ := List.getLast?_eq_some_iff.mp hm
  have hmem {m' : Message} : m' ∈ front ++ [m] ↔ m' ∈ s.messages ∧ m'.conversation = c := by
    rw [← hfront, messagesOf, List.mem_filter, beq_iff_eq]
  obtain ⟨hstored, hc⟩ := hmem.mp (List.mem_append_right _ (List.mem_singleton_self m))
  refine ⟨hstored, hc, fun m' hm' hc' => ?_⟩
  have hids := h.ids.filter fun m => m.conversation == c
  rw [show s.messages.filter _ = front ++ [m] from hfront, List.pairwise_append] at hids
  rcases List.mem_append.mp (hmem.mpr ⟨hm', hc'⟩) with hold | hlast
  · exact Int.le_of_lt (hids.2.2 m' hold m (List.mem_singleton_self m))
  · rw [List.mem_singleton.mp hlast]

theorem Sound.createdAt_before (h : s.Sound)
    (clock : s.messages.Pairwise fun m n => m.createdAt.before n.createdAt = true) {m n : Message}
    (hm : m ∈ s.messages) (hn : n ∈ s.messages) (hid : m.id < n.id) : m.createdAt.before n.createdAt = true := by
  let R (m n : Message) : Prop := (m.id < n.id → m.createdAt.before n.createdAt = true) ∧
    (n.id < m.id → n.createdAt.before m.createdAt = true)
  have hsymm : Std.Symm R := ⟨fun _ _ => And.symm⟩
  have hpairwise : s.messages.Pairwise R :=
    (clock.and h.ids).imp fun ⟨hbefore, hlt⟩ => ⟨fun _ => hbefore, fun hgt => absurd hlt (Int.not_lt.mpr (Int.le_of_lt hgt))⟩
  have hself : ∀ m ∈ s.messages, R m m := fun m _ => ⟨fun hlt => absurd hlt (lt_irrefl _), fun hlt => absurd hlt (lt_irrefl _)⟩
  exact (hpairwise.forall_of_forall hself hm hn).1 hid

/-- **With a growing clock, the row that comes first has the later message.** -/
theorem Stamped.newer (h : s.Sound) (hs : s.Stamped) (distinct : (s.rows.map (·.id)).Nodup)
    (clock : s.messages.Pairwise fun m n => m.createdAt.before n.createdAt = true) (user : UserId) :
    (s.rowsOf user).Pairwise fun r r' => ∃ m ∈ s.messages, m.Between user r.peer ∧
      ∀ m' ∈ s.messages, m'.Between user r'.peer → m'.id < m.id := by
  have hlist := lists_rowsOf distinct user
  refine (hlist.ordered.and hlist.once).imp_of_mem fun {r r'} hr hr' ⟨hordered, hne⟩ => ?_
  obtain ⟨hmem, ho⟩ := mem_rowsOf.mp hr
  obtain ⟨hmem', ho'⟩ := mem_rowsOf.mp hr'
  obtain ⟨m, hlast, hstamp⟩ := hs r hmem
  obtain ⟨m', hlast', hstamp'⟩ := hs r' hmem'
  obtain ⟨hm, hc, -⟩ := h.of_getLast? hlast
  obtain ⟨hm', hc', hhighest⟩ := h.of_getLast? hlast'
  have hid : m'.id < m.id := by
    rcases lt_trichotomy m.id m'.id with hlt | he | hgt
    · have hbefore := h.createdAt_before clock hm hm' hlt
      rw [← hstamp, ← hstamp'] at hbefore
      rcases hordered with hafter | ⟨he, -⟩
      · exact absurd hafter (Time.Instant.not_before_of_before hbefore)
      · rw [he] at hbefore
        exact absurd hbefore (Time.Instant.not_before_of_before hbefore)
    · have hsame : r.conversation = r'.conversation := by rw [← hc, ← hc', h.eq_of_id hm hm' he]
      exact absurd (h.eq_of_conversation hmem hmem' (ho.trans ho'.symm) hsame) hne
    · exact hgt
  have hpair := (h.owned r hmem).2
  have hpair' := (h.owned r' hmem').2
  rw [ho] at hpair
  rw [ho'] at hpair'
  refine ⟨m, hm, (h.between_iff hm).mpr (hc.trans hpair), fun m'' hm'' hbetween => ?_⟩
  exact lt_of_le_of_lt (hhighest m'' hm'' (((h.between_iff hm'').mp hbetween).trans hpair'.symm)) hid

end Store

/-! ## The call -/

/-- A row with the profile of its peer, if it is found. -/
def Directory.view (d : Directory) (r : Conversation) : Option ConversationView :=
  match d.profile r.peer with
  | .ok p => some ⟨r, p.nickname, p.avatar⟩
  | .error _ => none

namespace Server

variable {s : Server Backend.memory}

theorem run_views (rows : List Conversation) :
    s.run (Inbox.views rows).run = (.ok (rows.filterMap s.directory.view), s) := by
  induction rows with
  | nil => rfl
  | cons r rows ih =>
    have hprofile : s.run (Action.tryProfile r.peer).run = (.ok (s.directory.profile r.peer), s) := rfl
    rw [Inbox.views, run_bind_ok hprofile, run_bind_ok ih, List.filterMap_cons]
    cases hp : s.directory.profile r.peer <;> simp only [Directory.view, hp] <;> rfl

theorem run_conversations (user : UserId) (page limit : Option Int) :
    let number := Inbox.pageNumber page
    let size := Inbox.pageLimit limit
    let found := s.store.page user (Inbox.pageOffset number size) size
    s.run (Inbox.conversations user page limit).run =
      (.ok ⟨found.1.filterMap s.directory.view, found.2, number, size⟩, s.asked) := by
  intro number size found
  have hrows : s.run (Action.archive (.rows user (Inbox.pageOffset number size) size)).run = (.ok found, s.asked) :=
    rfl
  rw [Inbox.conversations, run_bind_ok hrows]
  exact run_bind_ok (run_views found.1) _

end Server

/-! ## Runs -/

namespace System

variable {settings : MessageSettings} {calls : List Call} {server : Server Backend.memory}
  {t : List Event} {s : System}

theorem Run.stamped (run : Run Server.StoreKept (System.start settings calls server) t s)
    (fresh : server.store = .empty) : s.store.Stamped :=
  run.outline_invariant fresh .empty (fun _ => Store.Stamped.outline) fun _ draft now h hs _ => hs.add h draft now

theorem Run.peers (run : Run Server.StoreKept (System.start settings calls server) t s)
    (fresh : server.store = .empty)
    (ids : ∀ request, Call.send request ∈ calls → request.sender < 2 ^ 63 ∧ request.recipient < 2 ^ 63) :
    ∀ r ∈ s.store.rows, 0 < r.peer ∧ r.peer ≤ Text.IntRange.int64.greatest := by
  intro r hr
  have inOrder := run.inOrder fresh
  obtain ⟨m, hm, hbetween⟩ := (inOrder.rows r.owner r.peer).mp (by rw [(inOrder.owned r hr).2.1]; rfl)
  obtain ⟨request, hrequest, hcheck⟩ := run.checked fresh m hm
  obtain ⟨-, hsender, hrecipient, -⟩ := SendRequest.draft_of_check hcheck
  have hfits := ids request hrequest
  rw [← hsender, ← hrecipient] at hfits
  have hchecked := inOrder.checked m hm
  rcases hbetween with ⟨-, hpeer⟩ | ⟨hpeer, -⟩
  · exact hpeer ▸ ⟨hchecked.recipient, Int.le_sub_one_of_lt hfits.2⟩
  · exact hpeer ▸ ⟨hchecked.sender, Int.le_sub_one_of_lt hfits.1⟩

/-- **Pages of conversations partition the list.** However the calls before took
turns, the window of a page is computed within 64 bits, and the pages that
there are, one after another, are the rows of the user, each once and the
latest change first. Each tells how many rows there are, and is answered with
those of its rows whose peers are found. The list does not depend on how rows
are kept, and if the clock grew from message to message, it is ordered by the
latest message that was stored of each pair, whatever was done to it since. -/
theorem conversations_paged (fresh : server.store = .empty)
    (ids : ∀ request, Call.send request ∈ calls → request.sender < 2 ^ 63 ∧ request.recipient < 2 ^ 63)
    (run : Run Server.StoreKept (System.start settings calls server) t s) (user : UserId) (limit : Option Int) :
    let size := Inbox.pageLimit limit
    (∀ page, (∀ n ∈ page, n ≤ Text.IntRange.int64.greatest) → Inbox.Window page limit) ∧
    s.store.Paged user size ∧
    s.store.Lists user (s.store.rowsOf user) ∧
    (∀ page (directory : Directory),
      let number := Inbox.pageNumber page
      let found := s.store.page user (Inbox.pageOffset number size) size
      (Server.run { s.server with directory := directory } (Inbox.conversations user page limit).run).1 =
        .ok ⟨found.1.filterMap directory.view, found.2, number, size⟩) ∧
    (∀ rows, rows.Perm s.store.rows → ∀ offset size,
      Store.page { s.store with rows := rows } user offset size = s.store.page user offset size) ∧
    ((s.store.messages.Pairwise fun m n => m.createdAt.before n.createdAt = true) →
      (s.store.rowsOf user).Pairwise fun r r' => ∃ m ∈ s.store.messages, m.Between user r.peer ∧
        ∀ m' ∈ s.store.messages, m'.Between user r'.peer → m'.id < m.id) := by
  intro size
  have hsound := run.sound fresh
  have distinct := (run.inOrder fresh).rowIds
  refine ⟨fun page fits => Inbox.window fits limit, ?_, Store.lists_rowsOf distinct user, fun page directory => ?_,
    fun rows hrows offset size => ?_, fun clock => (run.stamped fresh).newer hsound distinct clock user⟩
  · exact Store.paged (Store.length_rowsOf_le hsound (run.peers fresh ids)) (Inbox.pageLimit_bounds limit).1
  · rw [Server.run_conversations]
    rfl
  · simp only [Store.page, Store.rowsOf_eq_of_perm distinct hrows user]

/-- Two users wrote to a third, who answered the first of them and recalled it. -/
def inbox : System :=
  System.start {} [.send ⟨2, 1, 1, "one", none⟩, .send ⟨3, 1, 1, "two", none⟩, .send ⟨1, 2, 1, "three", none⟩,
    .recallMessage 1 3] (Server.fresh [])

/-- All calls have ended. -/
def inboxFilled : System := inbox.play [0, 0, 0, 1, 1, 1, 2, 2, 2, 3, 3, 3, 3]

/-- The pair of the recalled answer comes first, on pages of one row each. When
the profile of its other user is not found, the first page is empty and tells of
two rows. -/
theorem conversations_paged_after_recall : ∃ t, Run Server.StoreKept inbox t inboxFilled ∧
    inboxFilled.store.messages.map (·.status) = [.sent, .sent, .recalled] ∧
    inboxFilled.store.Paged 1 1 ∧ (inboxFilled.store.rowsOf 1).map (·.peer) = [2, 3] ∧
    ((inboxFilled.store.rowsOf 1).Pairwise fun r r' => ∃ m ∈ inboxFilled.store.messages, m.Between 1 r.peer ∧
      ∀ m' ∈ inboxFilled.store.messages, m'.Between 1 r'.peer → m'.id < m.id) ∧
    (Server.run { inboxFilled.server with directory := ⟨fun _ _ => .ok true, fun _ => .error .notFound⟩ }
      (Inbox.conversations 1 none (some 1)).run).1 = .ok ⟨[], 2, 1, 1⟩ := by
  obtain ⟨t, run⟩ : ∃ t, Run Server.StoreKept inbox t inboxFilled := Run.play .nil _
  have ids : ∀ request, Call.send request ∈ [Call.send ⟨2, 1, 1, "one", none⟩, .send ⟨3, 1, 1, "two", none⟩,
      .send ⟨1, 2, 1, "three", none⟩, .recallMessage 1 3] →
      request.sender < 2 ^ 63 ∧ request.recipient < 2 ^ 63 := by
    simp
  obtain ⟨-, hpaged, -, hanswer, -, hnewer⟩ := conversations_paged rfl ids run 1 (some 1)
  -- The rows come in the order in which they were made.
  have hrows : inboxFilled.store.rowsOf 1 = inboxFilled.store.rows.filter fun r => r.owner == 1 :=
    List.mergeSort_of_pairwise (by decide +kernel)
  refine ⟨t, run, by decide +kernel, hpaged, ?_, hnewer (by decide +kernel), ?_⟩
  · rw [hrows]
    decide +kernel
  · rw [hanswer, Store.page, hrows]
    decide +kernel

end System
end Parley
