/-
Walking a conversation backwards, page by page.

A page is cut from the messages before a cursor, the latest first, and then
turned round. `HistoryPage.Shows` says what one page is to the archive that it
was read from: it leaves no gap, for what could be shown and is not on it is
older than all that is. A `Walk` goes on from the first message of the page
before, and anything may happen between two pages. New messages have greater
ids than any cursor and no deleted message comes back, so the pages together
leave no gap either (`Walk.gapless`).
-/
import Parley.Proofs.Concern
import Parley.Proofs.Spelling

namespace Parley

open Messaging (historyLimit)

/-! ## One page -/

/-- A page of the messages of a conversation before a cursor, or of the last
ones. -/
structure HistoryPage.Shows (p : HistoryPage) (s : Store) (conversation : String) (before : Option Int)
    (limit : Int) : Prop where
  /-- The oldest message comes first. -/
  ordered : p.messages.Pairwise fun m n => m.id < n.id
  size : p.messages.length ≤ limit
  /-- What is shown is stored and not deleted, and is masked if it was recalled. -/
  stored : ∀ m ∈ p.messages, ∃ n ∈ s.messages, n.conversation = conversation ∧ n.status ≠ .deleted ∧
    (∀ bound ∈ before, n.id < bound) ∧ m = n.masked
  masked : ∀ m ∈ p.messages, m.status ≠ .deleted ∧
    (m.status = .recalled → m.content = Message.recalledContent ∧ m.extra = none)
  /-- What is not shown is older than the page. -/
  gapless : ∀ n ∈ s.messages, n.conversation = conversation → n.status ≠ .deleted →
    (∀ bound ∈ before, n.id < bound) → n.masked ∈ p.messages ∨ ∀ m ∈ p.messages, n.id < m.id
  more : p.hasMore = true ↔ ∃ n ∈ s.messages, n.conversation = conversation ∧ n.status ≠ .deleted ∧
    (∀ bound ∈ before, n.id < bound) ∧ ∀ m ∈ p.messages, n.id < m.id
  full : p.hasMore = true → p.messages.length = limit

theorem HistoryPage.Shows.oldest {p : HistoryPage} {s : Store} {conversation : String} {before : Option Int}
    {limit : Int} (shows : p.Shows s conversation before limit) {m : Message} (h : p.messages.head? = some m) :
    ∀ n ∈ p.messages, m.id ≤ n.id := by
  obtain ⟨rest, hmessages⟩ := List.head?_eq_some_iff.mp h
  have hordered := shows.ordered
  rw [hmessages, List.pairwise_cons] at hordered
  rw [hmessages]
  exact List.forall_mem_cons.mpr ⟨Int.le_refl _, fun n hn => Int.le_of_lt (hordered.1 n hn)⟩

@[simp] theorem Message.masked_id (m : Message) : m.masked.id = m.id := by
  unfold masked
  split <;> rfl

@[simp] theorem Message.masked_status (m : Message) : m.masked.status = m.status := by
  unfold masked
  split <;> rfl

namespace Store

variable {s : Store} {c : String} {before : Option Int}

/-- The messages that can be shown before a cursor, the latest first. -/
def shownBefore (s : Store) (c : String) (before : Option Int) : List Message :=
  (s.latest c).filter fun m => before.all fun bound => m.id < bound

theorem mem_shownBefore {m : Message} : m ∈ s.shownBefore c before ↔
    m ∈ s.messages ∧ m.conversation = c ∧ m.status ≠ .deleted ∧ ∀ bound ∈ before, m.id < bound := by
  cases before with
  | none => simp [shownBefore, latest]
  | some bound =>
    simp only [shownBefore, latest, List.mem_filter, List.mem_reverse, Option.all_some, Option.mem_def,
      Option.some.injEq, forall_eq', decide_eq_true_eq, Bool.and_eq_true, beq_iff_eq, bne_iff_ne, and_assoc]

theorem Sound.descending (h : s.Sound) (c : String) (before : Option Int) :
    (s.shownBefore c before).Pairwise fun m n => n.id < m.id :=
  ((List.pairwise_reverse.mpr h.ids).filter _).filter _

/-- The first of the messages that can be shown, turned round. -/
def pageBefore (s : Store) (c : String) (before : Option Int) (limit : Int) : HistoryPage :=
  ⟨(((s.shownBefore c before).take limit.toNat).reverse).map Message.masked,
    limit < (s.shownBefore c before).length⟩

theorem mem_pageBefore {limit : Int} {m : Message} : m ∈ (s.pageBefore c before limit).messages ↔
    ∃ n ∈ (s.shownBefore c before).take limit.toNat, n.masked = m := by
  simp only [pageBefore, List.mem_map, List.mem_reverse]

theorem Sound.older_of_mem_drop (h : s.Sound) {k : Nat} {m n : Message}
    (hm : m ∈ (s.shownBefore c before).take k) (hn : n ∈ (s.shownBefore c before).drop k) : n.id < m.id := by
  have hdescending := h.descending c before
  rw [← List.take_append_drop k (s.shownBefore c before), List.pairwise_append] at hdescending
  exact hdescending.2.2 m hm n hn

theorem Sound.pageBefore_shows (h : s.Sound) (c : String) (before : Option Int) {limit : Int} (hpos : 0 < limit) :
    (s.pageBefore c before limit).Shows s c before limit := by
  have hlength : (s.pageBefore c before limit).messages.length =
      min limit.toNat (s.shownBefore c before).length := by
    simp [pageBefore]
  have hids {n : Message} : (∀ m ∈ (s.pageBefore c before limit).messages, n.id < m.id) ↔
      ∀ m ∈ (s.shownBefore c before).take limit.toNat, n.id < m.id := by
    simp only [mem_pageBefore, forall_exists_index, and_imp, forall_apply_eq_imp_iff₂, Message.masked_id]
  have hcut {n : Message} (hn : n ∈ s.shownBefore c before) :
      n ∈ (s.shownBefore c before).take limit.toNat ∨ n ∈ (s.shownBefore c before).drop limit.toNat := by
    rwa [← List.mem_append, List.take_append_drop]
  have hmore : (s.pageBefore c before limit).hasMore = true ↔
      limit.toNat < (s.shownBefore c before).length := by
    simp only [pageBefore, decide_eq_true_eq]
    omega
  constructor
  · simp only [pageBefore, List.pairwise_map, List.pairwise_reverse, Message.masked_id]
    exact (h.descending c before).sublist (List.take_sublist _ _)
  · omega
  · intro m hm
    obtain ⟨n, hn, rfl⟩ := mem_pageBefore.mp hm
    obtain ⟨hmem, hc, hlive, hbefore⟩ := mem_shownBefore.mp (List.mem_of_mem_take hn)
    exact ⟨n, hmem, hc, hlive, hbefore, rfl⟩
  · intro m hm
    obtain ⟨n, hn, rfl⟩ := mem_pageBefore.mp hm
    rw [Message.masked_status]
    refine ⟨(mem_shownBefore.mp (List.mem_of_mem_take hn)).2.2.1, fun hr => ?_⟩
    rw [Message.masked, if_pos hr]
    exact ⟨rfl, rfl⟩
  · intro n hn hc hlive hbefore
    rw [hids]
    exact (hcut (mem_shownBefore.mpr ⟨hn, hc, hlive, hbefore⟩)).imp (fun hn => mem_pageBefore.mpr ⟨n, hn, rfl⟩)
      fun hn m hm => h.older_of_mem_drop hm hn
  · rw [hmore]
    constructor
    · intro hlt
      obtain ⟨n, hn⟩ := List.exists_mem_of_ne_nil _ (mt List.drop_eq_nil_iff.mp (Nat.not_le.mpr hlt))
      obtain ⟨hmem, hc, hlive, hbefore⟩ := mem_shownBefore.mp (List.mem_of_mem_drop hn)
      exact ⟨n, hmem, hc, hlive, hbefore, hids.mpr fun m hm => h.older_of_mem_drop hm hn⟩
    · rintro ⟨n, hn, hc, hlive, hbefore, hall⟩
      rcases hcut (mem_shownBefore.mpr ⟨hn, hc, hlive, hbefore⟩) with hshown | hout
      · exact absurd (hids.mp hall n hshown) (Int.lt_irrefl _)
      · exact Nat.lt_of_not_le fun hle => List.ne_nil_of_mem hout (List.drop_eq_nil_iff.mpr hle)
  · intro hlt
    rw [hlength]
    have := hmore.mp hlt
    omega

end Store

/-! ## A walk -/

/-- A user who reads what another and it wrote to each other. -/
structure Reader where
  viewer : UserId
  peer : UserId
  limit : Option Int

namespace Reader

def conversation (r : Reader) : String := Pair.id r.viewer r.peer

/-- Reads a page before a cursor, or the last one. -/
def read (r : Reader) (before : Option Int) (s : System) : Except Failure HistoryPage × System :=
  let (page, server) := s.server.run (Messaging.history r.viewer r.conversation before r.limit).run
  (page, { s with server := server })

end Reader

/-- A page with the archive and the cursor that it was read with. -/
structure Glimpse where
  store : Store
  before : Option Int
  page : HistoryPage

/-- Reading page after page, each before the first message of the one that was
read last, as long as there is more. The latest glimpse comes first. -/
inductive Walk (r : Reader) (start : System) : List Glimpse → System → Prop
  | first {page : HistoryPage} (h : (r.read none start).1 = .ok page) :
    Walk r start [⟨start.store, none, page⟩] (r.read none start).2
  | next {g : Glimpse} {glimpses : List Glimpse} {t : List Event} {s s' : System} {m : Message}
    {page : HistoryPage} (walk : Walk r start (g :: glimpses) s) (more : g.page.hasMore = true)
    (oldest : g.page.messages.head? = some m) (between : System.Run Server.StoreKept s t s')
    (h : (r.read (some m.id) s').1 = .ok page) :
    Walk r start (⟨s'.store, some m.id, page⟩ :: g :: glimpses) (r.read (some m.id) s').2

namespace Reader

variable {r : Reader} {s : System}

/-- Both users have a number of 64 bits. -/
structure Valid (r : Reader) : Prop where
  viewer : 0 < r.viewer ∧ r.viewer < 2 ^ 63
  peer : 0 < r.peer ∧ r.peer < 2 ^ 63

theorem Valid.read (h : r.Valid) (hs : s.store.Sound) {before : Option Int}
    (hbefore : Messaging.positive? before = before) :
    ∃ page, (r.read before s).1 = .ok page ∧
      page.Shows s.store r.conversation before (historyLimit r.limit) ∧
      System.Run Server.StoreKept s [] (r.read before s).2 := by
  have hc : Messaging.counterpart r.conversation r.viewer = .ok r.peer := Messaging.counterpart_ok
    (Pair.counterpart?_id h.viewer.1 (Int.le_sub_one_of_lt h.viewer.2) h.peer.1 (Int.le_sub_one_of_lt h.peer.2))
  have hpos := Messaging.historyLimit_pos r.limit
  refine ⟨s.store.pageBefore r.conversation before (historyLimit r.limit), ?_, hs.pageBefore_shows _ _ hpos, ?_⟩
  · refine (Server.run_history hc before r.limit).trans (congrArg Except.ok ?_)
    have hshown : s.server.store.history r.conversation (Messaging.positive? before) (historyLimit r.limit + 1) =
        (s.store.shownBefore r.conversation before).take (historyLimit r.limit + 1).toNat := by
      rw [hbefore]
      rfl
    have hmin : min (historyLimit r.limit).toNat (historyLimit r.limit + 1).toNat = (historyLimit r.limit).toNat := by
      omega
    simp only [hshown, List.take_take, hmin, List.length_take, Store.pageBefore, HistoryPage.mk.injEq, true_and,
      decide_eq_decide]
    omega
  · refine .step .nil (.elsewhere ?_)
    unfold Messaging.history
    simp only [Messaging.participating, hc]
    rfl

end Reader

/-! ## Between two pages -/

namespace System

variable {settings : MessageSettings} {calls : List Call} {server : Server Backend.memory}
  {t t' : List Event} {s s' : System}

theorem Run.numbered (run : Run Server.StoreKept (System.start settings calls server) t s)
    (fresh : server.store = .empty) : s.store.Numbered :=
  run.outline_invariant fresh .empty (fun _ => Store.Numbered.outline) fun _ draft now _ h _ => h.add draft now

theorem Run.store_kept (run : Run Server.StoreKept s [] s') : s'.store = s.store := by
  generalize ht : ([] : List Event) = t at run
  induction run with
  | nil => rfl
  | @step _ _ _ e _ step ih =>
    obtain ⟨he, ht'⟩ := List.append_eq_nil_iff.mp ht.symm
    refine Eq.trans ?_ (ih ht'.symm)
    cases step with
    | turn => cases he
    | elsewhere h => exact h

theorem Run.kept (run : Run Server.StoreKept (System.start settings calls server) t s)
    (fresh : server.store = .empty) (more : Run Server.StoreKept s t' s') {m : Message}
    (hm : m ∈ s.store.messages) : ∃ n ∈ s'.store.messages, n.id = m.id ∧ n.conversation = m.conversation ∧
      (m.status = .deleted → n.status = .deleted) := by
  obtain ⟨n, hn, hadv⟩ := (run.grew fresh more).mem hm
  have hfixed : n.fixed.conversation = m.fixed.conversation := by rw [hadv.fixed]
  refine ⟨n, hn, hadv.id, hfixed, fun hd => ?_⟩
  rcases hadv.status with he | hbecomes
  · exact he.trans hd
  · rw [hd] at hbecomes
    cases n.status <;> simp [Status.canBecome] at hbecomes

theorem Run.stored_before (run : Run Server.StoreKept (System.start settings calls server) t s)
    (fresh : server.store = .empty) (more : Run Server.StoreKept s t' s') {m n : Message}
    (hm : m ∈ s'.store.messages) (hn : n ∈ s.store.messages) (hlt : m.id < n.id) :
    ∃ m' ∈ s.store.messages, m'.id = m.id ∧ m'.conversation = m.conversation := by
  have hid : m.id ∈ s.store.messages.map (·.id) := by
    have hn := List.mem_map_of_mem (f := fun n : Message => n.id) hn
    have hm := List.mem_map_of_mem (f := fun n : Message => n.id) hm
    rw [((run.trans more).numbered fresh).ids, mem_oneTo] at hm
    rw [(run.numbered fresh).ids, mem_oneTo] at hn ⊢
    omega
  obtain ⟨m', hm', hid'⟩ := List.mem_map.mp hid
  obtain ⟨m'', hm'', hid'', hc, -⟩ := run.kept fresh more hm'
  obtain rfl := ((run.trans more).sound fresh).eq_of_id hm'' hm (hid''.trans hid')
  exact ⟨m', hm', hid', hc.symm⟩

end System

/-! ## All pages -/

theorem length_flatMap_of_full {glimpses : List Glimpse} {size : Int}
    (h : ∀ g ∈ glimpses, (g.page.messages.length : Int) = size) :
    ((glimpses.flatMap (·.page.messages)).length : Int) = glimpses.length * size := by
  induction glimpses with
  | nil => simp
  | cons g glimpses ih =>
    obtain ⟨hg, hrest⟩ := List.forall_mem_cons.mp h
    rw [List.flatMap_cons, List.length_append, Int.natCast_add, ih hrest, hg, List.length_cons, Int.natCast_succ,
      Int.add_mul, Int.one_mul, Int.add_comm]

/-- What is known of a walk when its last page has been read. -/
structure Walked (r : Reader) (start : System) (glimpses : List Glimpse) (s : System) : Prop where
  run : ∃ t, System.Run Server.StoreKept start t s
  pages : ∀ g ∈ glimpses, g.page.Shows g.store r.conversation g.before (historyLimit r.limit)
  older : glimpses.Pairwise fun later earlier =>
    ∀ m ∈ later.page.messages, ∀ n ∈ earlier.page.messages, m.id < n.id
  more : ∀ g ∈ glimpses.tail, g.page.hasMore = true
  held : ∀ g ∈ glimpses, ∀ m ∈ g.page.messages,
    ∃ n ∈ start.store.messages, n.id = m.id ∧ n.conversation = r.conversation
  /-- What was there from the start and is not deleted was shown, or is older
  than the last page. -/
  gapless : ∀ m ∈ start.store.messages, m.conversation = r.conversation →
    (∀ n ∈ s.store.messages, n.id = m.id → n.status ≠ .deleted) →
    (∃ g ∈ glimpses, ∃ n ∈ g.page.messages, n.id = m.id) ∨
      ∃ g ∈ glimpses.head?, g.page.hasMore = true ∧ ∀ n ∈ g.page.messages, m.id < n.id

namespace Walked

variable {settings : MessageSettings} {calls : List Call} {server : Server Backend.memory}
  {t t' : List Event} {start s s' : System} {r : Reader} {g : Glimpse} {glimpses : List Glimpse}
  {page : HistoryPage} {m : Message}

theorem gapless_of_page (run : System.Run Server.StoreKept (System.start settings calls server) t start)
    (fresh : server.store = .empty) (more : System.Run Server.StoreKept start t' s) {before : Option Int}
    (shows : page.Shows s.store r.conversation before (historyLimit r.limit)) (hm : m ∈ start.store.messages)
    (hc : m.conversation = r.conversation) (hlive : ∀ n ∈ s.store.messages, n.id = m.id → n.status ≠ .deleted)
    (hbefore : ∀ bound ∈ before, m.id < bound) :
    (∃ n ∈ page.messages, n.id = m.id) ∨ page.hasMore = true ∧ ∀ n ∈ page.messages, m.id < n.id := by
  obtain ⟨n, hn, hid, hconv, -⟩ := run.kept fresh more hm
  rw [hc] at hconv
  rw [← hid] at hbefore ⊢
  rcases shows.gapless n hn hconv (hlive n hn hid) hbefore with hshown | holder
  · exact .inl ⟨n.masked, hshown, n.masked_id⟩
  · exact .inr ⟨shows.more.mpr ⟨n, hn, hconv, hlive n hn hid, hbefore, holder⟩, holder⟩

theorem first (run : System.Run Server.StoreKept (System.start settings calls server) t start)
    (fresh : server.store = .empty)
    (shows : page.Shows start.store r.conversation none (historyLimit r.limit))
    (kept : System.Run Server.StoreKept start [] s) (same : s.store = start.store) :
    Walked r start [⟨start.store, none, page⟩] s where
  run := ⟨[], kept⟩
  pages := List.forall_mem_singleton.mpr shows
  older := List.pairwise_singleton _ _
  more := nofun
  held := by
    refine List.forall_mem_singleton.mpr fun m hm => ?_
    obtain ⟨n, hn, hc, -, -, rfl⟩ := shows.stored m hm
    exact ⟨n, hn, n.masked_id.symm, hc⟩
  gapless m hm hc hlive := by
    rw [same] at hlive
    refine (gapless_of_page run fresh .nil shows hm hc hlive nofun).imp (fun hshown => ?_) fun hleft => ?_
    · exact ⟨_, List.mem_singleton_self _, hshown⟩
    · exact ⟨_, rfl, hleft⟩

/-- **Reading on keeps what is known.** -/
theorem next (run : System.Run Server.StoreKept (System.start settings calls server) t start)
    (fresh : server.store = .empty) (walked : Walked r start (g :: glimpses) s) (more : g.page.hasMore = true)
    (oldest : g.page.messages.head? = some m) (between : System.Run Server.StoreKept s t' s')
    (shows : page.Shows s'.store r.conversation (some m.id) (historyLimit r.limit)) {s'' : System}
    (kept : System.Run Server.StoreKept s' [] s'') (same : s''.store = s'.store) :
    Walked r start (⟨s'.store, some m.id, page⟩ :: g :: glimpses) s'' := by
  obtain ⟨t₁, reached⟩ := walked.run
  have later := reached.trans between
  have hoccurs := List.mem_of_head? oldest
  have hleast := (walked.pages g List.mem_cons_self).oldest oldest
  have hbound : ∀ n ∈ page.messages, n.id < m.id := by
    intro n hn
    obtain ⟨n', -, -, -, hbefore, rfl⟩ := shows.stored n hn
    rw [n'.masked_id]
    exact hbefore m.id rfl
  constructor
  · exact ⟨_, later.trans kept⟩
  · exact List.forall_mem_cons.mpr ⟨shows, walked.pages⟩
  · refine List.pairwise_cons.mpr ⟨?_, walked.older⟩
    refine List.forall_mem_cons.mpr ⟨fun n hn n' hn' => ?_, fun g' hg' n hn n' hn' => ?_⟩
    · exact Int.lt_of_lt_of_le (hbound n hn) (hleast n' hn')
    · exact Int.lt_trans (hbound n hn) ((List.pairwise_cons.mp walked.older).1 g' hg' m hoccurs n' hn')
  · exact List.forall_mem_cons.mpr ⟨more, walked.more⟩
  · refine List.forall_mem_cons.mpr ⟨fun n hn => ?_, walked.held⟩
    obtain ⟨n', hn', hc, -, -, rfl⟩ := shows.stored n hn
    obtain ⟨m', hm', hid, -⟩ := walked.held g List.mem_cons_self m hoccurs
    have hlt : n'.id < m'.id := by
      rw [hid, ← n'.masked_id]
      exact hbound _ hn
    obtain ⟨n₀, hn₀, hid₀, hc₀⟩ := run.stored_before fresh later hn' hm' hlt
    exact ⟨n₀, hn₀, hid₀.trans n'.masked_id.symm, hc₀.trans hc⟩
  · intro n hn hc hlive
    rw [same] at hlive
    -- What is not deleted now was not deleted when the page before was read.
    have hlived : ∀ n' ∈ s.store.messages, n'.id = n.id → n'.status ≠ .deleted := by
      intro n' hn' hid hdeleted
      obtain ⟨n'', hn'', hid'', -, hstays⟩ := (run.trans reached).kept fresh between hn'
      exact hlive n'' hn'' (hid''.trans hid) (hstays hdeleted)
    rcases walked.gapless n hn hc hlived with ⟨g', hg', hshown⟩ | ⟨g', hg', -, holder⟩
    · exact .inl ⟨g', List.mem_cons_of_mem _ hg', hshown⟩
    obtain rfl : g = g' := by simpa using hg'
    have hbefore : ∀ bound ∈ some m.id, n.id < bound := by
      rintro _ ⟨⟩
      exact holder m hoccurs
    refine (gapless_of_page run fresh later shows hn hc hlive hbefore).imp (fun hshown => ?_) fun hleft => ?_
    · exact ⟨_, List.mem_cons_self, hshown⟩
    · exact ⟨_, rfl, hleft⟩

theorem positive?_of_mem (run : System.Run Server.StoreKept (System.start settings calls server) t start)
    (fresh : server.store = .empty) (walked : Walked r start glimpses s) (hg : g ∈ glimpses)
    (hm : m ∈ g.page.messages) : Messaging.positive? (some m.id) = some m.id := by
  obtain ⟨n, hn, hid, -⟩ := walked.held g hg m hm
  have hid' := List.mem_map_of_mem (f := fun n : Message => n.id) hn
  rw [(run.numbered fresh).ids, mem_oneTo, hid] at hid'
  simp [Messaging.positive?, hid'.1]

theorem nodup (walked : Walked r start glimpses s) :
    ((glimpses.flatMap (·.page.messages)).map (·.id)).Nodup := by
  rw [List.map_flatMap, List.nodup_flatMap]
  constructor
  · intro g hg
    exact (List.pairwise_map.mpr (walked.pages g hg).ordered).imp Int.ne_of_lt
  · refine walked.older.imp fun {later earlier} holder => ?_
    simp only [Function.onFun, List.disjoint_left, List.mem_map]
    rintro _ ⟨m, hm, rfl⟩ ⟨n, hn, hid⟩
    exact Int.lt_irrefl _ (hid ▸ holder m hm n hn)

theorem length_le (walked : Walked r start glimpses s) :
    (glimpses.flatMap (·.page.messages)).length ≤ (start.store.messagesOf r.conversation).length := by
  have hsub : (glimpses.flatMap (·.page.messages)).map (·.id) ⊆
      (start.store.messagesOf r.conversation).map (·.id) := by
    intro id hid
    obtain ⟨m, hm, rfl⟩ := List.mem_map.mp hid
    obtain ⟨g, hg, hm⟩ := List.mem_flatMap.mp hm
    obtain ⟨n, hn, hid, hc⟩ := walked.held g hg m hm
    exact List.mem_map.mpr ⟨n, List.mem_filter.mpr ⟨hn, beq_iff_eq.mpr hc⟩, hid⟩
  simpa using (walked.nodup.subperm hsub).length_le

theorem length_full (walked : Walked r start glimpses s) :
    (glimpses.length - 1 : Int) * historyLimit r.limit ≤ (glimpses.flatMap (·.page.messages)).length := by
  have hpos := Messaging.historyLimit_pos r.limit
  cases glimpses with
  | nil => simpa using Int.le_of_lt hpos
  | cons g earlier =>
    have hfull := length_flatMap_of_full fun g hg =>
      (walked.pages g (List.mem_cons_of_mem _ hg)).full (walked.more g hg)
    rw [List.flatMap_cons, List.length_append, Int.natCast_add, hfull, List.length_cons, Int.natCast_succ,
      Int.add_sub_cancel]
    omega

end Walked

/-- What the pages of a walk come to, the latest first. -/
structure Covered (r : Reader) (start : System) (glimpses : List Glimpse) (s : System) : Prop where
  pages : ∀ g ∈ glimpses, g.page.Shows g.store r.conversation g.before (historyLimit r.limit)
  older : glimpses.Pairwise fun later earlier =>
    ∀ m ∈ later.page.messages, ∀ n ∈ earlier.page.messages, m.id < n.id
  once : ((glimpses.flatMap (·.page.messages)).map (·.id)).Nodup
  /-- As long as there is more, the next page can be read. -/
  continues : ∀ g ∈ glimpses.head?, g.page.hasMore = true → ∃ m, g.page.messages.head? = some m ∧
    ∀ t s', System.Run Server.StoreKept s t s' → ∃ page, (r.read (some m.id) s').1 = .ok page
  /-- A walk cannot go on for ever. -/
  bounded : (glimpses.length - 1 : Int) * historyLimit r.limit ≤ (start.store.messagesOf r.conversation).length
  /-- When there is no more, all that was stored at the start and is not deleted
  was shown once. -/
  complete : ∀ g ∈ glimpses.head?, g.page.hasMore = false →
    ∀ m ∈ start.store.messages, m.conversation = r.conversation →
      (∀ n ∈ s.store.messages, n.id = m.id → n.status ≠ .deleted) →
        (glimpses.flatMap (·.page.messages)).countP (·.id = m.id) = 1

theorem Messaging.historyLimit_cases (limit : Option Int) :
    (∃ n, limit = some n ∧ 0 < n ∧ historyLimit limit = min n 100) ∨
      (∀ n ∈ limit, n ≤ 0) ∧ historyLimit limit = 20 := by
  cases limit with
  | none => exact .inr ⟨nofun, rfl⟩
  | some n =>
    by_cases hn : 0 < n
    · exact .inl ⟨n, rfl, hn, by simp [historyLimit, positive?, Option.filter_some, hn]⟩
    · refine .inr ⟨?_, by simp [historyLimit, positive?, Option.filter_some, hn]⟩
      rintro _ ⟨⟩
      exact Int.not_lt.mp hn

section

variable {settings : MessageSettings} {calls : List Call} {server : Server Backend.memory}
  {t : List Event} {start s : System} {r : Reader} {glimpses : List Glimpse}

theorem Walk.walked (walk : Walk r start glimpses s)
    (run : System.Run Server.StoreKept (System.start settings calls server) t start)
    (fresh : server.store = .empty) (valid : r.Valid) : Walked r start glimpses s := by
  induction walk with
  | first h =>
    obtain ⟨page, hpage, shows, kept⟩ := valid.read (run.sound fresh) (show Messaging.positive? none = none from rfl)
    cases h.symm.trans hpage
    exact .first run fresh shows kept kept.store_kept
  | next walk more oldest between h ih =>
    obtain ⟨_, reached⟩ := ih.run
    have sound := ((run.trans reached).trans between).sound fresh
    obtain ⟨page, hpage, shows, kept⟩ := valid.read sound
      (ih.positive?_of_mem run fresh List.mem_cons_self (List.mem_of_head? oldest))
    cases h.symm.trans hpage
    exact ih.next run fresh more oldest between shows kept kept.store_kept

/-- **What is known of a walk says that it covers the conversation.** -/
theorem Walked.covered (walked : Walked r start glimpses s)
    (run : System.Run Server.StoreKept (System.start settings calls server) t start)
    (fresh : server.store = .empty) (valid : r.Valid) : Covered r start glimpses s where
  pages := walked.pages
  older := walked.older
  once := walked.nodup
  continues g hg more := by
    have hmem := List.mem_of_head? hg
    have hfull := (walked.pages g hmem).full more
    have hpos := Messaging.historyLimit_pos r.limit
    obtain ⟨m, hm⟩ : ∃ m, g.page.messages.head? = some m := by
      cases hmessages : g.page.messages with
      | nil =>
        rw [hmessages] at hfull
        exact absurd hpos (Int.not_lt.mpr (Int.le_of_eq hfull.symm))
      | cons m rest => exact ⟨m, rfl⟩
    refine ⟨m, hm, fun t s' between => ?_⟩
    obtain ⟨_, reached⟩ := walked.run
    obtain ⟨page, hpage, -⟩ := valid.read (((run.trans reached).trans between).sound fresh)
      (walked.positive?_of_mem run fresh hmem (List.mem_of_head? hm))
    exact ⟨page, hpage⟩
  bounded := walked.length_full.trans (Int.ofNat_le.mpr walked.length_le)
  complete g hg nomore m hm hc hlive := by
    rcases walked.gapless m hm hc hlive with ⟨g', hg', n, hn, hid⟩ | ⟨g', hg', more, -⟩
    · have hids : m.id ∈ (glimpses.flatMap (·.page.messages)).map (·.id) :=
        List.mem_map.mpr ⟨n, List.mem_flatMap.mpr ⟨g', hg', hn⟩, hid⟩
      have hcount := List.count_eq_one_of_mem walked.nodup hids
      rw [List.count, List.countP_map] at hcount
      refine Eq.trans (List.countP_congr fun n _ => ?_) hcount
      simp
    · cases hg.symm.trans hg'
      rw [nomore] at more
      cases more

end

namespace System

variable {settings : MessageSettings} {calls : List Call} {server : Server Backend.memory}
  {t : List Event} {s : System}

/-- **Walking backwards loses and repeats nothing.** However the calls take
turns before the first page and between two pages, a user who reads on from the
first message of the page before is shown each message that was there from the
start and is not deleted, and is shown it once. -/
theorem history_walks_complete (fresh : server.store = .empty)
    (run : Run Server.StoreKept (System.start settings calls server) t s) (r : Reader) (valid : r.Valid) :
    ((∃ n, r.limit = some n ∧ 0 < n ∧ historyLimit r.limit = min n 100) ∨
      (∀ n ∈ r.limit, n ≤ 0) ∧ historyLimit r.limit = 20) ∧
    (∃ page, (r.read none s).1 = .ok page) ∧
    ∀ glimpses s', Walk r s glimpses s' → Covered r s glimpses s' := by
  obtain ⟨page, hpage, -⟩ := valid.read (run.sound fresh) (show Messaging.positive? none = none from rfl)
  exact ⟨Messaging.historyLimit_cases r.limit, ⟨page, hpage⟩,
    fun glimpses s' walk => (walk.walked run fresh valid).covered run fresh valid⟩

/-- A conversation of which the second message is to be deleted. -/
def exchange : System :=
  start {} [.send ⟨1, 2, 1, "one", none⟩, .send ⟨2, 1, 1, "two", none⟩, .send ⟨1, 2, 1, "three", none⟩,
    .deleteMessage 1 2, .send ⟨2, 1, 1, "four", none⟩] (Server.fresh [])

/-- Three messages are stored. -/
def exchanged : System := exchange.play [0, 0, 0, 1, 1, 1, 2, 2, 2]

/-- The second message is deleted, and a fourth is stored. -/
def exchangedOn : System := ((⟨1, 2, some 1⟩ : Reader).read none exchanged).2.play [3, 3, 3, 4, 4, 4]

/-- A user who reads message by message is shown the third and the first, when
the second is deleted in between. -/
theorem history_walks_complete_around_deletion : ∃ t glimpses s',
    Run Server.StoreKept exchange t exchanged ∧ Walk ⟨1, 2, some 1⟩ exchanged glimpses s' ∧
    glimpses.map (fun g => g.page.messages.map (·.content)) = [["one"], ["three"]] ∧
    s'.store.messages.map (·.status) = [.sent, .deleted, .sent, .sent] ∧
    (glimpses.flatMap (·.page.messages)).countP (·.id = 1) = 1 := by
  let one : Message := ⟨1, 1, 2, "1_2", .text, "one", none, .sent, 1, ⟨0, 0⟩, ⟨0, 0⟩⟩
  let three : Message := ⟨3, 1, 2, "1_2", .text, "three", none, .sent, 3, ⟨0, 200⟩, ⟨0, 200⟩⟩
  obtain ⟨t, run⟩ : ∃ t, Run Server.StoreKept exchange t exchanged := Run.play .nil _
  obtain ⟨t', between⟩ : ∃ t, Run Server.StoreKept (Reader.read ⟨1, 2, some 1⟩ none exchanged).2 t exchangedOn :=
    Run.play .nil _
  have last : (Reader.read ⟨1, 2, some 1⟩ none exchanged).1 = .ok ⟨[three], true⟩ := by decide +kernel
  have first : (Reader.read ⟨1, 2, some 1⟩ (some three.id) exchangedOn).1 = .ok ⟨[one], false⟩ := by decide +kernel
  have walk := Walk.next (.first last) rfl rfl between first
  have covered := (history_walks_complete rfl run ⟨1, 2, some 1⟩ ⟨by decide, by decide⟩).2.2 _ _ walk
  refine ⟨t, _, _, run, walk, rfl, by decide +kernel, covered.complete _ rfl rfl one ?_ (by decide +kernel) ?_⟩
  · decide +kernel
  · decide +kernel

end System
end Parley
