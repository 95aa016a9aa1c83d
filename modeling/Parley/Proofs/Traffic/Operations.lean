/-
The operations of the server as steps.

An answered request, a message of a client, a beat of the clock and the
settling of all sockets are each one step after another (`Traffic.leads_operate`),
so what holds in every state that steps can reach holds behind every operation. An
operation that stops a socket ends its session as well.
-/
import Parley.Proofs.Traffic.Kept

namespace Parley

open Surroundings (Ask signature)

/-! ## Programs and sockets -/

namespace Http

variable {A : (q : Ask) → signature.Reply q → Prop}

theorem performAll_leaves_sessions (w : Socket) (effects : List Effect) :
    (w.performAll effects).Obeys LeavesSessions A fun _ => True := by
  induction effects with
  | nil => exact trivial
  | cons e effects ih =>
    have hperformed : (e.perform w.session w.user).Obeys LeavesSessions A fun _ => True := by
      cases e with
      | touch => exact ⟨⟨nofun, nofun⟩, fun _ _ => trivial⟩
      | relay target event =>
        have hrelay : (relay w.user target event).run.Obeys LeavesSessions A fun _ => True :=
          relay_obeys ⟨nofun, nofun⟩ fun _ _ _ => ⟨nofun, nofun⟩
        exact hrelay.bind fun _ _ => trivial
    exact hperformed.bind fun _ _ => ih

end Http

namespace Server

variable {B : Backend} {s : Server B} {w w' : Socket} {α : Type}

theorem answer_putSocket (q : Ask) : answer q (s.putSocket w) = ((answer q s).1, (answer q s).2.putSocket w) := by
  cases q <;> rfl

theorem run_putSocket (p : Program signature α) : (s.putSocket w).run p = ((s.run p).1, (s.run p).2.putSocket w) := by
  induction p generalizing s with
  | done a => rfl
  | ask q next ih =>
    change ((answer q (s.putSocket w)).2).run (next (answer q (s.putSocket w)).1) = _
    rw [answer_putSocket]
    exact ih _

theorem run_sockets (p : Program signature α) : (s.run p).2.sockets = s.sockets := by
  induction p generalizing s with
  | done a => rfl
  | ask q next ih => exact (ih _).trans (answer_sockets q).1

theorem putSocket_putSocket (hsession : w'.session = w.session) :
    (s.putSocket w).putSocket w' = s.putSocket w' := by
  have hsockets : (s.sockets.map fun v => if v.session = w.session then w else v).map
      (fun v => if v.session = w'.session then w' else v) =
        s.sockets.map fun v => if v.session = w'.session then w' else v := by
    rw [List.map_map]
    refine List.map_congr_left fun v _ => ?_
    by_cases he : v.session = w.session
    · simp [he, hsession]
    · simp [he, hsession]
  unfold putSocket
  simp only [hsockets]

theorem release_sockets (w : Socket) : (s.release w).sockets = s.sockets := by
  unfold release
  split <;> rfl

theorem release_ended (hs : s.hub.Sound) (hclosed : w.isOpen = false) :
    (s.release w).hub.session? w.session = none := by
  have hended := hs.session?_release s.tick w.session w.session
  rw [if_pos rfl] at hended
  have hrelease : s.release w = { (s.command (.unregister w.session)).2 with
      hub := (s.command (.unregister w.session)).2.hub.dropReader w.session } := if_neg (by simp [hclosed])
  rw [hrelease]
  exact hended

/-- The sessions of the sockets that have stopped are ended. -/
def Released (s : Server B) : Prop := ∀ w ∈ s.sockets, w.isOpen = false → s.hub.session? w.session = none

/-- What ends the session of each socket that stops. -/
def Frees (s t : Server B) : Prop :=
  ∀ w ∈ t.sockets, w.isOpen = false → w ∈ s.sockets ∨ t.hub.session? w.session = none

theorem frees_release {t : Server B} (ht : t.hub.Sound) (hsockets : ∀ u ∈ t.sockets, u = w ∨ u ∈ s.sockets) :
    s.Frees (t.release w) := by
  intro u hu hclosed
  rw [release_sockets] at hu
  rcases hsockets u hu with rfl | hold
  · exact .inr (release_ended ht hclosed)
  · exact .inl hold

theorem mem_of_putSocket {u : Socket} (hu : u ∈ (s.putSocket w).sockets) : u = w ∨ u ∈ s.sockets := by
  obtain ⟨v, hv, rfl⟩ := List.mem_map.mp hu
  split
  · exact .inl rfl
  · exact .inr hv

/-- A socket that has sent all that waits for it. -/
def served (s : Server B) (w : Socket) : Socket :=
  { w with sent := w.sent ++ (s.hub.waiting w.session).map .text }

/-- The server when nothing waits for a socket any more. -/
def emptied (s : Server B) (w : Socket) : Server B := { s with hub := (s.hub.readAll w.session).2.2 }

theorem emptied_nothing : (s.emptied w).hub.waiting w.session = [] := Hub.waiting_cleared fun _ => rfl

theorem emptied_sound (hs : s.hub.Sound) : (s.emptied w).hub.Sound := hs.happen (.readingAll w.session)

theorem drain_of_live (hopen : w.isOpen = true) (hlive : (s.hub.session? w.session).isSome) :
    s.drain w = (s.emptied w).putSocket (s.served w) := by
  have hgoes : (s.hub.readAll w.session).2.1 = false := by
    simpa [Hub.readAll, Option.isSome_iff_ne_none] using hlive
  have hstill : ((s.emptied w).putSocket (s.served w)).release (s.served w) =
      (s.emptied w).putSocket (s.served w) := if_pos hopen
  rw [← hstill, drain, if_pos hopen]
  simp only [hgoes, Bool.false_eq_true, if_false, Socket.deliverAll_eq]
  rfl

theorem drain_of_ended (hopen : w.isOpen = true) (hended : s.hub.session? w.session = none) :
    s.drain w = ((s.emptied w).putSocket ((s.served w).deliver .ended)).release
      ((s.served w).deliver .ended) := by
  have hends : (s.hub.readAll w.session).2.1 = true := by simp [Hub.readAll, hended]
  rw [drain, if_pos hopen]
  simp only [hends, if_true, Socket.deliverAll_eq]
  rfl

end Server

namespace Traffic

variable {B : Backend} {s s' : Traffic B} {server server' : Server B} {front : List Visit} {v : Visit}
  {w w' : Socket} {α : Type}

/-! ## One step after another -/

/-- Steps lead to a server, and leave the requests under way alone. -/
def Comes (s : Traffic B) (server : Server B) : Prop :=
  ∃ s', s.Reaches s' ∧ s'.server = server ∧ s'.visits = s.visits

theorem Comes.refl (s : Traffic B) : s.Comes s.server := ⟨s, .refl, rfl, rfl⟩

theorem Comes.step (step : Step s s') (hvisits : s'.visits = s.visits) : s.Comes s'.server :=
  ⟨s', .single step, rfl, hvisits⟩

theorem Comes.trans (hs : s.Kept) (h : s.Comes server)
    (hthen : ∀ s' : Traffic B, s'.Kept → s'.server = server → s'.visits = s.visits → s'.Comes server') :
    s.Comes server' := by
  obtain ⟨s₁, run, hserver, hvisits⟩ := h
  obtain ⟨s₂, run', hserver', hvisits'⟩ := hthen s₁ (hs.reaches run) hserver hvisits
  exact ⟨s₂, run.trans run', hserver', hvisits'.trans hvisits⟩

theorem Comes.released (hs : s.Kept) (h : s.Comes server) (hreleased : s.server.Released)
    (hfrees : s.server.Frees server) : server.Released := by
  intro w hw hclosed
  obtain ⟨s', run, rfl, -⟩ := h
  rcases hfrees w hw hclosed with hold | hended
  · exact hs.ended run (hs.held.numbered _ (Matched.mem_holders hold)) (hreleased w hold hclosed)
  · exact hended

theorem comes_run {p : Program signature α} {Q : α → Prop} (hs : s.Kept)
    (hp : p.Obeys Http.LeavesSessions (fun _ _ => True) Q) : s.Comes (s.server.run p).2 := by
  induction p generalizing s with
  | done a => exact .refl s
  | ask q next ih =>
    refine Comes.trans hs (Comes.step (.inr (.ask q hp.1)) rfl) fun s' hs' hserver _ => ?_
    have hrest := ih _ hs' (hp.2 (Server.answer q s.server).1 trivial)
    rw [hserver] at hrest
    exact hrest

theorem comes_release (hs : s.Kept) (hw : w ∈ s.server.sockets) : s.Comes (s.server.release w) := by
  unfold Server.release
  cases hopen : w.isOpen with
  | true => exact .refl s
  | false =>
    have hunregistered : s.Comes (s.server.command (.unregister w.session)).2 := by
      by_cases hlive : (s.server.hub.session? w.session).isSome
      · exact .step (.inl (.release hw hopen hlive)) rfl
      · have hnone : (s.server.hub.take s.server.tick (.unregister w.session)).2 = s.server.hub := by
          have hended : s.server.hub.session? w.session = none := by simpa using hlive
          cases hrunning : s.server.hub.running with
          | false => rw [Hub.take_of_stopped hrunning]
          | true => simp [Hub.take, hrunning, Hub.unregister_of_none hended]
        have hsame : (s.server.command (.unregister w.session)).2 = s.server := by
          change { s.server with hub := (s.server.hub.take s.server.tick (.unregister w.session)).2 } = s.server
          rw [hnone]
        rw [hsame]
        exact .refl s
    refine Comes.trans hs hunregistered fun s' hs' hserver _ => ?_
    have hw' : w ∈ s'.server.sockets := hserver ▸ hw
    have hleft : s'.Comes (s'.withHub (s'.server.hub.dropReader w.session)).server :=
      .step (.inr (.leave hw' hopen)) rfl
    rw [← hserver]
    exact hleft

/-! ## Requests -/

theorem works_turns {r : Http.Request} {came : Time.Instant} (p : Http.Answering Http.Outcome)
    (hvisits : s.visits = front ++ [⟨r, came, p⟩]) :
    ∃ s', s.Works s' ∧ s'.server = (s.server.run p).2 ∧
      s'.visits = front ++ [⟨r, came, .done (s.server.run p).1⟩] := by
  induction p generalizing s with
  | done outcome => exact ⟨s, .refl, rfl, hvisits⟩
  | ask q next ih =>
    obtain ⟨s', works, hserver, hvisits'⟩ := ih (Server.answer q s.server).1
      (s := { s.ask q with visits := front ++ [⟨r, came, next (Server.answer q s.server).1⟩] }) rfl
    exact ⟨s', .head (.turn hvisits rfl) works, hserver, hvisits'⟩

theorem Works.reaches (works : s.Works s') : s.Reaches s' :=
  Relation.ReflTransGen.mono (fun _ _ work => Or.inl work) _ _ works

theorem comes_serve (s : Traffic B) (fresh : String) (r : Http.Request) :
    s.Comes (s.server.serve fresh r).2 := by
  let arrived : Traffic B :=
    { s with visits := s.visits ++ [Visit.start s.server.configuration s.server.now fresh r] }
  have harrive : s.Step arrived := .inr (.arrive fresh r)
  obtain ⟨s', works, hserver, hvisits⟩ := works_turns (s := arrived)
    (Http.serve s.server.configuration s.server.now fresh r) rfl
  have hrun : s.Reaches s' := .head harrive works.reaches
  unfold Server.serve
  change s'.server = (s.server.run (Http.serve s.server.configuration s.server.now fresh r)).2 at hserver
  change s'.visits = s.visits ++
    [⟨r, _, .done (s.server.run (Http.serve s.server.configuration s.server.now fresh r)).1⟩] at hvisits
  rcases hserved : s.server.run (Http.serve s.server.configuration s.server.now fresh r) with ⟨outcome, behind⟩
  rw [hserved] at hserver hvisits
  obtain rfl : s'.server = behind := hserver
  cases outcome with
  | response x => exact ⟨_, hrun.tail (.inl (.respond hvisits rfl)), rfl, List.append_nil _⟩
  | upgraded session user => exact ⟨_, hrun.tail (.inl (.upgrade hvisits rfl)), rfl, List.append_nil _⟩

/-! ## Sockets -/

theorem comes_receive (hs : s.Kept) (session : SessionId) (m : Incoming) :
    s.Comes (s.server.receive session m) := by
  unfold Server.receive
  cases hfound : s.server.socket? session with
  | none => exact .refl s
  | some w =>
    have hw : w ∈ s.server.sockets := List.mem_of_find?_eq_some hfound
    have hcontinues := w.receive_continues s.server.configuration.socket s.server.now m
    have hreact : s.server.run (w.react s.server.configuration.socket s.server.now m) =
        ((w.receive s.server.configuration.socket s.server.now m).1,
          (s.server.run (w.performAll (w.receive s.server.configuration.socket s.server.now m).2)).2) :=
      Program.run_bind _ _ _ _
    simp only [hreact]
    generalize hw' : (w.receive s.server.configuration.socket s.server.now m).1 = w' at hcontinues ⊢
    generalize (w.receive s.server.configuration.socket s.server.now m).2 = effects
    have hheard : s.Comes (s.server.putSocket w') := by
      subst hw'
      exact .step (.inr (.hear hw m)) rfl
    refine Comes.trans hs hheard fun s₁ hs₁ hserver₁ _ => ?_
    have hran : s₁.Comes ((s.server.run (w.performAll effects)).2.putSocket w') := by
      have hasked := comes_run hs₁ (Http.performAll_leaves_sessions w effects)
      rw [hserver₁, Server.run_putSocket] at hasked
      exact hasked
    refine Comes.trans hs₁ hran fun s₂ hs₂ hserver₂ _ => ?_
    have hw₂ : w' ∈ s₂.server.sockets := by
      rw [hserver₂]
      refine (Server.mem_putSocket (s := (s.server.run (w.performAll effects)).2) (w := w) ?_
        hcontinues.session).mpr (.inl rfl)
      rw [Server.run_sockets]
      exact hw
    rw [← hserver₂]
    exact comes_release hs₂ hw₂

/-- What an operation does with one socket: steps lead there, the other sockets
stay, and if the socket stops, its session is ended. -/
structure Tends (f : Server B → Socket → Server B) : Prop where
  comes : ∀ {s : Traffic B} {w : Socket}, s.Kept → w ∈ s.server.sockets → s.Comes (f s.server w)
  others : ∀ {s : Traffic B} {w u : Socket}, s.Kept → w ∈ s.server.sockets → u ∈ s.server.sockets →
    u.session ≠ w.session → u ∈ (f s.server w).sockets
  frees : ∀ {s : Server B} {w : Socket}, s.hub.Sound → s.Frees (f s w)

theorem tends_beat : Tends (B := B) Server.beatSocket where
  comes := by
    intro s w hs hw
    have hcontinues := w.beat_continues s.server.configuration.socket s.server.now s.server.tick
    have hbeaten : s.Comes
        (s.server.putSocket (w.beat s.server.configuration.socket s.server.now s.server.tick)) :=
      .step (.inr (.beat hw)) rfl
    refine Comes.trans hs hbeaten fun s' hs' hserver _ => ?_
    unfold Server.beatSocket
    simp only
    rw [← hserver]
    refine comes_release hs' (hserver ▸ ?_)
    exact (Server.mem_putSocket hw hcontinues.session).mpr (.inl rfl)
  others := by
    intro s w u hs hw hu hne
    have hcontinues := w.beat_continues s.server.configuration.socket s.server.now s.server.tick
    unfold Server.beatSocket
    simp only
    rw [Server.release_sockets]
    exact (Server.mem_putSocket hw hcontinues.session).mpr (.inr ⟨hu, hne⟩)
  frees := by
    intro s w hs
    exact Server.frees_release hs fun u hu => Server.mem_of_putSocket hu

theorem read_of_nothing {h : Hub} {id : SessionId} (hnothing : h.waiting id = []) :
    h.read id = (if (h.session? id).isSome then .empty else .ended, h) := by
  unfold Hub.read
  split
  · next hq => simp [Hub.waiting, hq] at hnothing
  · rfl

theorem comes_end (hserver : s.server = server.putSocket w) (hw : w ∈ s.server.sockets)
    (hopen : w.isOpen = true) (hnothing : server.hub.waiting w.session = [])
    (hended : server.hub.session? w.session = none) : s.Comes (server.putSocket (w.deliver .ended)) := by
  have hhub : s.server.hub = server.hub := by
    rw [hserver]
    rfl
  have hread : s.server.hub.read w.session = (.ended, s.server.hub) := by
    rw [hhub, read_of_nothing hnothing, hended]
    rfl
  have htake : s.Comes ((s.withHub (s.server.hub.read w.session).2).putSocket
      (w.deliver (s.server.hub.read w.session).1)).server :=
    .step (.inl (.take hw hopen (by rw [hread]; exact nofun))) rfl
  rw [hread] at htake
  have hput : ((s.withHub s.server.hub).putSocket (w.deliver .ended)).server =
      server.putSocket (w.deliver .ended) := by
    change s.server.putSocket (w.deliver .ended) = _
    rw [hserver]
    exact Server.putSocket_putSocket rfl
  rw [← hput]
  exact htake

theorem comes_drain (hs : s.Kept) (hw : w ∈ s.server.sockets) : s.Comes (s.server.drain w) := by
  cases hopen : w.isOpen with
  | false =>
    have hsame : s.server.drain w = s.server := if_neg (by simp [hopen])
    rw [hsame]
    exact .refl s
  | true =>
    have hput : ∀ w' : Socket, w'.session = w.session → w' ∈ ((s.server.emptied w).putSocket w').sockets :=
      fun w' he => (Server.mem_putSocket (s := s.server.emptied w) hw he).mpr (.inl rfl)
    have htaken : s.Comes ((s.server.emptied w).putSocket (s.server.served w)) := by
      have hstep := Comes.step (.inr (.takeAll hw hopen)) rfl
      rw [Socket.deliverAll_eq] at hstep
      exact hstep
    cases hlive : s.server.hub.session? w.session with
    | some x =>
      rw [Server.drain_of_live hopen (by rw [hlive]; rfl)]
      exact htaken
    | none =>
      rw [Server.drain_of_ended hopen hlive]
      refine Comes.trans hs htaken fun s₁ hs₁ hserver₁ _ => ?_
      have hw₁ : s.server.served w ∈ s₁.server.sockets := hserver₁ ▸ hput (s.server.served w) rfl
      have hend := comes_end hserver₁ hw₁ hopen Server.emptied_nothing hlive
      refine Comes.trans hs₁ hend fun s₂ hs₂ hserver₂ _ => ?_
      have hw₂ : (s.server.served w).deliver .ended ∈ s₂.server.sockets :=
        hserver₂ ▸ hput ((s.server.served w).deliver .ended) rfl
      rw [← hserver₂]
      exact comes_release hs₂ hw₂

theorem tends_drain : Tends (B := B) Server.drain where
  comes := comes_drain
  others := by
    intro s w u hs hw hu hne
    have hput : ∀ w' : Socket, w'.session = w.session → u ∈ ((s.server.emptied w).putSocket w').sockets :=
      fun w' he => (Server.mem_putSocket (s := s.server.emptied w) hw he).mpr (.inr ⟨hu, hne⟩)
    cases hopen : w.isOpen with
    | false =>
      have hsame : s.server.drain w = s.server := if_neg (by simp [hopen])
      rw [hsame]
      exact hu
    | true =>
      cases hlive : s.server.hub.session? w.session with
      | some x =>
        rw [Server.drain_of_live hopen (by rw [hlive]; rfl)]
        exact hput (s.server.served w) rfl
      | none =>
        rw [Server.drain_of_ended hopen hlive, Server.release_sockets]
        exact hput ((s.server.served w).deliver .ended) rfl
  frees := by
    intro s w hs
    cases hopen : w.isOpen with
    | false =>
      have hsame : s.drain w = s := if_neg (by simp [hopen])
      rw [hsame]
      exact fun u hu _ => .inl hu
    | true =>
      cases hlive : s.hub.session? w.session with
      | some x =>
        intro u hu hclosed
        rw [Server.drain_of_live hopen (by rw [hlive]; rfl)] at hu
        rcases Server.mem_of_putSocket hu with rfl | hold
        · exact absurd (hopen.symm.trans hclosed) (by decide)
        · exact .inl hold
      | none =>
        rw [Server.drain_of_ended hopen hlive]
        have hsound : ((s.emptied w).putSocket ((s.served w).deliver .ended)).hub.Sound :=
          Server.emptied_sound hs
        exact Server.frees_release hsound fun u hu => Server.mem_of_putSocket hu

/-! ## Operations -/

/-- An operation leads to a server: by steps, and so that the sessions of
stopped sockets are ended behind it if they were before it. -/
structure Leads (s : Traffic B) (server : Server B) : Prop where
  comes : s.Comes server
  released : s.server.Released → server.Released

theorem Leads.refl (s : Traffic B) : s.Leads s.server := ⟨.refl s, fun hreleased => hreleased⟩

theorem Leads.trans (hs : s.Kept) (h : s.Leads server)
    (hthen : ∀ s' : Traffic B, s'.Kept → s'.server = server → s'.Leads server') : s.Leads server' := by
  obtain ⟨s', run, hserver, -⟩ := h.comes
  refine ⟨Comes.trans hs h.comes fun s₁ hs₁ hserver₁ _ => (hthen s₁ hs₁ hserver₁).comes, fun hreleased => ?_⟩
  exact (hthen s' (hs.reaches run) hserver).released (hserver ▸ h.released hreleased)

theorem Comes.leads (hs : s.Kept) (h : s.Comes server) (hfrees : s.server.Frees server) : s.Leads server :=
  ⟨h, fun hreleased => h.released hs hreleased hfrees⟩

theorem leads_foldl {f : Server B → Socket → Server B} (hf : Tends f) (hs : s.Kept) (ws : List Socket)
    (hws : ∀ w ∈ ws, w ∈ s.server.sockets) (distinct : (ws.map (·.session)).Nodup) :
    s.Leads (ws.foldl f s.server) := by
  induction ws generalizing s with
  | nil => exact .refl s
  | cons w ws ih =>
    obtain ⟨hw, hrest⟩ := List.forall_mem_cons.mp hws
    obtain ⟨hnew, hdistinct⟩ := List.nodup_cons.mp distinct
    have hfirst : s.Leads (f s.server w) := (hf.comes hs hw).leads hs (hf.frees hs.sound)
    refine Leads.trans hs hfirst fun s' hs' hserver => ?_
    rw [List.foldl_cons, ← hserver]
    refine ih hs' (fun u hu => ?_) hdistinct
    rw [hserver]
    refine hf.others hs hw (hrest u hu) fun he => hnew ?_
    exact List.mem_map.mpr ⟨u, hu, he⟩

theorem leads_settle (hs : s.Kept) : s.Leads s.server.settle :=
  leads_foldl tends_drain hs _ (fun _ hw => hw) hs.distinct

theorem leads_advance (hs : s.Kept) (by_ : Milliseconds) : s.Leads (s.server.advance by_) := by
  have hticked : s.Leads { s.server with tick := s.server.tick + by_ } :=
    (Comes.step (.inr (.elsewhere s.server.directory s.server.archive s.server.now s.server.recallTime _))
      rfl).leads hs fun u hu _ => .inl hu
  refine Leads.trans hs hticked fun s₁ hs₁ hserver₁ => ?_
  have hbeaten : s₁.Leads (s₁.server.sockets.foldl Server.beatSocket s₁.server) :=
    leads_foldl tends_beat hs₁ _ (fun _ hw => hw) hs₁.distinct
  refine Leads.trans hs₁ hbeaten fun s₂ hs₂ hserver₂ => ?_
  have hwoken : s₂.Leads { s₂.server with hub := s₂.server.hub.wake s₂.server.tick } :=
    (Comes.step (.inr .wake) rfl).leads hs₂ fun u hu _ => .inl hu
  refine Leads.trans hs₂ hwoken fun s₃ hs₃ hserver₃ => ?_
  have hadvance : s.server.advance by_ = s₃.server.settle := by
    rw [hserver₃, hserver₂, hserver₁]
    rfl
  rw [hadvance]
  exact leads_settle hs₃

theorem leads_serve (hs : s.Kept) (fresh : String) (r : Http.Request) : s.Leads (s.server.serve fresh r).2 := by
  refine (comes_serve s fresh r).leads hs fun w hw hclosed => .inl ?_
  have hran := Server.run_sockets (s := s.server) (Http.serve s.server.configuration s.server.now fresh r)
  unfold Server.serve at hw
  rcases hserved : s.server.run (Http.serve s.server.configuration s.server.now fresh r) with ⟨outcome, behind⟩
  rw [hserved] at hw hran
  have hsame : behind.sockets = s.server.sockets := hran
  cases outcome with
  | response x => exact hsame ▸ hw
  | upgraded session user =>
    rcases List.mem_append.mp hw with hold | hnew
    · exact hsame ▸ hold
    · rw [List.mem_singleton.mp hnew] at hclosed
      cases hclosed

theorem leads_receive (hs : s.Kept) (session : SessionId) (m : Incoming) :
    s.Leads (s.server.receive session m) := by
  refine (comes_receive hs session m).leads hs ?_
  unfold Server.receive
  cases hfound : s.server.socket? session with
  | none => exact fun u hu _ => .inl hu
  | some w =>
    have hsound : (s.server.run (w.react s.server.configuration.socket s.server.now m)).2.hub.Sound := by
      have hreact : (s.server.run (w.react s.server.configuration.socket s.server.now m)).2 =
          (s.server.run (w.performAll (w.receive s.server.configuration.socket s.server.now m).2)).2 :=
        congrArg Prod.snd (Program.run_bind _ _ _ _)
      obtain ⟨s', run, hserver, -⟩ :=
        comes_run hs (Http.performAll_leaves_sessions w (w.receive s.server.configuration.socket s.server.now m).2)
      rw [hreact, ← hserver]
      exact (hs.reaches run).sound
    refine Server.frees_release hsound fun u hu => ?_
    have hkept := Server.run_sockets (s := s.server) (w.react s.server.configuration.socket s.server.now m)
    exact (Server.mem_of_putSocket hu).imp_right fun hold => hkept ▸ hold

theorem leads_shutdown (hs : s.Kept) : s.Leads (s.server.command .shutdown).2 :=
  (Comes.step (.inr .shutdown) rfl).leads hs fun _ hu _ => .inl hu

end Traffic

/-- What is done with a server. -/
inductive Server.Operation where
  | serve (fresh : String) (r : Http.Request)
  | receive (session : SessionId) (m : Incoming)
  | advance (by_ : Milliseconds)
  | settle
  | shutdown

def Server.operate {B : Backend} (s : Server B) : Server.Operation → Server B
  | .serve fresh r => (s.serve fresh r).2
  | .receive session m => s.receive session m
  | .advance by_ => s.advance by_
  | .settle => s.settle
  | .shutdown => (s.command .shutdown).2

namespace Traffic

variable {B : Backend} {s : Traffic B}

/-- **Every operation is one step after another.** -/
theorem leads_operate (hs : s.Kept) (op : Server.Operation) : s.Leads (s.server.operate op) := by
  cases op with
  | serve fresh r => exact leads_serve hs fresh r
  | receive session m => exact leads_receive hs session m
  | advance by_ => exact leads_advance hs by_
  | settle => exact leads_settle hs
  | shutdown => exact leads_shutdown hs

theorem leads_operations (hs : s.Kept) (ops : List Server.Operation) :
    s.Leads (ops.foldl Server.operate s.server) := by
  induction ops generalizing s with
  | nil => exact .refl s
  | cons op ops ih =>
    refine Leads.trans hs (leads_operate hs op) fun s' hs' hserver => ?_
    rw [List.foldl_cons, ← hserver]
    exact ih hs'

end Traffic
end Parley
