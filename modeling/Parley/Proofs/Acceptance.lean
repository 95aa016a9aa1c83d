/-
Which accepted settings the service can work by.

The settings of an environment are accepted when the queues of the hub have
room and a client is pinged before its time is over. The hub, its reaper and
recalling rely on more than that, and each on something of its own: the hub
runs until it is told to stop when its reaper has an interval and its queues
can be made (`Hub.serves_iff`), a client that answers every ping is spared
when a session outlives a ping (`Clockwork.sparesPatient_iff`), and a recall in time
succeeds when its window can be compared with a time
(`Messaging.recall_succeeds_iff`).
-/
import Parley.Proofs.Clockwork.Calm
import Parley.Proofs.Hub.Presence
import Parley.Proofs.Retirement

namespace Parley

open Time (Instant)

/-! ## The hub -/

namespace Hub

variable {h : Hub} {settings : HubSettings}

theorem running_take {c : Command} (hc : c ≠ .shutdown) (now : Tick) : (h.take now c).2.running = h.running := by
  cases hrunning : h.running with
  | false => rw [take_of_stopped hrunning, hrunning]
  | true =>
    simp only [take, hrunning, if_true]
    have ended (h : Hub) (id : SessionId) : (h.unregister id).running = h.running :=
      congrArg (·.2.2) core_unregister
    cases c with
    | register user callerGone =>
      cases callerGone with
      | true => exact (ended _ _).trans hrunning
      | false => exact hrunning
    | unregister id => exact (ended h id).trans hrunning
    | offer user frame => exact (congrArg (·.2.2) core_offer).trans hrunning
    | touch | isOnline | stats => exact hrunning
    | shutdown => exact absurd rfl hc

theorem running_happen_eq {x : Happening} (hx : ∀ now, x ≠ .command now .shutdown) :
    (h.happen x).running = h.running := by
  cases x with
  | command now c => exact running_take (fun hc => hx now (hc ▸ rfl)) now
  | reaping now next => exact congrArg (·.2.2) (core_unregisterAll (h := h) _)
  | reading id =>
    change (h.read id).2.running = h.running
    unfold read
    split <;> rfl
  | readingAll | readerGone => rfl

theorem running_after_eq {history : List Happening} (hno : ∀ now, .command now .shutdown ∉ history) :
    (h.after history).running = h.running := by
  induction history generalizing h with
  | nil => rfl
  | cons x history ih =>
    have hx (now : Tick) : x ≠ .command now .shutdown := fun he => hno now (he ▸ List.mem_cons_self)
    exact (ih fun now hmem => hno now (List.mem_cons_of_mem x hmem)).trans (running_happen_eq hx)

/-- Until it is told to stop, a hub runs and opens a session for everyone who asks. -/
def Serves (settings : HubSettings) : Prop :=
  ∀ (started : Tick) (history : List Happening), (∀ now, .command now .shutdown ∉ history) →
    ∀ (user : UserId) (now : Tick), let h := (start settings started).after history
      h.running = true ∧ ∃ id, (h.open? user now).1 = .ok id

/-- **A hub serves as long as it should if its reaper has an interval and its queues can
be made**, and otherwise it does not even serve the first who asks. -/
theorem serves_iff : Serves settings ↔ 0 < settings.reapInterval ∧ settings.outboundQueue ≤ greatestQueue := by
  constructor
  · intro serves
    exact running_start_iff.mp (serves 0 [] (fun _ => List.not_mem_nil) 0 0).1
  · intro hbounds started history hno user now h
    have hrunning : h.running = true := (running_after_eq hno).trans (running_start_iff.mpr hbounds)
    refine ⟨hrunning, h.nextId, ?_⟩
    rw [open?_eq, if_pos hrunning]

end Hub

/-! ## The reaper -/

namespace Clockwork

variable {hub : HubSettings} {socket : SocketSettings} {origin : Instant} {c : Clockwork}

/-- A client that has answered every ping at once never loses its session to the reaper. -/
def SparesPatient (hub : HubSettings) (socket : SocketSettings) : Prop :=
  ∀ (origin : Instant) (c : Clockwork), Reachable hub socket origin c →
    ∀ w ∈ c.sockets, w.session ∉ c.late → (c.hub.wake c.time).session? w.session = c.hub.session? w.session

theorem sparesPatient_of_le (h : socket.pingInterval ≤ hub.staleAfter) : SparesPatient hub socket := by
  intro origin c reached w hw hpatient
  have sound := reached.sound
  refine sound.session_kept fun hlive => ?_
  have htouched := (sound.timely w hw).touched_within hlive hpatient
  rw [sound.kept.settings] at htouched
  exact Nat.le_trans htouched (Nat.add_le_add_left h _)

theorem stopped_act (hstopped : c.hub.running = false) (a : Act) : (c.act a).hub.running = false := by
  cases hquiet : a.isQuiet with
  | true =>
    obtain ⟨queues, hhub⟩ := (quiet_act c a hquiet).hub
    rw [hhub]
    exact hstopped
  | false =>
    cases a with
    | take =>
      simp only [act]
      split
      · exact Hub.running_happen hstopped (.command _ _)
      · exact hstopped
    | reap =>
      simp only [act]
      rcases Hub.wake_cases (h := c.hub) with hsame | ⟨next, hreaped⟩
      · rw [hsame]
        exact hstopped
      · rw [hreaped]
        exact Hub.running_happen hstopped _
    | pass => exact hstopped
    | _ => cases hquiet

theorem Reachable.stopped (reached : Reachable hub socket origin c) (hstopped : (Hub.start hub 0).running = false) :
    c.hub.running = false := by
  induction reached with
  | start => exact hstopped
  | step _ a _ ih => exact stopped_act ih a

/-- **A client that answers every ping at once is spared by the reaper if a session outlives
a ping**, unless the hub never had a session. -/
theorem sparesPatient_iff : SparesPatient hub socket ↔
    (0 < hub.reapInterval ∧ hub.outboundQueue ≤ Hub.greatestQueue → socket.pingInterval ≤ hub.staleAfter) := by
  constructor
  · intro spares hbounds
    by_contra hstale
    obtain ⟨c, reached, w, hw, hpatient, hreaped⟩ :=
      reaped_between_pings ⟨0, 0⟩ (Hub.running_start_iff.mpr hbounds) (Nat.lt_of_not_le hstale)
    exact hreaped (spares ⟨0, 0⟩ c reached w hw hpatient)
  · intro h
    by_cases hbounds : 0 < hub.reapInterval ∧ hub.outboundQueue ≤ Hub.greatestQueue
    · exact sparesPatient_of_le (h hbounds)
    · intro origin c reached w hw hpatient
      have hstopped := reached.stopped (Bool.eq_false_iff.mpr fun hrunning =>
        hbounds (Hub.running_start_iff.mp hrunning))
      refine reached.sound.session_kept fun hlive => ?_
      rw [reached.sound.kept.sound.closed hstopped] at hlive
      cases hlive

end Clockwork

/-! ## Recalling -/

namespace Messaging

variable {settings : MessageSettings} {s : Server Backend.memory} {m : Message}

theorem run_recallCheck_beyond (beyond : greatestWindow < settings.recallWindow)
    (hstatus : m.status = .sent ∨ m.status = .delivered ∨ m.status = .read) :
    s.run (recallCheck settings m.sender m).run =
      (.error (.configuration "recall window out of range"), s) := by
  have hcheck : checkRecall settings.recallWindow m.sender m =
      .error (.configuration "recall window out of range") := by
    rcases hstatus with h | h | h <;> simp [checkRecall, h, beyond]
  rw [recallCheck, hcheck]
  rfl

/-- **A recall in time by the sender succeeds if the window can be compared with a time.** -/
theorem recall_succeeds_iff (h : s.store.Sound) (hm : m ∈ s.store.messages)
    (hstatus : m.status = .sent ∨ m.status = .delivered ∨ m.status = .read)
    (htime : s.recallTime.since m.createdAt ≤ (settings.recallWindow : Int) * 1000000) :
    (∃ a, (s.run (recallMessage settings m.sender m.id).run).1 = .ok a) ↔
      settings.recallWindow ≤ greatestWindow := by
  have hfound : s.run (existing m.id).run = (.ok m, s.asked) := by
    rw [run_existing, h.message?_eq hm]
    rfl
  rw [recallMessage, Server.run_bind_ok hfound]
  constructor
  · rintro ⟨a, ha⟩
    by_contra hbeyond
    have hcheck := run_recallCheck_beyond (s := s.asked) (Nat.lt_of_not_le hbeyond) hstatus
    have hretire : s.asked.run (retireChecked (recallCheck settings m.sender) .recalled lifecycleAttempts m).run =
        (.error (.configuration "recall window out of range"), s.asked) := by
      rw [lifecycleAttempts, retireChecked, Server.run_bind_error hcheck]
    rw [Server.run_bind_error hretire] at ha
    cases ha
  · intro fits
    have hfaults : m.recallFaults settings.recallWindow m.sender s.recallTime = [] :=
      Message.recallFaults_eq_nil.mpr ⟨rfl, hstatus, htime⟩
    have hretire : s.asked.run (retireChecked (recallCheck settings m.sender) .recalled lifecycleAttempts m).run =
        _ := run_retireChecked (s := s.asked) h hm (run_recallCheck fits m.sender m _) 2
    rw [show s.asked.recallTime = s.recallTime from rfl, hfaults] at hretire
    have htold := run_notify { s.asked.asked with archive := s.store.retired m .recalled s.asked.now } m .recalled
      s.asked.now m.sender (show News.recalled ≠ .stored by decide)
    rw [Server.run_bind_ok hretire]
    exact ⟨_, congrArg Prod.fst (Server.run_bind_ok htold _)⟩

end Messaging

/-! ## Accepted settings -/

namespace Settings

variable {env : Environment} {s : Settings}

theorem checked_of_accepted (h : ofEnvironment env = .ok s) :
    1 ≤ s.hub.outboundQueue ∧ s.socket.pingInterval < s.socket.clientTimeout := by
  unfold ofEnvironment at h
  split at h
  · cases h
  split at h
  · cases h
  simp only at h
  split at h
  · cases h
  next hqueue =>
  split at h
  · cases h
  next hping =>
  cases h
  exact ⟨Nat.pos_of_ne_zero hqueue, Nat.lt_of_not_le hping⟩

/-- **Accepted settings work within bounds that are not all checked.** Queues have room
and pings come before the client's time is over. Beyond that, the hub serves everyone until
it is told to stop just if its reaper has an interval and its queues can be made; a client
that answers every ping at once is never reaped just if a session outlives a ping, or there is
none; and however the calls before took turns, a sender's recall in time succeeds just if the
window can be compared with a time. -/
theorem accepted_settings_work_within_bounds (h : ofEnvironment env = .ok s) :
    1 ≤ s.hub.outboundQueue ∧ s.socket.pingInterval < s.socket.clientTimeout ∧
    (Hub.Serves s.hub ↔ 0 < s.hub.reapInterval ∧ s.hub.outboundQueue ≤ Hub.greatestQueue) ∧
    (Clockwork.SparesPatient s.hub s.socket ↔
      (0 < s.hub.reapInterval ∧ s.hub.outboundQueue ≤ Hub.greatestQueue →
        s.socket.pingInterval ≤ s.hub.staleAfter)) ∧
    ∀ (calls : List Call) (server : Server Backend.memory) (t : List Event) (system : System),
      server.store = .empty → System.Run Server.StoreKept (System.start s.message calls server) t system →
      ∀ m ∈ system.store.messages, (m.status = .sent ∨ m.status = .delivered ∨ m.status = .read) →
        system.server.recallTime.since m.createdAt ≤ (s.message.recallWindow : Int) * 1000000 →
        ((∃ a, (system.server.run (Messaging.recallMessage s.message m.sender m.id).run).1 = .ok a) ↔
          s.message.recallWindow ≤ Messaging.greatestWindow) := by
  obtain ⟨hqueue, hping⟩ := checked_of_accepted h
  exact ⟨hqueue, hping, Hub.serves_iff, Clockwork.sparesPatient_iff, fun _ _ _ _ fresh run _ hm hstatus htime =>
    Messaging.recall_succeeds_iff (run.sound fresh) hm hstatus htime⟩

/-- An environment with a secret and one more variable. -/
def secretAnd (name value : String) : Environment :=
  .ofList [("JWT_SECRET", "0123456789abcdef0123"), (name, value)]

/-- Settings of which no more is named in the environment. -/
def ofParts (message : MessageSettings) (hub : HubSettings) : Settings :=
  { message := message
    hub := hub
    secret := "0123456789abcdef0123"
    listenPort := 8005
    databaseUrl := none
    friendService := "http://friend-service:8080"
    userService := "http://user-service:8080" }

/-- A message is sent, and then the clock of recalls stands at two minutes. -/
def sentBefore (settings : MessageSettings) : System :=
  .start settings [.send ⟨1, 2, 1, "one", none⟩] { Server.fresh [] with recallTime := ⟨120, 0⟩ }

/-- The settings that are taken when none is named work; a message is recalled in the last
moment. -/
theorem default_settings_work : ofEnvironment (secretAnd "PORT" "8005") = .ok (ofParts {} {}) ∧
    Hub.Serves {} ∧ Clockwork.SparesPatient {} {} ∧
    ∃ t, System.Run Server.StoreKept (sentBefore {}) t ((sentBefore {}).play [0, 0, 0]) ∧
      ∃ a, (((sentBefore {}).play [0, 0, 0]).server.run (Messaging.recallMessage {} 1 1).run).1 = .ok a := by
  have accepted : ofEnvironment (secretAnd "PORT" "8005") = .ok (ofParts {} {}) := by decide +kernel
  obtain ⟨-, -, serves, spares, recalls⟩ := accepted_settings_work_within_bounds accepted
  obtain ⟨t, run⟩ : ∃ t, System.Run Server.StoreKept (sentBefore {}) t ((sentBefore {}).play [0, 0, 0]) :=
    System.Run.play .nil _
  have hsent : ∃ m ∈ ((sentBefore {}).play [0, 0, 0]).store.messages, m.sender = 1 ∧ m.id = 1 ∧ m.status = .sent ∧
      (⟨120, 0⟩ : Instant).since m.createdAt = 120000000000 := by decide +kernel
  obtain ⟨m, hm, hsender, hid, hstatus, hage⟩ := hsent
  have recalled := (recalls _ _ t _ rfl run m hm (.inl hstatus) (Int.le_of_eq hage)).mpr (by decide)
  rw [hsender, hid] at recalled
  exact ⟨accepted, serves.mpr (by decide), spares.mpr fun _ => by decide, t, run, recalled⟩

/-- **Settings are accepted with which the service does not work**: without an interval for
the reaper, the hub does not open the first session; with a session that does not outlive a
ping, a client can lose it that answers every ping; and with a window that cannot be compared
with a time, a message is not recalled that is two minutes old. -/
theorem accepted_but_not_working :
    (ofEnvironment (secretAnd "HUB_REAP_INTERVAL_SECS" "0") = .ok (ofParts {} { reapInterval := 0 }) ∧
      ((Hub.start { reapInterval := 0 } 0).open? 1 0).1 = .error (.unavailable "connection hub stopped")) ∧
    (ofEnvironment (secretAnd "HUB_STALE_AFTER_SECS" "10") = .ok (ofParts {} { staleAfter := 10000 }) ∧
      ¬Clockwork.SparesPatient { staleAfter := 10000 } {}) ∧
    ∃ window, ofEnvironment (secretAnd "MESSAGE_RECALL_WINDOW_SECS" "18446744073709551615") =
        .ok (ofParts { recallWindow := window } {}) ∧
      ((((sentBefore { recallWindow := window }).play [0, 0, 0]).server.run
        (Messaging.recallMessage { recallWindow := window } 1 1).run).1 =
          .error (.configuration "recall window out of range")) := by
  refine ⟨⟨by decide +kernel, by decide⟩, ⟨by decide +kernel, fun spares => ?_⟩,
    18446744073709551615000, by decide +kernel, by decide +kernel⟩
  exact absurd (Clockwork.sparesPatient_iff.mp spares (by decide)) (by decide)

end Settings
end Parley
