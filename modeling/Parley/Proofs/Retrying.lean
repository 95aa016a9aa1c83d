/-
Storing again after a conflict.

The outcomes of storing a draft again and again (`Messaging.outcomes`) decide how often
a send stores it: once more for each conflict that stands in front, and three times at
most (`Messaging.send_tried`). Before a database each of these is an attempt of its own,
of which only the last can be committed.
-/
import Parley.Proofs.Database.Attempt
import Parley.Proofs.Sending

namespace Parley

namespace Messaging

open Surroundings (Ask signature)
open Program (Answered)

/-! ## How often a draft is stored -/

/-- An attempt to store a draft. -/
def attempt (draft : Draft) (outcome : Except Failure Message) : Exchange :=
  ⟨.archive (.store draft), outcome⟩

/-- Whether storing lost against other work. -/
def conflicted : Except Failure Message → Bool
  | .error (.transactionConflict _) => true
  | _ => false

theorem exists_of_conflicted {r : Except Failure Message} (h : conflicted r = true) :
    ∃ text, r = .error (.transactionConflict text) := by
  unfold conflicted at h
  split at h
  · next text => exact ⟨text, rfl⟩
  · cases h

theorem conflicted_error (f : Failure) : conflicted (.error f) = f.retryable := by cases f <;> rfl

theorem failedStores_eq (draft : Draft) (fs : List Failure) :
    failedStores draft fs = (fs.map Except.error).map (attempt draft) := by
  rw [List.map_map]
  rfl

/-- A send ends as its last attempt to store. A message that was stored is delivered. -/
def EndsAs (delivery : List Exchange) (result : Except Failure Message) : Except Failure Message → Prop
  | .error f => delivery = [] ∧ result = .error f
  | .ok m => ∃ m', Delivery m delivery m' ∧ result = .ok m'

/-- How a send that is allowed goes when storing its draft has these outcomes, one
after the other. -/
structure Tried (draft : Draft) (outcomes front : List (Except Failure Message))
    (last : Except Failure Message) (delivery log : List Exchange) (result : Except Failure Message) :
    Prop where
  /-- Storing is tried once more for each conflict in front, three times at most. -/
  tries : front ++ [last] = outcomes.take (min 3 (1 + (outcomes.takeWhile conflicted).length))
  count : (front ++ [last]).length = min 3 (1 + (outcomes.takeWhile conflicted).length)
  conflicts : ∀ r ∈ front, conflicted r = true
  /-- Every attempt is to store the same draft, and nothing is asked between two. -/
  asked : log = ⟨.areFriends draft.sender draft.recipient, .ok true⟩ ::
    ((front ++ [last]).map (attempt draft) ++ delivery)
  ended : EndsAs delivery result last

theorem tried_of_ends (draft : Draft) (last : Except Failure Message) {conflicts : List Failure}
    {delivery : List Exchange} {result : Except Failure Message} (few : conflicts.length < storeAttempts)
    (again : ∀ f ∈ conflicts, f.retryable = true)
    (ends : conflicted last = true → conflicts.length + 1 = storeAttempts)
    (ended : EndsAs delivery result last) (rest : List (Except Failure Message)) :
    Tried draft (conflicts.map Except.error ++ last :: rest) (conflicts.map Except.error) last delivery
      (⟨.areFriends draft.sender draft.recipient, .ok true⟩ ::
        (failedStores draft conflicts ++ [attempt draft last] ++ delivery)) result := by
  have hfront : ∀ r ∈ conflicts.map Except.error, conflicted r = true := by
    intro r hr
    obtain ⟨f, hf, rfl⟩ := List.mem_map.mp hr
    exact (conflicted_error f).trans (again f hf)
  have htries : min 3 (1 + ((conflicts.map Except.error ++ last :: rest).takeWhile conflicted).length) =
      (conflicts.map Except.error ++ [last]).length := by
    unfold storeAttempts at few ends
    rw [List.takeWhile_append_of_pos hfront]
    cases hlast : conflicted last with
    | false =>
      rw [List.takeWhile_cons_of_neg (by simp [hlast])]
      simp only [List.length_append, List.length_map, List.length_cons, List.length_nil]
      omega
    | true =>
      have := ends hlast
      simp only [List.length_append, List.length_map, List.length_cons, List.length_nil]
      omega
  constructor
  case tries =>
    rw [htries, List.append_cons _ last rest]
    exact List.take_left.symm
  case count => exact htries.symm
  case conflicts => exact hfront
  case asked => rw [failedStores_eq, List.map_append]; rfl
  case ended => exact ended

/-- The outcomes of storing a draft again and again. -/
def outcomes {σ : Type} (h : Program.Handler signature σ) (draft : Draft) :
    Nat → σ → List (Except Failure Message)
  | 0, _ => []
  | n + 1, s => (h (.archive (.store draft)) s).1 :: outcomes h draft n (h (.archive (.store draft)) s).2

variable {σ : Type} {h : Program.Handler signature σ} {s s' : σ} {draft : Draft}

theorem outcomes_of_answered {rs : List (Except Failure Message)}
    (answered : Answered h s (rs.map (attempt draft)) s') (n : Nat) :
    outcomes h draft (rs.length + n) s = rs ++ outcomes h draft n s' := by
  induction rs generalizing s with
  | nil => rw [answered.eq_of_nil, List.length_nil, Nat.zero_add, List.nil_append]
  | cons r rs ih =>
    obtain ⟨hr, hrest⟩ := answered.head
    rw [List.length_cons, Nat.add_right_comm]
    exact congrArg₂ List.cons hr (ih hrest)

/-- **Whoever answers, a send that is allowed stores its draft once more for each
conflict in front, three times at most, and ends as the last attempt.** -/
theorem send_tried {settings : MessageSettings} {request : SendRequest}
    (hcheck : request.check settings = .ok draft)
    (hfriends : (h (.areFriends draft.sender draft.recipient) s).1 = .ok true) {n : Nat} (hn : 3 ≤ n) :
    ∃ front last delivery, Tried draft
      (outcomes h draft n (h (.areFriends draft.sender draft.recipient) s).2) front last delivery
      ((send settings request).run.exchanges h s) ((send settings request).run.run h s).1 := by
  have hcourse := send_course (Program.dialogue_run h (send settings request).run s)
  have hanswered := Program.answered_run h (send settings request).run s
  generalize (send settings request).run.exchanges h s = log at hcourse hanswered
  generalize ((send settings request).run.run h s).1 = result at hcourse
  generalize ((send settings request).run.run h s).2 = s' at hanswered
  have houtcomes : ∀ {s s' : σ} {conflicts : List Failure} {last : Except Failure Message} {delivery},
      Answered h s (failedStores draft conflicts ++ [attempt draft last] ++ delivery) s' →
      conflicts.length < storeAttempts → ∃ rest, outcomes h draft n s = conflicts.map Except.error ++ last :: rest := by
    intro s s' conflicts last delivery hanswered few
    have hlength : n = (conflicts.map Except.error ++ [last]).length + (n - (conflicts.length + 1)) := by
      unfold storeAttempts at few
      simp only [List.length_append, List.length_map, List.length_singleton]
      omega
    rw [failedStores_eq, ← List.map_singleton (f := attempt draft), ← List.map_append] at hanswered
    obtain ⟨between, hfirst, -⟩ := hanswered.append
    rw [hlength, outcomes_of_answered hfirst, ← List.append_cons]
    exact ⟨_, rfl⟩
  cases hcourse with
  | refused hrefused => cases hcheck.symm.trans hrefused
  | unasked hpassed =>
    cases hcheck.symm.trans hpassed
    cases hfriends.symm.trans hanswered.head.1
  | strangers hpassed =>
    cases hcheck.symm.trans hpassed
    cases hfriends.symm.trans hanswered.head.1
  | @unstored _ conflicts f hpassed few again ends =>
    cases hcheck.symm.trans hpassed
    obtain ⟨-, hlog⟩ := hanswered.head
    rw [← List.append_nil (failedStores draft conflicts ++ _)] at hlog
    obtain ⟨rest, hrest⟩ := houtcomes hlog few
    have hended : EndsAs [] (.error f) (.error f) := ⟨rfl, rfl⟩
    have htried := tried_of_ends draft (.error f) few again (fun hc => ends (conflicted_error f ▸ hc)) hended rest
    rw [List.append_nil] at htried
    rw [hrest]
    exact ⟨_, _, [], htried⟩
  | @stored _ conflicts m m' delivery hpassed few again delivered =>
    cases hcheck.symm.trans hpassed
    obtain ⟨rest, hrest⟩ := houtcomes hanswered.head.2 few
    have hended : EndsAs delivery (.ok m') (.ok m) := ⟨m', delivered, rfl⟩
    have htried := tried_of_ends draft (.ok m) few again (fun hc => nomatch hc) hended rest
    rw [hrest]
    exact ⟨_, _, delivery, htried⟩

end Messaging

namespace Database

open Messaging (attempt conflicted outcomes Tried)
open Program (Answered)

/-! ## Before a database -/

variable {τ : Type} (H : Program.Handler signature τ)

/-- The attempts to store a draft again and again: what the database is asked in each,
and what comes of it. -/
def attempts (d : Draft) : Nat → τ → List (List Exchange × Except Failure Message)
  | 0, _ => []
  | n + 1, t =>
    ((Script.store d).run.exchanges H t, ((Script.store d).run.run H t).1) ::
      attempts d n ((Script.store d).run.run H t).2

/-- What the database is asked while the service asks and is answered so. -/
def asked : List Messaging.Exchange → Server (Backend.database H) → List Exchange
  | [], _ => []
  | e :: l, s =>
    (match e.1 with
      | .archive q => (Script.ofAsk q).run.exchanges H s.archive
      | _ => []) ++ asked l (Server.answer e.1 s).2

variable {H} {d : Draft} {s s' : Server (Backend.database H)}

theorem whole_of_mem_attempts {n : Nat} {t : τ} {a : List Exchange × Except Failure Message}
    (h : a ∈ attempts H d n t) : Whole d a.1 a.2 := by
  induction n generalizing t with
  | zero => exact absurd h List.not_mem_nil
  | succ n ih =>
    rcases List.mem_cons.mp h with rfl | h
    · exact whole_of_dialogue (Program.dialogue_run H _ t)
    · exact ih h

theorem map_snd_attempts (n : Nat) :
    (attempts H d n s.archive).map Prod.snd = outcomes Server.answer d n s := by
  induction n generalizing s with
  | zero => rfl
  | succ n ih => exact congrArg (List.cons _) (ih (s := (Server.answer (.archive (.store d)) s).2))

theorem asked_append {l₁ l₂ : List Messaging.Exchange} (answered : Answered Server.answer s l₁ s') :
    asked H (l₁ ++ l₂) s = asked H l₁ s ++ asked H l₂ s' := by
  induction l₁ generalizing s with
  | nil => rw [answered.eq_of_nil]; rfl
  | cons e l₁ ih =>
    obtain ⟨-, hrest⟩ := answered.head
    simp only [List.cons_append, asked, ih hrest, List.append_assoc]

theorem asked_attempts {rs : List (Except Failure Message)}
    (answered : Answered Server.answer s (rs.map (attempt d)) s') {n : Nat} :
    asked H (rs.map (attempt d)) s =
      (((attempts H d (rs.length + n) s.archive).take rs.length).map Prod.fst).flatten := by
  induction rs generalizing s with
  | nil => rfl
  | cons r rs ih =>
    obtain ⟨-, hrest⟩ := answered.head
    rw [List.length_cons, Nat.add_right_comm]
    exact congrArg (_ ++ ·) (ih hrest)

/-- How a send that is allowed goes before a database that would answer the attempts to
store its draft so, one after the other. -/
structure Reran (draft : Draft) (all front : List (List Exchange × Except Failure Message))
    (last : List Exchange × Except Failure Message) (behind log : List Exchange)
    (result : Except Failure Message) : Prop where
  /-- There is one attempt more for each conflict in front, three at most. -/
  tries : front ++ [last] = all.take (min 3 (1 + (all.takeWhile fun a => conflicted a.2).length))
  count : (front ++ [last]).length = min 3 (1 + (all.takeWhile fun a => conflicted a.2).length)
  /-- Each of them sends the statements of the draft in a transaction of its own. -/
  whole : ∀ a ∈ front ++ [last], Whole draft a.1 a.2
  /-- What stands in front of an attempt ended in a conflict and was not committed. -/
  conflicts : ∀ a ∈ front, (∃ text, a.2 = .error (.transactionConflict text)) ∧ ⟨.commit, .ok ()⟩ ∉ a.1
  /-- Nothing else is asked but, behind the attempts, to note that the message arrived. -/
  asked : log = ((front ++ [last]).map Prod.fst).flatten ++ behind
  /-- Any other failure ends the send at once. -/
  fatal : ∀ a ∈ front ++ [last], ∀ f, a.2 = .error f → (∀ text, f ≠ .transactionConflict text) →
    a = last ∧ result = .error f ∧ f.retryable = false ∧ behind = []
  /-- The send fails as the last attempt. -/
  failed : ∀ f, last.2 = .error f → result = .error f ∧ behind = []
  /-- The message that the last attempt stored is answered, as one that arrived when
  that was noted. -/
  stored : ∀ m, last.2 = .ok m → (result = .ok m ∨ result = .ok { m with status := .delivered }) ∧
    sent behind <+: [.transition m.id .sent .delivered]

theorem sent_transition {id : Int} {old new : Status} {l : List Exchange} {r : Except Failure Bool}
    (h : (Script.transition id old new).run.Dialogue l r) : sent l <+: [.transition id old new] := by
  obtain ⟨connected, l, hconnected, rfl⟩ := Program.dialogue_ask h
  cases connected with
  | error f =>
    obtain ⟨rfl, -⟩ := Program.dialogue_done hconnected
    exact List.nil_prefix
  | ok =>
    obtain ⟨moved, l, hmoved, rfl⟩ := Program.dialogue_ask hconnected
    have hend : l = [] := by
      cases moved <;> exact (Program.dialogue_done hmoved).1
    rw [hend]
    exact List.prefix_rfl

theorem sent_delivery {m m' : Message} {l : List Messaging.Exchange} (h : Messaging.Delivery m l m') :
    (m' = m ∨ m' = { m with status := .delivered }) ∧
      sent (asked H l s) <+: [.transition m.id .sent .delivered] := by
  have hnote : ∀ (s : Server (Backend.database H)) r, sent (asked H
      [⟨.offer m.recipient m.newFrame, true⟩, ⟨.archive (.transition m.id .sent .delivered), r⟩] s) <+:
        [.transition m.id .sent .delivered] := by
    intro s r
    have hasked : asked H [⟨.offer m.recipient m.newFrame, true⟩,
        ⟨.archive (.transition m.id .sent .delivered), r⟩] s =
        (Script.transition m.id .sent .delivered).run.exchanges H s.archive := List.append_nil _
    rw [hasked]
    exact sent_transition (Program.dialogue_run H _ _)
  cases h with
  | unheard => exact ⟨.inl rfl, List.nil_prefix⟩
  | noted => exact ⟨.inr rfl, hnote s _⟩
  | unnoted _ => exact ⟨.inl rfl, hnote s _⟩

theorem send_reran {settings : MessageSettings} {request : SendRequest} {draft : Draft}
    (hcheck : request.check settings = .ok draft)
    (hfriends : s.directory.areFriends draft.sender draft.recipient = .ok true) {n : Nat} (hn : 3 ≤ n) :
    ∃ front last behind, Reran draft (attempts H draft n s.archive) front last behind
      (asked H ((Messaging.send settings request).run.exchanges Server.answer s) s)
      (s.run (Messaging.send settings request).run).1 := by
  obtain ⟨front, last, delivery, htried⟩ := Messaging.send_tried (h := Server.answer) (s := s) hcheck hfriends hn
  have hanswered := Program.answered_run Server.answer (Messaging.send settings request).run s
  rw [htried.asked] at hanswered
  obtain ⟨between, hattempts, -⟩ := hanswered.head.2.append
  have houtcomes : (attempts H draft n s.archive).map Prod.snd = outcomes Server.answer draft n s :=
    map_snd_attempts n
  have htries := htried.tries
  have hcount := htried.count
  simp only [Server.answer, ← houtcomes, ← List.map_take, List.takeWhile_map, List.length_map] at htries hcount
  obtain ⟨made, lastMade, hmade, hfront, hlast⟩ := List.map_eq_append_iff.mp htries.symm
  obtain ⟨last', rfl, rfl⟩ := List.map_eq_singleton_iff.mp hlast
  subst hfront
  have hlength : (made ++ [last']).length = (made.map Prod.snd ++ [last'.2]).length := by simp
  have hwhole : ∀ a ∈ made ++ [last'], Whole draft a.1 a.2 := by
    intro a ha
    rw [← hmade] at ha
    exact whole_of_mem_attempts (List.mem_of_mem_take ha)
  have hconflicts : ∀ a ∈ made, (∃ text, a.2 = .error (.transactionConflict text)) ∧ ⟨.commit, .ok ()⟩ ∉ a.1 := by
    intro a ha
    obtain ⟨text, ht⟩ := Messaging.exists_of_conflicted (htried.conflicts _ (List.mem_map_of_mem ha))
    exact ⟨⟨text, ht⟩, (hwhole a (List.mem_append_left _ ha)).not_committed ht⟩
  have hfailed : ∀ f, last'.2 = .error f →
      (s.run (Messaging.send settings request).run).1 = .error f ∧ asked H delivery between = [] := by
    intro f hf
    have hended := htried.ended
    rw [hf] at hended
    obtain ⟨rfl, hresult⟩ := hended
    exact ⟨hresult, rfl⟩
  refine ⟨made, last', asked H delivery between, ?_⟩
  constructor
  case tries => exact hmade.symm
  case count => exact hlength.trans hcount
  case whole => exact hwhole
  case conflicts => exact hconflicts
  case asked =>
    have hdivided : (attempts H draft n s.archive).take (made.map Prod.snd ++ [last'.2]).length = made ++ [last'] := by
      rw [hcount, hmade]
    have hrest : (made.map Prod.snd ++ [last'.2]).length + (n - (made.map Prod.snd ++ [last'.2]).length) = n := by
      omega
    have hasked := asked_attempts (H := H) hattempts (n := n - (made.map Prod.snd ++ [last'.2]).length)
    rw [hrest] at hasked
    rw [htried.asked]
    refine (asked_append hattempts).trans (congrArg (· ++ _) (hasked.trans ?_))
    exact congrArg (fun l => (l.map Prod.fst).flatten) hdivided
  case fatal =>
    intro a ha f hf hother
    have hlast : a = last' := by
      rcases List.mem_append.mp ha with ha | ha
      · obtain ⟨⟨text, ht⟩, -⟩ := hconflicts a ha
        cases hf.symm.trans ht
        exact absurd rfl (hother text)
      · exact List.mem_singleton.mp ha
    subst hlast
    refine ⟨rfl, (hfailed f hf).1, ?_, (hfailed f hf).2⟩
    cases f with
    | transactionConflict text => exact absurd rfl (hother text)
    | _ => rfl
  case failed => exact hfailed
  case stored =>
    intro m hm
    have hended := htried.ended
    rw [hm] at hended
    obtain ⟨m', hdelivery, hresult⟩ := hended
    obtain ⟨hm', hsent⟩ := sent_delivery (H := H) (s := between) hdelivery
    refine ⟨?_, hsent⟩
    rcases hm' with rfl | rfl
    · exact .inl hresult
    · exact .inr hresult

/-- **Storing is done again as a whole, and only after a conflict.** Whoever answers, a
send that is valid and allowed stores its draft once more for each conflict in front,
three times at most, and ends as the last attempt. Before a database each attempt sends
the statements of the draft from the first on in a transaction of its own, and shows
the message that its own insertion was answered with. It ends in a conflict if and only
if its first step that failed was told so; no attempt before another was committed, and
any other failure ends the send at once. -/
theorem stored_again_after_conflicts {settings : MessageSettings} {request : SendRequest} {draft : Draft}
    (hcheck : request.check settings = .ok draft) :
    (∀ {σ : Type} (h : Program.Handler Surroundings.signature σ) (s : σ),
      (h (.areFriends draft.sender draft.recipient) s).1 = .ok true → ∀ n, 3 ≤ n →
        ∃ front last delivery, Tried draft
          (outcomes h draft n (h (.areFriends draft.sender draft.recipient) s).2) front last delivery
          ((Messaging.send settings request).run.exchanges h s)
          ((Messaging.send settings request).run.run h s).1) ∧
    ∀ {τ : Type} (H : Program.Handler signature τ) (s : Server (Backend.database H)),
      s.directory.areFriends draft.sender draft.recipient = .ok true → ∀ n, 3 ≤ n →
        ∃ front last behind, Reran draft (attempts H draft n s.archive) front last behind
          (asked H ((Messaging.send settings request).run.exchanges Server.answer s) s)
          (s.run (Messaging.send settings request).run).1 :=
  ⟨fun _ _ hfriends _ hn => Messaging.send_tried hcheck hfriends hn,
    fun _ _ hfriends _ hn => send_reran hcheck hfriends hn⟩

/-! ## A commit that is refused -/

def greeting : Draft := ⟨1, 2, .text, "hello", none⟩

/-- The message that a draft becomes under a number. -/
def greeted (id : Nat) : Message := ⟨id, 1, 2, "1_2", .text, "hello", none, .sent, 1, ⟨0, 0⟩, ⟨0, 0⟩⟩

/-- A database that refuses its first commit, and numbers messages by transactions. -/
def refusingFirst : Program.Handler signature Nat
  | .connect, n => (.ok (), n)
  | .start, n => (.ok (), n + 1)
  | .commit, n => (if n = 1 then .error (.answered "40001") else .ok (), n)
  | .rollback, n => ((), n)
  | .execute _, n => (.ok 1, n)
  | .query _ .message, n => (.ok [⟨n, 1, 2, "1_2", 1, "hello", none, 1, 1, ⟨0, 0⟩, ⟨0, 0⟩⟩], n)
  | .query _ _, n => (.ok [], n)

/-- A server before that database, where the recipient has a session. -/
def refused : Server (Backend.database refusingFirst) :=
  let s := Server.start (B := Backend.database refusingFirst) {}
    ⟨fun _ _ => .ok true, fun user => .ok ⟨user, "", ""⟩⟩ (0 : Nat) ⟨0, 0⟩
  { s with hub := (Hub.start {} 0).after [.command 0 (.register 2 false)] }

/-- A send whose first commit is refused stores its draft a second time. -/
theorem stored_again_after_refused_commit :
    (SendRequest.mk 1 2 1 "hello" none).check {} = .ok greeting ∧
    refused.directory.areFriends 1 2 = .ok true ∧
    ∃ front last behind, front.length = 1 ∧ Reran greeting (attempts refusingFirst greeting 3 (0 : Nat)) front last
      behind (asked refusingFirst ((Messaging.send {} ⟨1, 2, 1, "hello", none⟩).run.exchanges Server.answer refused)
        refused) (refused.run (Messaging.send {} ⟨1, 2, 1, "hello", none⟩).run).1 := by
  have hcheck : (SendRequest.mk 1 2 1 "hello" none).check {} = .ok greeting := by decide +kernel
  obtain ⟨front, last, behind, hreran⟩ :=
    (stored_again_after_conflicts hcheck).2 refusingFirst refused rfl 3 (Nat.le_refl 3)
  have hcount : (front ++ [last]).length = 2 := hreran.count.trans (by decide +kernel)
  rw [List.length_append, List.length_singleton] at hcount
  exact ⟨hcheck, rfl, front, last, behind, Nat.succ_inj.mp hcount, hreran⟩

/-- The second attempt shows another message than the first one, and the send answers
the message as one that arrived. -/
theorem rerun_shows_its_own_message :
    let tried := attempts refusingFirst greeting 2 (0 : Nat)
    let program := (Messaging.send {} ⟨1, 2, 1, "hello", none⟩).run
    asked refusingFirst (program.exchanges Server.answer refused) refused = (tried.map Prod.fst).flatten ++
      [⟨.connect, .ok ()⟩, ⟨.execute (.transition 2 .sent .delivered), .ok 1⟩] ∧
    tried.map (fun a => (sent a.1)[2]?) =
      [some (.showMessage greeting (greeted 1)), some (.showMessage greeting (greeted 2))] ∧
    (Statement.showMessage greeting (greeted 1)).params ≠ (Statement.showMessage greeting (greeted 2)).params ∧
    tried.map Prod.snd = [.error (.transactionConflict "db error"), .ok (greeted 2)] ∧
    (refused.run program).1 = .ok { greeted 2 with status := .delivered } ∧
    (refused.run program).1 ≠ .ok (greeted 2) := by
  refine ⟨rfl, rfl, by decide, by decide +kernel, by decide +kernel, by decide +kernel⟩

end Database
end Parley
