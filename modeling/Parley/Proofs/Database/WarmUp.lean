/-
When a pool of connections comes up.

The warm-up holds all the connections that it takes, and waits for another
one as soon as the pool has no more to give. So against a database that lets
everybody in, a pool comes up if and only if it may have as many connections
as it is to have ready (`pool_comes_up_iff_it_has_room`).
-/
import Parley.Database.Pool
import Parley.Proofs.Dialogue

namespace Parley.Database

open Program (Handler)

/-- Whether a database lets everybody in and answers. -/
structure Accepting {σ : Type} (h : Handler Startup.signature σ) : Prop where
  dial : ∀ s, (h .dial s).1 = .ok ()
  probe : ∀ s, (h .probe s).1 = .ok ()

namespace PoolSettings

variable {p : PoolSettings} {σ : Type} {h : Handler Startup.signature σ}

/-! ## Taking connections -/

theorem warmUp_succ (p : PoolSettings) (more held : Nat) : (p.warmUp (more + 1) held).run =
    if p.greatest ≤ held then .done (.error p.starved)
    else if p.connectTimeout = 0 then .done (.error (.connect (.timeout .create)))
    else .ask .dial fun reply => match reply with
      | .ok () => (p.warmUp more (held + 1)).run
      | .error e => .done (.error (.connect (.backend e))) := by
  rw [warmUp]
  split
  · rfl
  split
  · rfl
  · refine congrArg (Program.ask (S := Startup.signature) Startup.Ask.dial) (funext fun reply => ?_)
    cases reply <;> rfl

/-- How many connections are taken, and what becomes of it: connections that
are held are none to be taken. -/
theorem run_warmUp (hh : Accepting h) (hconnect : 0 < p.connectTimeout) (wanted : Nat) {held : Nat}
    (hheld : held ≤ p.greatest) (s : σ) :
    ((p.warmUp wanted held).run.run h s).1 =
        (if wanted + held ≤ p.greatest then .ok (wanted + held) else .error p.starved) ∧
      ((p.warmUp wanted held).run.exchanges h s).map (·.1) =
        List.replicate (min wanted (p.greatest - held)) .dial := by
  induction wanted generalizing held s with
  | zero =>
    rw [Nat.zero_add, if_pos hheld, Nat.zero_min]
    exact ⟨rfl, rfl⟩
  | succ more ih =>
    rw [warmUp_succ]
    by_cases hfull : p.greatest ≤ held
    · rw [if_pos hfull, if_neg (by omega), show min (more + 1) (p.greatest - held) = 0 by omega]
      exact ⟨rfl, rfl⟩
    · rw [if_neg hfull, if_neg (Nat.ne_of_gt hconnect)]
      have hroom : held + 1 ≤ p.greatest := by omega
      obtain ⟨hresult, hasked⟩ := ih hroom (h .dial s).2
      rw [Program.run, Program.exchanges, hh.dial s, List.map_cons]
      refine ⟨?_, ?_⟩
      · rw [hresult, show more + (held + 1) = more + 1 + held by omega]
      · rw [hasked, show min (more + 1) (p.greatest - held) = min more (p.greatest - (held + 1)) + 1 by omega,
          List.replicate_succ]

/-! ## Starting -/

theorem start_eq (hurl : (ConnectionText.read? p.databaseUrl).isSome = true) : p.start.run =
    (p.warmUp (max p.ready 1) 0).run.bind fun outcome => match outcome with
      | .error e => .done (.error e)
      | .ok held => .ask .probe fun reply => match reply with
        | .ok () => .done (.ok ⟨p.greatest, held, held⟩)
        | .error e => .done (.error (.query e)) := by
  obtain ⟨address, haddress⟩ := Option.isSome_iff_exists.mp hurl
  rw [start, haddress]
  simp only [ExceptT.run_bind]
  refine congrArg (Program.bind (p.warmUp (max p.ready 1) 0).run) (funext fun outcome => ?_)
  cases outcome with
  | error e => rfl
  | ok held =>
    refine congrArg (Program.ask (S := Startup.signature) Startup.Ask.probe) (funext fun reply => ?_)
    cases reply <;> rfl

/-- **Against a database that lets everybody in, a pool comes up if and only if it may have
as many connections as it is to have ready**, one at least. It never dials more often than
it may have connections; without room it waits for one of its own until a time is up. -/
theorem pool_comes_up_iff_it_has_room (p : PoolSettings) (hurl : (ConnectionText.read? p.databaseUrl).isSome = true)
    (hconnect : 0 < p.connectTimeout) (hacquire : 0 < p.acquireTimeout)
    {σ : Type} (h : Handler Startup.signature σ) (hh : Accepting h) (s : σ) :
    (p.start.run.run h s).1 =
        (if max p.ready 1 ≤ p.greatest then .ok ⟨p.greatest, max p.ready 1, max p.ready 1⟩
        else .error (if p.acquireTimeout < p.connectTimeout then .connect (.timeout .wait)
          else .timeout p.connectTimeout)) ∧
      (p.start.run.exchanges h s).map (·.1) =
        List.replicate (min (max p.ready 1) p.greatest) .dial ++
          (if max p.ready 1 ≤ p.greatest then [.probe] else []) := by
  have hstarved : p.starved =
      if p.acquireTimeout < p.connectTimeout then .connect (.timeout .wait) else .timeout p.connectTimeout := by
    simp [starved, Nat.ne_of_gt hacquire]
  obtain ⟨hresult, hasked⟩ := run_warmUp hh hconnect (max p.ready 1) (Nat.zero_le p.greatest) s
  rw [Nat.add_zero] at hresult
  rw [Nat.sub_zero] at hasked
  rw [start_eq hurl, Program.run_bind, Program.exchanges_bind, List.map_append, hasked, hresult]
  by_cases hroom : max p.ready 1 ≤ p.greatest
  · simp [hroom, Program.run, Program.exchanges, hh.probe]
  · simp [hroom, hstarved, Program.run, Program.exchanges]

/-- A database that lets everybody in. -/
def openDoor : Handler Startup.signature Unit := fun q s =>
  match q with
  | .dial | .probe | .migrate => (.ok (), s)

/-- The pool of the default settings comes up with two connections. -/
theorem default_pool_comes_up :
    ((({ service := "", databaseUrl := "postgres://localhost/im" } : PoolSettings).start).run.run openDoor ()).1 =
      .ok ⟨20, 2, 2⟩ :=
  (pool_comes_up_iff_it_has_room _ (by decide +kernel) (by decide) (by decide) openDoor
    ⟨fun _ => rfl, fun _ => rfl⟩ ()).1

/-- **A pool of one connection does not come up with the other settings as they are by
default**: it is to have two ready, and holds the only one while it waits for the other. -/
theorem one_connection_is_too_few :
    (((PoolSettings.withUrl (.ofList [("DB_MAX_CONNECTIONS", "1")]) "" "postgres://localhost/im").start).run.run
      openDoor ()).1.toOption = none := by
  decide +kernel

end PoolSettings
end Parley.Database
