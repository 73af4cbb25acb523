import SyncApp.Lib.Raising

/-!
# Transactions

A connection sees what it has written and not yet committed; a crash loses that. `atomically` runs a
program on what the connection sees between `BEGIN` and `COMMIT`, and goes back where the program
raises.

However many of its actions are taken before a crash, what is committed is what was committed
before, or what the whole transaction commits (`crash_atomically`).
-/

set_option autoImplicit false

namespace Lib

namespace Prog

variable {σ α β π : Type} {part : σ → π}

/-- Nothing but the last action of a program changes the part. -/
def ChangesLast (part : σ → π) : Prog σ α → Prop
  | done _ => True
  | act update next =>
    ((∀ s, part (update s) = part s) ∧ ∀ s, ChangesLast part (next s)) ∨
      ∀ s, (next s).isDone = true

theorem ChangesLast.bind {p : Prog σ α} {k : α → Prog σ β} (first : p.Leaves part)
    (rest : ∀ a, (k a).ChangesLast part) : (p >>= k).ChangesLast part := by
  induction p with
  | done a => exact rest a
  | act update next ih => exact .inl ⟨first.1, fun s => ih s (first.2 s)⟩

/-- Wherever such a program is stopped, the part is as it was, or the program has ended. -/
theorem ChangesLast.advance {p : Prog σ α} (last : p.ChangesLast part) (n : Nat) (s : σ) :
    part (p.advance n s).2 = part s ∨ (p.advance n s).2 = (p.run s).2 := by
  induction p generalizing n s with
  | done a => cases n <;> exact .inl rfl
  | act update next ih =>
    cases n with
    | zero => exact .inl rfl
    | succ n =>
      rcases last with ⟨here, later⟩ | ends
      · exact (ih s (later s) n (update s)).imp (fun same => same.trans (here s)) id
      · right
        show ((next s).advance n (update s)).2 = ((next s).run (update s)).2
        cases finished : next s with
        | done a => cases n <;> rfl
        | act update' next' =>
          have wrong := ends s
          rw [finished] at wrong
          cases wrong

end Prog

/-- A store behind a connection: what is committed, and what the connection sees. -/
structure Session (σ : Type) where
  committed : σ
  seen : σ

namespace Session

open Raising

variable {ε σ α : Type}

/-- Nothing is under way. -/
def rest (store : σ) : Session σ := ⟨store, store⟩

def see (session : Session σ) (store : σ) : Session σ := { session with seen := store }

/-- The process is gone. -/
def crash (session : Session σ) : Session σ := rest session.committed

def beginning : Raising ε (Session σ) Unit :=
  action fun session => (.ok (), session.see session.committed)

def commit : Raising ε (Session σ) Unit := action fun session => (.ok (), rest session.seen)

def rollback : Raising ε (Session σ) Unit :=
  action fun session => (.ok (), rest session.committed)

/-- A statement that reads. -/
def query (read : σ → Except ε α) : Raising ε σ α := action fun store => (read store, store)

/-- A statement that writes. -/
def execute (change : σ → Except ε σ) : Raising ε σ Unit :=
  action fun store =>
    match change store with
    | .ok changed => (.ok (), changed)
    | .error failure => (.error failure, store)

/-- `with connection:`, after `BEGIN IMMEDIATE`. -/
def atomically (body : Raising ε σ α) : Raising ε (Session σ) α := do
  beginning
  let result ← tryCatch (within Session.seen Session.see body) fun failure => do
    rollback
    throw failure
  commit
  return result

variable {body : Raising ε σ α} {store : σ}

theorem eval_within_seen (body : Raising ε σ α) (session : Session σ) :
    (within Session.seen Session.see body).eval session =
      ((body.eval session.seen).1, session.see (body.eval session.seen).2) := by
  have get_put : ∀ (s : Session σ) (t : σ), (s.see t).seen = t := fun _ _ => rfl
  have put_put : ∀ (s : Session σ) (t u : σ), (s.see t).see u = s.see u := fun _ _ _ => rfl
  have put_get : ∀ s : Session σ, s.see s.seen = s := fun _ => rfl
  exact eval_within get_put put_put put_get body session

/-- A transaction commits what its body returns with, or leaves the store. -/
theorem eval_atomically (body : Raising ε σ α) (store : σ) :
    (atomically body).eval (rest store) =
      match body.eval store with
      | (.ok a, changed) => (.ok a, rest changed)
      | (.error failure, _) => (.error failure, rest store) := by
  have ran := eval_within_seen body (rest store)
  unfold atomically
  refine (eval_bind_ok rfl).trans ?_
  show ((tryCatch (within Session.seen Session.see body) fun failure => do
    rollback
    throw failure) >>= _ : Raising ε (Session σ) α).eval (rest store) = _
  rcases same : body.eval store with ⟨result, changed⟩
  rw [show body.eval (rest store).seen = (result, changed) from same] at ran
  cases result with
  | ok a =>
    refine (eval_bind_ok (eval_tryCatch_ok ran)).trans ?_
    exact eval_bind_ok rfl
  | error failure => exact eval_bind_error ((eval_tryCatch_error ran).trans (eval_bind_ok rfl))

theorem atomically_changesLast (body : Raising ε σ α) :
    (atomically body).run.ChangesLast Session.committed := by
  refine Prog.ChangesLast.bind (Prog.Leaves.step fun _ => rfl) fun begun => ?_
  cases begun with
  | error failure => trivial
  | ok _ =>
    have apart : ∀ (s : Session σ) (t : σ), (s.see t).committed = s.committed := fun _ _ => rfl
    refine Prog.ChangesLast.bind (Prog.Leaves.bind (Prog.Leaves.within apart body.run)
      fun result => ?_) fun result => ?_
    · cases result with
      | ok a => trivial
      | error failure =>
        exact ⟨fun _ => rfl, fun _ => trivial⟩
    · cases result with
      | error failure => trivial
      | ok a => exact .inr fun _ => rfl

/-- **A crash leaves the store before the transaction or after it.** -/
theorem crash_atomically (body : Raising ε σ α) (store : σ) (n : Nat) :
    (((atomically body).run.advance n (rest store)).2.crash = rest store) ∨
      ((atomically body).run.advance n (rest store)).2.crash =
        ((atomically body).eval (rest store)).2 := by
  rcases (atomically_changesLast body).advance n (rest store) with same | ended
  · exact .inl (congrArg rest same)
  · right
    rw [ended]
    have whole := eval_atomically body store
    show ((atomically body).eval (rest store)).2.crash = _
    rw [whole]
    split <;> rfl

end Session

end Lib
