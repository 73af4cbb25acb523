import SyncApp.LiveApply.Controller

/-!
# Calls when nothing fails

What the calls on the host return while no fault is set and nobody else acts, and from them what a
walk to a path and a look at a leaf return. A look changes nothing (`Looks`), so what it returns is
a fact about the live file system: `openParentChain` finds a directory exactly when the path
resolves to it, and `verifyOperation` accepts an operation exactly when its baseline stands there
(`Present`), or when an added path is free (`Vacant`) or has no directory.
-/

set_option autoImplicit false

namespace SyncApp

open Lib Raising Sys

section Combinators

variable {σ α : Type} {s t : σ}

theorem eval_require {condition : Prop} [Decidable condition] {error : PyError}
    (held : condition) : (require condition error : Raising PyError σ Unit).eval s = (.ok (), s) := by
  unfold require
  rw [if_pos held]
  rfl

theorem eval_require_eq_ok {condition : Prop} [Decidable condition] {error : PyError} {u : Unit} :
    (require condition error : Raising PyError σ Unit).eval s = (.ok u, t) ↔ condition ∧ s = t := by
  unfold require
  by_cases held : condition
  · rw [if_pos held, eval_pure]
    simp [held]
  · rw [if_neg held, eval_throw]
    simp [held]

theorem looks_require (condition : Prop) [Decidable condition] (error : PyError) :
    Looks (require condition error : Raising PyError σ Unit) := by
  unfold SyncApp.require
  split
  · exact .pure ()
  · exact .throw error

theorem eval_onOsError_ok {p : Raising PyError σ α} {handler : Errno → Raising PyError σ α} {a : α}
    (ran : p.eval s = (.ok a, t)) : (onOsError p handler).eval s = (.ok a, t) :=
  eval_tryCatch_ok ran

theorem eval_onOsError_os {p : Raising PyError σ α} {handler : Errno → Raising PyError σ α}
    {errno : Errno} {message : String} (ran : p.eval s = (.error ⟨.osError errno, message⟩, t)) :
    (onOsError p handler).eval s = (handler errno).eval t :=
  eval_tryCatch_error ran

theorem eval_onOsError_eq_ok {p : Raising PyError σ α} {handler : Errno → Raising PyError σ α}
    {a : α} : (onOsError p handler).eval s = (.ok a, t) ↔ p.eval s = (.ok a, t) ∨
      ∃ errno message u, p.eval s = (.error ⟨.osError errno, message⟩, u) ∧
        (handler errno).eval u = (.ok a, t) := by
  unfold onOsError
  rw [eval_tryCatch]
  cases ran : p.eval s with
  | mk result u =>
    cases result with
    | ok b => simp
    | error error =>
      obtain ⟨kind, message⟩ := error
      cases kind with
      | osError errno => simp
      | _ => simp

theorem looks_onOsError {p : Raising PyError σ α} {handler : Errno → Raising PyError σ α}
    (first : Looks p) (handled : ∀ errno, Looks (handler errno)) : Looks (onOsError p handler) := by
  refine first.tryCatch fun error => ?_
  split
  · exact handled _
  · exact .throw _

theorem looks_orRaise {p : Raising PyError σ α} (first : Looks p) (raised : PyError) :
    Looks (orRaise p raised) := first.tryCatch fun _ => .throw raised

theorem eval_orRaise_ok {p : Raising PyError σ α} {raised : PyError} {a : α}
    (ran : p.eval s = (.ok a, t)) : (orRaise p raised).eval s = (.ok a, t) :=
  eval_tryCatch_ok ran

theorem eval_orRaise_error {p : Raising PyError σ α} {raised error : PyError}
    (ran : p.eval s = (.error error, t)) : (orRaise p raised).eval s = (.error raised, t) :=
  eval_tryCatch_error ran

theorem eval_orRaise_eq_ok {p : Raising PyError σ α} {raised : PyError} {a : α} :
    (orRaise p raised).eval s = (.ok a, t) ↔ p.eval s = (.ok a, t) := by
  constructor
  · intro returned
    cases ran : p.eval s with
    | mk result u =>
      cases result with
      | ok b => exact (eval_orRaise_ok ran).symm.trans returned
      | error error => exact nomatch (eval_orRaise_error ran).symm.trans returned
  · exact eval_orRaise_ok

end Combinators

/-! ## Single calls -/

/-- A name the system takes. -/
def Clean (name : PyStr) : Prop := name.contains 0 = false

section Calls

variable {α : Type} {host host' : Host}

theorem looks_ask (call : Host → Except Errno α) : Looks (ask call) := by
  intro host
  unfold Sys.ask
  rw [eval_action]
  split
  · rfl
  · split
    · rfl
    · rfl

theorem looks_named (name : PyStr) : Looks (named name) := looks_require _ _

theorem looks_openDirectoryAt (dir : Nat) (name : PyStr) : Looks (openDirectoryAt dir name) :=
  .bind (looks_named name) fun _ => looks_ask _

theorem looks_statAt (dir : Nat) (name : PyStr) : Looks (statAt dir name) :=
  .bind (looks_named name) fun _ => looks_ask _

theorem looks_openAt (dir : Nat) (name : PyStr) : Looks (openAt dir name) :=
  .bind (looks_named name) fun _ => looks_ask _

theorem looks_openPath (path : PyStr) : Looks (openPath path) :=
  .bind (looks_named path) fun _ => looks_ask _

theorem eval_ask_ok (quiet : host.fault = none) {call : Host → Except Errno α} {result : α}
    (called : call host = .ok result) : (ask call).eval host = (.ok result, host) := by
  unfold ask
  rw [eval_action, quiet]
  simp only [called]

theorem eval_ask_error (quiet : host.fault = none) {call : Host → Except Errno α} {errno : Errno}
    (called : call host = .error errno) :
    (ask call).eval host = (.error ⟨.osError errno, ""⟩, host) := by
  unfold ask
  rw [eval_action, quiet]
  simp only [called]

theorem eval_ask_eq_error (quiet : host.fault = none) {call : Host → Except Errno α}
    {error : PyError} : (ask call).eval host = (.error error, host') ↔
      ∃ errno, call host = .error errno ∧ error = ⟨.osError errno, ""⟩ ∧ host = host' := by
  cases called : call host with
  | ok result => simp [eval_ask_ok quiet called]
  | error errno => simp [eval_ask_error quiet called, eq_comm]

theorem eval_named {name : PyStr} (clean : Clean name) : (named name).eval host = (.ok (), host) :=
  eval_require clean

theorem eval_named_unclean {name : PyStr} (unclean : ¬Clean name) :
    (named name).eval host = (.error ⟨.valueError, "embedded null byte"⟩, host) := by
  unfold named require
  exact (congrArg (Raising.eval · host) (if_neg unclean)).trans (eval_throw _ _)

theorem eval_change (quiet : host.fault = none)
    {call : FileSystem PyStr → Except Errno (α × FileSystem PyStr)} {result : α}
    {live : FileSystem PyStr} (called : call host.live = .ok (result, live)) :
    (change call).eval host = (.ok result, { host with live := live }) := by
  unfold change
  rw [eval_action, quiet]
  simp only [called]

variable {dir fd : Nat} {name : PyStr}

theorem openDirectoryAt_eq_ok (quiet : host.fault = none) :
    (openDirectoryAt dir name).eval host = (.ok fd, host') ↔
      Clean name ∧ host.live.openDirectory dir name = .ok fd ∧ host = host' := by
  unfold openDirectoryAt
  rw [eval_bind_eq_ok]
  constructor
  · rintro ⟨_, u, named, opened⟩
    obtain ⟨clean, rfl⟩ := eval_require_eq_ok.mp named
    cases found : host.live.openDirectory dir name with
    | error errno =>
      rw [show look _ = ask _ from rfl, eval_ask_error quiet found] at opened
      cases opened
    | ok ino =>
      rw [show look _ = ask _ from rfl, eval_ask_ok quiet found] at opened
      cases opened
      exact ⟨clean, rfl, rfl⟩
  · rintro ⟨clean, opened, rfl⟩
    exact ⟨(), host, eval_named clean, eval_ask_ok quiet opened⟩

theorem openDirectoryAt_eq_os (quiet : host.fault = none) {errno : Errno} {message : String} :
    (openDirectoryAt dir name).eval host = (.error ⟨.osError errno, message⟩, host') →
      Clean name ∧ host.live.openDirectory dir name = .error errno ∧ host = host' := by
  unfold openDirectoryAt
  intro ran
  by_cases clean : Clean name
  · rw [eval_bind_ok (eval_named clean)] at ran
    obtain ⟨errno', failed, same, rfl⟩ := (eval_ask_eq_error quiet).mp ran
    cases same
    exact ⟨clean, failed, rfl⟩
  · rw [eval_bind_error (eval_named_unclean clean)] at ran
    cases ran

theorem openDirectoryAt_error (quiet : host.fault = none) (clean : Clean name) {errno : Errno}
    (failed : host.live.openDirectory dir name = .error errno) :
    (openDirectoryAt dir name).eval host = (.error ⟨.osError errno, ""⟩, host) :=
  (eval_bind_ok (eval_named clean)).trans (eval_ask_error quiet failed)

theorem statAt_ok (quiet : host.fault = none) (clean : Clean name) {found : Nat × Node PyStr}
    (held : host.live.lookup dir name = some found) :
    (statAt dir name).eval host = (.ok found, host) := by
  refine (eval_bind_ok (eval_named clean)).trans (eval_ask_ok quiet ?_)
  simp only [FileSystem.lstat, held]

theorem statAt_absent (quiet : host.fault = none) (clean : Clean name)
    (absent : host.live.lookup dir name = none) :
    (statAt dir name).eval host = (.error ⟨.osError .noent, ""⟩, host) := by
  refine (eval_bind_ok (eval_named clean)).trans (eval_ask_error quiet ?_)
  simp only [FileSystem.lstat, absent]

theorem statAt_unclean (unclean : ¬Clean name) :
    (statAt dir name).eval host = (.error ⟨.valueError, "embedded null byte"⟩, host) :=
  eval_bind_error (eval_named_unclean unclean)

theorem openAt_file (quiet : host.fault = none) (clean : Clean name) {mode : Nat}
    {bytes : List UInt8} (held : host.live.lookup dir name = some (fd, .file mode bytes)) :
    (openAt dir name).eval host = (.ok fd, host) := by
  refine (eval_bind_ok (eval_named clean)).trans (eval_ask_ok quiet ?_)
  simp only [FileSystem.openRead, held]

theorem fstat_ok (quiet : host.fault = none) {node : Node PyStr}
    (held : host.live.node fd = some node) : (fstat fd).eval host = (.ok node, host) :=
  eval_ask_ok quiet (by simp only [held])

theorem readAll_ok (quiet : host.fault = none) {mode : Nat} {bytes : List UInt8}
    (held : host.live.node fd = some (.file mode bytes)) :
    (readAll fd).eval host = (.ok bytes, host) :=
  eval_ask_ok quiet (by simp only [held])

theorem fsync_ok (quiet : host.fault = none) : (fsync fd).eval host = (.ok (), host) := by
  unfold fsync look ask
  rw [eval_action, quiet]

theorem openPath_ok (quiet : host.fault = none) {path : PyStr} (clean : Clean path) {root : Nat}
    (opened : host.openRoot path = .ok root) : (openPath path).eval host = (.ok root, host) :=
  (eval_bind_ok (eval_named clean)).trans (eval_ask_ok quiet opened)

theorem openPath_eq_ok (quiet : host.fault = none) {path : PyStr} {root : Nat} :
    (openPath path).eval host = (.ok root, host') ↔
      Clean path ∧ host.openRoot path = .ok root ∧ host = host' := by
  unfold openPath
  rw [eval_bind_eq_ok]
  constructor
  · rintro ⟨_, u, named, opened⟩
    obtain ⟨clean, rfl⟩ := eval_require_eq_ok.mp named
    cases found : host.openRoot path with
    | error errno =>
      rw [eval_ask_error quiet found] at opened
      cases opened
    | ok ino =>
      rw [eval_ask_ok quiet found] at opened
      cases opened
      exact ⟨clean, rfl, rfl⟩
  · rintro ⟨clean, opened, rfl⟩
    exact ⟨(), host, eval_named clean, eval_ask_ok quiet opened⟩

end Calls

end SyncApp
