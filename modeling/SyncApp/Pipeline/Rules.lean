import SyncApp.Pipeline.State

/-!
# Rules for lanes

One rule for each way a lane acts: what a read, a transaction or a call outside may do is stated
once, and a proof about a lane never opens them again. `Lane.call` is a lane as a call of a service.
-/

set_option autoImplicit false

namespace SyncApp

open Lib Raising

namespace Lane

variable {α β : Type} {rely guarantee : System → System → Prop} {s : System}
  {post : Except Failure α → System → Prop}

theorem ensures_query {read : Store → Except Failure α}
    (holds : ∀ t, rely s t → guarantee t t ∧ post (read t.store) t) :
    Ensures rely guarantee (query read) post s := Ensures.action holds

theorem ensures_clock {post : Except Failure Int → System → Prop}
    (holds : ∀ t, rely s t → guarantee t t ∧ post (.ok t.now) t) :
    Ensures rely guarantee clock post s := Ensures.action holds

theorem ensures_note {event : Event} {post : Except Failure Unit → System → Prop}
    (holds : ∀ t, rely s t → guarantee t { t with events := event :: t.events } ∧
      post (.ok ()) { t with events := event :: t.events }) :
    Ensures rely guarantee (note event) post s := Ensures.action holds

/-- A transaction changes the database as its body says, or changes nothing. -/
theorem ensures_transaction {change : Store → Except Failure (α × Store)}
    (commits : ∀ t a store, rely s t → change t.store = .ok (a, store) →
      guarantee t { t with store := store } ∧ post (.ok a) { t with store := store })
    (refused : ∀ t failure, rely s t → change t.store = .error failure →
      guarantee t t ∧ post (.error failure) t) :
    Ensures rely guarantee (transaction change) post s := by
  refine Ensures.action fun t moved => ?_
  cases changed : change t.store with
  | ok result => exact commits t result.1 result.2 moved changed
  | error failure => exact refused t failure moved changed

/-- A call outside that fails has changed nothing. -/
theorem ensures_outside {call : System → Except Failure (α × System)}
    (done : ∀ t a u, rely s t → t.fault = none → call t = .ok (a, u) →
      guarantee t u ∧ post (.ok a) u)
    (failed : ∀ t failure, rely s t → guarantee t t ∧ post (.error failure) t) :
    Ensures rely guarantee (outside call) post s := by
  refine Ensures.action fun t moved => ?_
  cases fault : t.fault with
  | some failure => exact failed t failure moved
  | none =>
    cases called : call t with
    | ok result => exact done t result.1 result.2 moved fault called
    | error failure => exact failed t failure moved

/-- A request that fails may have been carried out. -/
theorem ensures_request {call : System → Except Failure (α × System)}
    (done : ∀ t a u, rely s t → t.fault = none → call t = .ok (a, u) →
      guarantee t u ∧ post (.ok a) u)
    (lost : ∀ t a u failure, rely s t → t.fault = some failure → call t = .ok (a, u) →
      guarantee t u ∧ post (.error failure) u)
    (failed : ∀ t failure, rely s t → guarantee t t ∧ post (.error failure) t) :
    Ensures rely guarantee (request call) post s := by
  refine Ensures.action fun t moved => ?_
  cases fault : t.fault with
  | some failure =>
    cases called : call t with
    | ok result =>
      cases reply : t.replyLost with
      | true => exact lost t result.1 result.2 failure moved fault called
      | false => exact failed t failure moved
    | error _ => exact failed t failure moved
  | none =>
    cases called : call t with
    | ok result => exact done t result.1 result.2 moved fault called
    | error failure => exact failed t failure moved

theorem ensures_ensure {condition : Prop} [Decidable condition] {failure : Failure}
    {post : Except Failure Unit → System → Prop} (holds : condition → post (.ok ()) s)
    (fails : ¬condition → post (.error failure) s) :
    Ensures rely guarantee (ensure condition failure) post s := by
  unfold ensure
  split
  next held => exact holds held
  next broken => exact fails broken

theorem ensures_rethrow {program : Lane α} {handler : Failure → Failure}
    (ensured : Ensures rely guarantee program (fun result t => match result with
      | .ok a => post (.ok a) t
      | .error failure => post (.error (handler failure)) t) s) :
    Ensures rely guarantee (rethrow program handler) post s := by
  refine Ensures.tryCatch (ensured.mono fun result t ends => ?_)
  cases result with
  | ok a => exact ends
  | error failure => exact ends

/-! ## What a lane returns, and where it raises -/

/-- A postcondition on what is returned, and one on the states in which the lane raises. -/
def ends (raised : System → Prop) (post : α → System → Prop) : Except Failure α → System → Prop
  | .ok a, t => post a t
  | .error _, t => raised t

/-- A postcondition on what is returned, and one on what is raised. -/
def settles (raised : Failure → System → Prop) (post : α → System → Prop) :
    Except Failure α → System → Prop
  | .ok a, t => post a t
  | .error failure, t => raised failure t

theorem ensures_settles_bind {raised : Failure → System → Prop} {post : α → System → Prop}
    {program : Lane β} {rest : β → Lane α} {m : β → System → Prop}
    (first : Ensures rely guarantee program (settles raised m) s)
    (second : ∀ b t, m b t → Ensures rely guarantee (rest b) (settles raised post) t) :
    Ensures rely guarantee (program >>= rest) (settles raised post) s := by
  refine Ensures.bind (first.mono fun result t held => ?_)
  cases result with
  | ok b => exact second b t held
  | error failure => exact held

theorem ensures_settles_mono {raised raised' : Failure → System → Prop}
    {post post' : α → System → Prop} {program : Lane α}
    (ensured : Ensures rely guarantee program (settles raised post) s)
    (raises : ∀ failure t, raised failure t → raised' failure t)
    (returns : ∀ a t, post a t → post' a t) :
    Ensures rely guarantee program (settles raised' post') s := by
  refine ensured.mono fun result t held => ?_
  cases result with
  | ok a => exact returns a t held
  | error failure => exact raises failure t held

/-- A result that is there goes on or is raised. -/
theorem ensures_settles_ofResult {raised : Failure → System → Prop} {post : α → System → Prop}
    {result : Except Failure β} {rest : β → Lane α}
    (raises : ∀ failure, result = .error failure → raised failure s)
    (continues : ∀ b, result = .ok b → Ensures rely guarantee (rest b) (settles raised post) s) :
    Ensures rely guarantee (ofResult result >>= rest) (settles raised post) s := by
  refine Ensures.bind (Ensures.ofResult ?_)
  cases given : result with
  | ok b => exact continues b given
  | error failure => exact raises failure given

/-- A postcondition on what is returned; the lane may raise in any state. -/
abbrev returns (post : α → System → Prop) : Except Failure α → System → Prop :=
  ends (fun _ => True) post

section Ends

variable {raised : System → Prop} {post : α → System → Prop}

theorem ensures_ends_bind {program : Lane β} {rest : β → Lane α} {m : β → System → Prop}
    (first : Ensures rely guarantee program (ends raised m) s)
    (second : ∀ b t, m b t → Ensures rely guarantee (rest b) (ends raised post) t) :
    Ensures rely guarantee (program >>= rest) (ends raised post) s := by
  refine Ensures.bind (first.mono fun result t held => ?_)
  cases result with
  | ok b => exact second b t held
  | error failure => exact held

theorem ensures_ends_rethrow {program : Lane α} {handler : Failure → Failure}
    (ensured : Ensures rely guarantee program (ends raised post) s) :
    Ensures rely guarantee (rethrow program handler) (ends raised post) s := by
  refine ensures_rethrow (ensured.mono fun result t held => ?_)
  cases result with
  | ok a => exact held
  | error failure => exact held

/-- What follows a condition starts where it stands, and may use it. -/
theorem ensures_ends_given {condition : Prop} [Decidable condition] {failure : Failure}
    {rest : Unit → Lane α}
    (held : condition → Ensures rely guarantee (rest ()) (ends raised post) s)
    (broken : ¬condition → raised s) :
    Ensures rely guarantee (ensure condition failure >>= rest) (ends raised post) s :=
  ensures_ends_bind (m := fun _ t => Ensures rely guarantee (rest ()) (ends raised post) t)
    (ensures_ensure held broken) fun _ _ continued => continued

/-- An exception that is caught as a value. -/
theorem ensures_ends_attempt {program : Lane α} {broken : System → Prop}
    (ensured : Ensures rely guarantee program (ends raised post) s) :
    Ensures rely guarantee
      (tryCatch (do return .ok (← program)) fun failure => pure (.error failure : Except Failure α))
      (ends broken (ends raised post)) s := by
  refine Ensures.tryCatch (Ensures.bind (ensured.mono fun result t held => ?_))
  cases result with
  | ok a => exact held
  | error failure => exact held

theorem ensures_ends_ofResult {result : Except Failure α} (holds : ∀ a, result = .ok a → post a s)
    (fails : ∀ failure, result = .error failure → raised s) :
    Ensures rely guarantee (ofResult result) (ends raised post) s := by
  refine Ensures.ofResult ?_
  cases result with
  | ok a => exact holds a rfl
  | error failure => exact fails failure rfl

theorem ensures_returns_given {condition : Prop} [Decidable condition] {failure : Failure}
    {rest : Unit → Lane α}
    (held : condition → Ensures rely guarantee (rest ()) (returns post) s) :
    Ensures rely guarantee (ensure condition failure >>= rest) (returns post) s :=
  ensures_ends_given held fun _ => trivial

theorem ensures_returns_ensure {condition : Prop} [Decidable condition] {failure : Failure}
    {post : Unit → System → Prop} (holds : condition → post () s) :
    Ensures rely guarantee (ensure condition failure) (returns post) s :=
  ensures_ensure holds fun _ => trivial

/-- A request keeps the guarantee when it does so carried out, reply or no reply. -/
theorem ensures_returns_request {call : System → Except Failure (α × System)}
    (still : ∀ t, guarantee t t)
    (carried : ∀ t a u, rely s t → call t = .ok (a, u) → guarantee t u ∧ post a u) :
    Ensures rely guarantee (request call) (returns post) s :=
  ensures_request (fun t a u moved _ called => carried t a u moved called)
    (fun t a u _ moved _ called => ⟨(carried t a u moved called).1, trivial⟩)
    fun t _ _ => ⟨still t, trivial⟩

/-- A check of what was handed in comes before the rest. -/
theorem ensures_returns_checked {result : Except Failure β} {rest : β → Lane α}
    (continues : ∀ b, result = .ok b → Ensures rely guarantee (rest b) (returns post) s) :
    Ensures rely guarantee (ofResult result >>= rest) (returns post) s := by
  refine Ensures.bind (Ensures.ofResult ?_)
  cases checked : result with
  | ok b => exact continues b checked
  | error failure => trivial

theorem ensures_returns_ofResult {result : Except Failure α}
    (holds : ∀ a, result = .ok a → post a s) :
    Ensures rely guarantee (ofResult result) (returns post) s :=
  ensures_ends_ofResult holds fun _ _ => trivial

end Ends

/-! ## Running alone -/

theorem eval_query {read : Store → Except Failure α} {a : α} (found : read s.store = .ok a) :
    (query read).eval s = (.ok a, s) := by
  show (read s.store, s) = _
  rw [found]

theorem eval_note (event : Event) :
    (note event).eval s = (.ok (), { s with events := event :: s.events }) := rfl

theorem eval_transaction {change : Store → Except Failure (α × Store)} {a : α} {store : Store}
    (changed : change s.store = .ok (a, store)) :
    (transaction change).eval s = (.ok a, { s with store := store }) := by
  unfold transaction
  rw [eval_action, changed]

theorem eval_outside {call : System → Except Failure (α × System)} {a : α} {t : System}
    (clear : s.fault = none) (called : call s = .ok (a, t)) :
    (outside call).eval s = (.ok a, t) := by
  unfold outside
  rw [eval_action, clear, called]

theorem eval_request {call : System → Except Failure (α × System)} {a : α} {t : System}
    (clear : s.fault = none) (called : call s = .ok (a, t)) :
    (request call).eval s = (.ok a, t) := by
  unfold request
  rw [eval_action, clear, called]

theorem eval_ensure {condition : Prop} [Decidable condition] {failure : Failure}
    (held : condition) : (ensure condition failure).eval s = (.ok (), s) := by
  unfold ensure
  rw [if_pos held]
  rfl

theorem eval_ensure_not {condition : Prop} [Decidable condition] {failure : Failure}
    (broken : ¬condition) : (ensure condition failure).eval s = (.error failure, s) := by
  unfold ensure
  rw [if_neg broken]
  rfl

theorem eval_rethrow {program : Lane α} {handler : Failure → Failure} {a : α} {t : System}
    (ran : program.eval s = (.ok a, t)) : (rethrow program handler).eval s = (.ok a, t) :=
  eval_tryCatch_ok ran

/-! ## Lanes whose every action is of one kind -/

section Every

variable {acts : System → System → Prop}

theorem every_query (still : ∀ s, acts s s) (read : Store → Except Failure α) :
    Every acts (query read) := Every.action still

/-- What follows a read may use what was read. -/
theorem every_query_bind {β : Type} (still : ∀ s, acts s s) {read : Store → Except Failure α}
    {rest : α → Lane β} (continues : ∀ store a, read store = .ok a → Every acts (rest a)) :
    Every acts (query read >>= rest) := by
  refine ⟨still, fun s => ?_⟩
  cases found : read s.store with
  | ok a =>
    have ran := continues s.store a found
    show Prog.Every acts (ExceptT.bindCont rest (read s.store))
    rw [found]
    exact ran
  | error failure =>
    show Prog.Every acts (ExceptT.bindCont rest (read s.store))
    rw [found]
    trivial

theorem every_clock (still : ∀ s, acts s s) : Every acts clock := Every.action still

theorem every_transaction (still : ∀ s, acts s s) {change : Store → Except Failure (α × Store)}
    (commits : ∀ (s : System) a store, change s.store = .ok (a, store) →
      acts s { s with store := store }) : Every acts (transaction change) := by
  refine Every.action fun s => ?_
  cases changed : change s.store with
  | ok result => exact commits s result.1 result.2 changed
  | error failure => exact still s

theorem every_outside (still : ∀ s, acts s s) {call : System → Except Failure (α × System)}
    (done : ∀ s a t, call s = .ok (a, t) → acts s t) : Every acts (outside call) := by
  refine Every.action fun s => ?_
  cases s.fault with
  | some failure => exact still s
  | none =>
    cases called : call s with
    | ok result => exact done s result.1 result.2 called
    | error failure => exact still s

theorem every_request (still : ∀ s, acts s s) {call : System → Except Failure (α × System)}
    (done : ∀ s a t, call s = .ok (a, t) → acts s t) : Every acts (request call) := by
  refine Every.action fun s => ?_
  cases s.fault with
  | some failure =>
    cases called : call s with
    | ok result =>
      dsimp only
      split
      · exact done s result.1 result.2 called
      · exact still s
    | error _ => exact still s
  | none =>
    cases called : call s with
    | ok result => exact done s result.1 result.2 called
    | error failure => exact still s

theorem every_note {event : Event}
    (done : ∀ s : System, acts s { s with events := event :: s.events }) :
    Every acts (note event) := Every.action done

theorem every_ensure (condition : Prop) [Decidable condition] (failure : Failure) :
    Every acts (ensure condition failure) := by
  unfold ensure
  split
  · exact Every.pure ()
  · exact Every.throw failure

theorem every_rethrow {program : Lane α} (handler : Failure → Failure)
    (every : Every acts program) : Every acts (rethrow program handler) :=
  every.tryCatch fun failure => Every.throw (handler failure)

end Every

/-! ## Calls -/

/-- A lane as a call of a service: what it returns or raises is dropped. -/
def call (program : Lane α) : Prog System Unit := program.run >>= fun _ => pure ()

theorem call_safe {program : Lane α} {post : Unit → System → Prop}
    (ensured : Ensures rely guarantee program (fun _ t => post () t) s) :
    Prog.Safe rely guarantee program.call post s := Prog.Safe.bind ensured

end Lane

end SyncApp
