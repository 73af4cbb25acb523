import Mathlib.Logic.Relation

/-!
# Programs that act on a shared state, step by step

A program is a tree of atomic actions. Each action changes the state once and hands the state it
found to what follows, so a read, a write and a transaction are all one action. Between two actions
anything else may happen: another party may change the state, or the program may stop for good and
be started again from its first action.

Two ways to run a program:

- `run` runs it to its end with nobody else acting;
- `Reach` runs a service: calls are started from rest, actions of others (`rely`) stand between any
  two actions, and a call may stop after any action.

**The rule for services** (`Keeps.reach`): when every call keeps a guarantee from every state
that satisfies the invariant (`Safe`), and both the guarantee and the others' actions preserve the
invariant, then every state reached satisfies it, at rest or in the middle of a call; `Keeps.along` carries
along a run whatever else those actions preserve.

`Safe` composes over `bind` (`Safe.bind`); a program whose actions leave some part of the state
alone is safe for that part (`Leaves.safe`), and one whose actions are all of one kind is safe for
that kind (`Every.safe`). A program on one component of a larger state is a
program on the whole (`within`), which leaves everything else alone.
-/

set_option autoImplicit false

namespace Lib

/-- A program over states `σ` with results `α`. -/
inductive Prog (σ α : Type) where
  | done (result : α)
  | act (update : σ → σ) (next : σ → Prog σ α)

namespace Prog

variable {σ α β γ : Type}

protected def bind : Prog σ α → (α → Prog σ β) → Prog σ β
  | done a, k => k a
  | act update next, k => act update fun s => (next s).bind k

instance : Monad (Prog σ) where
  pure := done
  bind := Prog.bind

/-- One atomic action with a result. -/
def step (f : σ → α × σ) : Prog σ α :=
  act (fun s => (f s).2) fun s => done (f s).1

/-- Runs a program to its end with nobody else acting. -/
def run : Prog σ α → σ → α × σ
  | done a, s => (a, s)
  | act update next, s => (next s).run (update s)

@[simp] theorem run_pure (a : α) (s : σ) : (pure a : Prog σ α).run s = (a, s) := rfl

@[simp] theorem run_step (f : σ → α × σ) (s : σ) : (step f).run s = f s := rfl

@[simp] theorem run_bind (p : Prog σ α) (k : α → Prog σ β) (s : σ) :
    (p >>= k).run s = (k (p.run s).1).run (p.run s).2 := by
  induction p generalizing s with
  | done a => rfl
  | act update next ih => exact ih s (update s)

/-- A program and its state after a number of its actions, with nobody else acting. -/
def advance : Nat → Prog σ α → σ → Prog σ α × σ
  | 0, p, s => (p, s)
  | _ + 1, done a, s => (done a, s)
  | n + 1, act update next, s => (next s).advance n (update s)

/-- The program has ended. -/
def isDone : Prog σ α → Bool
  | done _ => true
  | act _ _ => false

/-- The result of a program that has ended. -/
def result? : Prog σ α → Option α
  | done a => some a
  | act _ _ => none

theorem eq_done {p : Prog σ α} {a : α} (ended : p.result? = some a) : p = done a := by
  cases p with
  | done b => exact congrArg done (Option.some.inj ended)
  | act update next => cases ended

/-- A program that has not ended has a next action. -/
theorem exists_act {p : Prog σ α} (going : p.isDone = false) :
    ∃ update next, p = act update next ∧ ∀ s, (p.advance 1 s).2 = update s := by
  cases p with
  | done a => cases going
  | act update next => exact ⟨update, next, rfl, fun _ => rfl⟩

/-! ## Safety between the actions of others -/

section Safety

variable (rely guarantee : σ → σ → Prop)

/-- From a state, a program keeps the guarantee at each of its actions and ends in the
postcondition, with others acting before each action. -/
def Safe : Prog σ α → (α → σ → Prop) → σ → Prop
  | done a, post, s => post a s
  | act update next, post, s =>
    ∀ t, rely s t → guarantee t (update t) ∧ Safe (next t) post (update t)

variable {rely guarantee}

theorem Safe.mono {p : Prog σ α} {post post' : α → σ → Prop} {s : σ}
    (safe : Safe rely guarantee p post s) (weaker : ∀ a s, post a s → post' a s) :
    Safe rely guarantee p post' s := by
  induction p generalizing s with
  | done a => exact weaker a s safe
  | act update next ih => exact fun t moved => ⟨(safe t moved).1, ih t (safe t moved).2⟩

/-- Fewer actions of others disturb no more. -/
theorem Safe.among_fewer {p : Prog σ α} {rely' : σ → σ → Prop} {post : α → σ → Prop} {s : σ}
    (safe : Safe rely guarantee p post s) (fewer : ∀ s t, rely' s t → rely s t) :
    Safe rely' guarantee p post s := by
  induction p generalizing s with
  | done a => exact safe
  | act update next ih =>
    intro t moved
    have here := safe t (fewer s t moved)
    exact ⟨here.1, ih t here.2⟩

/-- What keeps a guarantee keeps a weaker one. -/
theorem Safe.guarantees {p : Prog σ α} {guarantee' : σ → σ → Prop} {post : α → σ → Prop} {s : σ}
    (safe : Safe rely guarantee p post s) (weaker : ∀ s t, guarantee s t → guarantee' s t) :
    Safe rely guarantee' p post s := by
  induction p generalizing s with
  | done a => exact safe
  | act update next ih =>
    intro t moved
    have here := safe t moved
    exact ⟨weaker t _ here.1, ih t here.2⟩

/-- **Safety composes**: the second program starts where the first ends. -/
theorem Safe.bind {p : Prog σ α} {k : α → Prog σ β} {post : β → σ → Prop} {s : σ}
    (safe : Safe rely guarantee p (fun a s => Safe rely guarantee (k a) post s) s) :
    Safe rely guarantee (p >>= k) post s := by
  induction p generalizing s with
  | done a => exact safe
  | act update next ih => exact fun t moved => ⟨(safe t moved).1, ih t (safe t moved).2⟩

/-- One action is safe when it keeps the guarantee and gives the postcondition, from every state
that others may leave. -/
theorem Safe.step {f : σ → α × σ} {post : α → σ → Prop} {s : σ}
    (holds : ∀ t, rely s t → guarantee t (f t).2 ∧ post (f t).1 (f t).2) :
    Safe rely guarantee (step f) post s := holds

/-- Running alone is one of the ways to run among others. -/
theorem Safe.run (refl : ∀ s, rely s s) {p : Prog σ α} {post : α → σ → Prop} {s : σ}
    (safe : Safe rely guarantee p post s) : post (p.run s).1 (p.run s).2 := by
  induction p generalizing s with
  | done a => exact safe
  | act update next ih => exact ih s (safe s (refl s)).2

/-- Alone, a program ends where its run does. -/
theorem Safe.with_run {p : Prog σ α} {post : α → σ → Prop} {s : σ}
    (safe : Safe (· = ·) guarantee p post s) :
    Safe (· = ·) guarantee p (fun a t => post a t ∧ p.run s = (a, t)) s := by
  induction p generalizing s with
  | done a => exact ⟨safe, rfl⟩
  | act update next ih =>
    rintro _ rfl
    have here := safe s rfl
    exact ⟨here.1, ih s here.2⟩

/-- Running alone keeps what each guaranteed action keeps. -/
theorem Safe.run_keeps (refl : ∀ s, rely s s) {P : σ → Prop}
    (keeps : ∀ s t, guarantee s t → P s → P t) {p : Prog σ α} {post : α → σ → Prop} {s : σ}
    (safe : Safe rely guarantee p post s) (here : P s) : P (p.run s).2 := by
  induction p generalizing s with
  | done a => exact here
  | act update next ih =>
    have first := safe s (refl s)
    exact ih s first.2 (keeps s _ first.1 here)

/-- What is guaranteed whoever acts is guaranteed where a fact holds that others and the actions
themselves keep. -/
theorem Safe.under {p : Prog σ α} {rely' : σ → σ → Prop} {holds : σ → Prop} {post : α → σ → Prop}
    {s : σ} (safe : Safe rely guarantee p post s) (fewer : ∀ s t, rely' s t → rely s t)
    (others : ∀ s t, holds s → rely' s t → holds t)
    (actions : ∀ s t, holds s → guarantee s t → holds t) (here : holds s) :
    Safe rely' (fun s t => holds s ∧ guarantee s t) p post s := by
  induction p generalizing s with
  | done a => exact safe
  | act update next ih =>
    intro t moved
    have reached : holds t := others s t here moved
    obtain ⟨guaranteed, rest⟩ := safe t (fewer s t moved)
    exact ⟨⟨reached, guaranteed⟩, ih t rest (actions t _ reached guaranteed)⟩

/-- Others acting first changes nothing, when the postcondition allows for it. -/
theorem Safe.after_rely (trans : ∀ r s t, rely r s → rely s t → rely r t)
    {p : Prog σ α} {post : α → σ → Prop} {s t : σ}
    (stable : ∀ a s t, post a s → rely s t → post a t)
    (safe : Safe rely guarantee p post s) (moved : rely s t) : Safe rely guarantee p post t := by
  cases p with
  | done a => exact stable a s t safe moved
  | act update next => exact fun u moved' => safe u (trans s t u moved moved')

/-- A program that is safe is safe after some of its actions. -/
theorem Safe.advance (refl : ∀ s, rely s s) (n : Nat) {p : Prog σ α} {post : α → σ → Prop} {s : σ}
    (safe : Safe rely guarantee p post s) :
    Safe rely guarantee (p.advance n s).1 post (p.advance n s).2 := by
  induction n generalizing p s with
  | zero => exact safe
  | succ n ih =>
    cases p with
    | done a => exact safe
    | act update next => exact ih (safe s (refl s)).2

/-- What every guaranteed action leaves holds after any number of actions. -/
theorem Safe.advance_leaves (refl : ∀ s, rely s s) {holds : σ → Prop}
    (leaves : ∀ s t, guarantee s t → holds t) (n : Nat) {p : Prog σ α} {post : α → σ → Prop} {s : σ}
    (safe : Safe rely guarantee p post s) (here : holds s) : holds (p.advance n s).2 := by
  induction n generalizing p s with
  | zero => exact here
  | succ n ih =>
    cases p with
    | done a => exact here
    | act update next =>
      have first := safe s (refl s)
      exact ih first.2 (leaves s _ first.1)

/-- Others act while a program is under way. -/
theorem Safe.disturbed (trans : ∀ r s t, rely r s → rely s t → rely r t) {p : Prog σ α}
    {post : α → σ → Prop} {s t : σ} (going : p.isDone = false)
    (safe : Safe rely guarantee p post s) (moved : rely s t) : Safe rely guarantee p post t := by
  cases p with
  | done a => cases going
  | act update next => exact fun u moved' => safe u (trans s t u moved moved')

end Safety

/-! ## Programs that leave a part of the state alone -/

/-- Every action of the program leaves `part` of the state as it was. -/
def Leaves {π : Type} (part : σ → π) : Prog σ α → Prop
  | done _ => True
  | act update next => (∀ s, part (update s) = part s) ∧ ∀ s, Leaves part (next s)

section Leaves

variable {π : Type} {part : σ → π}

theorem Leaves.bind {p : Prog σ α} {k : α → Prog σ β} (first : p.Leaves part)
    (rest : ∀ a, (k a).Leaves part) : (p >>= k).Leaves part := by
  induction p with
  | done a => exact rest a
  | act update next ih => exact ⟨first.1, fun s => ih s (first.2 s)⟩

theorem Leaves.step {f : σ → α × σ} (alone : ∀ s, part (f s).2 = part s) :
    (Prog.step f).Leaves part :=
  ⟨alone, fun _ => trivial⟩

/-- A program that leaves a part alone is safe for it, whatever it computes. -/
theorem Leaves.safe {rely guarantee : σ → σ → Prop} {p : Prog σ α} (leaves : p.Leaves part)
    (others : ∀ s t, rely s t → part t = part s) (keeps : ∀ s t, part t = part s → guarantee s t)
    (s : σ) : Safe rely guarantee p (fun _ t => part t = part s) s := by
  have from_same : ∀ (p : Prog σ α) (t : σ), p.Leaves part → part t = part s →
      Safe rely guarantee p (fun _ t => part t = part s) t := by
    intro p
    induction p with
    | done a => exact fun t _ same => same
    | act update next ih =>
      intro t leaves same u moved
      have here : part (update u) = part u := leaves.1 u
      exact ⟨keeps u (update u) here,
        ih u (update u) (leaves.2 u) (here.trans ((others t u moved).trans same))⟩
  exact from_same p s leaves rfl

/-- A program that leaves a part alone runs without changing it. -/
theorem Leaves.run {p : Prog σ α} (leaves : p.Leaves part) (s : σ) :
    part (p.run s).2 = part s := by
  induction p generalizing s with
  | done a => rfl
  | act update next ih => exact (ih s (leaves.2 s) (update s)).trans (leaves.1 s)

end Leaves

/-! ## Programs whose every action is of one kind -/

/-- Every action of the program, from any state, is one of `acts`. -/
def Every (acts : σ → σ → Prop) : Prog σ α → Prop
  | done _ => True
  | act update next => (∀ s, acts s (update s)) ∧ ∀ s, Every acts (next s)

section Every

variable {acts : σ → σ → Prop}

theorem Every.bind {p : Prog σ α} {k : α → Prog σ β} (first : p.Every acts)
    (rest : ∀ a, (k a).Every acts) : (p >>= k).Every acts := by
  induction p with
  | done a => exact rest a
  | act update next ih => exact ⟨first.1, fun s => ih s (first.2 s)⟩

theorem Every.step {f : σ → α × σ} (here : ∀ s, acts s (f s).2) : (Prog.step f).Every acts :=
  ⟨here, fun _ => trivial⟩

/-- Such a program is safe wherever it stands, whoever else acts. -/
theorem Every.safe {rely : σ → σ → Prop} {p : Prog σ α} (every : p.Every acts) (s : σ) :
    Safe rely acts p (fun _ _ => True) s := by
  induction p generalizing s with
  | done a => trivial
  | act update next ih => exact fun t _ => ⟨every.1 t, ih t (every.2 t) (update t)⟩

/-- Alone, such a program keeps what its actions keep. -/
theorem Every.alone {P : σ → Prop} {p : Prog σ α} (every : p.Every acts)
    (keeps : ∀ s t, acts s t → P s → P t) {s : σ} (here : P s) :
    Safe (· = ·) (fun _ _ => True) p (fun _ => P) s := by
  induction p generalizing s with
  | done a => exact here
  | act update next ih =>
    rintro _ rfl
    exact ⟨trivial, ih s (every.2 s) (keeps s _ (every.1 s) here)⟩

/-- A fact that others and the actions themselves keep stays beside whatever else is safe. -/
theorem Every.holds {rely guarantee : σ → σ → Prop} (holds : σ → Prop) {p : Prog σ α}
    (every : p.Every acts) (others : ∀ s t, holds s → rely s t → holds t)
    (keeps : ∀ s t, acts s t → holds s → holds t) {post : α → σ → Prop} {s : σ}
    (safe : Safe rely guarantee p post s) (here : holds s) :
    Safe rely guarantee p (fun a t => post a t ∧ holds t) s := by
  induction p generalizing s with
  | done a => exact ⟨safe, here⟩
  | act update next ih =>
    intro t moved
    obtain ⟨guaranteed, rest⟩ := safe t moved
    exact ⟨guaranteed, ih t (every.2 t) rest (keeps t _ (every.1 t) (others s t here moved))⟩

/-- Alone, such a program has what its actions keep after each of them. -/
theorem Every.alone_leaves {holds : σ → Prop} {p : Prog σ α} (every : p.Every acts)
    (keeps : ∀ s t, acts s t → holds s → holds t) {s : σ} (here : holds s) :
    Safe (· = ·) (fun _ t => holds t) p (fun _ t => holds t) s := by
  induction p generalizing s with
  | done a => exact here
  | act update next ih =>
    rintro _ rfl
    have kept := keeps s _ (every.1 s) here
    exact ⟨kept, ih s (every.2 s) kept⟩

end Every

/-! ## Programs on a component of the state -/

/-- A program on a component, as a program on the whole state. -/
def within {τ : Type} (get : σ → τ) (put : σ → τ → σ) : Prog τ α → Prog σ α
  | done a => done a
  | act update next =>
    act (fun s => put s (update (get s))) fun s => within get put (next (get s))

section Within

variable {τ : Type} {get : σ → τ} {put : σ → τ → σ}

theorem Leaves.within {π : Type} {part : σ → π} (apart : ∀ s t, part (put s t) = part s)
    (p : Prog τ α) : (p.within get put).Leaves part := by
  induction p with
  | done a => trivial
  | act update next ih => exact ⟨fun s => apart s _, fun s => ih (get s)⟩

theorem within_bind (p : Prog τ α) (k : α → Prog τ β) :
    (p >>= k).within get put = p.within get put >>= fun a => (k a).within get put := by
  show (p.bind k).within get put = (p.within get put).bind fun a => (k a).within get put
  induction p with
  | done a => rfl
  | act update next ih => exact congrArg (act _) (funext fun s => ih (get s))

theorem run_within (get_put : ∀ s t, get (put s t) = t) (put_put : ∀ s t u, put (put s t) u = put s u)
    (put_get : ∀ s, put s (get s) = s) (p : Prog τ α) (s : σ) :
    (p.within get put).run s = ((p.run (get s)).1, put s (p.run (get s)).2) := by
  induction p generalizing s with
  | done a => simp only [Prog.within, run, put_get]
  | act update next ih =>
    have rest := ih (get s) (put s (update (get s)))
    simp only [get_put, put_put] at rest
    exact rest

end Within

/-! ## Services -/

/-- Where a service stands: at rest, or in the middle of a call. -/
inductive Point (σ α : Type) where
  | rest (state : σ)
  | call (program : Prog σ α) (state : σ)

/-- The state at a point. -/
def Point.state : Point σ α → σ
  | .rest s => s
  | .call _ s => s

variable (rely : σ → σ → Prop) (calls : Prog σ α → Prop)

/-- One move of a service: others act, a call starts, takes an action, ends, or stops for good. -/
inductive Move : Point σ α → Point σ α → Prop where
  | others_rest {s t : σ} (moved : rely s t) : Move (.rest s) (.rest t)
  | others_call {p : Prog σ α} {s t : σ} (moved : rely s t) : Move (.call p s) (.call p t)
  | start {p : Prog σ α} (known : calls p) (s : σ) : Move (.rest s) (.call p s)
  | action (update : σ → σ) (next : σ → Prog σ α) (s : σ) :
      Move (.call (act update next) s) (.call (next s) (update s))
  | finish (a : α) (s : σ) : Move (.call (done a) s) (.rest s)
  | crash (p : Prog σ α) (s : σ) : Move (.call p s) (.rest s)

/-- The points a service reaches. -/
abbrev Reach : Point σ α → Point σ α → Prop := Relation.ReflTransGen (Move rely calls)

variable {rely calls}

theorem Reach.advance (n : Nat) (p : Prog σ α) (s : σ) :
    Reach rely calls (.call p s) (.call (p.advance n s).1 (p.advance n s).2) := by
  induction n generalizing p s with
  | zero => exact .refl
  | succ n ih =>
    cases p with
    | done a => exact .refl
    | act update next => exact .head (.action update next s) (ih (next s) (update s))

/-- A call that nobody interrupts or breaks off. -/
theorem Reach.run {p : Prog σ α} (known : calls p) (s : σ) :
    Reach rely calls (.rest s) (.rest (p.run s).2) := by
  have ends (p : Prog σ α) (s : σ) :
      Reach rely calls (.call p s) (.call (done (p.run s).1) (p.run s).2) := by
    induction p generalizing s with
    | done a => exact .refl
    | act update next ih => exact .head (.action update next s) (ih s (update s))
  exact .head (.start known s) ((ends p s).tail (.finish _ _))

/-- What makes a service keep an invariant: each call keeps the guarantee from every state with the
invariant, and both the guarantee and the others preserve it. -/
structure Keeps (rely guarantee : σ → σ → Prop) (inv : σ → Prop) (calls : Prog σ α → Prop) :
    Prop where
  refl : ∀ s, rely s s
  trans : ∀ r s t, rely r s → rely s t → rely r t
  others : ∀ s t, inv s → rely s t → inv t
  actions : ∀ s t, inv s → guarantee s t → inv t
  safe : ∀ p, calls p → ∀ s, inv s → Safe rely guarantee p (fun _ _ => True) s

/-- A point of a service: the invariant holds, and a call under way is safe from here. -/
structure Kept (rely guarantee : σ → σ → Prop) (inv : σ → Prop) (point : Point σ α) : Prop where
  inv : inv point.state
  safe : ∀ p s, point = .call p s → Safe rely guarantee p (fun _ _ => True) s

section Keeps

variable {guarantee : σ → σ → Prop} {inv : σ → Prop} {here there : Point σ α}

theorem Kept.rest {s : σ} (holds : inv s) :
    Kept rely guarantee inv (.rest s : Point σ α) :=
  ⟨holds, fun _ _ wrong => nomatch wrong⟩

/-- The action that a call takes next is a guaranteed one. -/
theorem Kept.action {update : σ → σ} {next : σ → Prog σ α} {s : σ} (refl : ∀ s, rely s s)
    (kept : Kept rely guarantee inv (.call (act update next) s)) : guarantee s (update s) :=
  (kept.safe _ _ rfl s (refl s)).1

/-- What one move does to the state: an action of others, or a guaranteed action. -/
theorem Keeps.move (service : Keeps rely guarantee inv calls) (kept : Kept rely guarantee inv here)
    (move : Move rely calls here there) :
    Kept rely guarantee inv there ∧
      (rely here.state there.state ∨ guarantee here.state there.state) := by
  cases move with
  | others_rest moved => exact ⟨.rest (service.others _ _ kept.inv moved), .inl moved⟩
  | others_call moved =>
    refine ⟨⟨service.others _ _ kept.inv moved, fun p s same => ?_⟩, .inl moved⟩
    cases same
    exact (kept.safe _ _ rfl).after_rely service.trans (fun _ _ _ _ _ => trivial) moved
  | start known s =>
    refine ⟨⟨kept.inv, fun p s same => ?_⟩, .inl (service.refl _)⟩
    cases same
    exact service.safe _ known _ kept.inv
  | action update next s =>
    obtain ⟨guaranteed, rest⟩ := kept.safe _ _ rfl s (service.refl s)
    refine ⟨⟨service.actions _ _ kept.inv guaranteed, fun p s same => ?_⟩, .inr guaranteed⟩
    cases same
    exact rest
  | finish a s => exact ⟨.rest kept.inv, .inl (service.refl _)⟩
  | crash p s => exact ⟨.rest kept.inv, .inl (service.refl _)⟩

/-- **The rule for services**: the invariant holds at every point reached from a kept one. -/
theorem Keeps.reach (service : Keeps rely guarantee inv calls) (kept : Kept rely guarantee inv here)
    (reach : Reach rely calls here there) : Kept rely guarantee inv there := by
  induction reach with
  | refl => exact kept
  | tail _ move ih => exact (service.move ih move).1

/-- What others and guaranteed actions preserve holds on along the run. -/
theorem Keeps.along (service : Keeps rely guarantee inv calls) (holds : σ → Prop)
    (others : ∀ s t, holds s → rely s t → holds t)
    (actions : ∀ s t, holds s → guarantee s t → holds t)
    (kept : Kept rely guarantee inv here) (reach : Reach rely calls here there)
    (held : holds here.state) : holds there.state := by
  induction reach with
  | refl => exact held
  | tail reached move ih =>
    rcases (service.move (service.reach kept reached) move).2 with moved | acted
    · exact others _ _ ih moved
    · exact actions _ _ ih acted

end Keeps

/-! ## Services under a condition on the run -/

section Calm

variable (rely : σ → σ → Prop) (calls : Prog σ α → Prop) (calm inv : σ → Prop)

/-- A move of a service that leads to a calm state, and breaks a call off only where the invariant
holds. -/
structure CalmMove (here there : Point σ α) : Prop where
  move : Move rely calls here there
  leads : calm there.state
  stops : ∀ p s, here = .call p s → there = .rest s → p.isDone = false → inv s

/-- Others, kept calm. -/
def calmly (s t : σ) : Prop := calm s ∧ rely s t ∧ calm t

/-- What makes a service keep an invariant at rest, and its results a postcondition, in calm runs:
each call comes back to the invariant when nothing but calm states lie between. -/
structure CalmKeeps (post : α → Prop) : Prop where
  refl : ∀ s, rely s s
  trans : ∀ r s t, rely r s → rely s t → rely r t
  others : ∀ s t, inv s → calmly rely calm s t → inv t
  safe : ∀ p, calls p → ∀ s, calm s → inv s →
    Safe (calmly rely calm) (fun _ _ => True) p (fun a t => calm t → inv t ∧ post a) s

/-- A point of a calm run. -/
inductive CalmKept (post : α → Prop) : Point σ α → Prop where
  | rest (s : σ) (settled : calm s) (held : inv s) : CalmKept post (.rest s)
  | call (p : Prog σ α) (s : σ) (settled : calm s)
      (safe : Safe (calmly rely calm) (fun _ _ => True) p (fun a t => calm t → inv t ∧ post a) s) :
      CalmKept post (.call p s)

variable {rely calls calm inv} {post : α → Prop} {here there : Point σ α}

theorem calmly_trans (trans : ∀ r s t, rely r s → rely s t → rely r t) (r s t : σ)
    (first : calmly rely calm r s) (second : calmly rely calm s t) : calmly rely calm r t :=
  ⟨first.1, trans r s t first.2.1 second.2.1, second.2.2⟩

theorem CalmKeeps.move (service : CalmKeeps rely calls calm inv post)
    (kept : CalmKept rely calm inv post here) (move : CalmMove rely calls calm inv here there) :
    CalmKept rely calm inv post there := by
  obtain ⟨moved, leads, stops⟩ := move
  cases kept with
  | rest s settled held =>
    cases moved with
    | others_rest acted => exact .rest _ leads (service.others _ _ held ⟨settled, acted, leads⟩)
    | start known => exact .call _ _ settled (service.safe _ known _ settled held)
  | call p s settled safe =>
    cases moved with
    | others_call acted =>
      have between : calmly rely calm s _ := ⟨settled, acted, leads⟩
      refine .call _ _ leads (safe.after_rely (calmly_trans service.trans) ?_ between)
      intro a s t ends between _
      obtain ⟨held, result⟩ := ends between.1
      exact ⟨service.others _ _ held between, result⟩
    | action update next => exact .call _ _ leads (safe s ⟨settled, service.refl s, settled⟩).2
    | finish a => exact .rest _ leads (safe settled).1
    | crash =>
      refine .rest _ leads ?_
      cases ended : p.isDone with
      | false => exact stops p s rfl rfl ended
      | true =>
        cases p with
        | done a => exact (safe settled).1
        | act update next => cases ended

/-- **The rule for calm runs.** -/
theorem CalmKeeps.reach (service : CalmKeeps rely calls calm inv post)
    (kept : CalmKept rely calm inv post here)
    (reach : Relation.ReflTransGen (CalmMove rely calls calm inv) here there) :
    CalmKept rely calm inv post there := by
  induction reach with
  | refl => exact kept
  | tail _ move ih => exact service.move ih move

/-- Actions with nobody else acting, through calm states. -/
theorem calm_advance (n : Nat) (p : Prog σ α) (s : σ)
    (settled : ∀ k, k ≤ n → calm (p.advance k s).2) :
    Relation.ReflTransGen (CalmMove rely calls calm inv) (.call p s)
      (.call (p.advance n s).1 (p.advance n s).2) := by
  induction n generalizing p s with
  | zero => exact .refl
  | succ n ih =>
    cases p with
    | done a => exact .refl
    | act update next =>
      refine .head ⟨.action update next s, settled 1 (by omega), fun _ _ _ wrong => nomatch wrong⟩
        (ih (next s) (update s) fun k below => settled (k + 1) (by omega))

/-- At rest the invariant holds. -/
theorem CalmKept.inv_rest {s : σ} (kept : CalmKept rely calm inv post (.rest s)) : inv s := by
  cases kept with
  | rest _ _ held => exact held

/-- A call that has ended meets the postcondition. -/
theorem CalmKept.result {a : α} {s : σ} (kept : CalmKept rely calm inv post (.call (.done a) s)) :
    post a := by
  cases kept with
  | call _ _ settled safe => exact (safe settled).2

end Calm

end Prog

end Lib
