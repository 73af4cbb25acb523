import SyncApp.Lib.Prog

/-!
# Programs that raise

`Raising ε σ α` is a program on `σ` that returns an `α` or raises an `ε`. `eval` runs it alone;
`Ensures` says what it keeps while others act between its actions, with a postcondition on both
ways to end. Each has one rule for every construct: return, raise, bind and catch.
-/

set_option autoImplicit false

namespace Lib

abbrev Raising (ε σ α : Type) := ExceptT ε (Prog σ) α

namespace Raising

variable {ε σ τ α β : Type}

/-- One atomic action that may raise. -/
def action (f : σ → Except ε α × σ) : Raising ε σ α := ExceptT.mk (Prog.step f)

/-- A result that is there without acting. -/
def ofResult (result : Except ε α) : Raising ε σ α := ExceptT.mk (pure result)

/-- A program on a component of the state. -/
def within (get : σ → τ) (put : σ → τ → σ) (p : Raising ε τ α) : Raising ε σ α :=
  ExceptT.mk (Prog.within get put p.run)

/-- A result that was bound came from a result. -/
theorem bind_eq_ok {x : Except ε α} {f : α → Except ε β} {b : β} :
    (x >>= f) = .ok b ↔ ∃ a, x = .ok a ∧ f a = .ok b := by
  cases x with
  | error e =>
    constructor
    · intro bound
      cases bound
    · rintro ⟨_, wrong, _⟩
      cases wrong
  | ok a =>
    constructor
    · intro bound
      exact ⟨a, rfl, bound⟩
    · rintro ⟨_, same, rest⟩
      cases same
      exact rest

theorem mapError_eq_ok {ε' : Type} {x : Except ε α} {f : ε → ε'} {a : α} :
    x.mapError f = .ok a ↔ x = .ok a := by
  cases x with
  | error e =>
    constructor
    · intro mapped
      cases mapped
    · intro wrong
      cases wrong
  | ok b =>
    constructor
    · intro mapped
      cases mapped
      rfl
    · intro same
      cases same
      rfl

/-- The results of a traversal are those of its items. -/
theorem mem_of_mapM_eq_ok {f : α → Except ε β} {items : List α} {results : List β}
    (traversed : items.mapM f = .ok results) (b : β) :
    b ∈ results ↔ ∃ a ∈ items, f a = .ok b := by
  induction items generalizing results with
  | nil =>
    cases traversed
    simp
  | cons item items ih =>
    rw [List.mapM_cons, bind_eq_ok] at traversed
    obtain ⟨result, here, traversed⟩ := traversed
    obtain ⟨rest, there, same⟩ := bind_eq_ok.mp traversed
    cases same
    rw [List.mem_cons, ih there]
    constructor
    · rintro (rfl | ⟨a, member, found⟩)
      · exact ⟨item, List.mem_cons_self, here⟩
      · exact ⟨a, List.mem_cons_of_mem _ member, found⟩
    · rintro ⟨a, member, found⟩
      obtain rfl | member := List.mem_cons.mp member
      · rw [here] at found
        cases found
        exact .inl rfl
      · exact .inr ⟨a, member, found⟩

/-- A traversal that succeeds does so at each item. -/
theorem ok_of_mapM_eq_ok {f : α → Except ε β} {items : List α} {results : List β}
    (traversed : items.mapM f = .ok results) : ∀ a ∈ items, ∃ b, f a = .ok b := by
  induction items generalizing results with
  | nil => exact fun _ wrong => absurd wrong List.not_mem_nil
  | cons item items ih =>
    rw [List.mapM_cons, bind_eq_ok] at traversed
    obtain ⟨result, here, traversed⟩ := traversed
    obtain ⟨rest, there, -⟩ := bind_eq_ok.mp traversed
    exact List.forall_mem_cons.mpr ⟨⟨result, here⟩, ih there⟩

/-! ## Running alone -/

/-- Runs the program with nobody else acting. -/
def eval (p : Raising ε σ α) (s : σ) : Except ε α × σ := Prog.run p.run s

@[simp] theorem eval_pure (a : α) (s : σ) : (pure a : Raising ε σ α).eval s = (.ok a, s) := rfl

@[simp] theorem eval_throw (e : ε) (s : σ) :
    (throw e : Raising ε σ α).eval s = (.error e, s) := rfl

@[simp] theorem eval_action (f : σ → Except ε α × σ) (s : σ) :
    (action f : Raising ε σ α).eval s = f s := rfl

@[simp] theorem eval_ofResult (result : Except ε α) (s : σ) :
    (ofResult result : Raising ε σ α).eval s = (result, s) := rfl

theorem eval_bind (p : Raising ε σ α) (k : α → Raising ε σ β) (s : σ) :
    (p >>= k).eval s = match (p.eval s).1 with
      | .ok a => (k a).eval (p.eval s).2
      | .error e => (.error e, (p.eval s).2) := by
  show Prog.run (Prog.bind p.run (ExceptT.bindCont k)) s = _
  have bound := Prog.run_bind p.run (ExceptT.bindCont k) s
  refine bound.trans ?_
  unfold eval
  cases (Prog.run p.run s).1 with
  | ok a => rfl
  | error e => rfl

theorem eval_tryCatch (p : Raising ε σ α) (h : ε → Raising ε σ α) (s : σ) :
    (tryCatch p h).eval s = match (p.eval s).1 with
      | .ok a => (.ok a, (p.eval s).2)
      | .error e => (h e).eval (p.eval s).2 := by
  have bound := Prog.run_bind p.run (fun result => match result with
    | .ok a => (pure (.ok a) : Prog σ (Except ε α))
    | .error e => (h e).run) s
  refine Eq.trans ?_ (bound.trans ?_)
  · rfl
  · unfold eval
    cases (Prog.run p.run s).1 with
    | ok a => rfl
    | error e => rfl

theorem eval_bind_ok {p : Raising ε σ α} {k : α → Raising ε σ β} {s t : σ} {a : α}
    (ran : p.eval s = (.ok a, t)) : (p >>= k).eval s = (k a).eval t := by
  rw [eval_bind, ran]

theorem eval_bind_error {p : Raising ε σ α} {k : α → Raising ε σ β} {s t : σ} {e : ε}
    (ran : p.eval s = (.error e, t)) : (p >>= k).eval s = (.error e, t) := by
  rw [eval_bind, ran]

theorem eval_tryCatch_ok {p : Raising ε σ α} {h : ε → Raising ε σ α} {s t : σ} {a : α}
    (ran : p.eval s = (.ok a, t)) : (tryCatch p h).eval s = (.ok a, t) := by
  rw [eval_tryCatch, ran]

theorem eval_tryCatch_error {p : Raising ε σ α} {h : ε → Raising ε σ α} {s t : σ} {e : ε}
    (ran : p.eval s = (.error e, t)) : (tryCatch p h).eval s = (h e).eval t := by
  rw [eval_tryCatch, ran]

theorem eval_bind_eq_ok {p : Raising ε σ α} {k : α → Raising ε σ β} {s t : σ} {b : β} :
    (p >>= k).eval s = (.ok b, t) ↔ ∃ a u, p.eval s = (.ok a, u) ∧ (k a).eval u = (.ok b, t) := by
  rw [eval_bind]
  cases ran : p.eval s with
  | mk result u =>
    cases result with
    | ok a =>
      constructor
      · intro rest
        exact ⟨a, u, rfl, rest⟩
      · rintro ⟨a', u', same, rest⟩
        cases same
        exact rest
    | error e =>
      constructor
      · intro wrong
        cases wrong
      · rintro ⟨_, _, wrong, _⟩
        cases wrong

theorem eval_bind_eq_error {p : Raising ε σ α} {k : α → Raising ε σ β} {s t : σ} {e : ε} :
    (p >>= k).eval s = (.error e, t) ↔ p.eval s = (.error e, t) ∨
      ∃ a u, p.eval s = (.ok a, u) ∧ (k a).eval u = (.error e, t) := by
  rw [eval_bind]
  cases ran : p.eval s with
  | mk result u =>
    cases result with
    | ok a =>
      constructor
      · intro rest
        exact .inr ⟨a, u, rfl, rest⟩
      · rintro (wrong | ⟨a', u', same, rest⟩)
        · cases wrong
        · cases same
          exact rest
    | error e => simp

/-! ### Programs that only look -/

/-- The program changes nothing, whatever it returns. -/
def Looks (p : Raising ε σ α) : Prop := ∀ s, (p.eval s).2 = s

theorem Looks.pure (a : α) : Looks (pure a : Raising ε σ α) := fun _ => rfl

theorem Looks.throw (e : ε) : Looks (throw e : Raising ε σ α) := fun _ => rfl

theorem Looks.ofResult (result : Except ε α) : Looks (ofResult result : Raising ε σ α) := fun _ => rfl

theorem Looks.bind {p : Raising ε σ α} {k : α → Raising ε σ β} (first : Looks p)
    (rest : ∀ a, Looks (k a)) : Looks (p >>= k) := by
  intro s
  rw [eval_bind]
  cases ran : (p.eval s).1 with
  | ok a => exact (rest a _).trans (first s)
  | error e => exact first s

theorem Looks.tryCatch {p : Raising ε σ α} {h : ε → Raising ε σ α} (first : Looks p)
    (handled : ∀ e, Looks (h e)) : Looks (tryCatch p h) := by
  intro s
  rw [eval_tryCatch]
  cases ran : (p.eval s).1 with
  | ok a => exact first s
  | error e => exact (handled e _).trans (first s)

/-- What a look returns is all there is to it. -/
theorem Looks.eval {p : Raising ε σ α} (looks : Looks p) {s : σ} {result : Except ε α}
    (returned : (p.eval s).1 = result) : p.eval s = (result, s) :=
  Prod.ext returned (looks s)

theorem eval_within {get : σ → τ} {put : σ → τ → σ} (get_put : ∀ s t, get (put s t) = t)
    (put_put : ∀ s t u, put (put s t) u = put s u) (put_get : ∀ s, put s (get s) = s)
    (p : Raising ε τ α) (s : σ) :
    (p.within get put).eval s = ((p.eval (get s)).1, put s (p.eval (get s)).2) :=
  Prog.run_within get_put put_put put_get p.run s

section Within

variable {get : σ → τ} {put : σ → τ → σ}

theorem within_bind (p : Raising ε τ α) (k : α → Raising ε τ β) :
    (p >>= k).within get put = p.within get put >>= fun a => (k a).within get put := by
  refine (@Prog.within_bind _ _ _ _ get put p.run (ExceptT.bindCont k)).trans ?_
  refine congrArg (Prog.bind _) (funext fun result => ?_)
  cases result with
  | ok a => rfl
  | error e => rfl

theorem within_tryCatch (p : Raising ε τ α) (h : ε → Raising ε τ α) :
    (tryCatch p h).within get put =
      tryCatch (p.within get put) fun e => (h e).within get put := by
  refine (@Prog.within_bind _ _ _ _ get put p.run _).trans ?_
  refine congrArg (Prog.bind _) (funext fun result => ?_)
  cases result with
  | ok a => rfl
  | error e => rfl

end Within

/-! ## Among others -/

section Ensures

variable (rely guarantee : σ → σ → Prop)

/-- With others acting between its actions, the program keeps the guarantee and ends, by return or
by raise, in the postcondition. -/
def Ensures (p : Raising ε σ α) (post : Except ε α → σ → Prop) (s : σ) : Prop :=
  Prog.Safe rely guarantee p.run post s

variable {rely guarantee}

theorem Ensures.pure {a : α} {post : Except ε α → σ → Prop} {s : σ} (holds : post (.ok a) s) :
    Ensures rely guarantee (pure a) post s := holds

theorem Ensures.throw {e : ε} {post : Except ε α → σ → Prop} {s : σ}
    (holds : post (.error e) s) : Ensures rely guarantee (throw e) post s := holds

theorem Ensures.ofResult {result : Except ε α} {post : Except ε α → σ → Prop} {s : σ}
    (holds : post result s) : Ensures rely guarantee (ofResult result) post s := holds

theorem Ensures.action {f : σ → Except ε α × σ} {post : Except ε α → σ → Prop} {s : σ}
    (holds : ∀ t, rely s t → guarantee t (f t).2 ∧ post (f t).1 (f t).2) :
    Ensures rely guarantee (action f) post s := Prog.Safe.step holds

theorem Ensures.mono {p : Raising ε σ α} {m post : Except ε α → σ → Prop} {s : σ}
    (ensured : Ensures rely guarantee p m s) (weaker : ∀ r s, m r s → post r s) :
    Ensures rely guarantee p post s := Prog.Safe.mono ensured weaker

theorem Ensures.bind {p : Raising ε σ α} {k : α → Raising ε σ β}
    {post : Except ε β → σ → Prop} {s : σ}
    (ensured : Ensures rely guarantee p (fun r t => match r with
      | .ok a => Ensures rely guarantee (k a) post t
      | .error e => post (.error e) t) s) :
    Ensures rely guarantee (p >>= k) post s := by
  refine Prog.Safe.bind (Prog.Safe.mono ensured fun r t ends => ?_)
  cases r with
  | ok a => exact ends
  | error e => exact ends

theorem Ensures.tryCatch {p : Raising ε σ α} {h : ε → Raising ε σ α}
    {post : Except ε α → σ → Prop} {s : σ}
    (ensured : Ensures rely guarantee p (fun r t => match r with
      | .ok a => post (.ok a) t
      | .error e => Ensures rely guarantee (h e) post t) s) :
    Ensures rely guarantee (tryCatch p h) post s := by
  refine Prog.Safe.bind (Prog.Safe.mono ensured fun r t ends => ?_)
  cases r with
  | ok a => exact ends
  | error e => exact ends

/-- Running alone is one of the ways to run among others. -/
theorem Ensures.eval {p : Raising ε σ α} {post : Except ε α → σ → Prop} {s : σ}
    (refl : ∀ s, rely s s) (ensured : Ensures rely guarantee p post s) :
    post (p.eval s).1 (p.eval s).2 := Prog.Safe.run refl ensured

/-- A program on a component keeps every part of the state that the component is apart from. -/
theorem Ensures.within {π : Type} {part : σ → π} {get : σ → τ} {put : σ → τ → σ}
    (apart : ∀ s t, part (put s t) = part s) (others : ∀ s t, rely s t → part t = part s)
    (keeps : ∀ s t, part t = part s → guarantee s t) (p : Raising ε τ α) (s : σ) :
    Ensures rely guarantee (p.within get put) (fun _ t => part t = part s) s :=
  (Prog.Leaves.within apart p.run).safe others keeps s

end Ensures

/-! ## Programs whose every action is of one kind -/

section Every

variable {acts rely : σ → σ → Prop}

/-- Every action of the program, from any state, is one of `acts`. -/
def Every (acts : σ → σ → Prop) (p : Raising ε σ α) : Prop := Prog.Every acts p.run

theorem Every.pure (a : α) : Every acts (pure a : Raising ε σ α) := trivial

theorem Every.throw (e : ε) : Every acts (throw e : Raising ε σ α) := trivial

theorem Every.ofResult (result : Except ε α) : Every acts (ofResult result : Raising ε σ α) :=
  trivial

theorem Every.action {f : σ → Except ε α × σ} (here : ∀ s, acts s (f s).2) :
    Every acts (action f) := Prog.Every.step here

theorem Every.bind {p : Raising ε σ α} {k : α → Raising ε σ β} (first : Every acts p)
    (rest : ∀ a, Every acts (k a)) : Every acts (p >>= k) := by
  refine Prog.Every.bind first fun result => ?_
  cases result with
  | ok a => exact rest a
  | error e => trivial

/-- What follows an action starts from one of its results. -/
theorem Every.action_bind {f : σ → Except ε α × σ} {k : α → Raising ε σ β}
    (here : ∀ s, acts s (f s).2) (rest : ∀ s a, (f s).1 = .ok a → Every acts (k a)) :
    Every acts (Raising.action f >>= k) := by
  refine ⟨here, fun s => ?_⟩
  cases taken : (f s).1 with
  | error e =>
    have ends : Prog.Every acts (Prog.bind (Prog.done (f s).1) (ExceptT.bindCont k)) := by
      rw [taken]
      trivial
    exact ends
  | ok a =>
    have goes : Prog.Every acts (Prog.bind (Prog.done (f s).1) (ExceptT.bindCont k)) := by
      rw [taken]
      exact rest s a taken
    exact goes

theorem Every.tryCatch {p : Raising ε σ α} {h : ε → Raising ε σ α} (first : Every acts p)
    (handled : ∀ e, Every acts (h e)) : Every acts (tryCatch p h) := by
  refine Prog.Every.bind first fun result => ?_
  cases result with
  | ok a => trivial
  | error e => exact handled e

theorem Every.ensures {p : Raising ε σ α} (every : Every acts p) (s : σ) :
    Ensures rely acts p (fun _ _ => True) s := Prog.Every.safe every s

theorem Every.alone {P : σ → Prop} {p : Raising ε σ α} (every : Every acts p)
    (keeps : ∀ s t, acts s t → P s → P t) {s : σ} (here : P s) :
    Ensures (· = ·) (fun _ _ => True) p (fun _ => P) s := Prog.Every.alone every keeps here

end Every

/-! ## What a program carries among others -/

section Conveys

variable {rely : σ → σ → Prop} {inv fact : σ → Prop}

/-- A fact that no action of others undoes. -/
def Lasts (rely : σ → σ → Prop) (fact : σ → Prop) : Prop := ∀ s t, fact s → rely s t → fact t

/-- Among others, every action of the program keeps an invariant, and from a fact that holds when it
starts, the program returns with another. Nothing but the invariant holds where it raises. -/
def Conveys (rely : σ → σ → Prop) (inv : σ → Prop) (p : Raising ε σ α) (before : σ → Prop)
    (after : α → σ → Prop) : Prop :=
  ∀ s, inv s → before s →
    Ensures rely (fun _ t => inv t) p (fun r t => inv t ∧ ∀ a, r = .ok a → after a t) s

theorem Lasts.true : Lasts rely fun _ => True := fun _ _ _ _ => trivial

theorem Lasts.and {one two : σ → Prop} (first : Lasts rely one) (second : Lasts rely two) :
    Lasts rely fun s => one s ∧ two s :=
  fun s t both moved => ⟨first s t both.1 moved, second s t both.2 moved⟩

variable {before : σ → Prop} {after : α → σ → Prop} {p : Raising ε σ α}

theorem Conveys.pure {a : α} (here : ∀ s, before s → after a s) :
    Conveys rely inv (pure a : Raising ε σ α) before after := by
  intro s holds known
  refine Ensures.pure ⟨holds, fun b same => ?_⟩
  cases same
  exact here s known

theorem Conveys.throw {e : ε} :
    Conveys rely inv (throw e : Raising ε σ α) before after := by
  intro s holds known
  refine Ensures.throw ⟨holds, fun a wrong => ?_⟩
  cases wrong

theorem Conveys.ofResult {result : Except ε α}
    (here : ∀ a s, result = .ok a → before s → after a s) :
    Conveys rely inv (Raising.ofResult result) before after :=
  fun s holds known => Ensures.ofResult ⟨holds, fun a same => here a s same known⟩

theorem Conveys.action {f : σ → Except ε α × σ} (kept : Lasts rely inv)
    (lasting : Lasts rely before)
    (here : ∀ s, inv s → before s → inv (f s).2 ∧ ∀ a, (f s).1 = .ok a → after a (f s).2) :
    Conveys rely inv (Raising.action f) before after := by
  intro s holds known
  refine Ensures.action fun t moved => ?_
  have left := here t (kept s t holds moved) (lasting s t known moved)
  exact ⟨left.1, left⟩

theorem Conveys.bind (after : α → σ → Prop) {k : α → Raising ε σ β} {ends : β → σ → Prop}
    (first : Conveys rely inv p before after) (rest : ∀ a, Conveys rely inv (k a) (after a) ends) :
    Conveys rely inv (p >>= k) before ends := by
  intro s holds known
  refine Ensures.bind ((first s holds known).mono fun result t left => ?_)
  cases result with
  | ok a => exact rest a t left.1 (left.2 a rfl)
  | error e => exact ⟨left.1, fun a wrong => by cases wrong⟩

theorem Conveys.tryCatch {h : ε → Raising ε σ α} (first : Conveys rely inv p before after)
    (handled : ∀ e, Conveys rely inv (h e) (fun _ => True) after) :
    Conveys rely inv (tryCatch p h) before after := by
  intro s holds known
  refine Ensures.tryCatch ((first s holds known).mono fun result t left => ?_)
  cases result with
  | ok a => exact left
  | error e => exact handled e t left.1 trivial

theorem Conveys.weaken {earlier : σ → Prop} {later : α → σ → Prop}
    (conveys : Conveys rely inv p before after) (stronger : ∀ s, earlier s → before s)
    (weaker : ∀ a s, after a s → later a s) : Conveys rely inv p earlier later := by
  intro s holds known
  refine (conveys s holds (stronger s known)).mono fun result t left => ?_
  exact ⟨left.1, fun a same => weaker a t (left.2 a same)⟩

/-- A check that raises where it fails. -/
theorem Conveys.guard {condition : Prop} [Decidable condition] {e : ε}
    {rest : PUnit → Raising ε σ β} {ends : β → σ → Prop}
    (passed : Conveys rely inv (rest ⟨⟩) before ends) :
    Conveys rely inv
      (if condition then (MonadExcept.throw e : Raising ε σ PUnit) >>= rest else rest ⟨⟩)
      before ends := by
  split
  · refine Conveys.bind (fun _ _ => False) Conveys.throw fun _ => ?_
    exact fun _ _ wrong => wrong.elim
  · exact passed

/-- A fact that others and the program's own actions keep stays beside what it carries. -/
theorem Conveys.beside {acts : σ → σ → Prop} (fact : σ → Prop) (lasting : Lasts rely fact)
    (keeps : ∀ s t, acts s t → fact s → fact t) (every : Every acts p)
    (conveys : Conveys rely inv p before after) :
    Conveys rely inv p (fun s => before s ∧ fact s) fun a s => after a s ∧ fact s := by
  intro s holds known
  have both := Prog.Every.holds fact every lasting keeps (conveys s holds known.1) known.2
  exact both.mono fun result t left => ⟨left.1.1, fun a same => ⟨left.1.2 a same, left.2⟩⟩

end Conveys

end Raising

end Lib
