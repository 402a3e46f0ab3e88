import Mathlib.Init

/-! # Computations on a state that may raise

An exception leaves the state as it is when it is raised. -/

def Stateful (σ ε α : Type) := σ → Except ε α × σ

namespace Stateful

variable {σ ε α β : Type}

protected def bind (x : Stateful σ ε α) (f : α → Stateful σ ε β) : Stateful σ ε β := fun s =>
  match x s with
  | (.ok a, t) => f a t
  | (.error e, t) => (.error e, t)

instance : Monad (Stateful σ ε) where
  pure a := fun s => (.ok a, s)
  bind := Stateful.bind

instance : MonadLift (Except ε) (Stateful σ ε) := ⟨fun x s => (x, s)⟩

def get : Stateful σ ε σ := fun s => (.ok s, s)

def set (t : σ) : Stateful σ ε Unit := fun _ => (.ok (), t)

def raise (e : ε) : Stateful σ ε α := fun s => (.error e, s)

@[simp] theorem run_pure (a : α) (s : σ) : (pure a : Stateful σ ε α) s = (.ok a, s) := rfl

@[simp] theorem run_raise (e : ε) (s : σ) : (raise e : Stateful σ ε α) s = (.error e, s) := rfl

@[simp] theorem run_lift (x : Except ε α) (s : σ) : (liftM x : Stateful σ ε α) s = (x, s) := rfl

@[simp] theorem run_set (t s : σ) : (set t : Stateful σ ε Unit) s = (.ok (), t) := rfl

theorem run_get_bind (f : σ → Stateful σ ε β) (s : σ) : (get >>= f) s = f s s := rfl

theorem run_set_bind (f : Unit → Stateful σ ε β) (t s : σ) : (set t >>= f) s = f () t := rfl

variable {x : Stateful σ ε α} {f : α → Stateful σ ε β} {s t : σ}

theorem run_bind_of_ok {a : α} (h : x s = (.ok a, t)) : (x >>= f) s = f a t := by
  change Stateful.bind x f s = _
  rw [Stateful.bind, h]

theorem run_bind_of_error {e : ε} (h : x s = (.error e, t)) : (x >>= f) s = (.error e, t) := by
  change Stateful.bind x f s = _
  rw [Stateful.bind, h]

theorem run_lift_bind_of_ok {y : Except ε α} {a : α} (h : y = .ok a) :
    ((liftM y : Stateful σ ε α) >>= f) s = f a s :=
  run_bind_of_ok (congrArg (·, s) h)

theorem run_lift_bind_of_error {y : Except ε α} {e : ε} (h : y = .error e) :
    ((liftM y : Stateful σ ε α) >>= f) s = (.error e, s) :=
  run_bind_of_error (congrArg (·, s) h)

end Stateful

/-! # Postconditions of computations that may raise -/

namespace Stateful

variable {σ ε α β : Type} {x : Stateful σ ε α} {f : α → Stateful σ ε β} {s : σ}

/-- `Q` holds of how a computation ends and of the state it leaves. -/
def Post (x : Stateful σ ε α) (s : σ) (Q : Except ε α → σ → Prop) : Prop := Q (x s).1 (x s).2

/-- The handler runs in the state in which the exception was raised. -/
protected def tryCatch (x : Stateful σ ε α) (handler : ε → Stateful σ ε α) : Stateful σ ε α :=
  fun s =>
    match x s with
    | (.ok a, t) => (.ok a, t)
    | (.error e, t) => handler e t

variable {Q R : Except ε α → σ → Prop}

theorem Post.imp (h : x.Post s Q) (himp : ∀ result t, Q result t → R result t) : x.Post s R :=
  himp _ _ h

theorem Post.and (hQ : x.Post s Q) (hR : x.Post s R) :
    x.Post s fun result t => Q result t ∧ R result t :=
  ⟨hQ, hR⟩

variable {Q : Except ε β → σ → Prop}

theorem Post.bind {R : Except ε α → σ → Prop} (hx : x.Post s R)
    (hok : ∀ a t, R (.ok a) t → (f a).Post t Q)
    (herror : ∀ e t, R (.error e) t → Q (.error e) t) : (x >>= f).Post s Q := by
  change Q (Stateful.bind x f s).1 (Stateful.bind x f s).2
  rw [Post] at hx
  rw [Stateful.bind]
  rcases hrun : x s with ⟨result, t⟩
  rw [hrun] at hx
  cases result with
  | ok a => exact hok a t hx
  | error e => exact herror e t hx

theorem Post.lift_bind {y : Except ε α} (hok : ∀ a, y = .ok a → (f a).Post s Q)
    (herror : ∀ e, y = .error e → Q (.error e) s) :
    ((liftM y : Stateful σ ε α) >>= f).Post s Q := by
  cases y with
  | ok a => exact hok a rfl
  | error e => exact herror e rfl

theorem Post.of_assoc {γ : Type} {g : β → Stateful σ ε γ} {R : Except ε γ → σ → Prop}
    (h : ((x >>= f) >>= g).Post s R) : (x >>= fun a => f a >>= g).Post s R := by
  have hrun : ((x >>= f) >>= g) s = (x >>= fun a => f a >>= g) s := by
    change Stateful.bind (Stateful.bind x f) g s = Stateful.bind x (fun a => f a >>= g) s
    simp only [Stateful.bind]
    rcases x s with ⟨result, t⟩
    cases result <;> rfl
  rwa [Post, hrun] at h

theorem post_get_bind {g : σ → Stateful σ ε β} (h : (g s).Post s Q) : (get >>= g).Post s Q := h

theorem post_set_bind {g : Unit → Stateful σ ε β} {t : σ} (h : (g ()).Post t Q) :
    (set t >>= g).Post s Q := h

theorem Post.tryCatch {y : Stateful σ ε β} {handler : ε → Stateful σ ε β}
    {R : Except ε β → σ → Prop} (hy : y.Post s R) (hok : ∀ a t, R (.ok a) t → Q (.ok a) t)
    (herror : ∀ e t, R (.error e) t → (handler e).Post t Q) : (y.tryCatch handler).Post s Q := by
  rw [Post] at hy
  rw [Post, Stateful.tryCatch]
  rcases hrun : y s with ⟨result, t⟩
  rw [hrun] at hy
  cases result with
  | ok a => exact hok a t hy
  | error e => exact herror e t hy

def modify (f : σ → σ) : Stateful σ ε Unit := fun s => (.ok (), f s)

@[simp] theorem run_modify (f : σ → σ) (s : σ) : (modify f : Stateful σ ε Unit) s = (.ok (), f s) :=
  rfl

theorem run_modify_bind (f : σ → σ) (g : Unit → Stateful σ ε β) (s : σ) :
    (modify f >>= g) s = g () (f s) := rfl

/-- The cleanup runs however the computation ends, and what it raises is raised instead. -/
protected def tryFinally (x : Stateful σ ε α) (cleanup : Stateful σ ε Unit) : Stateful σ ε α :=
  fun s =>
    match cleanup (x s).2 with
    | (.ok (), t) => ((x s).1, t)
    | (.error e, t) => (.error e, t)

theorem run_tryFinally_snd (cleanup : Stateful σ ε Unit) :
    (x.tryFinally cleanup s).2 = (cleanup (x s).2).2 := by
  rw [Stateful.tryFinally]
  rcases cleanup (x s).2 with ⟨result, t⟩
  cases result <;> rfl

theorem run_tryCatch_raise_snd (failure : ε → ε) :
    (x.tryCatch (fun e => raise (failure e)) s).2 = (x s).2 := by
  rw [Stateful.tryCatch]
  rcases x s with ⟨result, t⟩
  cases result <;> rfl

end Stateful
