import AlertSync.Program

/-!
# The runs of a program

A program says nothing about what its calls do. Here that is a relation: what a call may be answered
with in a state, and in which state that leaves the world. A call may have several answers, since
stores and backends fail, and backends report what they like. `Runs` is what can then come of a
program, from its first call to its end, and `Always` says that whatever comes of it satisfies a
condition (`always_iff`). A condition on a composed program is one on its first part, at whose end
the condition holds of the second (`always_bind`); so what a program does is worked out from its
end to its beginning, call by call.

`Calls` says which calls a program makes, whatever it is answered.
-/

namespace AlertSync

/-- What may be answered to a call in a state, and the states in which that may leave the world. -/
abbrev Answering (σ : Type) := (c : Call) → σ → c.Answer → σ → Prop

namespace Program

variable {α β σ : Type} {R : Answering σ}

/-- A run of a program from a state: its result, and the state at its end. -/
def Runs (R : Answering σ) : Program α → σ → α → σ → Prop
  | done a, s, b, t => b = a ∧ t = s
  | call c next, s, b, t => ∃ x u, R c s x u ∧ Runs R (next x) u b t

/-- Whatever is answered, a program that begins in a state ends as `post` says. -/
def Always (R : Answering σ) (post : α → σ → Prop) : Program α → σ → Prop
  | done a, s => post a s
  | call c next, s => ∀ x u, R c s x u → Always R post (next x) u

/-- What always holds at the end holds at the end of every run. -/
theorem always_iff {post : α → σ → Prop} {p : Program α} {s : σ} :
    Always R post p s ↔ ∀ a t, Runs R p s a t → post a t := by
  induction p generalizing s with
  | done a =>
    constructor
    · rintro h b t ⟨rfl, rfl⟩
      exact h
    · intro h
      exact h a s ⟨rfl, rfl⟩
  | call c next ih =>
    constructor
    · rintro h b t ⟨x, u, hx, hrun⟩
      exact (ih x).1 (h x u hx) b t hrun
    · intro h x u hx
      exact (ih x).2 fun b t hrun => h b t ⟨x, u, hx, hrun⟩

/-- Runs of two programs one after the other are a run of the composed program. -/
theorem runs_bind {p : Program α} {f : α → Program β} {s u t : σ} {a : α} {b : β}
    (hp : Runs R p s a u) (hf : Runs R (f a) u b t) : Runs R (p >>= f) s b t := by
  induction p generalizing s with
  | done a' =>
    obtain ⟨rfl, rfl⟩ := hp
    exact hf
  | call c next ih =>
    obtain ⟨x, v, hx, hrun⟩ := hp
    exact ⟨x, v, hx, ih x hrun⟩

/-- Runs are runs from another view of the states, if calls are answered alike there. -/
theorem Runs.map {τ : Type} {S : Answering τ} {p : Program α} {s t : σ} {a : α}
    (h : Runs R p s a t) (f : σ → τ)
    (hanswering : ∀ c s x t, R c s x t → S c (f s) x (f t)) : Runs S p (f s) a (f t) := by
  induction p generalizing s with
  | done b =>
    obtain ⟨rfl, rfl⟩ := h
    exact ⟨rfl, rfl⟩
  | call c next ih =>
    obtain ⟨x, u, hx, hrun⟩ := h
    exact ⟨x, f u, hanswering c s x u hx, ih x hrun⟩

/-- A composed program is one that ends where its second part begins. -/
theorem always_bind {post : β → σ → Prop} {p : Program α} {f : α → Program β} {s : σ} :
    Always R post (p >>= f) s ↔ Always R (fun a t => Always R post (f a) t) p s := by
  induction p generalizing s with
  | done a => exact Iff.rfl
  | call c next ih =>
    constructor
    · intro h x u hx
      exact (ih x).1 (h x u hx)
    · intro h x u hx
      exact (ih x).2 (h x u hx)

/-- What follows from what always holds, always holds. -/
theorem Always.mono {post post' : α → σ → Prop} {p : Program α} {s : σ}
    (h : Always R post p s) (himp : ∀ a t, post a t → post' a t) : Always R post' p s := by
  rw [always_iff] at h ⊢
  intro a t hrun
  exact himp a t (h a t hrun)

/-- Programs that run one after the other keep what each of them keeps. -/
theorem always_forM {inv : σ → Prop} {f : α → Program Unit} {l : List α} {s : σ}
    (hf : ∀ a ∈ l, ∀ t, inv t → Always R (fun _ u => inv u) (f a) t) (hs : inv s) :
    Always R (fun _ u => inv u) (l.forM f) s := by
  induction l generalizing s with
  | nil => exact hs
  | cons a l ih =>
    show Always R _ (f a >>= fun _ => l.forM f) s
    rw [always_bind]
    apply (hf a List.mem_cons_self s hs).mono
    intro _ t ht
    exact ih (fun b hb => hf b (List.mem_cons_of_mem a hb)) ht

/-! ## The calls of a program -/

/-- Every call of a program, whatever is answered, satisfies a condition. -/
def Calls (C : Call → Prop) : Program α → Prop
  | done _ => True
  | call c next => C c ∧ ∀ x, Calls C (next x)

/-- What follows from a condition on calls holds of all of them. -/
theorem Calls.mono {C C' : Call → Prop} {p : Program α} (h : Calls C p)
    (himp : ∀ c, C c → C' c) : Calls C' p := by
  induction p with
  | done a => trivial
  | call c next ih => exact ⟨himp c h.1, fun x => ih x (h.2 x)⟩

/-- The calls of a composed program are those of its parts. -/
theorem calls_bind {C : Call → Prop} {p : Program α} {f : α → Program β}
    (hp : Calls C p) (hf : ∀ a, Calls C (f a)) : Calls C (p >>= f) := by
  induction p with
  | done a => exact hf a
  | call c next ih => exact ⟨hp.1, fun x => ih x (hp.2 x)⟩

/-- A single call. -/
theorem calls_ask {C : Call → Prop} {c : Call} (h : C c) : Calls C (ask c) :=
  ⟨h, fun _ => trivial⟩

/-- The calls of programs that run one after the other are those of each. -/
theorem calls_forM {C : Call → Prop} {f : α → Program Unit} {l : List α}
    (hf : ∀ a ∈ l, Calls C (f a)) : Calls C (l.forM f) := by
  induction l with
  | nil => exact trivial
  | cons a l ih =>
    show Calls C (f a >>= fun _ => l.forM f)
    exact calls_bind (hf a List.mem_cons_self) fun _ =>
      ih fun b hb => hf b (List.mem_cons_of_mem a hb)

end Program

namespace Operation

variable {α β σ : Type} {R : Answering σ}

/-- Runs of two operations one after the other, the first of which succeeds, are a run of both. -/
theorem runs_bind {o : Operation α} {f : α → Operation β} {s u t : σ} {a : α}
    {r : Except Error β} (ho : o.outcome.Runs R s (.ok a) u) (hf : (f a).outcome.Runs R u r t) :
    (o >>= f).outcome.Runs R s r t :=
  Program.runs_bind ho hf

/-- An operation after another begins where that has succeeded. -/
theorem always_bind {post : Except Error β → σ → Prop} {o : Operation α} {f : α → Operation β}
    {s : σ} : Program.Always R post (o >>= f).outcome s ↔ Program.Always R (fun r t =>
      match r with
      | .ok a => Program.Always R post (f a).outcome t
      | .error e => post (.error e) t) o.outcome s := by
  show Program.Always R post (o.outcome >>= ExceptT.bindCont f) s ↔ _
  rw [Program.always_bind]
  -- What follows a failure is over at once, which is what the condition asks of it.
  constructor
  all_goals
    intro h
    apply h.mono
    rintro (e | a) t ht <;> exact ht

/-- A program that cannot fail is an operation that succeeds. -/
theorem always_lift {post : Except Error α → σ → Prop} {p : Program α} {s : σ} :
    Program.Always R post (outcome (ExceptT.lift p)) s ↔
      Program.Always R (fun a t => post (.ok a) t) p s := by
  show Program.Always R post (p >>= fun a => .done (.ok a)) s ↔ _
  rw [Program.always_bind]
  exact Iff.rfl

/-- What does not depend on the world fails or goes on with its value. -/
theorem always_ofExcept_bind {post : Except Error β → σ → Prop} {x : Except Error α}
    {f : α → Operation β} {s : σ} (hfail : ∀ e, post (.error e) s)
    (hok : ∀ a, x = .ok a → Program.Always R post (f a).outcome s) :
    Program.Always R post (ofExcept x >>= f).outcome s := by
  cases x with
  | error e => exact hfail e
  | ok a => exact hok a rfl

/-- The calls of an operation after another are those of both. -/
theorem calls_bind {C : Call → Prop} {o : Operation α} {f : α → Operation β}
    (ho : o.outcome.Calls C) (hf : ∀ a, (f a).outcome.Calls C) : (o >>= f).outcome.Calls C := by
  apply Program.calls_bind ho
  rintro (e | a)
  · exact trivial
  · exact hf a

/-- What follows a program that cannot fail. -/
theorem outcome_lift_bind (p : Program α) (f : α → Operation β) :
    (ExceptT.lift p >>= f : Operation β).outcome = p >>= fun a => (f a).outcome :=
  ExceptT.run_bind_lift p f

/-- Programs that cannot fail, run one after the other as operations. -/
theorem forM_lift (f : α → Program Unit) (l : List α) :
    (l.forM fun a => (ExceptT.lift (f a) : Operation Unit)) = ExceptT.lift (l.forM f) := by
  induction l with
  | nil => rfl
  | cons a l ih =>
    show (ExceptT.lift (f a) >>= fun _ => l.forM fun a => (ExceptT.lift (f a) : Operation Unit)) =
      ExceptT.lift (f a >>= fun _ => l.forM f)
    rw [ih]
    apply ExceptT.ext
    rw [ExceptT.run_bind_lift, ExceptT.run_lift]
    show _ = Except.ok <$> (f a >>= fun _ => l.forM f)
    rw [map_bind]

end Operation

end AlertSync
