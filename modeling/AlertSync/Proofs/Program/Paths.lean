import AlertSync.Proofs.Program.Replies

/-!
# How far a program has come

A program may be stopped after any call. The replies that it got until then lead along a `Path` from
the program to what is left of it. What a program does next may depend on what it was answered
before: `Guided` says of every call of a program that it satisfies a condition on the replies before
it, whatever these are, and of the end of the program that it satisfies one on all of them. It is
worked out from the end of a program to its beginning (`guided_bind`), and holds along every path
(`guided_of_path`).
-/

namespace AlertSync.Program

variable {α β : Type} {C : List Reply → Call → Prop}

/-- Whether some replies lead from a program to what is left of it. -/
def Path : Program α → List Reply → Program α → Prop
  | p, [], q => q = p
  | p, x :: l, q => ∃ next, p = call x.call next ∧ Path (next x.answer) l q

/-- A path may be followed by another. -/
theorem path_append {p q : Program α} {l m : List Reply} :
    Path p (l ++ m) q ↔ ∃ p', Path p l p' ∧ Path p' m q := by
  induction l generalizing p with
  | nil =>
    constructor
    · intro h
      exact ⟨p, rfl, h⟩
    · rintro ⟨p', rfl, h⟩
      exact h
  | cons x l ih =>
    constructor
    · rintro ⟨next, rfl, h⟩
      obtain ⟨p', hl, hm⟩ := ih.1 h
      exact ⟨p', ⟨next, rfl, hl⟩, hm⟩
    · rintro ⟨p', ⟨next, rfl, hl⟩, hm⟩
      exact ⟨next, rfl, ih.2 ⟨p', hl, hm⟩⟩

/-- Whether every call of a program satisfies a condition on the replies before it, and its end one
on all of them. -/
def Guided (C : List Reply → Call → Prop) (post : α → List Reply → Prop) :
    Program α → List Reply → Prop
  | done a, l => post a l
  | call c next, l => C l c ∧ ∀ x, Guided C post (next x) (l ++ [⟨c, x⟩])

/-- A composed program is guided if its first part is, and leads to where the second is. -/
theorem guided_bind {post : β → List Reply → Prop} {p : Program α} {f : α → Program β}
    {l : List Reply} :
    Guided C post (p >>= f) l ↔ Guided C (fun a l' => Guided C post (f a) l') p l := by
  induction p generalizing l with
  | done a => exact Iff.rfl
  | call c next ih =>
    constructor
    · rintro ⟨hc, h⟩
      exact ⟨hc, fun x => (ih x).1 (h x)⟩
    · rintro ⟨hc, h⟩
      exact ⟨hc, fun x => (ih x).2 (h x)⟩

/-- What follows from the condition at the end may take its place. -/
theorem Guided.mono {post post' : α → List Reply → Prop} {p : Program α} {l : List Reply}
    (h : Guided C post p l) (himp : ∀ a l', post a l' → post' a l') : Guided C post' p l := by
  induction p generalizing l with
  | done a => exact himp a l h
  | call c next ih => exact ⟨h.1, fun x => ih x (h.2 x)⟩

/-- A program is guided by what holds of its calls by themselves, after any replies. -/
theorem guided_of_calls {D : Call → Prop} {post : α → List Reply → Prop} {p : Program α}
    {l : List Reply} (hcalls : p.Calls D) (hC : ∀ m c, D c → C (l ++ m) c)
    (hpost : ∀ a m, post a (l ++ m)) : Guided C post p l := by
  induction p generalizing l with
  | done a =>
    have h := hpost a []
    rw [List.append_nil] at h
    exact h
  | call c next ih =>
    have hc := hC [] c hcalls.1
    rw [List.append_nil] at hc
    refine ⟨hc, fun x => ih x (hcalls.2 x) ?_ ?_⟩
    · intro m c' hc'
      rw [List.append_assoc]
      exact hC _ c' hc'
    · intro a m
      rw [List.append_assoc]
      exact hpost a _

/-- Along a path a program stays guided. -/
theorem guided_of_path {post : α → List Reply → Prop} {p q : Program α} {l m : List Reply}
    (h : Guided C post p l) (hpath : Path p m q) : Guided C post q (l ++ m) := by
  induction m generalizing p l with
  | nil =>
    obtain rfl := hpath
    rw [List.append_nil]
    exact h
  | cons x m ih =>
    obtain ⟨next, rfl, hrest⟩ := hpath
    have hx := ih (h.2 x.answer) hrest
    rw [List.append_assoc] at hx
    exact hx

/-- A call on a path of a guided program satisfies the condition on the replies before it. -/
theorem Guided.of_mem_path {post : α → List Reply → Prop} {p q : Program α} {l m : List Reply}
    {x : Reply} (h : Guided C post p []) (hpath : Path p (l ++ x :: m) q) : C l x.call := by
  obtain ⟨p', hl, next, rfl, -⟩ := path_append.1 hpath
  exact (guided_of_path h hl).1

end AlertSync.Program
