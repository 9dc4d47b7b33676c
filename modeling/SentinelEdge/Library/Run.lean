import Mathlib.Data.List.Basic

/-!
# Runs of a partial step function

The vocabulary in which a reactive program is specified: a state, an action of
its environment or of one of its tasks, and a step function that is partial
because not every action is enabled in every state. A run is a list of actions,
and `LabelledRun.exec` plays it.

Four things are needed of a run, and all of them are here once and for all.

* **Safety**, at the end of every run: an invariant that every step keeps
  (`LabelledRun.exec_inv`).
* **A property of every step taken**, `LabelledRun.Along`, which sees the state
  before the step, the action and the state after it. A run ends at the first
  action that is not enabled, so `Along` says nothing about the actions behind
  it. Two such properties are compared by `LabelledRun.along_of_inv` and
  `LabelledRun.along_iff_of_inv`: what makes one property imply the other at a
  single step, under an invariant, makes it so along whole runs.
* **A property of some step taken**, `LabelledRun.Sometime`. What is put into a queue in
  one step and comes out in another is what some step of the run has meant, and
  `LabelledRun.along_sometime` is how an invariant gets to say so.
* **History**. A property of the past (“since the last reset”, “so far in this
  row”) is stated over a state that carries it: `LabelledRun.observe` runs an
  observer beside the program. The observer sees every step and influences none
  (`LabelledRun.observe_eq_some`), so a statement about observed runs is a statement
  about all runs.

A program refines another one if what its state means to the other is known, and what the other
does in each of its steps. Then a run of the first has a run of the second to go with it, step for
step (`LabelledRun.answers`), and `LabelledRun.exec_answers` is that the second can take it.
-/

namespace LabelledRun

variable {σ α η τ β : Type*}

/-! ### Playing a list of actions -/

section Exec

variable (step : σ → α → Option σ)

/-- The state a list of actions leads to, and `none` if one of them is not
enabled when its turn comes. -/
def exec : σ → List α → Option σ
  | s, [] => some s
  | s, a :: as => (step s a).bind fun s' => exec s' as

@[simp] theorem exec_nil (s : σ) : exec step s [] = some s := rfl

theorem exec_cons (s : σ) (a : α) (as : List α) :
    exec step s (a :: as) = (step s a).bind fun s' => exec step s' as := rfl

theorem exec_singleton (s : σ) (a : α) : exec step s [a] = step s a := by
  rw [exec_cons]
  exact Option.bind_fun_some _

theorem exec_append (s : σ) (as bs : List α) :
    exec step s (as ++ bs) = (exec step s as).bind fun s' => exec step s' bs := by
  induction as generalizing s with
  | nil => rfl
  | cons a as ih =>
    rw [List.cons_append, exec_cons, exec_cons, Option.bind_assoc]
    exact congrArg _ (funext ih)

/-- **`P` holds of every step taken** when the actions are played from a state:
of the state before the step, the action, and the state after it. -/
def Along (P : σ → α → σ → Prop) : σ → List α → Prop
  | _, [] => True
  | s, a :: as =>
    match step s a with
    | none => True
    | some s' => P s a s' ∧ Along P s' as

instance Along.decidable (P : σ → α → σ → Prop) [∀ s a s', Decidable (P s a s')] :
    ∀ (s : σ) (as : List α), Decidable (Along step P s as)
  | _, [] => isTrue trivial
  | s, a :: as =>
    match h : step s a with
    | none => isTrue (by rw [Along, h]; trivial)
    | some s' =>
      have := Along.decidable P s' as
      decidable_of_iff (P s a s' ∧ Along step P s' as) (by rw [Along, h])

/-- **`P` holds of some step taken** when the actions are played from a state. -/
def Sometime (P : σ → α → σ → Prop) : σ → List α → Prop
  | _, [] => False
  | s, a :: as =>
    match step s a with
    | none => False
    | some s' => P s a s' ∨ Sometime P s' as

end Exec

variable {step : σ → α → Option σ} {P Q : σ → α → σ → Prop} {I : σ → Prop}

@[simp] theorem along_nil (s : σ) : Along step P s [] := trivial

theorem along_cons {s : σ} {a : α} {as : List α} :
    Along step P s (a :: as) ↔ ∀ s', step s a = some s' → P s a s' ∧ Along step P s' as := by
  rw [Along]
  cases h : step s a with
  | none => simp
  | some s' => simp

/-- What holds along a run holds along its beginning, and along the rest of it. -/
theorem along_append {s : σ} {as bs : List α} :
    Along step P s (as ++ bs) ↔
      Along step P s as ∧ ∀ s', exec step s as = some s' → Along step P s' bs := by
  induction as generalizing s with
  | nil => simp
  | cons a as ih =>
    simp only [List.cons_append, along_cons, ih, exec_cons, Option.bind_eq_some_iff]
    grind

/-- A step property that holds of every step holds along every run. -/
theorem along_of_forall (h : ∀ s a s', step s a = some s' → P s a s') (s : σ) (as : List α) :
    Along step P s as := by
  induction as generalizing s with
  | nil => trivial
  | cons a as ih => exact along_cons.mpr fun s' hs' => ⟨h s a s' hs', ih s'⟩

/-- A condition on the actions alone. -/
theorem along_of_forall_mem {C : α → Prop} {as : List α} (h : ∀ a ∈ as, C a) (s : σ) :
    Along step (fun _ a _ => C a) s as := by
  induction as generalizing s with
  | nil => trivial
  | cons a as ih =>
    obtain ⟨ha, has⟩ := List.forall_mem_cons.mp h
    exact along_cons.mpr fun s' _ => ⟨ha, ih has s'⟩

theorem Along.imp {s : σ} {as : List α} (h : Along step P s as)
    (himp : ∀ s a s', P s a s' → Q s a s') : Along step Q s as := by
  induction as generalizing s with
  | nil => trivial
  | cons a as ih =>
    refine along_cons.mpr fun s' hs' => ?_
    obtain ⟨hp, hps⟩ := along_cons.mp h s' hs'
    exact ⟨himp s a s' hp, ih hps⟩

theorem Along.and {s : σ} {as : List α} (hP : Along step P s as) (hQ : Along step Q s as) :
    Along step (fun s a s' => P s a s' ∧ Q s a s') s as := by
  induction as generalizing s with
  | nil => trivial
  | cons a as ih =>
    refine along_cons.mpr fun s' hs' => ?_
    obtain ⟨hp, hps⟩ := along_cons.mp hP s' hs'
    obtain ⟨hq, hqs⟩ := along_cons.mp hQ s' hs'
    exact ⟨⟨hp, hq⟩, ih hps hqs⟩

theorem sometime_cons {s : σ} {a : α} {as : List α} :
    Sometime step P s (a :: as) ↔
      ∃ s', step s a = some s' ∧ (P s a s' ∨ Sometime step P s' as) := by
  rw [Sometime]
  cases h : step s a with
  | none => simp
  | some s' => simp

theorem Sometime.imp {s : σ} {as : List α} (h : Sometime step P s as)
    (himp : ∀ s a s', P s a s' → Q s a s') : Sometime step Q s as := by
  induction as generalizing s with
  | nil => exact h
  | cons a as ih =>
    obtain ⟨s', hs', hor⟩ := sometime_cons.mp h
    exact sometime_cons.mpr ⟨s', hs', hor.imp (himp s a s') ih⟩

/-- **Every step taken is one that is taken at some time**: what it does, some step of the run
does. -/
theorem along_sometime {ι : Sort*} (P : ι → σ → α → σ → Prop) (s : σ) (as : List α) :
    Along step (fun t a t' => ∀ i, P i t a t' → Sometime step (P i) s as) s as := by
  induction as generalizing s with
  | nil => trivial
  | cons a as ih =>
    refine along_cons.mpr fun s' hs' => ⟨fun i hi => ?_, (ih s').imp fun t b t' h i hi => ?_⟩
    · exact sometime_cons.mpr ⟨s', hs', Or.inl hi⟩
    · exact sometime_cons.mpr ⟨s', hs', Or.inr (h i hi)⟩

/-! ### Invariants -/

/-- **The invariant rule**: what every step keeps holds at the end of every
run. -/
theorem exec_inv (hstep : ∀ s a s', I s → step s a = some s' → I s')
    {s : σ} {as : List α} {t : σ} (hs : I s) (h : exec step s as = some t) : I t := by
  induction as generalizing s with
  | nil =>
    obtain rfl : s = t := Option.some.inj h
    exact hs
  | cons a as ih =>
    obtain ⟨s', hs', hrest⟩ := Option.bind_eq_some_iff.mp h
    exact ih (hstep s a s' hs hs') hrest

/-- **The invariant rule for some runs**: what every step that meets `P` keeps holds at the
end of every run that meets `P` throughout. -/
theorem exec_inv_of_along (hstep : ∀ s a s', I s → step s a = some s' → P s a s' → I s')
    {s : σ} {as : List α} {t : σ} (hs : I s) (hP : Along step P s as)
    (h : exec step s as = some t) : I t := by
  induction as generalizing s with
  | nil =>
    obtain rfl : s = t := Option.some.inj h
    exact hs
  | cons a as ih =>
    obtain ⟨s', hs', hrest⟩ := Option.bind_eq_some_iff.mp h
    obtain ⟨hp, hP⟩ := along_cons.mp hP s' hs'
    exact ih (hstep s a s' hs hs' hp) hP hrest

/-- **The step rule under an invariant**: if, where the invariant holds, a step
meeting `P` keeps the invariant and meets `Q`, then a run that meets `P`
throughout meets `Q` throughout. -/
theorem along_of_inv (hstep : ∀ s a s', I s → step s a = some s' → P s a s' → I s' ∧ Q s a s')
    {s : σ} {as : List α} (hs : I s) (hP : Along step P s as) : Along step Q s as := by
  induction as generalizing s with
  | nil => trivial
  | cons a as ih =>
    refine along_cons.mpr fun s' hs' => ?_
    obtain ⟨hp, hps⟩ := along_cons.mp hP s' hs'
    obtain ⟨hI, hq⟩ := hstep s a s' hs hs' hp
    exact ⟨hq, ih hI hps⟩

/-- **Two step properties that agree where the invariant holds** agree along
whole runs, even when the invariant survives only the steps that meet them. -/
theorem along_iff_of_inv (hkeep : ∀ s a s', I s → step s a = some s' → P s a s' → I s')
    (hiff : ∀ s a s', I s → step s a = some s' → (P s a s' ↔ Q s a s'))
    {s : σ} (hs : I s) (as : List α) : Along step P s as ↔ Along step Q s as := by
  constructor
  · refine along_of_inv (fun s a s' hI hs' hp => ?_) hs
    exact ⟨hkeep s a s' hI hs' hp, (hiff s a s' hI hs').mp hp⟩
  · refine along_of_inv (fun s a s' hI hs' hq => ?_) hs
    have hp := (hiff s a s' hI hs').mpr hq
    exact ⟨hkeep s a s' hI hs' hp, hp⟩

/-! ### Observers -/

/-- **An observer beside the program**: after every step it updates a record of
the past from the state before the step, the action and the state after it. -/
def observe (step : σ → α → Option σ) (upd : η → σ → α → σ → η) (x : σ × η) (a : α) :
    Option (σ × η) :=
  (step x.1 a).map fun s' => (s', upd x.2 x.1 a s')

variable {upd : η → σ → α → σ → η}

theorem observe_eq_some {x y : σ × η} {a : α} :
    observe step upd x a = some y ↔ step x.1 a = some y.1 ∧ y.2 = upd x.2 x.1 a y.1 := by
  rw [observe, Option.map_eq_some_iff]
  constructor
  · rintro ⟨s', hs', rfl⟩
    exact ⟨hs', rfl⟩
  · rintro ⟨hs', he⟩
    exact ⟨y.1, hs', by rw [← he]⟩

/-- Every observed step is a step, with the record that the observer makes of it. -/
theorem forall_observe {R : σ × η → α → σ × η → Prop}
    (h : ∀ s e a s', step s a = some s' → R (s, e) a (s', upd e s a s')) :
    ∀ x a y, observe step upd x a = some y → R x a y := by
  rintro ⟨s, e⟩ a ⟨s', e'⟩ hxy
  obtain ⟨hs, he⟩ := observe_eq_some.mp hxy
  obtain rfl : e' = upd e s a s' := he
  exact h s e a s' hs

/-- The step rule under an invariant, for observed runs. -/
theorem along_observe_of_inv {J : σ × η → Prop} {P Q : σ × η → α → σ × η → Prop}
    (hstep : ∀ s e a s', J (s, e) → step s a = some s' → P (s, e) a (s', upd e s a s') →
      J (s', upd e s a s') ∧ Q (s, e) a (s', upd e s a s'))
    {x : σ × η} {as : List α} (hx : J x) (hP : Along (observe step upd) P x as) :
    Along (observe step upd) Q x as := by
  refine along_of_inv (fun x a y hJ hxy hp => ?_) hx hP
  exact forall_observe (R := fun x a y => J x → P x a y → J y ∧ Q x a y)
    (fun s e a s' hs hJ hp => hstep s e a s' hJ hs hp) x a y hxy hJ hp

/-- What holds of every step taken where the invariant holds, and every step keeps the
invariant, holds along every observed run. -/
theorem along_observe_of_step {J : σ × η → Prop} {Q : σ × η → α → σ × η → Prop}
    (hkeep : ∀ s e a s', J (s, e) → step s a = some s' → J (s', upd e s a s'))
    (hstep : ∀ s e a s', J (s, e) → step s a = some s' → Q (s, e) a (s', upd e s a s'))
    {x : σ × η} (hx : J x) (as : List α) : Along (observe step upd) Q x as :=
  along_observe_of_inv (P := fun _ _ _ => True)
    (fun s e a s' hJ hs _ => ⟨hkeep s e a s' hJ hs, hstep s e a s' hJ hs⟩) hx
    (along_of_forall (fun _ _ _ _ => trivial) x as)

/-- The comparison of two step properties under an invariant, for observed runs
whose steps all meet a third one. -/
theorem along_observe_iff_of_inv_along {J : σ × η → Prop} {H P Q : σ × η → α → σ × η → Prop}
    (hkeep : ∀ s e a s', J (s, e) → step s a = some s' → H (s, e) a (s', upd e s a s') →
      P (s, e) a (s', upd e s a s') → J (s', upd e s a s'))
    (hiff : ∀ s e a s', J (s, e) → step s a = some s' → H (s, e) a (s', upd e s a s') →
      (P (s, e) a (s', upd e s a s') ↔ Q (s, e) a (s', upd e s a s')))
    {x : σ × η} (hx : J x) {as : List α} (hH : Along (observe step upd) H x as) :
    Along (observe step upd) P x as ↔ Along (observe step upd) Q x as := by
  constructor
  · intro hP
    refine along_observe_of_inv (fun s e a s' hJ hs hp => ?_) hx (hH.and hP)
    exact ⟨hkeep s e a s' hJ hs hp.1 hp.2, (hiff s e a s' hJ hs hp.1).mp hp.2⟩
  · intro hQ
    refine along_observe_of_inv (fun s e a s' hJ hs hq => ?_) hx (hH.and hQ)
    have hp := (hiff s e a s' hJ hs hq.1).mpr hq.2
    exact ⟨hkeep s e a s' hJ hs hq.1 hp, hp⟩

/-- The comparison of two step properties under an invariant, for observed
runs. -/
theorem along_observe_iff_of_inv {J : σ × η → Prop} {P Q : σ × η → α → σ × η → Prop}
    (hkeep : ∀ s e a s', J (s, e) → step s a = some s' → P (s, e) a (s', upd e s a s') →
      J (s', upd e s a s'))
    (hiff : ∀ s e a s', J (s, e) → step s a = some s' →
      (P (s, e) a (s', upd e s a s') ↔ Q (s, e) a (s', upd e s a s')))
    {x : σ × η} (hx : J x) (as : List α) :
    Along (observe step upd) P x as ↔ Along (observe step upd) Q x as :=
  along_observe_iff_of_inv_along (H := fun _ _ _ => True)
    (fun s e a s' hJ hs _ => hkeep s e a s' hJ hs) (fun s e a s' hJ hs _ => hiff s e a s' hJ hs) hx
    (along_of_forall (fun _ _ _ _ => trivial) x as)

/-! ### Refinement -/

section Answers

variable (step) (answer : σ → α → σ → List β)

/-- **What a run is answered with**, step for step: the answers to the steps taken, one after
the other. -/
def answers : σ → List α → List β
  | _, [] => []
  | s, a :: as =>
    match step s a with
    | none => []
    | some s' => answer s a s' ++ answers s' as

end Answers

variable {answer : σ → α → σ → List β}

theorem answers_cons {s s' : σ} {a : α} {as : List α} (h : step s a = some s') :
    answers step answer s (a :: as) = answer s a s' ++ answers step answer s' as := by
  rw [answers, h]

/-- **Refinement, step for step**: if, where the invariant holds, a step meeting `P` keeps the
invariant, and another program, in the state that `f` makes of the one before, can take the steps
that it is answered with and gets to the one after, then so it is with whole runs that meet `P`
throughout. -/
theorem exec_answers {step' : τ → β → Option τ} {f : σ → τ}
    (hstep : ∀ s a s', I s → step s a = some s' → P s a s' →
      I s' ∧ exec step' (f s) (answer s a s') = some (f s'))
    {s : σ} {as : List α} {t : σ} (hs : I s) (hP : Along step P s as)
    (h : exec step s as = some t) :
    I t ∧ exec step' (f s) (answers step answer s as) = some (f t) := by
  induction as generalizing s with
  | nil =>
    obtain rfl : s = t := Option.some.inj h
    exact ⟨hs, rfl⟩
  | cons a as ih =>
    obtain ⟨u, hu, hrest⟩ := Option.bind_eq_some_iff.mp h
    obtain ⟨hp, hP⟩ := along_cons.mp hP u hu
    obtain ⟨hI, hfirst⟩ := hstep s a u hs hu hp
    obtain ⟨hI', hthen⟩ := ih hI hP hrest
    refine ⟨hI', ?_⟩
    rw [answers_cons hu, exec_append, hfirst]
    exact hthen

/-- Refinement of every step, whatever the state. -/
theorem exec_answers_of_forall {step' : τ → β → Option τ} {f : σ → τ}
    (hstep : ∀ s a s', step s a = some s' → exec step' (f s) (answer s a s') = some (f s'))
    {s : σ} {as : List α} {t : σ} (h : exec step s as = some t) :
    exec step' (f s) (answers step answer s as) = some (f t) :=
  (exec_answers (P := fun _ _ _ => True) (I := fun _ => True)
    (fun s a s' _ hs _ => ⟨trivial, hstep s a s' hs⟩) trivial
    (along_of_forall (fun _ _ _ _ => trivial) s as) h).2

end LabelledRun
