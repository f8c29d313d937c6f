import PageQuery.Workbench.Actions
/-!
Running tasks, and what is said between a workbench and the outside meanwhile.

Section 1 runs a task one step at a time. Section 2 is for what every step of a task preserves: a
reflexive and transitive relation between benches that holds over each call and each change of the
desk holds over the whole task, whatever it answers and wherever it stops. Section 3 is for tasks
whose calls may be refused without harm.

A bench records the calls made, but not how they were answered. An `Exchange` is a call with its
answer, and `Answered` says that a list of them led from one state of the outside to another.
`Bench.Makes` is that for two benches, whose records of calls must agree with the list. So a statement
about the list is one about which calls are made, in which order, and what came of each.
-/

namespace PageQuery

variable {σ α β : Type}

/-! ## 1. One step after another -/

namespace Task

theorem bind_run (t : Task σ α) (f : α → Task σ β) (b : Bench σ) :
    (t >>= f) b =
      match t b with
      | (.ok a, b') => f a b'
      | (.error e, b') => (.error e, b') := by
  show ExceptT.bindCont f (t b).1 (t b).2 = _
  rcases t b with ⟨a | e, b'⟩ <;> rfl

theorem bind_ok {t : Task σ α} {b b' : Bench σ} {a : α} (h : t b = (.ok a, b'))
    (f : α → Task σ β) : (t >>= f) b = f a b' := by
  rw [bind_run, h]

theorem bind_error {t : Task σ α} {b b' : Bench σ} {e : ClientError} (h : t b = (.error e, b'))
    (f : α → Task σ β) : (t >>= f) b = (.error e, b') := by
  rw [bind_run, h]

/-- Where both parts of a task succeed, so did the first. -/
theorem ok_of_bind {t : Task σ α} {f : α → Task σ β} {b b' : Bench σ} {r : β}
    (h : (t >>= f) b = (.ok r, b')) : ∃ a b₁, t b = (.ok a, b₁) ∧ f a b₁ = (.ok r, b') := by
  rw [bind_run] at h
  rcases hRun : t b with ⟨a | e, b₁⟩
  · rw [hRun] at h
    cases h
  · rw [hRun] at h
    exact ⟨_, b₁, rfl, h⟩

end Task

theorem ask_run (env : Environment σ) (c : Call) (b : Bench σ) :
    ask env c b = (.ok (b.ask env c).1, (b.ask env c).2) := rfl

theorem onDesk_run (f : Desk → Desk) (b : Bench σ) :
    onDesk f b = (.ok (), { b with desk := f b.desk }) := rfl

theorem theDesk_run (b : Bench σ) : theDesk b = (.ok b.desk, b) := rfl

theorem orStorage_ok (a : α) (b : Bench σ) : orStorage (.ok a) b = (.ok a, b) := rfl

theorem attempt_run {t : Task σ α} {b b' : Bench σ} {outcome : Except ClientError α}
    (h : t b = (outcome, b')) : attempt t b = (.ok outcome, b') := by
  rw [attempt, h]

/-- Writing an export to a file is one call. -/
theorem writeTo_run (env : Environment σ) (path text : String) (b : Bench σ) :
    (benchOutlets env).writeTo (some path) text b =
      ((b.ask env (.writeFile path text)).1.mapError fun f => .write f.message,
        (b.ask env (.writeFile path text)).2) := by
  rw [Outlets.writeTo]
  simp only [benchOutlets]
  rcases b.ask env (.writeFile path text) with ⟨f | _, b'⟩
  · rfl
  · rfl

/-- Copying an export is one call. -/
theorem copyIf_run (env : Environment σ) (text : String) (b : Bench σ) :
    (benchOutlets env).copyIf true text b =
      ((b.ask env (.copy text)).1.mapError fun f => .clipboard f.message,
        (b.ask env (.copy text)).2) := by
  rw [Outlets.copyIf, if_pos rfl]
  simp only [benchOutlets]
  rcases b.ask env (.copy text) with ⟨f | _, b'⟩
  · rfl
  · rfl

/-- What a triggered action leaves, from what its work left. -/
def Desk.afterWork (d : Desk) : Except ClientError Unit → Desk
  | .ok _ => { d with gate := .free }
  | .error e => { d with gate := .free, status := errorStatus e }

/-- An action triggered with the gate free does its work and answers as the work does. -/
theorem trigger_free (env : Environment σ) (a : Action) {b : Bench σ}
    (h : b.desk.gate.isHeld = false) :
    trigger env a b =
      let (outcome, b') := a.work env { b with desk := { b.desk with gate := ⟨true⟩ } }
      (outcome, { b' with desk := b'.desk.afterWork outcome }) := by
  have hGate : b.desk.gate.acquire = .ok ⟨true⟩ := by simp [Gate.acquire, h]
  have hHeld : orFail b.desk.gate.acquire b = (.ok ⟨true⟩, b) := by
    rw [hGate]
    rfl
  have hSet : setGate (σ := σ) ⟨true⟩ b =
      (.ok (), { b with desk := { b.desk with gate := ⟨true⟩ } }) := rfl
  rw [trigger, Task.bind_ok (theDesk_run b), Task.bind_ok hHeld, Task.bind_ok hSet]
  rcases hWork : a.work env { b with desk := { b.desk with gate := ⟨true⟩ } } with ⟨outcome, b'⟩
  rw [Task.bind_ok (attempt_run hWork)]
  cases outcome with
  | ok _ => rfl
  | error e => rfl

/-- While the gate is held nothing can be triggered. -/
theorem trigger_held (env : Environment σ) (a : Action) {b : Bench σ}
    (h : b.desk.gate.isHeld = true) : trigger env a b = (.error .busy, b) := by
  have hGate : b.desk.gate.acquire = .error .busy := by simp [Gate.acquire, h]
  have hHeld : orFail b.desk.gate.acquire b = (.error .busy, b) := by
    rw [hGate]
    rfl
  rw [trigger, Task.bind_ok (theDesk_run b), Task.bind_error hHeld]

/-! ## 2. What every step preserves -/

/-- A task takes every bench to one that is related to it. -/
def Task.Moves (R : Bench σ → Bench σ → Prop) (t : Task σ α) : Prop := ∀ b, R b (t b).2

theorem Task.Moves.attempt {R : Bench σ → Bench σ → Prop} {t : Task σ α} (h : t.Moves R) :
    (PageQuery.attempt t).Moves R := h

/-- A relation that holds over no step and over two steps if it holds over each. -/
structure IsFrame (R : Bench σ → Bench σ → Prop) : Prop where
  refl (b : Bench σ) : R b b
  trans {b₁ b₂ b₃ : Bench σ} : R b₁ b₂ → R b₂ b₃ → R b₁ b₃

namespace IsFrame

variable {R : Bench σ → Bench σ → Prop} (hFrame : IsFrame R)

include hFrame

theorem bind {t : Task σ α} {f : α → Task σ β} (ht : t.Moves R) (hf : ∀ a, (f a).Moves R) :
    (t >>= f).Moves R := by
  intro b
  have hFirst := ht b
  rw [Task.bind_run]
  rcases hRun : t b with ⟨a | e, b'⟩
  · rw [hRun] at hFirst
    exact hFirst
  · rw [hRun] at hFirst
    exact hFrame.trans hFirst (hf _ b')

theorem pure (a : α) : Task.Moves R (Pure.pure a) := hFrame.refl

theorem throw (e : ClientError) : Task.Moves R (throw e : Task σ α) := hFrame.refl

theorem theDesk : Task.Moves R theDesk := hFrame.refl

theorem orFail (answer : Except ClientError α) : Task.Moves R (PageQuery.orFail answer) := by
  cases answer with
  | ok a => exact hFrame.refl
  | error e => exact hFrame.refl

theorem orStorage (answer : Except Fault α) : Task.Moves R (PageQuery.orStorage answer) := by
  cases answer with
  | ok a => exact hFrame.refl
  | error f => exact hFrame.refl

end IsFrame

/-! ## 3. Tasks that cannot fail -/

/-- A task answers on every bench. -/
def Task.Completes (t : Task σ α) : Prop := ∀ b, ∃ a b', t b = (.ok a, b')

namespace Task.Completes

theorem bind {t : Task σ α} {f : α → Task σ β} (ht : t.Completes) (hf : ∀ a, (f a).Completes) :
    (t >>= f).Completes := by
  intro b
  obtain ⟨a, b', hRun⟩ := ht b
  rw [bind_ok hRun]
  exact hf a b'

theorem pure (a : α) : Task.Completes (σ := σ) (Pure.pure a) := fun b => ⟨a, b, rfl⟩

theorem ask (env : Environment σ) (c : Call) : (ask env c).Completes := fun _ => ⟨_, _, rfl⟩

theorem onDesk (f : Desk → Desk) : Task.Completes (σ := σ) (onDesk f) := fun _ => ⟨_, _, rfl⟩

end Task.Completes

/-! ## 4. Exchanges -/

/-- A call and its answer. -/
structure Exchange where
  call : Call
  reply : call.Reply

/-- From one state of the outside to another these calls were made in this order, and answered so. -/
inductive Answered (env : Environment σ) : σ → List Exchange → σ → Prop
  | done (s : σ) : Answered env s [] s
  | next {s s' : σ} {talk : List Exchange} (c : Call) :
      Answered env (env c s).2 talk s' → Answered env s (⟨c, (env c s).1⟩ :: talk) s'

theorem Answered.append {env : Environment σ} {s₁ s₂ s₃ : σ} {first second : List Exchange}
    (h : Answered env s₁ first s₂) (h' : Answered env s₂ second s₃) :
    Answered env s₁ (first ++ second) s₃ := by
  induction h with
  | done s => exact h'
  | next c _ ih => exact .next c (ih h')

/-- What is said first is asked first, and the rest is said after it. -/
theorem Answered.of_cons {env : Environment σ} {s s' : σ} {c : Call} {reply : c.Reply}
    {talk : List Exchange} (h : Answered env s (⟨c, reply⟩ :: talk) s') :
    (env c s).1 = reply ∧ Answered env (env c s).2 talk s' := by
  cases h with
  | next _ hRest => exact ⟨rfl, hRest⟩

/-- What is said before something else leads to where that begins. -/
theorem Answered.of_append {env : Environment σ} {first second : List Exchange} {s s' : σ}
    (h : Answered env s (first ++ second) s') :
    ∃ mid, Answered env s first mid ∧ Answered env mid second s' := by
  induction first generalizing s with
  | nil => exact ⟨s, .done s, h⟩
  | cons x rest ih =>
    obtain ⟨c, reply⟩ := x
    obtain ⟨rfl, hRest⟩ := h.of_cons
    obtain ⟨mid, hFirst, hSecond⟩ := ih hRest
    exact ⟨mid, .next c hFirst, hSecond⟩

/-- What is said when calls are made one after the other. -/
def answers (env : Environment σ) : σ → List Call → List Exchange
  | _, [] => []
  | s, c :: rest => ⟨c, (env c s).1⟩ :: answers env (env c s).2 rest

/-- The calls determine all that is said. -/
theorem Answered.eq_answers {env : Environment σ} {s s' : σ} {talk : List Exchange}
    (h : Answered env s talk s') : talk = answers env s (talk.map Exchange.call) := by
  induction h with
  | done s => rfl
  | next c _ ih => rw [List.map_cons, answers, ← ih]

/-- The calls on record. -/
def Bench.calls (b : Bench σ) : List Call := b.trace.map Event.call

/-- Between two benches these exchanges took place, and their calls went on record. -/
structure Bench.Makes (env : Environment σ) (b : Bench σ) (talk : List Exchange) (b' : Bench σ) :
    Prop where
  answered : Answered env b.outside talk b'.outside
  calls_eq : b'.calls = b.calls ++ talk.map Exchange.call

namespace Bench.Makes

variable {env : Environment σ} {b b₁ b₂ b₃ : Bench σ} {talk first second : List Exchange}

/-- Nothing is said where only the desk changes. -/
theorem desk (env : Environment σ) (b : Bench σ) (d : Desk) : b.Makes env [] { b with desk := d } :=
  ⟨.done _, (List.append_nil _).symm⟩

theorem refl (env : Environment σ) (b : Bench σ) : b.Makes env [] b := desk env b b.desk

theorem ask (env : Environment σ) (c : Call) (b : Bench σ) :
    b.Makes env [⟨c, (b.ask env c).1⟩] (b.ask env c).2 :=
  ⟨.next c (.done _), by simp [Bench.calls, Bench.ask]⟩

theorem trans (h : b₁.Makes env first b₂) (h' : b₂.Makes env second b₃) :
    b₁.Makes env (first ++ second) b₃ :=
  ⟨h.answered.append h'.answered, by
    rw [h'.calls_eq, h.calls_eq, List.map_append, List.append_assoc]⟩

/-- A change of the desk in the end is no exchange. -/
theorem thenDesk (h : b₁.Makes env talk b₂) (d : Desk) :
    b₁.Makes env talk { b₂ with desk := d } := by
  simpa using h.trans (desk env b₂ d)

/-- The record grows by as many calls as there are exchanges. -/
theorem length_calls (h : b₁.Makes env talk b₂) :
    b₂.calls.length = b₁.calls.length + talk.length := by
  rw [h.calls_eq, List.length_append, List.length_map]

/-- On a bench with nothing on record, the record tells all that is said. -/
theorem eq_answers (h : b₁.Makes env talk b₂) (hTrace : b₁.trace = []) :
    talk = answers env b₁.outside b₂.calls := by
  have hCalls : b₂.calls = talk.map Exchange.call := by
    rw [h.calls_eq, Bench.calls, hTrace]
    rfl
  rw [hCalls]
  exact h.answered.eq_answers

/-- Between equal benches nothing is said. -/
theorem eq_nil (h : b.Makes env talk b) : talk = [] := by
  have := h.length_calls
  exact List.eq_nil_of_length_eq_zero (by omega)

end Bench.Makes

end PageQuery
