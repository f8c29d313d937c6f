import PageQuery.Proofs.Workbench.Endings
import PageQuery.Proofs.Workbench.Scripted
/-!
One action at a time.

A gate is in use through handles, which may be cloned, and while it is held a guard is live that gives
it back when it is dropped. `Gatehouse` keeps the flags behind the handles, and its moves are what can be
done with handles and guards, in any order. That as many guards of a flag are live as the flag says, one
or none, is the invariant of every move. A triggered action takes the gate of its workbench for all of
its calls and gives it back, however it ends.
-/

namespace PageQuery

variable {σ : Type}

/-! ## 1. Handles and guards -/

/-- Gates in use. Handles and guards are references to flags, so the clones of a handle are handles on
the same flag. -/
structure Gatehouse where
  flag : Nat → Gate
  handles : List Nat
  /-- The guards that are live. -/
  guards : List Nat

namespace Gatehouse

/-- Gates just made, none of them held, with the handles on them. -/
def opened (handles : List Nat) : Gatehouse := ⟨fun _ => .free, handles, []⟩

def setFlag (h : Gatehouse) (n : Nat) (g : Gate) : Gatehouse :=
  { h with flag := fun k => if k = n then g else h.flag k }

/-- Take the gate behind a flag. If that succeeds a guard is live. -/
def acquire (h : Gatehouse) (n : Nat) : Except ClientError Unit × Gatehouse :=
  match (h.flag n).acquire with
  | .ok held => (.ok (), { h.setFlag n held with guards := n :: h.guards })
  | .error e => (.error e, h)

/-- Drop a guard, which gives its gate back. -/
def drop (h : Gatehouse) (n : Nat) : Gatehouse :=
  { h.setFlag n (h.flag n).release with guards := h.guards.erase n }

/-- What can be done with handles and guards. -/
inductive Move where
  /-- Clone a handle. -/
  | clone (handle : Nat)
  /-- Try to take the gate through a handle. -/
  | acquire (handle : Nat)
  /-- Drop a guard that is live. -/
  | drop (guard : Nat)

/-- The gates after a move. Handles and guards are told by their places in the lists; without one there
is no move. -/
def perform (h : Gatehouse) : Move → Gatehouse
  | .clone i => { h with handles := h.handles ++ h.handles[i]?.toList }
  | .acquire i => (h.handles[i]?.map fun n => (h.acquire n).2).getD h
  | .drop i => (h.guards[i]?.map h.drop).getD h

/-- The gates after moves in this order. -/
def run : Gatehouse → List Move → Gatehouse
  | h, [] => h
  | h, m :: rest => run (h.perform m) rest

/-! ## 2. Exclusion -/

/-- A guard is live exactly of the flags that are set, and one of each. -/
def IsExclusive (h : Gatehouse) : Prop := ∀ n, h.guards.count n = (h.flag n).isHeld.toNat

theorem isExclusive_opened (handles : List Nat) : (opened handles).IsExclusive := fun _ => rfl

namespace IsExclusive

variable {h : Gatehouse} (hExclusive : h.IsExclusive)

include hExclusive

theorem isHeld_iff (n : Nat) : (h.flag n).isHeld = true ↔ n ∈ h.guards := by
  rw [← List.count_pos_iff, hExclusive n]
  cases (h.flag n).isHeld <;> simp

theorem count_le_one (n : Nat) : h.guards.count n ≤ 1 := by
  rw [hExclusive n]
  exact Bool.toNat_le _

theorem acquire_error_iff (n : Nat) : (h.acquire n).1 = .error .busy ↔ n ∈ h.guards := by
  rw [← hExclusive.isHeld_iff n, Gatehouse.acquire, Gate.acquire]
  cases (h.flag n).isHeld <;> simp

theorem acquire_ok_iff (n : Nat) : (h.acquire n).1 = .ok () ↔ n ∉ h.guards := by
  rw [← hExclusive.isHeld_iff n, Gatehouse.acquire, Gate.acquire]
  cases (h.flag n).isHeld <;> simp

theorem acquire (n : Nat) : (h.acquire n).2.IsExclusive := by
  rw [Gatehouse.acquire, Gate.acquire]
  cases hHeld : (h.flag n).isHeld with
  | true => exact hExclusive
  | false =>
    intro k
    have hCount := hExclusive k
    by_cases hSame : k = n
    · subst hSame
      simp [setFlag, hCount, hHeld]
    · simp [setFlag, hSame, hCount, List.count_cons_of_ne (Ne.symm hSame)]

/-- As the guard is the only one of its flag, none is left when it is dropped. -/
theorem drop {n : Nat} (hLive : n ∈ h.guards) : (h.drop n).IsExclusive := by
  intro k
  have hCount := hExclusive k
  by_cases hSame : k = n
  · subst hSame
    rw [(hExclusive.isHeld_iff k).mpr hLive] at hCount
    simp [Gatehouse.drop, setFlag, hCount, Gate.release, Gate.free]
  · simp [Gatehouse.drop, setFlag, hSame, hCount, List.count_erase_of_ne hSame]

theorem perform (m : Move) : (h.perform m).IsExclusive := by
  cases m with
  | clone i => exact hExclusive
  | acquire i =>
    rw [Gatehouse.perform]
    cases h.handles[i]? with
    | none => exact hExclusive
    | some n => exact hExclusive.acquire n
  | drop i =>
    rw [Gatehouse.perform]
    cases hGuard : h.guards[i]? with
    | none => exact hExclusive
    | some n => exact hExclusive.drop (List.mem_of_getElem? hGuard)

theorem run (moves : List Move) : (h.run moves).IsExclusive := by
  induction moves generalizing h with
  | nil => exact hExclusive
  | cons m rest ih => exact ih (hExclusive.perform m)

end IsExclusive

end Gatehouse

/-! ## 3. The gate of a workbench -/

/-- The calls made between two benches were made with the gate as it was before, and it still is. -/
def KeepsGate (b b' : Bench σ) : Prop :=
  b'.desk.gate = b.desk.gate ∧
    ∃ events, b'.trace = b.trace ++ events ∧ ∀ x ∈ events, x.gate = b.desk.gate

theorem isFrame_keepsGate : IsFrame (KeepsGate (σ := σ)) where
  refl b := ⟨rfl, [], by simp⟩
  trans {b₁ b₂ b₃} h h' := by
    obtain ⟨hGate, first, hFirst, hFirstGate⟩ := h
    obtain ⟨hGate', second, hSecond, hSecondGate⟩ := h'
    refine ⟨hGate'.trans hGate, first ++ second, ?_, fun x hMem => ?_⟩
    · rw [hSecond, hFirst, List.append_assoc]
    · rcases List.mem_append.mp hMem with hMem | hMem
      · exact hFirstGate x hMem
      · exact (hSecondGate x hMem).trans hGate

/-- Every call keeps the gate, and so does every change of the desk that leaves it. -/
theorem preserves_keepsGate (env : Environment σ) :
    Preserves env (fun _ => True) Desk.gate KeepsGate where
  toIsFrame := isFrame_keepsGate
  ask {c} _ b := ⟨rfl, [⟨c, b.desk.gate⟩], rfl, by simp⟩
  onDesk hGate b := ⟨hGate b.desk, [], by simp [onDesk_run]⟩

/-- No action's work touches the gate. -/
theorem work_keepsGate (env : Environment σ) (a : Action) : (a.work env).Moves KeepsGate := by
  have hKeeps := preserves_keepsGate env
  exact hKeeps.work
    (fun force => hKeeps.capture force trivial (by simp) (by simp) fun _ _ _ => rfl)
    (by simp) (by simp) (by simp) (by simp) (fun _ _ _ _ _ _ => rfl)
    fun _ => hKeeps.saveToken (by simp) fun _ _ _ _ => rfl

/-- An action triggered with the gate free holds it while it makes its calls, and gives it back. -/
theorem trigger_holdsGate (env : Environment σ) (a : Action) {b : Bench σ}
    (hFree : b.desk.gate.isHeld = false) :
    (trigger env a b).2.desk.gate = .free ∧
      ∃ events, (trigger env a b).2.trace = b.trace ++ events ∧
        ∀ x ∈ events, x.gate.isHeld = true := by
  let held : Bench σ := { b with desk := { b.desk with gate := ⟨true⟩ } }
  obtain ⟨-, events, hTrace, hGate⟩ : KeepsGate held (a.work env held).2 :=
    work_keepsGate env a held
  rw [trigger_free env a hFree]
  refine ⟨?_, events, hTrace, fun x hMem => ?_⟩
  · show ((a.work env held).2.desk.afterWork (a.work env held).1).gate = .free
    cases (a.work env held).1 <;> rfl
  · rw [hGate x hMem]

/-- **One action at a time.** Whatever is done with any number of clones of any handles and with the
guards got through them, from gates that are free, each gate has at most one guard that is live; the
gate reads as held exactly while it has one, taking the gate fails as busy exactly then, and succeeds
otherwise. And an action triggered with the gate free holds it during every call that it makes, to
whatever outside, and leaves it free, however it ends. -/
theorem gate_excludes :
    (∀ (handles : List Nat) (moves : List Gatehouse.Move) (n : Nat),
      let h := (Gatehouse.opened handles).run moves
      h.guards.count n ≤ 1 ∧ ((h.flag n).isHeld = true ↔ n ∈ h.guards) ∧
        ((h.acquire n).1 = .error .busy ↔ n ∈ h.guards) ∧
        ((h.acquire n).1 = .ok () ↔ n ∉ h.guards)) ∧
    ∀ (σ : Type) (env : Environment σ) (a : Action) (b : Bench σ), b.desk.gate.isHeld = false →
      let b' := (trigger env a b).2
      ∃ talk events, b.Makes env talk b' ∧ b'.trace = b.trace ++ events ∧
        events.map Event.call = talk.map Exchange.call ∧
        (∀ x ∈ events, x.gate.isHeld = true) ∧ b'.desk.gate.isHeld = false := by
  constructor
  · intro handles moves n h
    have hExclusive : h.IsExclusive := (Gatehouse.isExclusive_opened handles).run moves
    exact ⟨hExclusive.count_le_one n, hExclusive.isHeld_iff n, hExclusive.acquire_error_iff n,
      hExclusive.acquire_ok_iff n⟩
  · intro σ env a b hFree b'
    obtain ⟨talk, -, hMakes, -, -⟩ := trigger_ends env a hFree
    obtain ⟨hGate, events, hTrace, hHeld⟩ := trigger_holdsGate env a hFree
    refine ⟨talk, events, hMakes, hTrace, ?_, hHeld, congrArg Gate.isHeld hGate⟩
    have hCalls : b.calls ++ events.map Event.call = b.calls ++ talk.map Exchange.call := by
      rw [← hMakes.calls_eq, Bench.calls, Bench.calls, hTrace, List.map_append]
    exact List.append_cancel_left hCalls

/-- The clone of a handle is refused while the guard is live, and not when it is dropped. A capture that
fails for want of a tab asks for it with the gate held, and gives the gate back. -/
theorem gate_excludes_clone :
    let h := (Gatehouse.opened [0]).run [.clone 0, .acquire 0]
    let b := Bench.new .standard (Script.ofSettings [])
    h.handles = [0, 0] ∧ (h.acquire 0).1 = .error .busy ∧
      ((h.perform (.drop 0)).acquire 0).1 = .ok () ∧
      (trigger Script.environment .capture b).1 = .error Script.noReply ∧
      (trigger Script.environment .capture b).2.desk.gate.isHeld = false ∧
      ∃ talk, ∃ events : List Event,
        b.Makes Script.environment talk (trigger Script.environment .capture b).2 ∧
        events.map Event.call = talk.map Exchange.call ∧ ∀ x ∈ events, x.gate.isHeld = true := by
  intro h b
  obtain ⟨hExcludes, hHolds⟩ := gate_excludes
  obtain ⟨-, -, hBusy, -⟩ := hExcludes [0] [.clone 0, .acquire 0] 0
  obtain ⟨-, -, -, hTaken⟩ := hExcludes [0] [.clone 0, .acquire 0, .drop 0] 0
  obtain ⟨talk, events, hMakes, -, hCalls, hHeld, hFree⟩ :=
    hHolds Script Script.environment .capture b rfl
  exact ⟨rfl, hBusy.mpr (by decide), hTaken.mpr (by decide), rfl, hFree,
    talk, events, hMakes, hCalls, hHeld⟩

end PageQuery
