import PageQuery.Proofs.Workbench.CachedSnapshot
import PageQuery.Proofs.Workbench.Operations
/-!
Workbenches that share a session cache.

Each workbench of a `Floor` has a desk and an environment of its own, and all their session caches are
one. Over any run the cache keeps to the last capture that it took (`Floor.run_caches`), and so a restore
gives back markup and scope of that one, unless the markup was empty. Then the markup of an earlier
version is in its place, under the scope of the capture: `restored_snapshot` says what is restored in
each case.
-/

namespace PageQuery

variable {σ : Type}

/-! ## 1. The floor -/

/-- Workbenches over one outside, by number. -/
structure Floor (σ : Type) where
  desks : Nat → Desk
  outside : σ

namespace Floor

/-- A workbench with nothing on record yet. -/
def bench (f : Floor σ) (i : Nat) : Bench σ := ⟨f.desks i, f.outside, []⟩

/-- A workbench goes back to its place. -/
def leave (f : Floor σ) (i : Nat) (b : Bench σ) : Floor σ :=
  ⟨fun j => if j = i then b.desk else f.desks j, b.outside⟩

/-- One workbench does an operation, and its environment answers. -/
def perform (env : Nat → Environment σ) (f : Floor σ) (i : Nat) (op : Operation) : Floor σ :=
  f.leave i (op.perform (env i) (f.bench i)).2

/-- The floor after operations, whether they succeed or not. -/
def run (env : Nat → Environment σ) : List (Nat × Operation) → Floor σ → Floor σ
  | [], f => f
  | (i, op) :: rest, f => run env rest (f.perform env i op)

/-- What is said in the course of these operations. -/
def talk (env : Nat → Environment σ) : List (Nat × Operation) → Floor σ → List Exchange
  | [], _ => []
  | (i, op) :: rest, f =>
    answers (env i) f.outside (op.perform (env i) (f.bench i)).2.calls ++
      talk env rest (f.perform env i op)

end Floor

/-! ## 2. Operations -/

section Operations

variable {env : Environment σ} {cache : σ → SessionCache} (hServes : ServesSession env cache)

include hServes

theorem work_recalls (a : Action) : (a.work env).Moves (Recalls env cache) := by
  have hKeeps := preserves_recalls hServes
  exact hKeeps.work (capture_recalls hServes) (by simp) (by simp) (by simp) (by simp)
    (fun _ _ _ _ _ _ => rfl) fun _ => hKeeps.saveToken (by simp) fun _ _ _ _ => rfl

/-- Whatever is done at a workbench, of the captures that the cache takes it holds the last. -/
theorem perform_recalls (op : Operation) : (op.perform env).Moves (Recalls env cache) := by
  have hKeeps := preserves_recalls hServes
  exact hKeeps.perform (capture_recalls hServes) (work_recalls hServes) (restore_recalls hServes)
    (by simp) (by simp) (fun _ _ _ => rfl) fun _ _ => hKeeps.onDesk fun _ => rfl

end Operations

/-! ## 3. Whole runs -/

/-- **Over any run the cache holds the last of the captures that it took.** -/
theorem Floor.run_caches {env : Nat → Environment σ} {cache : σ → SessionCache}
    (hServes : ∀ i, ServesSession (env i) cache) {earlier : Option String} :
    ∀ (ops : List (Nat × Operation)) (f : Floor σ) {last : Option Snapshot},
      CachesLast (cache f.outside).get? last earlier →
      ∃ taken, Persists (f.talk env ops) taken ∧
        CachesLast (cache (f.run env ops).outside).get? (taken.getLast?.or last) earlier
  | [], _, _, h => ⟨[], .of_scoped_nil rfl, h⟩
  | (i, op) :: rest, f, last, h => by
      obtain ⟨said, taken, hMakes, hPersists, hHolds⟩ :=
        perform_recalls (hServes i) op (f.bench i)
      obtain ⟨more, hPersists', h'⟩ :=
        run_caches hServes rest (f.perform env i op) (hHolds _ _ h)
      refine ⟨taken ++ more, ?_, ?_⟩
      · rw [hMakes.eq_answers rfl] at hPersists
        exact hPersists.append hPersists'
      · rw [List.getLast?_append, Option.or_assoc]
        exact h'

/-- **What a restore installs after any run.** Let workbenches share a session cache that holds no
scope at first, though maybe markup of an earlier version. If a restore succeeds, it installs markup
and scope of the last capture that the cache took, except where that markup was empty: then it puts
markup of the earlier version, if there is any, under the scope of that capture. If there is none, if
no capture was taken, and if the restore fails, the snapshot stays as it is. -/
theorem restored_snapshot {env : Nat → Environment σ} {cache : σ → SessionCache}
    (hServes : ∀ i, ServesSession (env i) cache) (start : Floor σ)
    (hScope : (cache start.outside).get? scopeKey = none) (ops : List (Nat × Operation)) (i : Nat) :
    let b := (start.run env ops).bench i
    let restored := restore (env i) b
    let earlier := filled ((cache start.outside).get? earlierSnapshotKey)
    ∃ taken, Persists (start.talk env ops) taken ∧
      (∀ e, restored.1 = .error e → restored.2.desk.snapshot = b.desk.snapshot) ∧
      (restored.1 = .ok () →
        (taken = [] → restored.2.desk.snapshot = b.desk.snapshot) ∧
        ∀ s, taken.getLast? = some s →
          (s.html ≠ "" → restored.2.desk.snapshot = some (.ofHtml s.html s.scope .unknown)) ∧
          (s.html = "" → ∀ html, earlier = some html →
            restored.2.desk.snapshot = some (.ofHtml html s.scope .unknown)) ∧
          (s.html = "" → earlier = none → restored.2.desk.snapshot = b.desk.snapshot)) := by
  intro b restored earlier
  obtain ⟨taken, hPersists, hRun⟩ := Floor.run_caches hServes ops start (.of_no_scope hScope)
  rw [Option.or_none] at hRun
  have hCache : CachesLast (cache b.outside).get? taken.getLast? earlier := hRun
  obtain ⟨hFails, hInstalls⟩ := restore_installs (hServes i) b
  refine ⟨taken, hPersists, hFails, fun hOk => ⟨fun hNone => ?_, fun s hLast => ?_⟩⟩
  · rw [hNone] at hCache
    rw [hInstalls hOk, hCache.foundPair_none]
    rfl
  · rw [hLast] at hCache
    rw [hInstalls hOk, hCache.foundPair_some]
    refine ⟨fun hHtml => ?_, fun hEmpty html hEarlier => ?_, fun hEmpty hEarlier => ?_⟩
    · have hFilled : filled (some s.html) = some s.html := by simp [filled, hHtml]
      rw [hFilled]
      rfl
    · rw [hEmpty, hEarlier]
      rfl
    · rw [hEmpty, hEarlier]
      rfl

/-! ## 4. A script whose session cache never fails -/

namespace Script

/-- The scripted outside, but with a session cache that fails for its quota alone. -/
def faultless : Environment Script := fun c s => environment c { s with sessionFaults := .none }

theorem servesSession : ServesSession faultless Script.session where
  read key s := rfl
  write entries s := by
    have hRun : faultless (.writeSession entries) s =
        writeSession { s with sessionFaults := .none } entries := rfl
    have hNone : (entries.any fun e => StoreFaults.none.writes.contains e.1) = false := by
      simp [StoreFaults.none]
    rw [hRun, writeSession, hNone]
    cases s.session.setMany entries with
    | ok c => exact ⟨rfl, rfl⟩
    | error f => exact ⟨rfl, rfl⟩
  other {c} h s := (spares c { s with sessionFaults := .none }).session h

end Script

/-- New workbenches over a page with nothing on it, in a session where an earlier version left
markup. -/
def emptyPage : Floor Script where
  desks _ := .new .standard
  outside :=
    { Script.ofSettings [] with
      tab := .ok 3
      replies := [.ok (.captured ⟨some .full, .full, "", none⟩)]
      session := ⟨100, [(earlierSnapshotKey, "<p>old</p>")]⟩ }

/-- A second workbench, after the first one captured this page. -/
def besideEmptyPage : Bench Script :=
  (emptyPage.run (fun _ => Script.faultless) [(0, .capture true)]).bench 1

/-- What comes back is the markup of the earlier version, under the scope in which the empty page was
captured. -/
theorem restored_beside_empty_page :
    emptyPage.outside.session.get? scopeKey = none ∧
    (emptyPage.talk (fun _ => Script.faultless) [(0, .capture true)]).filterMap Exchange.scoped? =
      [[(snapshotKey, ""), (scopeKey, Scope.full.name)]] ∧
    besideEmptyPage.desk.snapshot = none ∧ (restore Script.faultless besideEmptyPage).1 = .ok () ∧
    (restore Script.faultless besideEmptyPage).2.desk.snapshot =
      some (.ofHtml "<p>old</p>" .full .unknown) := by
  have hScope : emptyPage.outside.session.get? scopeKey = none := by decide
  have hSaid : (emptyPage.talk (fun _ => Script.faultless) [(0, .capture true)]).filterMap
      Exchange.scoped? = [[(snapshotKey, ""), (scopeKey, Scope.full.name)]] := by decide +kernel
  have hOk : (restore Script.faultless besideEmptyPage).1 = .ok () := by
    have hIsOk : (restore Script.faultless besideEmptyPage).1.isOk = true := by decide +kernel
    cases hRun : (restore Script.faultless besideEmptyPage).1 with
    | error e =>
      rw [hRun] at hIsOk
      cases hIsOk
    | ok _ => rfl
  obtain ⟨taken, hPersists, -, hInstalls⟩ := restored_snapshot (fun _ => Script.servesSession)
    emptyPage hScope [(0, .capture true)] 1
  obtain ⟨s, rfl, hEntries⟩ : ∃ s, taken = [s] ∧
      cacheEntries s = [(snapshotKey, ""), (scopeKey, Scope.full.name)] :=
    List.map_eq_singleton_iff.mp (hPersists.scoped_eq.symm.trans hSaid)
  obtain ⟨hHtml, hName⟩ : s.html = "" ∧ s.scope.name = Scope.full.name := by
    simpa [cacheEntries] using hEntries
  have hFull : s.scope = .full := by
    have hParsed := congrArg Scope.ofName? hName
    simpa using hParsed
  refine ⟨hScope, hSaid, rfl, hOk, ?_⟩
  rw [← hFull]
  exact ((hInstalls hOk).2 s rfl).2.1 hHtml "<p>old</p>" (by decide)

end PageQuery
