import PageQuery.Store.Basic
import Mathlib.Data.List.Perm.Basic
/-!
Looking up what was stored, and the quota of the session cache.

Settings and the session cache keep their entries in lists, in different orders. Either gives back
what was last stored under a key, and leaves all other keys alone.

A write to the cache is charged for the entries that stay and for all that it brings. Up to their order
these are the entries that the cache then holds, if no key comes twice in the write (`foldl_put_perm`);
else some of what is brought is overwritten again, and less is held than was charged for
(`foldl_put_subperm`). So a cache stays within its quota over any run of writes, and refuses a write
only if it must: that is `writes_within_quota`.
-/

namespace PageQuery

/-! ## 1. Settings maps -/

namespace SettingsMap

theorem get?_cons (k v : String) (m : SettingsMap) (key : String) :
    get? ((k, v) :: m) key = if k = key then some v else get? m key := by
  rw [get?, List.find?_cons]
  by_cases h : k = key
  · simp [h]
  · have hBeq : (k == key) = false := beq_eq_false_iff_ne.mpr h
    simp only [hBeq, if_neg h]
    rfl

/-- **Inserting a value sets its key and no other.** -/
theorem get?_insert (key value other : String) : ∀ (m : SettingsMap),
    get? (m.insert key value) other = if key = other then some value else get? m other
  | [] => get?_cons key value [] other
  | (k, v) :: rest => by
      rw [insert]
      by_cases hLess : key < k
      · rw [if_pos hLess, get?_cons]
      by_cases hSame : k = key
      · rw [if_neg hLess, if_pos hSame, get?_cons, get?_cons, hSame]
        by_cases h : key = other
        · rw [if_pos h, if_pos h]
        · rw [if_neg h, if_neg h, if_neg h]
      · rw [if_neg hLess, if_neg hSame, get?_cons, get?_cons, get?_insert key value other rest]
        by_cases h : k = other
        · rw [if_pos h, if_neg (fun hOther => hSame (h.trans hOther.symm)), if_pos h]
        · rw [if_neg h, if_neg h]

end SettingsMap

/-! ## 2. The session cache -/

/-- Entries put over what is held, the last one for a key counting. -/
def entriesOver (entries : List (String × String)) (held : String → Option String) :
    String → Option String :=
  entries.foldl (fun held e key => if e.1 = key then some e.2 else held key) held

namespace SessionCache

theorem get?_cons (quota : Nat) (e : String × String) (rest : List (String × String))
    (key : String) :
    get? ⟨quota, e :: rest⟩ key = if e.1 = key then some e.2 else get? ⟨quota, rest⟩ key :=
  SettingsMap.get?_cons e.1 e.2 rest key

/-- Putting an entry sets its key and no other. -/
theorem get?_put (quota : Nat) (e : String × String) (key : String) :
    ∀ entries : List (String × String),
      get? ⟨quota, put entries e⟩ key = if e.1 = key then some e.2 else get? ⟨quota, entries⟩ key
  | [] => get?_cons quota e [] key
  | old :: rest => by
      rw [put]
      by_cases hSame : old.1 = e.1
      · rw [if_pos hSame, get?_cons, get?_cons, hSame]
        by_cases h : e.1 = key
        · rw [if_pos h, if_pos h]
        · rw [if_neg h, if_neg h, if_neg h]
      · rw [if_neg hSame, get?_cons, get?_cons, get?_put quota e key rest]
        by_cases h : old.1 = key
        · rw [if_pos h, if_neg (fun hKey => hSame (h.trans hKey.symm)), if_pos h]
        · rw [if_neg h, if_neg h]

theorem get?_foldl_put (quota : Nat) : ∀ fresh entries : List (String × String),
    get? ⟨quota, fresh.foldl put entries⟩ = entriesOver fresh (get? ⟨quota, entries⟩)
  | [], entries => rfl
  | e :: rest, entries => by
      have hFirst : get? ⟨quota, put entries e⟩ =
          fun key => if e.1 = key then some e.2 else get? ⟨quota, entries⟩ key :=
        funext fun key => get?_put quota e key entries
      rw [List.foldl_cons, get?_foldl_put quota rest, hFirst]
      rfl

/-- **A write within the quota stores all its entries and touches no other key.** -/
theorem get?_setMany {c c' : SessionCache} {fresh : List (String × String)}
    (h : c.setMany fresh = .ok c') : c'.get? = entriesOver fresh c.get? := by
  rw [setMany] at h
  split at h
  · cases h
  · cases h
    exact get?_foldl_put c.quota fresh c.entries

/-! ## 3. Bytes -/

theorem bytes_cons (e : String × String) (entries : List (String × String)) :
    bytes (e :: entries) = (e.1.utf8ByteSize + e.2.utf8ByteSize) + bytes entries := rfl

theorem bytes_append (first second : List (String × String)) :
    bytes (first ++ second) = bytes first + bytes second := by
  induction first with
  | nil => exact (Nat.zero_add _).symm
  | cons e rest ih =>
    rw [List.cons_append, bytes_cons, bytes_cons, ih]
    omega

theorem bytes_of_perm {first second : List (String × String)} (h : first.Perm second) :
    bytes first = bytes second := by
  induction h with
  | nil => rfl
  | cons e _ ih => rw [bytes_cons, bytes_cons, ih]
  | swap e e' rest =>
    simp only [bytes_cons]
    omega
  | trans _ _ ih ih' => exact ih.trans ih'

/-- Entries among others take no more bytes than those. -/
theorem bytes_le_of_subperm {part all : List (String × String)} (h : part.Subperm all) :
    bytes part ≤ bytes all := by
  obtain ⟨chosen, hPerm, hChosen⟩ := h
  rw [← bytes_of_perm hPerm]
  clear hPerm
  induction hChosen with
  | slnil => exact Nat.le_refl _
  | cons e _ ih => exact Nat.le_trans ih (Nat.le_add_left _ _)
  | cons_cons e _ ih => exact Nat.add_le_add_left ih _

/-! ## 4. What a write leaves -/

/-- The keys of entries. -/
def keysOf (entries : List (String × String)) : List String := entries.map (·.1)

theorem nodup_keysOf_filter {entries : List (String × String)} (h : (keysOf entries).Nodup)
    (p : String × String → Bool) : (keysOf (entries.filter p)).Nodup :=
  (List.filter_sublist.map _).nodup h

theorem filter_eq_self_of_not_mem {key : String} {entries : List (String × String)}
    (h : key ∉ keysOf entries) : entries.filter (·.1 != key) = entries := by
  refine List.filter_eq_self.mpr fun e hMem => bne_iff_ne.mpr ?_
  rintro rfl
  exact h (List.mem_map_of_mem hMem)

/-- Putting an entry takes away the one under its key and adds the new one. -/
theorem put_perm (e : String × String) : ∀ {entries : List (String × String)},
    (keysOf entries).Nodup → (put entries e).Perm (e :: entries.filter (·.1 != e.1))
  | [], _ => .refl _
  | old :: rest, hKeys => by
      obtain ⟨hOld, hRest⟩ := List.nodup_cons.mp hKeys
      rw [put]
      by_cases hSame : old.1 = e.1
      · rw [if_pos hSame, List.filter_cons_of_neg (by simp [hSame]),
          filter_eq_self_of_not_mem (hSame ▸ hOld)]
      · rw [if_neg hSame, List.filter_cons_of_pos (by simp [hSame])]
        exact ((put_perm e hRest).cons old).trans (.swap e old _)

theorem nodup_put (e : String × String) {entries : List (String × String)}
    (h : (keysOf entries).Nodup) : (keysOf (put entries e)).Nodup := by
  refine ((put_perm e h).map _).nodup_iff.mpr (List.nodup_cons.mpr ⟨?_, nodup_keysOf_filter h _⟩)
  intro hMem
  obtain ⟨old, hOld, hSame⟩ := List.mem_map.mp hMem
  exact bne_iff_ne.mp (List.mem_filter.mp hOld).2 hSame

theorem nodup_foldl_put (fresh : List (String × String)) {entries : List (String × String)}
    (h : (keysOf entries).Nodup) : (keysOf (fresh.foldl put entries)).Nodup := by
  induction fresh generalizing entries with
  | nil => exact h
  | cons e rest ih => exact ih (nodup_put e h)

theorem kept_nil (c : SessionCache) : c.kept [] = c.entries := by
  rw [kept, List.filter_eq_self.mpr (by simp)]

/-- What stays once an entry is put: the entry, unless its key is to come again, and what stays of
the others. -/
theorem kept_put (c : SessionCache) (h : (keysOf c.entries).Nodup) (e : String × String)
    (rest : List (String × String)) :
    (kept { c with entries := put c.entries e } rest).Perm
      (kept { c with entries := [e] } rest ++ c.kept (e :: rest)) := by
  have hPerm := (put_perm e h).filter fun x => !rest.any (·.1 == x.1)
  rw [← List.singleton_append, List.filter_append, List.filter_filter] at hPerm
  have hKept : c.kept (e :: rest) =
      c.entries.filter fun x => (!rest.any (·.1 == x.1)) && x.1 != e.1 := by
    refine List.filter_congr fun x _ => ?_
    rw [List.any_cons, Bool.not_or, Bool.and_comm, bne, Bool.beq_comm]
  rw [hKept]
  exact hPerm

/-- **What is held after a write is among what the write was charged for.** -/
theorem foldl_put_subperm (fresh : List (String × String)) (c : SessionCache)
    (h : (keysOf c.entries).Nodup) :
    (fresh.foldl put c.entries).Subperm (fresh ++ c.kept fresh) := by
  induction fresh generalizing c with
  | nil =>
    rw [kept_nil]
    exact .refl _
  | cons e rest ih =>
    have hLater : (kept { c with entries := [e] } rest ++ c.kept (e :: rest)).Subperm
        (e :: c.kept (e :: rest)) :=
      (List.filter_sublist.append_right _).subperm
    have hAll := (List.subperm_append_left rest).mpr ((kept_put c h e rest).subperm.trans hLater)
    have hRest := ih { c with entries := put c.entries e } (nodup_put e h)
    exact (hRest.trans hAll).trans List.perm_middle.subperm

/-- **If no key comes twice, a write is charged for just what is held after it.** -/
theorem foldl_put_perm {fresh : List (String × String)} (hFresh : (keysOf fresh).Nodup)
    (c : SessionCache) (h : (keysOf c.entries).Nodup) :
    (fresh.foldl put c.entries).Perm (fresh ++ c.kept fresh) := by
  induction fresh generalizing c with
  | nil =>
    rw [kept_nil]
    exact .refl _
  | cons e rest ih =>
    obtain ⟨hOnce, hRest⟩ := List.nodup_cons.mp hFresh
    have hStays : kept { c with entries := [e] } rest = [e] := by
      refine List.filter_eq_self.mpr fun x hMem => ?_
      obtain rfl := List.mem_singleton.mp hMem
      simp only [Bool.not_eq_true', List.any_eq_false, beq_iff_eq]
      intro y hMem hSame
      exact hOnce (List.mem_map.mpr ⟨y, hMem, hSame⟩)
    have hAll := (kept_put c h e rest).append_left rest
    rw [hStays] at hAll
    have hLater := ih hRest { c with entries := put c.entries e } (nodup_put e h)
    exact (hLater.trans hAll).trans List.perm_middle

theorem bytes_foldl_put_le (fresh : List (String × String)) {c : SessionCache}
    (h : (keysOf c.entries).Nodup) : bytes (fresh.foldl put c.entries) ≤ c.projected fresh := by
  have hBytes := bytes_le_of_subperm (foldl_put_subperm fresh c h)
  rw [bytes_append, Nat.add_comm] at hBytes
  exact hBytes

theorem bytes_foldl_put {fresh : List (String × String)} (hFresh : (keysOf fresh).Nodup)
    {c : SessionCache} (h : (keysOf c.entries).Nodup) :
    bytes (fresh.foldl put c.entries) = c.projected fresh := by
  have hBytes := bytes_of_perm (foldl_put_perm hFresh c h)
  rw [bytes_append, Nat.add_comm] at hBytes
  exact hBytes

/-! ## 5. What is held -/

theorem entriesOver_of_not_mem {key : String} {fresh : List (String × String)}
    (h : key ∉ keysOf fresh) (held : String → Option String) :
    entriesOver fresh held key = held key := by
  induction fresh generalizing held with
  | nil => rfl
  | cons e rest ih =>
    obtain ⟨hFirst, hRest⟩ := not_or.mp (mt List.mem_cons.mpr h)
    exact (ih hRest _).trans (if_neg (Ne.symm hFirst))

/-- Of the entries under one key the last counts. -/
theorem entriesOver_of_last {key value : String} {before after : List (String × String)}
    (hLast : key ∉ keysOf after) (held : String → Option String) :
    entriesOver (before ++ (key, value) :: after) held key = some value := by
  rw [entriesOver, List.foldl_append, List.foldl_cons]
  exact (entriesOver_of_not_mem hLast _).trans (if_pos rfl)

/-! ## 6. Runs of writes -/

/-- The answer to a write, and the cache after it. -/
def write (c : SessionCache) (fresh : List (String × String)) : Except Fault Unit × SessionCache :=
  match c.setMany fresh with
  | .ok c' => (.ok (), c')
  | .error f => (.error f, c)

theorem write_of_le {c : SessionCache} {fresh : List (String × String)}
    (h : c.projected fresh ≤ c.quota) :
    c.write fresh = (.ok (), { c with entries := fresh.foldl put c.entries }) := by
  rw [write, setMany, if_neg (Nat.not_lt.mpr h)]

theorem write_of_lt {c : SessionCache} {fresh : List (String × String)}
    (h : c.quota < c.projected fresh) :
    c.write fresh = (.error (quotaFault (c.projected fresh) c.quota), c) := by
  rw [write, setMany, if_pos h]

/-- A write is taken or leaves the cache as it was. -/
theorem get?_write (c : SessionCache) (fresh : List (String × String)) :
    (c.write fresh).2 = c ∨ (c.write fresh).2.get? = entriesOver fresh c.get? := by
  rw [write]
  cases hStored : c.setMany fresh with
  | ok c' => exact Or.inr (get?_setMany hStored)
  | error f => exact Or.inl rfl

/-- The cache after writes, whether they are accepted or not. -/
def writeAll (c : SessionCache) (writes : List (List (String × String))) : SessionCache :=
  writes.foldl (fun c fresh => (c.write fresh).2) c

/-- Each key has one entry, and all entries together take no more bytes than the quota. -/
structure IsWithin (c : SessionCache) (quota : Nat) : Prop where
  quota_eq : c.quota = quota
  nodup : (keysOf c.entries).Nodup
  bytes_le : bytes c.entries ≤ quota

theorem isWithin_empty (quota : Nat) : (empty quota).IsWithin quota :=
  ⟨rfl, List.nodup_nil, Nat.zero_le _⟩

theorem IsWithin.write {c : SessionCache} {quota : Nat} (h : c.IsWithin quota)
    (fresh : List (String × String)) : (c.write fresh).2.IsWithin quota := by
  by_cases hFits : c.projected fresh ≤ c.quota
  · rw [write_of_le hFits]
    refine ⟨h.quota_eq, nodup_foldl_put fresh h.nodup, ?_⟩
    exact h.quota_eq ▸ Nat.le_trans (bytes_foldl_put_le fresh h.nodup) hFits
  · rw [write_of_lt (Nat.lt_of_not_le hFits)]
    exact h

theorem IsWithin.writeAll {quota : Nat} : ∀ (writes : List (List (String × String)))
    {c : SessionCache}, c.IsWithin quota → (c.writeAll writes).IsWithin quota
  | [], _, h => h
  | fresh :: rest, _, h => IsWithin.writeAll rest (h.write fresh)

/-- **A cache stays within its quota and refuses a write only if it must.** After any writes to an empty
cache, each key has one entry and all together take no more bytes than the quota. A further write that is
refused leaves the entries as they are. One that is accepted leaves under each of its keys the last value
that it brings for it, and under every other key what was there. If no key comes twice in it, it is
refused exactly if the cache with its entries in it would take more bytes than the quota. -/
theorem writes_within_quota (quota : Nat) (writes : List (List (String × String)))
    (fresh : List (String × String)) :
    let c : SessionCache := (empty quota).writeAll writes
    let after : SessionCache := (c.write fresh).2
    (keysOf c.entries).Nodup ∧ bytes c.entries ≤ quota ∧
    (∀ f, (c.write fresh).1 = .error f → after = c) ∧
    ((c.write fresh).1 = .ok () →
      (∀ before key value later, fresh = before ++ (key, value) :: later → key ∉ keysOf later →
        after.get? key = some value) ∧
      ∀ key, key ∉ keysOf fresh → after.get? key = c.get? key) ∧
    ((keysOf fresh).Nodup →
      ((∃ f, (c.write fresh).1 = .error f) ↔ quota < bytes (fresh.foldl put c.entries))) := by
  intro c after
  have hWithin : c.IsWithin quota := (isWithin_empty quota).writeAll writes
  refine ⟨hWithin.nodup, hWithin.bytes_le, ?_⟩
  by_cases hFits : c.projected fresh ≤ c.quota
  · have hRun := write_of_le hFits
    have hHeld : after.get? = entriesOver fresh c.get? := by
      rw [show after = _ from congrArg Prod.snd hRun]
      exact get?_foldl_put c.quota fresh c.entries
    refine ⟨fun f h => ?_, fun _ => ⟨?_, fun key hOther => ?_⟩, fun hKeys => ?_⟩
    · rw [hRun] at h
      cases h
    · rintro before key value later rfl hLast
      rw [hHeld]
      exact entriesOver_of_last hLast _
    · rw [hHeld]
      exact entriesOver_of_not_mem hOther _
    · rw [hRun, bytes_foldl_put hKeys hWithin.nodup, ← hWithin.quota_eq]
      simp [hFits]
  · have hOver := Nat.lt_of_not_le hFits
    have hRun := write_of_lt hOver
    refine ⟨fun _ _ => congrArg Prod.snd hRun, fun h => ?_, fun hKeys => ?_⟩
    · rw [hRun] at h
      cases h
    · rw [hRun, bytes_foldl_put hKeys hWithin.nodup, ← hWithin.quota_eq]
      simp [hOver]

/-- A cache that is full takes another value of the same length, and refuses a longer one. -/
theorem write_to_full_cache :
    let c := (empty 9).writeAll [[("k", "12345678")]]
    bytes c.entries = 9 ∧ (c.write [("k", "abcdefgh")]).1 = .ok () ∧
    (c.write [("k", "abcdefgh")]).2.get? "k" = some "abcdefgh" ∧
    (∃ f, (c.write [("k", "abcdefghi")]).1 = .error f) ∧
    ∀ f, (c.write [("k", "abcdefghi")]).1 = .error f → (c.write [("k", "abcdefghi")]).2 = c := by
  intro c
  have hTaken : (c.write [("k", "abcdefgh")]).1 = .ok () := by rfl
  have hKeys : (keysOf [("k", "abcdefghi")]).Nodup := by decide
  obtain ⟨-, -, -, hStored, -⟩ := writes_within_quota 9 [[("k", "12345678")]] [("k", "abcdefgh")]
  obtain ⟨-, -, hKept, -, hRefused⟩ :=
    writes_within_quota 9 [[("k", "12345678")]] [("k", "abcdefghi")]
  refine ⟨by decide, hTaken, ?_, (hRefused hKeys).mpr (by decide), hKept⟩
  exact (hStored hTaken).1 [] "k" "abcdefgh" [] rfl (by decide)

end SessionCache

end PageQuery
