import PageQuery.Config.Basic
import PageQuery.Proofs.Text.Basic
/-!
Layers of configuration, setting by setting, and what the environment lays over them.

`Config.at?` reads one setting of a layer, and `Config.ext_at?` says that a layer is no more than its
settings. What a merge does is said once, for all settings: the upper layer speaks first
(`Config.at?_merge`). From that one equation come the laws of merging, and by induction on the layers
what a whole stack of them says (`Config.at?_mergeAll`). The main statement on layers is
`Config.last_layer_wins`.

The layers that are found do not depend on the environment (`load_eq`), so two loads from one disk differ
by what is laid over the same stack. A blank address is dropped there. A blank format is kept: it names no
format, so it stands for comma separated values (`effectiveFormat_of_blank`), and whatever the files name
is out of sight behind it. `blank_overrides` says exactly when that matters.
-/

namespace PageQuery

open Text

/-! ## 1. Settings -/

/-- What a configuration can set. -/
inductive Setting where
  | agentUrl
  | tokenHeader
  | maxRows
  | timeoutMs
  | primaryScope
  | fallbackScope
  | sessionQuota
  | exportFormat
  deriving DecidableEq, Repr

/-- What a setting is set to. -/
def Setting.Value : Setting → Type
  | .agentUrl | .tokenHeader | .exportFormat => String
  | .maxRows | .timeoutMs | .sessionQuota => Nat
  | .primaryScope | .fallbackScope => Scope

namespace Config

/-- What a layer says of a setting. -/
def at? (c : Config) : (s : Setting) → Option s.Value
  | .agentUrl => c.agentUrl
  | .tokenHeader => c.tokenHeader
  | .maxRows => c.maxRows
  | .timeoutMs => c.timeoutMs
  | .primaryScope => c.primaryScope
  | .fallbackScope => c.fallbackScope
  | .sessionQuota => c.sessionQuota
  | .exportFormat => c.exportFormat

/-- A layer is what it says of its settings. -/
theorem ext_at? {c d : Config} (h : ∀ s, c.at? s = d.at? s) : c = d := by
  cases c
  cases d
  have hUrl := h .agentUrl
  have hHeader := h .tokenHeader
  have hRows := h .maxRows
  have hTimeout := h .timeoutMs
  have hPrimary := h .primaryScope
  have hFallback := h .fallbackScope
  have hQuota := h .sessionQuota
  have hFormat := h .exportFormat
  simp only [at?] at hUrl hHeader hRows hTimeout hPrimary hFallback hQuota hFormat
  subst hUrl hHeader hRows hTimeout hPrimary hFallback hQuota hFormat
  rfl

@[simp] theorem at?_empty (s : Setting) : empty.at? s = none := by
  cases s <;> rfl

/-- The upper layer speaks first. This is the one place that looks at the fields of a merge. -/
@[simp] theorem at?_merge (lower upper : Config) (s : Setting) :
    (merge lower upper).at? s = (upper.at? s).or (lower.at? s) := by
  cases s <;> rfl

/-! ## 2. The laws of merging -/

theorem empty_merge (c : Config) : merge empty c = c := by
  apply ext_at?
  intro s
  simp

theorem merge_empty (c : Config) : merge c empty = c := by
  apply ext_at?
  intro s
  simp

theorem merge_assoc (a b c : Config) : merge (merge a b) c = merge a (merge b c) := by
  apply ext_at?
  intro s
  simp [Option.or_assoc]

instance : Std.Associative merge := ⟨merge_assoc⟩

instance : Std.LawfulIdentity merge empty where
  left_id := empty_merge
  right_id := merge_empty

/-! ## 3. Stacks of layers -/

/-- The layer that sets nothing may be put below any stack. -/
theorem mergeAll_eq_foldl (layers : List Config) : mergeAll layers = layers.foldl merge empty := by
  cases layers with
  | nil => rfl
  | cons layer rest => rw [mergeAll, List.foldl_cons, empty_merge]

theorem mergeAll_cons (layer : Config) (rest : List Config) :
    mergeAll (layer :: rest) = merge layer (mergeAll rest) := by
  have hassoc : rest.foldl merge (merge layer empty) = merge layer (rest.foldl merge empty) :=
    List.foldl_assoc
  rw [mergeAll_eq_foldl rest, ← hassoc, merge_empty, mergeAll]

theorem mergeAll_append (lower upper : List Config) :
    mergeAll (lower ++ upper) = merge (mergeAll lower) (mergeAll upper) := by
  induction lower with
  | nil => exact (empty_merge _).symm
  | cons layer lower ih =>
    rw [List.cons_append, mergeAll_cons, mergeAll_cons, ih, merge_assoc]

/-- Groups of layers may be merged first. -/
theorem mergeAll_flatten (groups : List (List Config)) :
    mergeAll groups.flatten = mergeAll (groups.map mergeAll) := by
  induction groups with
  | nil => rfl
  | cons group groups ih =>
    rw [List.flatten_cons, List.map_cons, mergeAll_append, mergeAll_cons, ih]

/-- A stack says of a setting what is found first from the top. -/
theorem at?_mergeAll (layers : List Config) (s : Setting) :
    (mergeAll layers).at? s = layers.reverse.findSome? (·.at? s) := by
  induction layers with
  | nil => exact at?_empty s
  | cons layer layers ih =>
    rw [mergeAll_cons, at?_merge, ih, List.reverse_cons, List.findSome?_append]
    simp

/-- A value is the one that the last layer to set a setting sets it to. -/
def IsLastSet (layers : List Config) (s : Setting) (v : s.Value) : Prop :=
  ∃ lower layer upper, layers = lower ++ layer :: upper ∧ layer.at? s = some v ∧
    ∀ c ∈ upper, c.at? s = none

theorem isLastSet_iff (layers : List Config) (s : Setting) (v : s.Value) :
    IsLastSet layers s v ↔ (mergeAll layers).at? s = some v := by
  rw [at?_mergeAll, List.findSome?_eq_some_iff]
  constructor
  · rintro ⟨lower, layer, upper, rfl, hset, hopen⟩
    refine ⟨upper.reverse, layer, lower.reverse, by simp, hset, ?_⟩
    intro c hc
    exact hopen c (List.mem_reverse.mp hc)
  · rintro ⟨above, layer, below, hlayers, hset, hopen⟩
    refine ⟨below.reverse, layer, above.reverse, ?_, hset, ?_⟩
    · rw [← List.reverse_reverse layers, hlayers]
      simp
    · intro c hc
      exact hopen c (List.mem_reverse.mp hc)

/-- **The last layer that sets a setting decides it.** A stack of layers gives each setting the value
of the last layer that sets it, and leaves it open if none does. Merging is associative with the empty
layer as identity, so the layers can be grouped in any way, and a layer leaves each setting that it
does not name as it is. -/
theorem last_layer_wins (layers : List Config) :
    (∀ (s : Setting) (v : s.Value), (mergeAll layers).at? s = some v ↔ IsLastSet layers s v) ∧
      (∀ s, (mergeAll layers).at? s = none ↔ ∀ c ∈ layers, c.at? s = none) ∧
      (∀ a b c, merge (merge a b) c = merge a (merge b c)) ∧
      (∀ c, merge empty c = c ∧ merge c empty = c) ∧
      (∀ groups : List (List Config), groups.flatten = layers →
        mergeAll (groups.map mergeAll) = mergeAll layers) ∧
      ∀ lower upper s, upper.at? s = none → (merge lower upper).at? s = lower.at? s := by
  refine ⟨fun s v => (isLastSet_iff layers s v).symm, ?_, merge_assoc,
    fun c => ⟨empty_merge c, merge_empty c⟩, ?_, ?_⟩
  · intro s
    rw [at?_mergeAll, List.findSome?_eq_none_iff]
    simp
  · rintro groups rfl
    exact (mergeAll_flatten groups).symm
  · intro lower upper s hopen
    rw [at?_merge, hopen, Option.none_or]

/-- Two files over the built-in layer. The upper file sets the format, the lower one the address, and
neither touches what the other has set. -/
theorem last_layer_wins_of_two_files :
    let user : Config := { empty with agentUrl := some "http://127.0.0.1:9000", maxRows := some 50 }
    let workspace : Config := { empty with maxRows := some 60, exportFormat := some "json" }
    let layers := [builtIn, user, workspace]
    [[builtIn], [user, workspace]].flatten = layers ∧
      mergeAll ([[builtIn], [user, workspace]].map mergeAll) = mergeAll layers ∧
      (mergeAll layers).at? .maxRows = some (60 : Nat) ∧
      workspace.at? .agentUrl = none ∧
      (merge user workspace).at? .agentUrl = user.at? .agentUrl := by
  intro user workspace layers
  obtain ⟨hset, -, -, -, hgroups, hkeeps⟩ := last_layer_wins layers
  refine ⟨rfl, hgroups [[builtIn], [user, workspace]] rfl, ?_, rfl, hkeeps user workspace _ rfl⟩
  exact (hset .maxRows (60 : Nat)).mpr ⟨[builtIn, user], workspace, [], rfl, rfl, by simp⟩

end Config

/-! ## 4. The format in force -/

/-- A blank text names no format. -/
theorem ExportFormat.parse_of_isAllBlank {s : String} (h : isAllBlank s = true) :
    parse s = .error "" := by
  have hkey : lowered (trim s) = "" := by
    rw [(trim_eq_empty_iff s).mpr h]
    rfl
  unfold parse
  rw [hkey]
  rfl

namespace Config

theorem effectiveFormat_of_blank {c : Config} {name : String} (h : c.exportFormat = some name)
    (hblank : isAllBlank name = true) : c.effectiveFormat = .csv := by
  rw [effectiveFormat, h, Option.map_some, ExportFormat.parse_of_isAllBlank hblank]

/-- JSON is in force only where it is named. -/
theorem effectiveFormat_eq_json_iff (c : Config) :
    c.effectiveFormat = .json ↔
      ∃ name, c.exportFormat = some name ∧ ExportFormat.parse name = .ok .json := by
  unfold effectiveFormat
  constructor
  · intro h
    split at h
    · next format hparse =>
      subst h
      exact Option.map_eq_some_iff.mp hparse
    · cases h
  · rintro ⟨name, hname, hparse⟩
    rw [hname, Option.map_some, hparse]

/-! ## 5. Loads from one disk -/

variable (refusal : String → String)

/-- The layers that are found on a disk, from the lowest up. -/
def layers (d : Disk) (home : Option String) : Except Fault (List Config) := do
  let user ← match home with
    | some h => layerOf refusal d (Path.join h "markql/config.toml")
    | none => .ok []
  let workspace ← layerOf refusal d (Path.join (workspaceRoot d) ".markql/config.toml")
  return builtIn :: (user ++ workspace)

/-- The environment is laid over the layers that are found, and has no part in finding them. -/
theorem load_eq (d : Disk) (home : Option String) (o : Overrides) :
    load refusal d home o = (layers refusal d home).map fun stack => (mergeAll stack).withOverrides o := by
  show _ = (fun stack => (mergeAll stack).withOverrides o) <$> layers refusal d home
  cases home <;> simp only [load, layers, map_bind, map_pure]

/-- The last layer that names a format names JSON. -/
def NamesJson (stack : List Config) : Prop :=
  ∃ name : String, IsLastSet stack .exportFormat name ∧ ExportFormat.parse name = .ok .json

/-- Where the environment says nothing of the format, the layers decide. -/
theorem effectiveFormat_eq_json_iff_namesJson (stack : List Config) (o : Overrides) :
    ((mergeAll stack).withOverrides { o with exportFormat := none }).effectiveFormat = .json ↔
      NamesJson stack := by
  rw [effectiveFormat_eq_json_iff]
  exact exists_congr fun name => and_congr_left fun _ =>
    (isLastSet_iff stack .exportFormat name).symm

/-! ## 6. Blank overrides -/

section

variable {blank : String} (h : isAllBlank blank = true)

include h

theorem withOverrides_blank_url (c : Config) (o : Overrides) :
    c.withOverrides { o with agentUrl := some blank } =
      c.withOverrides { o with agentUrl := none } := by
  have hdropped : (some blank).filter (fun url => !isAllBlank url) = none := by
    rw [Option.filter_some, h]
    rfl
  simp only [withOverrides, hdropped, Option.filter_none]

theorem load_blank_url (d : Disk) (home : Option String) (o : Overrides) :
    load refusal d home { o with agentUrl := some blank } =
      load refusal d home { o with agentUrl := none } := by
  simp only [load_eq, withOverrides_blank_url h _ o]

/-- Behind a blank format the layers say nothing of the format. -/
theorem load_blank_format (d : Disk) (home : Option String) (o : Overrides) :
    (load refusal d home { o with exportFormat := some blank }).map effectiveFormat =
      (layers refusal d home).map fun _ => .csv := by
  rw [load_eq]
  cases layers refusal d home with
  | error f => rfl
  | ok stack => exact congrArg Except.ok (effectiveFormat_of_blank rfl h)

/-- Over one stack of layers, a blank format leaves the format in force as it is unless the layers name
JSON. -/
theorem effectiveFormat_blank_eq_iff (stack : List Config) (o : Overrides) :
    ((mergeAll stack).withOverrides { o with exportFormat := some blank }).effectiveFormat =
        ((mergeAll stack).withOverrides { o with exportFormat := none }).effectiveFormat ↔
      ¬ NamesJson stack := by
  rw [effectiveFormat_of_blank rfl h, ← effectiveFormat_eq_json_iff_namesJson stack o]
  cases ((mergeAll stack).withOverrides { o with exportFormat := none }).effectiveFormat with
  | csv => decide
  | json => decide

end

/-- A format from the environment takes the place of the one below it, and of nothing else. -/
theorem load_format (d : Disk) (home : Option String) (o : Overrides) (name : String) :
    load refusal d home { o with exportFormat := some name } =
      (load refusal d home { o with exportFormat := none }).map
        fun c => { c with exportFormat := some name } := by
  rw [load_eq, load_eq]
  cases layers refusal d home <;> rfl

/-- **A blank address is as good as none, a blank format is not.** Whatever files there are and whatever
the other variable holds, loading with a blank address is loading without one. A blank format is put
in the place of the one that is configured, and of nothing else, and stands for comma separated values. So
it leaves the format in force as it would be without the variable, unless the files can be read and the
last one to name a format names JSON. -/
theorem blank_overrides (d : Disk) (home : Option String) (o : Overrides) {blank : String}
    (h : isAllBlank blank = true) :
    load refusal d home { o with agentUrl := some blank } =
        load refusal d home { o with agentUrl := none } ∧
      load refusal d home { o with exportFormat := some blank } =
        (load refusal d home { o with exportFormat := none }).map
          (fun c => { c with exportFormat := some blank }) ∧
      (load refusal d home { o with exportFormat := some blank }).map effectiveFormat =
        (layers refusal d home).map (fun _ => .csv) ∧
      ((load refusal d home { o with exportFormat := some blank }).map effectiveFormat =
          (load refusal d home { o with exportFormat := none }).map effectiveFormat ↔
        ∀ stack, layers refusal d home = .ok stack → ¬ NamesJson stack) := by
  refine ⟨load_blank_url refusal h d home o, load_format refusal d home o blank,
    load_blank_format refusal h d home o, ?_⟩
  rw [load_eq, load_eq]
  cases layers refusal d home with
  | error f => exact iff_of_true rfl fun stack hstack => by cases hstack
  | ok stack =>
    show Except.ok _ = Except.ok _ ↔ _
    rw [Except.ok.injEq, effectiveFormat_blank_eq_iff h stack o]
    constructor
    · rintro hnot _ ⟨⟩
      exact hnot
    · intro hall
      exact hall stack rfl

/-- A workspace whose file asks for JSON. -/
def jsonWorkspace : Disk where
  current := ["w"]
  entries :=
    [(["w"], .directory), (["w", ".markql"], .directory),
      (["w", ".markql", "config.toml"], .file (.text "[export]\nformat = \"json\"\n"))]

/-- Two blanks instead of an address change nothing. Two blanks instead of a format hide what the file asks
for. -/
theorem blank_overrides_of_jsonWorkspace :
    let words : String → String := fun _ => ""
    let loaded (o : Overrides) := load words jsonWorkspace (some "/w/xdg") o
    isAllBlank "  " = true ∧
      loaded ⟨some "  ", none⟩ = loaded ⟨none, none⟩ ∧
      (∃ stack, layers words jsonWorkspace (some "/w/xdg") = .ok stack ∧ NamesJson stack) ∧
      (loaded ⟨none, some "  "⟩).map effectiveFormat = .ok .csv ∧
      (loaded ⟨none, some "  "⟩).map effectiveFormat ≠ (loaded ⟨none, none⟩).map effectiveFormat := by
  intro words loaded
  have hblank : isAllBlank "  " = true := by decide
  obtain ⟨hurl, -, hcsv, hsame⟩ := blank_overrides words jsonWorkspace (some "/w/xdg") ⟨none, none⟩ hblank
  have hlayers : layers words jsonWorkspace (some "/w/xdg") =
      .ok [builtIn, { empty with exportFormat := some "json" }] := rfl
  have hnames : NamesJson [builtIn, { empty with exportFormat := some "json" }] :=
    ⟨"json", ⟨[builtIn], _, [], rfl, rfl, by simp⟩, rfl⟩
  rw [hlayers] at hcsv
  exact ⟨hblank, hurl, ⟨_, hlayers, hnames⟩, hcsv, fun heq => hsame.mp heq _ hlayers hnames⟩

end Config

end PageQuery
