import Mathlib.Data.List.Basic
import PageQuery.CommandLine.Run
import PageQuery.Proofs.Capture.Pages
import PageQuery.Proofs.CommandLine.Publishing
import PageQuery.Proofs.Disk.Sparing
/-!
What a query leaves behind.

`Published` tells from a conversation what a query gives out. Here the conversation is held with a station,
which has a disk and a clipboard, and the question is what becomes of these, and when. Up to the agent's
answer `World.Spares` says that nothing is copied and no file is touched but that of the settings, where a
token and the query are remembered. From the answer on `World.Gains` says that the file which was asked
for, and the clipboard, get the rendering of the result and nothing else.

The output is the user's to name, and may be the file of the settings. So that file is excepted, and
`settings_as_output` shows that it has to be.
-/

namespace PageQuery

/-! ## 1. Worlds -/

/-- No file is touched but the one that a path leads to, and nothing is copied. -/
structure World.Spares (settings : String) (w w' : World) : Prop where
  disk : w.disk.SparesAllBut settings w'.disk
  clipboard_eq : w'.clipboard = w.clipboard

/-- Every file is as it was, or it is the output and holds the text; and what was copied is the text. -/
structure World.Gains (output : Option String) (text : String) (w w' : World) : Prop where
  keeps : w.disk.Keeps w'.disk
  file (place : Place) : w'.disk.file? place = w.disk.file? place ∨
    ∃ path, output = some path ∧ w'.disk.find path = .ok place ∧
      w'.disk.file? place = some (.text text)
  copied : ∃ runs, w'.clipboard.runs = w.clipboard.runs ++ runs ∧ ∀ run ∈ runs, run.text = text

namespace World

variable {settings text : String} {output : Option String} {w w₁ w₂ w₃ : World}

theorem Spares.of_eq (hDisk : w₂.disk = w₁.disk) (hClipboard : w₂.clipboard = w₁.clipboard) :
    Spares settings w₁ w₂ where
  disk := by
    rw [hDisk]
    exact .refl settings w₁.disk
  clipboard_eq := hClipboard

theorem Spares.trans (h : Spares settings w₁ w₂) (h' : Spares settings w₂ w₃) :
    Spares settings w₁ w₃ where
  disk := h.disk.trans h'.disk
  clipboard_eq := h'.clipboard_eq.trans h.clipboard_eq

theorem Gains.refl (output : Option String) (text : String) (w : World) : Gains output text w w where
  keeps := .refl w.disk
  file _ := Or.inl rfl
  copied := ⟨[], by simp, by simp⟩

theorem Gains.trans (h : Gains output text w₁ w₂) (h' : Gains output text w₂ w₃) :
    Gains output text w₁ w₃ where
  keeps := h.keeps.trans h'.keeps
  file place := by
    rcases h'.file place with hSame | hHolds
    · refine (h.file place).imp hSame.trans ?_
      rintro ⟨path, hPath, hFind, hText⟩
      exact ⟨path, hPath, h'.keeps.find hFind, hSame.trans hText⟩
    · exact Or.inr hHolds
  copied := by
    obtain ⟨first, hFirst, hText⟩ := h.copied
    obtain ⟨second, hSecond, hText'⟩ := h'.copied
    refine ⟨first ++ second, ?_, List.forall_mem_append.mpr ⟨hText, hText'⟩⟩
    rw [hSecond, hFirst, List.append_assoc]

/-- Writing an export to the output. -/
theorem gains_writeExport (path text : String) (w : World) :
    Gains (some path) text w { w with disk := (w.disk.writeExport path text).2 } := by
  obtain ⟨hKeeps, hFile⟩ := w.disk.file?_writeExport path text
  refine ⟨hKeeps, fun place => (hFile place).imp_right ?_, [], by simp, by simp⟩
  rintro ⟨-, hFind, hText⟩
  exact ⟨path, rfl, hFind, hText⟩

end World

/-- Every program that is run for a copy is given the text. -/
theorem Clipboard.runs_copyWith (text : String) : ∀ (tools : List ClipboardTool) (c : Clipboard),
    ∃ runs, (copyWith text tools c).2.runs = c.runs ++ runs ∧ ∀ run ∈ runs, run.text = text
  | [], c => ⟨[], by simp [copyWith], by simp⟩
  | tool :: rest, c => by
      unfold copyWith
      cases c.exitCode? tool.program with
      | none => exact runs_copyWith text rest c
      | some code =>
        simp only
        split
        · exact ⟨[⟨tool, text⟩], rfl, by simp⟩
        · obtain ⟨runs, hRuns, hText⟩ :=
            runs_copyWith text rest { c with runs := c.runs ++ [⟨tool, text⟩] }
          exact ⟨⟨tool, text⟩ :: runs, by simp [hRuns], by simpa using hText⟩

/-- Loading and asking go over the network, and leave the rest of the world alone. -/
theorem Pages.world_send (r : CaptureRequest) (p : Pages) (w : World) :
    ∃ network, (send r (p, w)).2.2 = { w with network := network } := by
  cases hHandler : p.ensureHandler r.tab w.disk with
  | error e =>
    rw [send_of_no_handler hHandler]
    exact ⟨w.network, rfl⟩
  | ok p' =>
    rw [send_eq hHandler]
    show ∃ network, (p'.load r.tab w).2 = _
    unfold load
    cases p'.source r.tab with
    | error e => exact ⟨w.network, rfl⟩
    | ok source =>
      cases source with
      | inline markup => exact ⟨w.network, rfl⟩
      | url url => exact ⟨_, loadUrl_world url w⟩
      | file path =>
        simp only [loadSource]
        cases w.disk.readText path with
        | error e => exact ⟨w.network, rfl⟩
        | ok markup => exact ⟨w.network, rfl⟩

/-! ## 2. Stations -/

namespace Station

/-- What is not an export spares the world, and the settings stay where they are. -/
theorem spares_of_not_exports {c : Call} (h : ¬ c.Exports) (s : Station) :
    (environment c s).2.settings = s.settings ∧
      World.Spares s.settings.path s.world (environment c s).2.world := by
  cases c with
  | activeTab | readSetting _ | readSession _ => exact ⟨rfl, .of_eq rfl rfl⟩
  | capture r =>
    obtain ⟨network, hWorld⟩ := Pages.world_send r s.pages s.world
    have hSame : (environment (.capture r) s).2.world = { s.world with network := network } := hWorld
    exact ⟨rfl, by rw [hSame]; exact .of_eq rfl rfl⟩
  | query token r =>
    show (s.query token r).2.settings = _ ∧ World.Spares _ _ (s.query token r).2.world
    unfold query
    rcases s.agent.query token r s.world.network with ⟨answer, network⟩
    cases answer with
    | ok result => exact ⟨rfl, .of_eq rfl rfl⟩
    | error f => exact ⟨rfl, .of_eq rfl rfl⟩
  | writeSetting key value =>
    exact ⟨rfl, s.settings.sparesAllBut_set key value s.world.disk, rfl⟩
  | writeSession entries =>
    show (s.writeSession entries).2.settings = _ ∧
      World.Spares _ _ (s.writeSession entries).2.world
    unfold writeSession
    cases s.session.setMany entries with
    | ok session => exact ⟨rfl, .of_eq rfl rfl⟩
    | error f => exact ⟨rfl, .of_eq rfl rfl⟩
  | copy _ | writeFile _ _ => exact absurd trivial h

theorem spares_of_answered {s s' : Station} {talk : List Exchange}
    (h : Answered environment s talk s') (hNone : ∀ x ∈ talk, ¬ x.call.Exports) :
    s'.settings = s.settings ∧ World.Spares s.settings.path s.world s'.world := by
  induction h with
  | done s => exact ⟨rfl, .of_eq rfl rfl⟩
  | next c _ ih =>
    obtain ⟨hSettings, hSpares⟩ := spares_of_not_exports (hNone _ List.mem_cons_self) _
    obtain ⟨hSettings', hSpares'⟩ := ih fun x hMem => hNone x (List.mem_cons_of_mem _ hMem)
    rw [hSettings] at hSettings' hSpares'
    exact ⟨hSettings', hSpares.trans hSpares'⟩

end Station

/-- The call carries a text to the output or to the clipboard. -/
def Call.Carries (output : Option String) (text : String) : Call → Prop
  | copy t => t = text
  | writeFile path t => output = some path ∧ t = text
  | _ => False

/-- All that is said as a result is given out carries its rendering. -/
theorem Delivery.carries {o : ExportOptions} {r : QueryResult} {exports : List Exchange}
    {outcome : Except ClientError Exported} (h : Delivery o r exports outcome) :
    ∀ x ∈ exports, x.call.Carries o.path (o.format.render r) := by
  have hWritten : ∀ x ∈ o.written r, x.call.Carries o.path (o.format.render r) := by
    unfold ExportOptions.written
    cases o.path with
    | none => simp
    | some path => simp [Call.Carries]
  cases h with
  | notWritten hPath => simp [Call.Carries, hPath]
  | notCopied _ => exact List.forall_mem_append.mpr ⟨hWritten, by simp [Call.Carries]⟩
  | delivered =>
    refine List.forall_mem_append.mpr ⟨hWritten, ?_⟩
    unfold ExportOptions.copied
    cases o.copy with
    | false => simp
    | true => simp [Call.Carries]

theorem Call.Carries.not_returns {x : Exchange} {output : Option String} {text : String}
    (h : x.call.Carries output text) (r : QueryResult) : ¬ x.Returns r := by
  rintro ⟨token, request, rfl⟩
  exact h

namespace Station

variable {s s' : Station} {talk : List Exchange} {output : Option String} {text : String}

theorem gains_of_carries {c : Call} (h : c.Carries output text) (s : Station) :
    World.Gains output text s.world (environment c s).2.world := by
  cases c with
  | copy t =>
    obtain rfl : t = text := h
    exact ⟨.refl _, fun _ => Or.inl rfl, Clipboard.runs_copyWith t clipboardTools s.world.clipboard⟩
  | writeFile path t =>
    obtain ⟨rfl, rfl⟩ := h
    exact World.gains_writeExport path t s.world
  | _ => exact h.elim

theorem gains_of_answered (h : Answered environment s talk s')
    (hCarry : ∀ x ∈ talk, x.call.Carries output text) :
    World.Gains output text s.world s'.world := by
  induction h with
  | done s => exact .refl output text s.world
  | next c _ ih =>
    have hRest := ih fun x hMem => hCarry x (List.mem_cons_of_mem _ hMem)
    exact (gains_of_carries (hCarry _ List.mem_cons_self) _).trans hRest

/-! ## 3. What a conversation touches -/

/-- What is touched at a station where a query is answered, and when. -/
structure Touches (o : ExportOptions) (s : Station) (talk : List Exchange) (s' : Station) : Prop where
  /-- As long as there is no result, only the settings are. -/
  spares {first rest : List Exchange} {mid : Station} : talk = first ++ rest →
    Answered environment s first mid → (∀ x ∈ first, ∀ r, ¬ x.Returns r) →
    World.Spares s.settings.path s.world mid.world
  /-- Once there is a result, only the output and the clipboard are, and they get its rendering. -/
  gains {first rest : List Exchange} {mid : Station} {r : QueryResult} : talk = first ++ rest →
    Answered environment mid rest s' → (∃ x ∈ first, x.Returns r) →
    World.Gains o.path (o.format.render r) mid.world s'.world
  /-- A file that was written can be read in the end. -/
  written {path text : String} : ⟨.writeFile path text, .ok ()⟩ ∈ talk →
    s'.world.disk.text? path = some text

end Station

/-- Until a conversation comes to what follows a result, it is among what is before. -/
theorem prefix_of_append_eq {α : Type} {first rest before after : List α} {x : α}
    (h : first ++ rest = before ++ x :: after) :
    (∃ more, before = first ++ more) ∨ ∃ more, first = before ++ x :: more ∧ after = more ++ rest := by
  rcases List.append_eq_append_iff.mp h with ⟨more, hBefore, -⟩ | ⟨more, hFirst, hRest⟩
  · exact Or.inl ⟨more, hBefore⟩
  · cases more with
    | nil => exact Or.inl ⟨[], by simpa using hFirst.symm⟩
    | cons y more =>
      obtain ⟨rfl, rfl⟩ := List.cons.inj hRest
      exact Or.inr ⟨more, hFirst, rfl⟩

/-- A file that was written is not what an export failed for. -/
theorem Delivery.not_write_error {o : ExportOptions} {r : QueryResult} {exports : List Exchange}
    {outcome : Except ClientError Exported} (h : Delivery o r exports outcome) {path text : String}
    (hMem : ⟨.writeFile path text, .ok ()⟩ ∈ exports) (m : String) : outcome ≠ .error (.write m) := by
  cases h with
  | notWritten _ => simp at hMem
  | notCopied _ => simp
  | delivered => simp

theorem Published.touches {o : ExportOptions} {talk : List Exchange} {out : String} {s s' : Station}
    (h : Published o talk out) (hSaid : Answered Station.environment s talk s') :
    s.Touches o talk s' := by
  cases h with
  | unanswered hQuiet =>
    refine ⟨fun hTalk hFirst _ => ?_, fun hTalk _ hReturns => ?_, fun hMem => ?_⟩
    · have hNone := fun x hMem => (hQuiet x (hTalk ▸ List.mem_append_left _ hMem)).not_exports
      exact (Station.spares_of_answered hFirst hNone).2
    · obtain ⟨x, hMem, hReturns⟩ := hReturns
      exact absurd hReturns ((hQuiet x (hTalk ▸ List.mem_append_left _ hMem)).not_returns _)
    · exact absurd trivial (hQuiet _ hMem).not_exports
  | @answered before exports token request r outcome hQuiet hDelivery =>
    have hReturned : Exchange.Returns ⟨.query token request, .ok r⟩ r := ⟨token, request, rfl⟩
    refine ⟨fun hTalk hFirst hNone => ?_, fun hTalk hRest hReturns => ?_, fun hMem => ?_⟩
    · rcases prefix_of_append_eq hTalk.symm with ⟨more, rfl⟩ | ⟨more, rfl, -⟩
      · have hNone := fun x hMem => (hQuiet x (List.mem_append_left more hMem)).not_exports
        exact (Station.spares_of_answered hFirst hNone).2
      · exact absurd hReturned (hNone _ (by simp) r)
    · obtain ⟨x, hMem, hReturns⟩ := hReturns
      rcases prefix_of_append_eq hTalk.symm with ⟨more, rfl⟩ | ⟨more, rfl, rfl⟩
      · exact absurd hReturns ((hQuiet x (List.mem_append_left more hMem)).not_returns _)
      · have hCarry := hDelivery.carries
        rcases List.mem_append.mp hMem with hBefore | hMem
        · exact absurd hReturns ((hQuiet x hBefore).not_returns _)
        rcases List.mem_cons.mp hMem with rfl | hMore
        · obtain ⟨_, _, hSame⟩ := hReturns
          cases hSame
          exact Station.gains_of_answered hRest fun y hMem =>
            hCarry y (List.mem_append_right more hMem)
        · exact absurd hReturns ((hCarry x (List.mem_append_left _ hMore)).not_returns _)
    · obtain ⟨mid, -, hAfter⟩ := hSaid.of_append
      obtain ⟨-, hExports⟩ := hAfter.of_cons
      rcases List.mem_append.mp hMem with hBefore | hMem
      · exact absurd trivial (hQuiet _ hBefore).not_exports
      rcases List.mem_cons.mp hMem with hSame | hMem
      · cases hSame
      · obtain ⟨hPath, rfl⟩ := hDelivery.carries _ hMem
        exact hDelivery.file_eq Station.keepsFiles hExports hPath (hDelivery.not_write_error hMem)

/-- What is printed is the rendering of a result that was returned. -/
theorem Published.exists_returns {o : ExportOptions} {talk : List Exchange} {out : String}
    (h : Published o talk out) (hOut : out ≠ "") :
    ∃ x ∈ talk, ∃ r, x.Returns r ∧ out = o.printed r := by
  cases h with
  | unanswered _ => exact absurd rfl hOut
  | @answered before exports token request r _ _ _ =>
    exact ⟨⟨.query token request, .ok r⟩, by simp, r, ⟨token, request, rfl⟩, rfl⟩

namespace CommandLine

/-! ## 4. The program -/

/-- What a query finds before it sets up its workbench: the configuration, with the agent that its arguments
name, the directory of the settings, and its own text. -/
structure Finds (s : Surroundings) (a : QueryArguments) (w : World) (c : Config) (home query : String) :
    Prop where
  config : ∃ loaded, Config.load s.words.config w.disk s.home s.overrides = .ok loaded ∧
    c = { loaded with agentUrl := a.agentUrl.or loaded.agentUrl }
  home : s.home = some home
  query : (queryText a ⟨w, .nothing⟩).1 = .ok query

/-- The station at which a query is answered. -/
def queryStation (s : Surroundings) (a : QueryArguments) (w : World) (c : Config) (home : String) :
    Station :=
  .ofConfig s.words c home [a.page] w

/-- How a query exports its result. -/
def exportOptions (a : QueryArguments) (c : Config) : ExportOptions :=
  ⟨a.format.getD c.effectiveFormat, a.output, a.copy⟩

/-- Finding the query's text changes nothing. -/
theorem queryText_run (a : QueryArguments) (s : Shell World) :
    queryText a s = ((queryText a s).1, s) := by
  unfold queryText
  cases a.query with
  | some query => rfl
  | none =>
    cases a.queryFile with
    | none => rfl
    | some path =>
      have hHere : here s = (.ok s.state, s) := rfl
      simp only
      rw [Job.bind_ok hHere]
      cases s.state.disk.readText path with
      | ok query => rfl
      | error e => rfl

variable {s : Surroundings} {a : QueryArguments} {w : World} {c : Config} {home query : String}

theorem loadConfig_ok (h : Config.load s.words.config w.disk s.home s.overrides = .ok c) (p : Printed) :
    loadConfig s ⟨w, p⟩ = (.ok c, ⟨w, p⟩) := by
  show (orStop (Config.load s.words.config w.disk s.home s.overrides) : Job World Config) ⟨w, p⟩ = _
  rw [h]
  rfl

theorem loadConfig_error {f : Fault} (h : Config.load s.words.config w.disk s.home s.overrides = .error f)
    (p : Printed) : loadConfig s ⟨w, p⟩ = (.error f.outer, ⟨w, p⟩) := by
  show (orStop (Config.load s.words.config w.disk s.home s.overrides) : Job World Config) ⟨w, p⟩ = _
  rw [h]
  rfl

/-- A query that finds what it needs is run on a bench of its own. -/
theorem queryJob_of_finds (h : Finds s a w c home query) :
    let done := (queryOnBench Station.environment a query (exportOptions a c).format
      ⟨.new (.ofConfig c) (queryStation s a w c home), .nothing⟩).2
    (queryJob s a ⟨w, .nothing⟩).2 = ⟨done.state.outside.world, done.printed⟩ := by
  obtain ⟨⟨loaded, hConfig, rfl⟩, hHome, hQuery⟩ := h
  have hText : queryText a ⟨w, .nothing⟩ = (.ok query, ⟨w, .nothing⟩) := by
    rw [queryText_run, hQuery]
  have hFound : theHome s ⟨w, .nothing⟩ = (.ok home, ⟨w, .nothing⟩) := by
    unfold theHome
    rw [hHome]
    rfl
  unfold queryJob
  rw [Job.bind_ok (loadConfig_ok hConfig _), Job.bind_ok hText]
  unfold onWorkbench
  rw [Job.bind_ok hFound]
  rfl

/-- Any other query stops at once. -/
theorem queryJob_of_not_finds (h : ∀ c home query, ¬ Finds s a w c home query) :
    (queryJob s a ⟨w, .nothing⟩).2 = ⟨w, .nothing⟩ := by
  unfold queryJob
  cases hConfig : Config.load s.words.config w.disk s.home s.overrides with
  | error f => rw [Job.bind_error (loadConfig_error hConfig _)]
  | ok loaded =>
    rw [Job.bind_ok (loadConfig_ok hConfig _)]
    cases hQuery : (queryText a ⟨w, .nothing⟩).1 with
    | error message =>
      have hText : queryText a ⟨w, .nothing⟩ = (.error message, ⟨w, .nothing⟩) := by
        rw [queryText_run, hQuery]
      rw [Job.bind_error hText]
    | ok query =>
      have hText : queryText a ⟨w, .nothing⟩ = (.ok query, ⟨w, .nothing⟩) := by
        rw [queryText_run, hQuery]
      rw [Job.bind_ok hText]
      unfold onWorkbench theHome
      cases hHome : s.home with
      | none => rfl
      | some home => exact absurd ⟨⟨loaded, hConfig, rfl⟩, hHome, hQuery⟩ (h _ home query)

/-- A query command comes to what its job prints and leaves. -/
theorem run_query {args : List String} {i : Invocation} (hParse : parse s.token args = .ok i)
    (hQuery : i.command = .query a) (w : World) :
    (run s args w).1.printed.out = (queryJob s a ⟨w, .nothing⟩).2.printed.out ∧
      (run s args w).2 = (queryJob s a ⟨w, .nothing⟩).2.state := by
  have hRun : run s args w = (outcomeOf (queryJob s a ⟨w, .nothing⟩).2.printed
      (queryJob s a ⟨w, .nothing⟩).1, (queryJob s a ⟨w, .nothing⟩).2.state) := by
    unfold run
    rw [hParse]
    simp only [hQuery, Command.job]
    rfl
  rw [hRun]
  refine ⟨?_, rfl⟩
  cases (queryJob s a ⟨w, .nothing⟩).1 with
  | ok _ => rfl
  | error message => rfl

/-- **A query gives out the agent's result, whole, and nothing else.** Whatever pages, settings, agent and
clipboard answer, what a query prints is empty, or the rendering of the result that the agent returned in
the chosen format and the end of its line, the latter just if a result was returned and no output was asked
for; and all that is written or copied is said after that, in order, and is the same rendering. As a
program, on a disk and with a clipboard, a query that does not get as far as its workbench prints nothing
and changes nothing. Any other touches no file but that of the settings, and copies nothing, until the
agent has returned a result; from then on nothing is touched but the output and the clipboard, every file
that is written there then holds the rendering, and nothing else was copied. -/
theorem query_gives_out_result :
    (∀ (σ : Type) (env : Environment σ) (a : QueryArguments) (query : String)
      (format : ExportFormat) (b : Bench σ),
      let done := (queryOnBench env a query format ⟨b, .nothing⟩).2
      ∃ talk, b.Makes env talk done.state ∧
        Published ⟨format, a.output, a.copy⟩ talk done.printed.out) ∧
    ∀ (s : Surroundings) (args : List String) (w : World) (i : Invocation) (a : QueryArguments),
      parse s.token args = .ok i → i.command = .query a →
      let out := (run s args w).1.printed.out
      let after := (run s args w).2
      ((∀ c home query, ¬ Finds s a w c home query) ∧ out = "" ∧ after = w) ∨
        ∃ c home query talk station, Finds s a w c home query ∧
          Answered Station.environment (queryStation s a w c home) talk station ∧
          after = station.world ∧ Published (exportOptions a c) talk out ∧
          (queryStation s a w c home).Touches (exportOptions a c) talk station := by
  have hBench : ∀ (σ : Type) (env : Environment σ) (a : QueryArguments) (query : String)
      (format : ExportFormat) (b : Bench σ),
      let done := (queryOnBench env a query format ⟨b, .nothing⟩).2
      ∃ talk, b.Makes env talk done.state ∧
        Published ⟨format, a.output, a.copy⟩ talk done.printed.out := by
    intro σ env a query format b done
    obtain ⟨talk, out, hMakes, hPublished, hOut⟩ :=
      publishes_queryOnBench env a query format ⟨b, .nothing⟩
    have hPrinted : done.printed.out = out := hOut.trans (by simp [Printed.nothing])
    exact ⟨talk, hMakes, hPrinted ▸ hPublished⟩
  refine ⟨hBench, fun s args w i a hParse hQuery => ?_⟩
  obtain ⟨hOut, hAfter⟩ := run_query hParse hQuery w
  intro out after
  rw [show out = _ from hOut, show after = _ from hAfter]
  by_cases hFinds : ∃ c home query, Finds s a w c home query
  · obtain ⟨c, home, query, hFinds⟩ := hFinds
    obtain ⟨talk, hMakes, hPublished⟩ := hBench Station Station.environment a query
      (exportOptions a c).format (.new (.ofConfig c) (queryStation s a w c home))
    rw [queryJob_of_finds hFinds]
    exact Or.inr ⟨c, home, query, talk, _, hFinds, hMakes.answered, rfl, hPublished,
      hPublished.touches hMakes.answered⟩
  · have hNone : ∀ c home query, ¬ Finds s a w c home query := fun c home query h =>
      hFinds ⟨c, home, query, h⟩
    rw [queryJob_of_not_finds hNone]
    exact Or.inl ⟨hNone, rfl, rfl⟩

/-- What is around a query: a directory for the settings, and nothing that a parser would refuse. -/
def besideSettings : Surroundings where
  home := some "xdg"
  overrides := ⟨none, none⟩
  token := none
  input := ""
  words := ⟨fun _ => "", fun _ => "", fun _ => "", fun _ => ""⟩

/-- A page, an agent that returns one row whatever it is asked, and a clipboard. -/
def withAgent : World where
  disk := ⟨[], [(["page.html"], .file (.text "<p>x</p>"))]⟩
  network :=
    ⟨fun _ => some ⟨200, "\x7b\"columns\":[\x7b\"name\":\"n\"\x7d],\"rows\":[[7]]\x7d", true⟩, []⟩
  clipboard := ⟨[("xclip", 0)], []⟩

/-- The row is printed and copied, as the agent returned it. -/
theorem row_is_given_out :
    let args := ["query", "page.html", "-q", "SELECT a", "--token", "t", "-f", "csv", "--copy"]
    let a : QueryArguments :=
      ⟨.file "page.html", some "SELECT a", none, some "t", false, none, none, some .csv, none, true, none⟩
    let out := (run besideSettings args withAgent).1.printed.out
    let after := (run besideSettings args withAgent).2
    parse besideSettings.token args = .ok ⟨0, .query a⟩ ∧ out = "n\n7\n" ∧
      after.clipboard.runs.map ClipboardRun.text = ["n\n7"] ∧
      ∃ c home query talk, Finds besideSettings a withAgent c home query ∧
        Published (exportOptions a c) talk out ∧
        ∃ x ∈ talk, ∃ r, x.Returns r ∧ (exportOptions a c).printed r = "n\n7\n" := by
  intro args a out after
  have hParse : parse besideSettings.token args = .ok ⟨0, .query a⟩ := by decide +kernel
  have hOut : out = "n\n7\n" := by decide +kernel
  have hFilled : out ≠ "" := by
    rw [hOut]
    decide
  refine ⟨hParse, hOut, by decide +kernel, ?_⟩
  rcases query_gives_out_result.2 besideSettings args withAgent _ a hParse rfl with
    ⟨-, hEmpty, -⟩ | ⟨c, home, query, talk, station, hFinds, -, -, hPublished, -⟩
  · exact absurd hEmpty hFilled
  · obtain ⟨x, hMem, r, hReturns, hPrinted⟩ := hPublished.exists_returns hFilled
    exact ⟨c, home, query, talk, hFinds, hPublished, x, hMem, r, hReturns, hPrinted.symm.trans hOut⟩

/-- Nothing at all. -/
def nothingThere : World := ⟨⟨[], []⟩, .silent, .absent⟩

/-- The output is the file of the settings. The agent is never asked, for want of a page, but the query is
remembered before that is known, and so there is a file where none was. -/
theorem settings_as_output :
    let path := "xdg/markql/settings.json"
    let args := ["query", "nopage.html", "-q", "SELECT a", "--token", "t", "-o", path]
    let a : QueryArguments :=
      ⟨.file "nopage.html", some "SELECT a", none, some "t", false, none, none, none, some path, false,
        none⟩
    let after := (run besideSettings args nothingThere).2
    parse besideSettings.token args = .ok ⟨0, .query a⟩ ∧
      (run besideSettings args nothingThere).1 =
        ⟨1, "", ["Error: Could not establish connection: nopage.html not found"]⟩ ∧
      (∃ c home query talk station, Finds besideSettings a nothingThere c home query ∧
        Answered Station.environment (queryStation besideSettings a nothingThere c home) talk station ∧
        after = station.world ∧ ∀ x ∈ talk, ∀ r, ¬ x.Returns r) ∧
      nothingThere.disk.text? path = none ∧
      after.disk.text? path = some "\x7b\n  \"markqlLastQuery\": \"SELECT a\"\n\x7d" := by
  intro path args a after
  have hParse : parse besideSettings.token args = .ok ⟨0, .query a⟩ := by decide +kernel
  let c : Config := (Config.mergeAll [Config.builtIn]).withOverrides ⟨none, none⟩
  have hFinds : Finds besideSettings a nothingThere c "xdg" "SELECT a" :=
    ⟨⟨c, by rfl, by rfl⟩, rfl, rfl⟩
  let done := (queryOnBench Station.environment a "SELECT a" (exportOptions a c).format
    ⟨.new (.ofConfig c) (queryStation besideSettings a nothingThere c "xdg"), .nothing⟩).2
  have hAfter : after = done.state.outside.world := by
    rw [show after = _ from (run_query hParse rfl nothingThere).2, queryJob_of_finds hFinds]
  obtain ⟨talk, -, hMakes, -, -⟩ := publishes_queryOnBench Station.environment a "SELECT a"
    (exportOptions a c).format
    ⟨.new (.ofConfig c) (queryStation besideSettings a nothingThere c "xdg"), .nothing⟩
  have hPrivate : ∀ call ∈ done.state.calls, call.IsPrivate := by decide +kernel
  have hQuiet : ∀ x ∈ talk, ∀ r, ¬ x.Returns r := by
    intro x hMem
    have hCall : x.call ∈ done.state.calls := by
      rw [show done.state.calls = _ from hMakes.calls_eq]
      exact List.mem_append_right _ (List.mem_map_of_mem hMem)
    exact (Exchange.isQuiet_of_private (hPrivate _ hCall)).not_returns
  exact ⟨hParse, by decide +kernel, ⟨c, "xdg", "SELECT a", talk, _, hFinds, hMakes.answered, hAfter,
    hQuiet⟩, by decide +kernel, by decide +kernel⟩

end CommandLine

end PageQuery
