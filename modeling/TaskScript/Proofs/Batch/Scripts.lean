/-
Where the scripts of a batch end up.  Each job that succeeds writes one file, at the place that
its name leads to from the directory of the scripts, and nothing else is written.  So the last job
written to a place is found there, and scripts keep apart and inside the directory as long as the
names are different and have no slash.
-/
import Mathlib.Data.List.Forall2
import Mathlib.Data.List.Nodup
import TaskScript.CommandLine
import TaskScript.Proofs.Files.Written
import TaskScript.Proofs.Job.Demands

namespace TaskScript

/-- The file for the script of a job. -/
def Job.fileName (job : Job) : String := job.name ++ ".py"

theorem Job.toList_fileName (job : Job) :
    job.fileName.toList = job.name.toList ++ ['.', 'p', 'y'] := by
  simp [fileName]

theorem readRecord_congr {α : Type} {first second : Workspace} {what path : String}
    {read : Json → Option α} (hread : first.read? path = second.read? path) :
    readRecord first what read path = readRecord second what read path := by
  unfold readRecord
  rw [hread]

namespace BatchSettings

/-- What a job comes to that is not run: its script, or why there is none. -/
def deed (settings : BatchSettings) (state : BatchState) (path : String) :
    Except JobFailure (Job × String) :=
  match Job.load state.workspace path with
  | .error error => .error (.unloaded error)
  | .ok job =>
      let env : Environment := { acceptsPath := acceptsFilePath state.workspace.isDirectory }
      match (job.generate (ModelDescription.load state.workspace) (Job.baseDirectory path) env
        settings.plugins settings.comments 0 state.session).1 with
      | .error error => .error (.ungenerated job.name error)
      | .ok script =>
          match state.workspace.write? (settings.target job) (script ++ "\n") with
          | none => .error (.unwritten (settings.target job))
          | some _ => .ok (job, script)

/-- What the jobs come to one after another. -/
def deeds (settings : BatchSettings) (state : BatchState) :
    List String → List (Except JobFailure (Job × String))
  | [] => []
  | path :: rest => settings.deed state path :: settings.deeds (settings.processJob state path) rest

/-- The jobs that succeed and their scripts. -/
def written (settings : BatchSettings) (state : BatchState) (paths : List String) :
    List (Job × String) :=
  (settings.deeds state paths).filterMap Except.toOption

/-- Where the script of a job goes. -/
def place? (settings : BatchSettings) (workspace : Workspace) (job : Job) : Option Location :=
  (workspace.locate (settings.target job)).toOption

/-- The last of the scripts that go to a place. -/
def lastAt? (settings : BatchSettings) (workspace : Workspace) (location : Location)
    (written : List (Job × String)) : Option String :=
  ((written.filter fun entry => settings.place? workspace entry.1 = some location).getLast?).map
    Prod.snd

/-- Where the directory of the scripts is. -/
def home? (settings : BatchSettings) (workspace : Workspace) : Option Location :=
  if settings.out = "" then some workspace.current else (workspace.locate settings.out).toOption

/-- Right in the directory of the scripts. -/
def Inside (settings : BatchSettings) (workspace : Workspace) (location : Location) : Prop :=
  ∃ home name, settings.home? workspace = some home ∧ location = home ++ [name]

variable {settings : BatchSettings} {state : BatchState} {workspace : Workspace} {path : String}
  {paths : List String} {job : Job} {script : String} {location : Location}

/-- A job succeeds if it and its model are read, its plugins are there, all that its tasks demand
is met and no directory stands where the script goes. -/
theorem exists_deed_eq_ok {model : ModelDescription}
    (hload : Job.load state.workspace path = .ok job)
    (hmodel : ModelDescription.load state.workspace
      (Path.join (Job.baseDirectory path) job.model) = .ok model)
    (hsupplied : job.Supplied settings.plugins)
    (hmet : ∀ demand ∈ job.demands
      { acceptsPath := acceptsFilePath state.workspace.isDirectory } (Job.baseDirectory path) model,
      demand.met = true)
    (hslash : (settings.target job).toList.getLast? ≠ some '/')
    (hlocate : state.workspace.locate (settings.target job) = .ok location)
    (hfile : state.workspace.node? location ≠ some .directory) :
    ∃ script, settings.deed state path = .ok (job, script) := by
  let env : Environment := { acceptsPath := acceptsFilePath state.workspace.isDirectory }
  obtain ⟨plan, hplan⟩ : ∃ plan, job.plan (Job.baseDirectory path) model settings.plugins 0
      (state.session.start env).1 = .ok plan := Job.exists_plan hsupplied _
  have hscript := Job.generate_eq_ok hmodel hplan settings.comments hmet
  refine ⟨(Script.ofTasks plan.tasks.items).text settings.comments, ?_⟩
  simp only [deed, hload, hscript, Workspace.write?_eq hslash hlocate hfile]

section Step

variable (hrun : settings.runner? = none)

include hrun

/-- A job that fails leaves the files as they are; one that succeeds writes its script. -/
theorem processJob_deed (state : BatchState) (path : String) :
    match settings.deed state path with
    | .error failure =>
        (settings.processJob state path).workspace = state.workspace ∧
          (settings.processJob state path).failures = state.failures ++ [failure]
    | .ok (job, script) =>
        state.workspace.write? (settings.target job) (script ++ "\n") =
            some (settings.processJob state path).workspace ∧
          (settings.processJob state path).failures = state.failures := by
  unfold deed processJob writeScript
  cases hload : Job.load state.workspace path with
  | error error => exact ⟨rfl, rfl⟩
  | ok job =>
      simp only
      generalize job.generate _ _ _ _ _ _ _ = generated
      obtain ⟨answer, session⟩ := generated
      cases answer with
      | error error => exact ⟨rfl, rfl⟩
      | ok script =>
          simp only
          cases hwrite : state.workspace.write? (settings.target job) (script ++ "\n") with
          | none => exact ⟨rfl, rfl⟩
          | some next => simp [runScript, hrun, hwrite]

theorem processJob_of_error {failure : JobFailure}
    (hdeed : settings.deed state path = .error failure) :
    (settings.processJob state path).workspace = state.workspace ∧
      (settings.processJob state path).failures = state.failures ++ [failure] := by
  have h := processJob_deed hrun state path
  rwa [hdeed] at h

theorem processJob_of_ok (hdeed : settings.deed state path = .ok (job, script)) :
    (∃ location, settings.place? state.workspace job = some location ∧
      state.workspace.node? location ≠ some .directory ∧
      (settings.processJob state path).workspace =
        state.workspace.put location (.file (script ++ "\n"))) ∧
      (settings.processJob state path).failures = state.failures := by
  have h := processJob_deed hrun state path
  rw [hdeed] at h
  obtain ⟨location, hlocation, hfile, hnext⟩ := Workspace.write?_eq_some h.1
  exact ⟨⟨location, toOption_eq_some_iff.mpr hlocation, hfile, hnext⟩, h.2⟩

theorem sameDirectories_processJob (state : BatchState) (path : String) :
    state.workspace.SameDirectories (settings.processJob state path).workspace := by
  cases hdeed : settings.deed state path with
  | error failure =>
      rw [(processJob_of_error hrun hdeed).1]
      exact .refl _
  | ok entry =>
      obtain ⟨⟨location, _, hfile, hnext⟩, _⟩ := processJob_of_ok hrun hdeed
      rw [hnext]
      exact Workspace.sameDirectories_put hfile

end Step

theorem place?_congr {first second : Workspace} (hsame : first.SameDirectories second) (job : Job) :
    settings.place? first job = settings.place? second job := by
  apply Option.ext
  intro location
  unfold place?
  rw [toOption_eq_some_iff, toOption_eq_some_iff]
  exact ⟨hsame.locate, hsame.symm.locate⟩

theorem lastAt?_congr {first second : Workspace} (hsame : first.SameDirectories second)
    (location : Location) (written : List (Job × String)) :
    settings.lastAt? first location written = settings.lastAt? second location written := by
  unfold lastAt?
  simp only [place?_congr hsame]

theorem lastAt?_cons (entry : Job × String) (rest : List (Job × String)) :
    settings.lastAt? workspace location (entry :: rest) =
      (settings.lastAt? workspace location rest).or
        (if settings.place? workspace entry.1 = some location then some entry.2 else none) := by
  unfold lastAt?
  by_cases h : settings.place? workspace entry.1 = some location
  · rw [List.filter_cons_of_pos (by simpa using h), List.getLast?_cons, if_pos h]
    cases (rest.filter fun entry => settings.place? workspace entry.1 = some location).getLast? <;>
      rfl
  · rw [List.filter_cons_of_neg (by simpa using h), if_neg h, Option.or_none]

theorem written_cons_of_error {failure : JobFailure} {rest : List String}
    (hdeed : settings.deed state path = .error failure) :
    settings.written state (path :: rest) =
      settings.written (settings.processJob state path) rest := by
  rw [written, deeds, hdeed]
  rfl

theorem written_cons_of_ok {entry : Job × String} {rest : List String}
    (hdeed : settings.deed state path = .ok entry) :
    settings.written state (path :: rest) =
      entry :: settings.written (settings.processJob state path) rest := by
  rw [written, deeds, hdeed]
  rfl

/-- The last script at a place is one of those that go there. -/
theorem exists_entry_of_lastAt? {written : List (Job × String)}
    (hlast : settings.lastAt? workspace location written = some script) :
    ∃ entry ∈ written, settings.place? workspace entry.1 = some location ∧ entry.2 = script := by
  obtain ⟨entry, hentry, hscript⟩ := Option.map_eq_some_iff.mp hlast
  obtain ⟨hmem, hplace⟩ := List.mem_filter.mp (List.mem_of_getLast? hentry)
  exact ⟨entry, hmem, by simpa using hplace, hscript⟩

theorem lastAt?_ne_none {written : List (Job × String)} {entry : Job × String}
    (hentry : entry ∈ written) (hplace : settings.place? workspace entry.1 = some location) :
    settings.lastAt? workspace location written ≠ none := by
  intro hnone
  rw [lastAt?, Option.map_eq_none_iff, List.getLast?_eq_none_iff, List.filter_eq_nil_iff] at hnone
  exact hnone entry hentry (by simpa using hplace)

section Run

variable (hrun : settings.runner? = none)

include hrun

/-- The places of a batch, when it is over: each holds the last script that went there. -/
theorem node?_foldl (state : BatchState) (paths : List String) (location : Location) :
    (paths.foldl settings.processJob state).workspace.node? location =
      match settings.lastAt? state.workspace location (settings.written state paths) with
      | some script => some (.file (script ++ "\n"))
      | none => state.workspace.node? location := by
  induction paths generalizing state with
  | nil => rfl
  | cons path rest ih =>
      have hsame := sameDirectories_processJob hrun state path
      rw [List.foldl_cons, ih, ← lastAt?_congr hsame]
      cases hdeed : settings.deed state path with
      | error failure =>
          rw [written_cons_of_error hdeed, (processJob_of_error hrun hdeed).1]
      | ok entry =>
          obtain ⟨⟨place, hplace, hfile, hnext⟩, _⟩ := processJob_of_ok hrun hdeed
          rw [written_cons_of_ok hdeed, lastAt?_cons, hplace, hnext,
            Workspace.node?_put (Workspace.ne_nil_of_node?_ne hfile)]
          cases settings.lastAt? state.workspace location _ with
          | some script => rfl
          | none =>
              by_cases hlocation : location = place
              · simp [hlocation]
              · simp [hlocation, Ne.symm hlocation]

theorem exists_place {entry : Job × String} (hentry : entry ∈ settings.written state paths) :
    ∃ location, settings.place? state.workspace entry.1 = some location := by
  induction paths generalizing state with
  | nil => simp [written, deeds] at hentry
  | cons path rest ih =>
      have hsame := sameDirectories_processJob hrun state path
      have hrest : entry ∈ settings.written (settings.processJob state path) rest →
          ∃ location, settings.place? state.workspace entry.1 = some location := by
        intro h
        obtain ⟨location, hlocation⟩ := ih h
        exact ⟨location, (place?_congr hsame entry.1).trans hlocation⟩
      cases hdeed : settings.deed state path with
      | error failure => exact hrest (written_cons_of_error hdeed ▸ hentry)
      | ok first =>
          rw [written_cons_of_ok hdeed] at hentry
          rcases List.mem_cons.mp hentry with rfl | hentry
          · obtain ⟨⟨location, hlocation, _⟩, _⟩ := processJob_of_ok hrun hdeed
            exact ⟨location, hlocation⟩
          · exact hrest hentry

/-- Failures are noted for the jobs that fail and for no others. -/
theorem failures_ne_nil_iff (state : BatchState) (paths : List String) :
    (paths.foldl settings.processJob state).failures ≠ [] ↔
      state.failures ≠ [] ∨ ∃ failure, .error failure ∈ settings.deeds state paths := by
  induction paths generalizing state with
  | nil => simp [deeds]
  | cons path rest ih =>
      rw [List.foldl_cons, ih, deeds]
      cases hdeed : settings.deed state path with
      | error failure => simp [(processJob_of_error hrun hdeed).2]
      | ok entry => simp [(processJob_of_ok hrun hdeed).2]

end Run

theorem target_eq (settings : BatchSettings) (job : Job) :
    settings.target job = Path.join settings.out job.fileName := by
  simp [target, Job.fileName, ToString.toString]

theorem eq_of_step_fileName {home : Location}
    (hstep : workspace.step home job.fileName.toList = .ok location) :
    location = home ++ [job.fileName] := by
  have hlength : 3 ≤ job.fileName.toList.length := by
    rw [Job.toList_fileName, List.length_append]
    exact Nat.le_add_left 3 _
  have hup : job.fileName.toList ≠ ['.', '.'] := by
    intro h
    rw [h] at hlength
    exact absurd hlength (by decide)
  have h := Workspace.eq_of_step (Path.isIdle_of_two_le (Nat.le_of_succ_le hlength)) hup hstep
  rwa [String.ofList_toList] at h

/-- The script of a job whose name has no slash goes right into the directory of the scripts. -/
theorem exists_home (hplain : '/' ∉ job.name.toList)
    (hplace : settings.place? workspace job = some location) :
    ∃ home, settings.home? workspace = some home ∧ location = home ++ [job.fileName] := by
  have hlocate := toOption_eq_some_iff.mp hplace
  have hname : '/' ∉ job.fileName.toList := by
    rw [Job.toList_fileName]
    simp [hplain]
  rw [target_eq] at hlocate
  unfold home?
  by_cases hout : settings.out = ""
  · rw [hout, Path.join_empty] at hlocate
    rw [if_pos hout]
    exact ⟨_, rfl, eq_of_step_fileName (Workspace.step_of_locate hname hlocate)⟩
  · rw [if_neg hout]
    obtain ⟨home, hhome, hstep⟩ := Workspace.exists_home_of_locate_join hout hname hlocate
    exact ⟨home, toOption_eq_some_iff.mpr hhome, eq_of_step_fileName hstep⟩

end BatchSettings

namespace CommandLine

open BatchSettings

variable {settings : BatchSettings} {workspace : Workspace} {paths : List String}

theorem perform_workspace : (perform settings workspace paths).workspace =
    (paths.foldl settings.processJob { workspace }).workspace := by
  simp only [perform]
  split <;> rfl

theorem perform_fails_iff : (perform settings workspace paths).exitCode ≠ 0 ↔
    (paths.foldl settings.processJob { workspace }).failures ≠ [] := by
  simp only [perform, processJobs]
  by_cases h : (paths.foldl settings.processJob { workspace }).failures = []
  · simp [h]
  · simp [h]

/-- Each job that succeeds has a file of its own with its script and a line break, right in the
directory of the scripts, and nothing changes outside of that directory. -/
structure Tidy (settings : BatchSettings) (workspace : Workspace) (paths : List String) :
    Prop where
  files : ∃ places : List Location, places.Nodup ∧
    List.Forall₂ (fun entry place => settings.Inside workspace place ∧
      (perform settings workspace paths).workspace.node? place =
        some (.file (entry.2 ++ "\n"))) (settings.written { workspace } paths) places
  confined : ∀ location, (perform settings workspace paths).workspace.node? location ≠
    workspace.node? location → settings.Inside workspace location

section Apart

variable (hrun : settings.runner? = none)
  (hplain : ∀ entry ∈ settings.written { workspace } paths, '/' ∉ entry.1.name.toList)

include hrun hplain

theorem inside_of_changed {location : Location}
    (hchanged : (perform settings workspace paths).workspace.node? location ≠
      workspace.node? location) : settings.Inside workspace location := by
  rw [perform_workspace, node?_foldl hrun] at hchanged
  cases hlast : settings.lastAt? workspace location (settings.written { workspace } paths) with
  | none =>
      rw [hlast] at hchanged
      exact absurd rfl hchanged
  | some script =>
      obtain ⟨entry, hentry, hplace, _⟩ := exists_entry_of_lastAt? hlast
      obtain ⟨home, hhome, rfl⟩ := exists_home (hplain entry hentry) hplace
      exact ⟨home, entry.1.fileName, hhome, rfl⟩

/-- Where the names are different, the last script at the place of a job is its own. -/
theorem exists_file (hdistinct : ((settings.written { workspace } paths).map (·.1.name)).Nodup)
    {entry : Job × String} (hentry : entry ∈ settings.written { workspace } paths) :
    ∃ home, settings.home? workspace = some home ∧
      (perform settings workspace paths).workspace.node? (home ++ [entry.1.fileName]) =
        some (.file (entry.2 ++ "\n")) := by
  obtain ⟨location, hplace⟩ := exists_place hrun hentry
  obtain ⟨home, hhome, rfl⟩ := exists_home (hplain entry hentry) hplace
  refine ⟨home, hhome, ?_⟩
  obtain ⟨script, hlast⟩ := Option.ne_none_iff_exists'.mp (lastAt?_ne_none hentry hplace)
  obtain ⟨last, hmem, hlastPlace, rfl⟩ := exists_entry_of_lastAt? hlast
  obtain ⟨home', hhome', heq⟩ := exists_home (hplain last hmem) hlastPlace
  obtain rfl : home = home' := Option.some.inj (hhome.symm.trans hhome')
  have hname : entry.1.name = last.1.name := by simpa [Job.fileName] using heq
  obtain rfl := List.inj_on_of_nodup_map hdistinct hentry hmem hname
  rw [perform_workspace, node?_foldl hrun, hlast]

theorem tidy (hdistinct : ((settings.written { workspace } paths).map (·.1.name)).Nodup) :
    Tidy settings workspace paths where
  files := by
    let home := (settings.home? workspace).getD []
    refine ⟨(settings.written { workspace } paths).map fun entry => home ++ [entry.1.fileName],
      ?_, ?_⟩
    · have hinjective : Function.Injective fun name => home ++ [name ++ ".py"] := by
        intro first second h
        simpa using h
      have hplaces := hdistinct.map hinjective
      rwa [List.map_map] at hplaces
    · rw [List.forall₂_map_right_iff, List.forall₂_same]
      intro entry hentry
      obtain ⟨place, hplace, hfile⟩ := exists_file hrun hplain hdistinct hentry
      have hhome : home = place := by simp [home, hplace]
      rw [hhome]
      exact ⟨⟨place, entry.1.fileName, hplace, rfl⟩, hfile⟩
  confined _ := inside_of_changed hrun hplain

end Apart

/-- Jobs that are not run, in any order.  At the end each place holds the last script that went
there, and else what it held before; a job that fails leaves all files as they are, and the call
fails exactly when a job does.  If the names of the jobs that succeed are different and have no
slash, each of them has a file of its own in the directory of the scripts and nothing changes
outside of it. -/
theorem scripts_kept_apart (settings : BatchSettings) (workspace : Workspace)
    (paths : List String) (hrun : settings.runner? = none) :
    (∀ location, (perform settings workspace paths).workspace.node? location =
      match settings.lastAt? workspace location (settings.written { workspace } paths) with
      | some script => some (.file (script ++ "\n"))
      | none => workspace.node? location) ∧
    (∀ state path failure, settings.deed state path = .error failure →
      (settings.processJob state path).workspace = state.workspace) ∧
    ((perform settings workspace paths).exitCode ≠ 0 ↔
      ∃ failure, .error failure ∈ settings.deeds { workspace } paths) ∧
    ((∀ entry ∈ settings.written { workspace } paths, '/' ∉ entry.1.name.toList) →
      ((settings.written { workspace } paths).map (·.1.name)).Nodup →
        Tidy settings workspace paths) := by
  refine ⟨?_, fun state path failure h => (processJob_of_error hrun h).1, ?_,
    fun hplain => tidy hrun hplain⟩
  · intro location
    rw [perform_workspace, node?_foldl hrun]
  · rw [perform_fails_iff, failures_ne_nil_iff hrun]
    simp

/-- A file with a job under a name. -/
def yardFile (name : String) : Node :=
  .file ("\x7b\"kind\": \"inference\", \"name\": \"" ++ name ++
    "\", \"model\": \"m.json\", \"image\": \"i\"\x7d")

/-- Two jobs, their model and the directory of the scripts. -/
def yard (first second : String) : Workspace where
  current := []
  nodes :=
    [(["a.json"], yardFile first), (["b.json"], yardFile second),
      (["m.json"], .file "\x7b\"name\": \"m\", \"path\": \"m\"\x7d"), (["scripts"], .directory)]

def yardJob (name : String) : Job := .inference { name, model := "m.json", image := "i" }

/-- All that is needed for the script of such a job is there. -/
structure Serves (workspace : Workspace) (path name : String) (location : Location) : Prop where
  base : Job.baseDirectory path = ""
  job : Job.load workspace path = .ok (yardJob name)
  model : ModelDescription.load workspace "m.json" = .ok { name := "m", path := "m" }
  accepted : acceptsFilePath workspace.isDirectory "m" = true ∧
    acceptsFilePath workspace.isDirectory "i" = true
  slashless : (target {} (yardJob name)).toList.getLast? ≠ some '/'
  place : workspace.locate (target {} (yardJob name)) = .ok location
  free : workspace.node? location ≠ some .directory

namespace Serves

variable {path name contents : String} {location other : Location} {state : BatchState}

theorem exists_deed (hserves : Serves state.workspace path name location) :
    ∃ script, deed {} state path = .ok (yardJob name, script) := by
  have hmodel : ModelDescription.load state.workspace
      (Path.join (Job.baseDirectory path) (yardJob name).model) =
        .ok { name := "m", path := "m" } := by
    rw [hserves.base, Path.join_empty]
    exact hserves.model
  have hacceptable : (yardJob name).Acceptable (acceptsFilePath state.workspace.isDirectory)
      (Job.baseDirectory path) { name := "m", path := "m" } := by
    rw [hserves.base]
    exact ⟨hserves.accepted.1, (Path.join_empty "i").symm ▸ hserves.accepted.2, by simp⟩
  exact exists_deed_eq_ok hserves.job hmodel (by simp [Job.Supplied, yardJob])
    (Job.forall_met_iff.mpr hacceptable) hserves.slashless hserves.place hserves.free

/-- The script of another job does not get in the way. -/
theorem put (jobPlace modelPlace : Location) (hserves : Serves workspace path name location)
    (hother : workspace.node? other ≠ some .directory)
    (hjob : workspace.locate path = .ok jobPlace ∧ jobPlace ≠ other)
    (hmodel : workspace.locate "m.json" = .ok modelPlace ∧ modelPlace ≠ other) :
    Serves (workspace.put other (.file contents)) path name location := by
  have hsame : workspace.SameDirectories (workspace.put other (.file contents)) :=
    Workspace.sameDirectories_put hother
  have hdirectory : (workspace.put other (.file contents)).isDirectory = workspace.isDirectory :=
    funext fun path => (hsame.isDirectory_eq path).symm
  exact {
    base := hserves.base
    job := (readRecord_congr (Workspace.read?_put hother hjob.1 hjob.2)).trans hserves.job
    model := by
      rw [← hserves.model, ModelDescription.load, ModelDescription.load,
        readRecord_congr (Workspace.read?_put hother hmodel.1 hmodel.2)]
    accepted := hdirectory ▸ hserves.accepted
    slashless := hserves.slashless
    place := hsame.locate hserves.place
    free := fun h => hserves.free ((hsame.directory location).mpr h) }

end Serves

/-- A job file that is missing, and two with good names. -/
theorem exists_deeds_yard : ∃ first second,
    deeds {} { workspace := yard "a" "b" } ["c.json", "a.json", "b.json"] =
      [.error (.unloaded (.unreadable "job" "c.json")), .ok (yardJob "a", first),
        .ok (yardJob "b", second)] := by
  let start : BatchState := { workspace := yard "a" "b" }
  have hmissing : deed {} start "c.json" = .error (.unloaded (.unreadable "job" "c.json")) := by
    have hload : Job.load (yard "a" "b") "c.json" = .error (.unreadable "job" "c.json") := by
      decide +kernel
    simp only [deed, start, hload]
  let afterMissing := processJob {} start "c.json"
  have hkept : afterMissing.workspace = yard "a" "b" := (processJob_of_error rfl hmissing).1
  have hfirst : Serves afterMissing.workspace "a.json" "a" ["scripts", "a.py"] := by
    rw [hkept]
    constructor <;> decide +kernel
  obtain ⟨first, hdeed⟩ := hfirst.exists_deed
  let afterFirst := processJob {} afterMissing "a.json"
  have hput : afterFirst.workspace =
      (yard "a" "b").put ["scripts", "a.py"] (.file (first ++ "\n")) := by
    obtain ⟨⟨location, hplace, _, hnext⟩, _⟩ := processJob_of_ok rfl hdeed
    obtain rfl : ["scripts", "a.py"] = location :=
      Except.ok.inj (hfirst.place.symm.trans (toOption_eq_some_iff.mp hplace))
    rw [hkept] at hnext
    exact hnext
  have hsecond : Serves afterFirst.workspace "b.json" "b" ["scripts", "b.py"] := by
    have hbefore : Serves (yard "a" "b") "b.json" "b" ["scripts", "b.py"] := by
      constructor <;> decide +kernel
    rw [hput]
    exact hbefore.put ["b.json"] ["m.json"] (by decide) (by decide +kernel) (by decide +kernel)
  obtain ⟨second, hdeed'⟩ := hsecond.exists_deed
  refine ⟨first, second, ?_⟩
  simp only [deeds]
  rw [hmissing, hdeed, hdeed']

theorem scripts_kept_apart_yard :
    let outcome := perform {} (yard "a" "b") ["c.json", "a.json", "b.json"]
    ∃ first second, written {} { workspace := yard "a" "b" } ["c.json", "a.json", "b.json"] =
        [(yardJob "a", first), (yardJob "b", second)] ∧
      outcome.workspace.node? ["scripts", "a.py"] = some (.file (first ++ "\n")) ∧
      outcome.workspace.node? ["scripts", "b.py"] = some (.file (second ++ "\n")) ∧
      outcome.exitCode ≠ 0 ∧ Tidy {} (yard "a" "b") ["c.json", "a.json", "b.json"] := by
  intro outcome
  obtain ⟨first, second, hdeeds⟩ := exists_deeds_yard
  have hwritten : written {} { workspace := yard "a" "b" } ["c.json", "a.json", "b.json"] =
      [(yardJob "a", first), (yardJob "b", second)] := by
    rw [written, hdeeds]
    rfl
  obtain ⟨hplaces, _, hfails, htidy⟩ :=
    scripts_kept_apart {} (yard "a" "b") ["c.json", "a.json", "b.json"] rfl
  have hfailed : .error (.unloaded (.unreadable "job" "c.json")) ∈
      deeds {} { workspace := yard "a" "b" } ["c.json", "a.json", "b.json"] := by
    rw [hdeeds]
    exact .head _
  have hfirst : place? {} (yard "a" "b") (yardJob "a") = some ["scripts", "a.py"] := by
    decide +kernel
  have hsecond : place? {} (yard "a" "b") (yardJob "b") = some ["scripts", "b.py"] := by
    decide +kernel
  refine ⟨first, second, hwritten, ?_, ?_, hfails.mpr ⟨_, hfailed⟩, htidy ?_ ?_⟩
  · rw [hplaces, hwritten, lastAt?_cons, lastAt?_cons, hfirst, hsecond]
    simp [lastAt?]
  · rw [hplaces, hwritten, lastAt?_cons, lastAt?_cons, hfirst, hsecond]
    simp [lastAt?]
  · rw [hwritten]
    simp [yardJob, Job.name]
  · rw [hwritten]
    simp [yardJob, Job.name]

/-- The name of a job may lead out of the directory of the scripts. -/
theorem not_always_tidy :
    ¬ ∀ (settings : BatchSettings) (workspace : Workspace) (paths : List String),
      settings.runner? = none → Tidy settings workspace paths := by
  intro htidy
  have hserves : Serves (yard "../a" "b") "a.json" "../a" ["a.py"] := by
    constructor <;> decide +kernel
  let start : BatchState := { workspace := yard "../a" "b" }
  obtain ⟨script, hdeed⟩ : ∃ script, deed {} start "a.json" = .ok (yardJob "../a", script) :=
    hserves.exists_deed
  have hwritten : written {} start ["a.json"] = [(yardJob "../a", script)] :=
    written_cons_of_ok hdeed
  have hplace : place? {} (yard "../a" "b") (yardJob "../a") = some ["a.py"] := by
    decide +kernel
  have hfile : (perform {} (yard "../a" "b") ["a.json"]).workspace.node? ["a.py"] =
      some (.file (script ++ "\n")) := by
    rw [perform_workspace, node?_foldl rfl, hwritten, lastAt?_cons, hplace]
    simp [lastAt?]
  have hbefore : (yard "../a" "b").node? ["a.py"] = none := by decide
  obtain ⟨home, name, hhome, heq⟩ := (htidy {} (yard "../a" "b") ["a.json"] rfl).confined ["a.py"]
    (by rw [hfile, hbefore]; nofun)
  have hscripts : home? {} (yard "../a" "b") = some ["scripts"] := by decide +kernel
  obtain rfl : ["scripts"] = home := Option.some.inj (hscripts.symm.trans hhome)
  simp at heq

end CommandLine

end TaskScript
