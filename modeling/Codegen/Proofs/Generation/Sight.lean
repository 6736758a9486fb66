import Codegen.Generation.Execution
import Codegen.Proofs.Generation.Blind
import Codegen.Proofs.Generation.Walk

/-! What a run reads from the files, and the steps that read: on files from which the same is read, they
do the same. -/

namespace Codegen.Generation

open Codegen.Files Codegen.Model Codegen.Plugin

/-- A search for files: where it starts, for which stereotype, and the extension of the files. -/
structure Search where
  base : Path
  stereotype : Option String
  extension : String

/-- What is read from a file: its text, where it leads, and the plugin that stands there. -/
def contentOf (w : Workspace) (file : Path) :
    Except Failure String × Except Failure Path × Except Failure Plugin :=
  (w.readText file, w.resolvePath file, do w.readPlugin (← w.resolvePath file))

/-- What a search comes to. -/
structure Search.Finding where
  redirection : Except Failure (Option Path)
  files : Except Failure (List Path)
  contents : Except Failure (List (Except Failure String × Except Failure Path × Except Failure Plugin))

def Search.find (search : Search) (platform : Path) (w : Workspace) : Finding :=
  let files := Platform.filesFor w platform search.base search.stereotype search.extension
  { redirection := Platform.redirection? w platform search.base search.stereotype, files
    contents := files.map fun files => files.map (contentOf w) }

theorem contentOf_congr {w seen : Workspace} {file path : Path}
    (hfile : seen.tree.read seen.directory file = w.tree.read w.directory file)
    (hpath : w.resolvePath file = .ok path) (hpath' : seen.resolvePath file = .ok path)
    (htarget : seen.tree.read seen.directory path = w.tree.read w.directory path) :
    contentOf seen file = contentOf w file := by
  simp only [contentOf, Workspace.readText, Workspace.readBytes, hfile, hpath, hpath', bind, Except.bind,
    Workspace.readPlugin, htarget]

/-- The searches of a run on a model. -/
def Sources.searches (sources : Sources) (m : Model) : List Search :=
  [⟨sources.globals, some helpersDirectory, sources.scriptExtension⟩,
    ⟨sources.globals, some partialsDirectory, sources.templateExtension⟩,
    ⟨sources.platform, some helpersDirectory, sources.scriptExtension⟩,
    ⟨sources.platform, some partialsDirectory, sources.templateExtension⟩,
    ⟨sources.platform, none, sources.scriptExtension⟩,
    ⟨sources.platform, none, sources.templateExtension⟩] ++
  (occasions m).flatMap fun (i, j) =>
    [⟨sources.platform, some ((Entity.stereotype i j).name m), sources.scriptExtension⟩,
      ⟨sources.platform, some ((Entity.stereotype i j).name m), sources.templateExtension⟩]

/-- Everything that a run reads: where its plugins are, its model, and what its searches come to. -/
structure Sight where
  sources : Sources
  model : Log.Levels → Except Failure Model
  isPlatform : Except Failure Bool
  findings : List Search.Finding

def sight (home : Place) (options : Settings.Options) (loader : Loader) (levels : Log.Levels)
    (w : Workspace) : Except Failure Sight := do
  let sources ← Sources.choose home w options
  let m ← loader w levels
  return {
    sources
    model := loader w
    isPlatform := w.isDirectory? sources.platform
    findings := (sources.searches m).map fun search => search.find sources.platform w }

/-- A search comes to the same on all files that look right to `sees`. -/
def Search.Steady (platform : Path) (sees : Workspace → Prop) (w : Workspace) (search : Search) : Prop :=
  ∀ seen, sees seen → search.find platform seen = search.find platform w

section

variable {platform base : Path} {sees : Workspace → Prop} {w : Workspace} {stereotype : Option String}
  {extension : String}

theorem Search.Steady.redirection (h : (⟨base, stereotype, extension⟩ : Search).Steady platform sees w)
    {seen : Workspace} (hseen : sees seen) :
    Platform.redirection? seen platform base stereotype = Platform.redirection? w platform base stereotype :=
  congrArg Finding.redirection (h seen hseen)

theorem Search.Steady.files (h : (⟨base, stereotype, extension⟩ : Search).Steady platform sees w)
    {seen : Workspace} (hseen : sees seen) :
    Platform.filesFor seen platform base stereotype extension =
      Platform.filesFor w platform base stereotype extension :=
  congrArg Finding.files (h seen hseen)

def SteadyFile (sees : Workspace → Prop) (w : Workspace) (file : Path) : Prop :=
  ∀ seen, sees seen → contentOf seen file = contentOf w file

theorem Search.Steady.file (h : (⟨base, stereotype, extension⟩ : Search).Steady platform sees w)
    {files : List Path} (hfiles : Platform.filesFor w platform base stereotype extension = .ok files)
    {file : Path} (hfile : file ∈ files) : SteadyFile sees w file := by
  intro seen hseen
  have hcontents := congrArg Finding.contents (h seen hseen)
  simp only [Search.find, h.files hseen, hfiles, Except.map, Except.ok.injEq] at hcontents
  exact List.map_inj_left.mp hcontents file hfile

theorem find_mirrors (h : (⟨base, stereotype, extension⟩ : Search).Steady platform sees w) :
    (find platform base stereotype extension).Mirrors sees :=
  .get_bind (fun _ _ _ => rfl) fun run =>
    .workspace_bind (fun u v hu hv => by
      rw [Platform.resolve_congr (h.redirection hu) (h.files hu) run.desk.levels,
        Platform.resolve_congr (h.redirection hv) (h.files hv) run.desk.levels]) fun _ _ => .lift _

theorem find_steady (h : (⟨base, stereotype, extension⟩ : Search).Steady platform sees w) {run after : Run}
    {files : List Path} (hrun : sees run.desk.workspace)
    (hfind : (find platform base stereotype extension).run run = (.ok files, after)) :
    ∀ file ∈ files, SteadyFile sees w file := by
  have hfiles := (find_run hfind).2
  rw [h.files hrun] at hfiles
  exact fun file hfile => h.file hfiles hfile

theorem SteadyFile.text {file : Path} (h : SteadyFile sees w file) {seen : Workspace}
    (hseen : sees seen) : seen.readText file = w.readText file :=
  congrArg Prod.fst (h seen hseen)

theorem SteadyFile.path {file : Path} (h : SteadyFile sees w file) {seen : Workspace}
    (hseen : sees seen) : seen.resolvePath file = w.resolvePath file :=
  congrArg (fun content => content.2.1) (h seen hseen)

theorem SteadyFile.plugin {file path : Path} (h : SteadyFile sees w file)
    (hpath : w.resolvePath file = .ok path) {seen : Workspace} (hseen : sees seen) :
    seen.readPlugin path = w.readPlugin path := by
  have hplugin := congrArg (fun content => content.2.2) (h seen hseen)
  simp only [contentOf, h.path hseen, hpath] at hplugin
  exact hplugin

/-! Loading. -/

theorem importPlugin_mirrors {file path : Path} (h : SteadyFile sees w file)
    (hpath : w.resolvePath file = .ok path) : (importPlugin path).Mirrors sees :=
  .workspace_bind (fun u v hu hv => by rw [imported, imported, h.plugin hpath hu, h.plugin hpath hv])
    fun _ _ => .lift _

theorem absolutePath_mirrors {file : Path} (h : SteadyFile sees w file) :
    (absolutePath file).Mirrors sees :=
  .workspace_bind (fun u v hu hv => by rw [h.path hu, h.path hv]) fun _ _ => .lift _

theorem absolutePath_answers {file path : Path} (h : SteadyFile sees w file) {run after : Run}
    (hrun : sees run.desk.workspace) (hpath : (absolutePath file).run run = (.ok path, after)) :
    w.resolvePath file = .ok path := by
  rw [absolutePath, Stateful.run_bind_ok (run_workspace run), Step.run_lift] at hpath
  exact (h.path hrun).symm.trans (congrArg Prod.fst hpath)

theorem import_bind {α : Type} {file : Path} (h : SteadyFile sees w file) {next : Plugin → Step α}
    (hnext : ∀ plugin, (next plugin).Mirrors sees) :
    Step.Mirrors sees (do next (← importPlugin (← absolutePath file))) :=
  .bind_of (absolutePath_mirrors h) (fun _ _ _ hrun hpath => absolutePath_answers h hrun hpath)
    fun _ hpath => .bind (importPlugin_mirrors h hpath) hnext

theorem loadHelpers_mirrors (h : (⟨base, some helpersDirectory, extension⟩ : Search).Steady platform sees w) :
    (loadHelpers platform base extension).Mirrors sees := by
  refine .bind (.say _ _ _) fun _ => .bind_of (find_mirrors h) (fun _ _ _ => find_steady h) ?_
  intro files hfiles
  refine .mapM _ fun file hfile => import_bind (hfiles file (List.mem_of_mem_filter hfile)) fun plugin => ?_
  refine .bind (.lift _) fun helper => ?_
  split
  · exact .bind (.modifying (fun _ _ _ => rfl) fun _ => rfl) fun _ => .pure _
  · exact .throw _

theorem loadPartials_mirrors
    (h : (⟨base, some partialsDirectory, extension⟩ : Search).Steady platform sees w) :
    (loadPartials platform base extension).Mirrors sees := by
  refine .bind (.say _ _ _) fun _ => .bind_of (find_mirrors h) (fun _ _ _ => find_steady h) ?_
  intro files hfiles
  refine .mapM _ fun file hfile => ?_
  have hfile := hfiles file hfile
  refine .workspace_bind (fun u v hu hv => by rw [hfile.text hu, hfile.text hv]) fun _ _ => ?_
  refine .bind (.lift _) fun source => ?_
  exact .bind (.modifying (fun _ _ _ => rfl) fun _ => rfl) fun _ => .pure _

theorem loadScript_mirrors {file : Path} (h : SteadyFile sees w file) :
    (loadScript file).Mirrors sees := by
  refine .bind_of (absolutePath_mirrors h) (fun _ _ _ hrun hpath => absolutePath_answers h hrun hpath) ?_
  intro path hpath
  refine .get_bind (fun _ _ _ => rfl) fun run => ?_
  dsimp only
  split
  · exact .pure _
  · refine .bind (importPlugin_mirrors h hpath) fun plugin => ?_
    refine .bind (.modifying (fun _ _ _ => rfl) fun _ => rfl) fun _ => ?_
    exact .bind (.say _ _ _) fun _ => .pure _

theorem loadScripts_mirrors (h : (⟨base, stereotype, extension⟩ : Search).Steady platform sees w) :
    (loadScripts platform base stereotype extension).Mirrors sees :=
  .bind_of (find_mirrors h) (fun _ _ _ => find_steady h) fun _ hfiles =>
    .mapM _ fun file hfile => loadScript_mirrors (hfiles file (List.mem_of_mem_filter hfile))

theorem compose_mirrors {template : Path} (h : SteadyFile sees w template) (extension : String)
    (classifier : Value) : (compose extension classifier template).Mirrors sees := by
  have htext : (evaluate template).Mirrors sees := by
    refine .workspace_bind (fun u v hu hv => by rw [h.text hu, h.text hv]) fun _ _ => ?_
    exact .bind (.lift _) fun _ => .get_bind (fun _ _ _ => rfl) fun _ => .lift _
  have hscope : (scopeName classifier).Mirrors sees := by
    rw [scopeName.eq_def]
    split
    · exact .pure _
    · exact .bind (readMember_mirrors _ _) fun name => displayed_mirrors name
  have hdefault : ∀ root, (defaultPath classifier template extension root).Mirrors sees := by
    intro root
    rw [defaultPath.eq_def]
    split
    · exact .pure _
    · refine .bind (readMember_mirrors _ _) fun package => .bind (displayed_mirrors _) fun before => ?_
      exact .bind (readMember_mirrors _ _) fun name => .bind (displayed_mirrors _) fun text => .pure _
  have hpath : ∀ explicit?, (outputPath extension classifier template explicit?).Mirrors sees := by
    intro explicit?
    cases explicit? with
    | some path => exact .pure path
    | none =>
        exact .bind (required_mirrors _) fun output => .bind (displayed_mirrors output) hdefault
  refine .bind (.putContext _ _) fun _ => .bind (required_mirrors _) fun options => ?_
  refine .bind (readMember_mirrors _ _) fun output => .bind (.putContext _ _) fun _ => ?_
  refine .bind htext fun text => .bind hscope fun scope => ?_
  refine .bind (.say _ _ _) fun _ => .bind (.lift _) fun parsed => ?_
  exact .bind (hpath _) fun path => .bind (.say _ _ _) fun _ => .pure _

end

/-! The stages in which plugins are loaded. -/

/-- The files look the same to a run on a model. -/
structure Sources.Sees (sources : Sources) (loader : Loader) (m : Model) (w seen : Workspace) : Prop where
  model : loader seen = loader w
  isPlatform : seen.isDirectory? sources.platform = w.isDirectory? sources.platform
  search : ∀ search ∈ sources.searches m,
    search.find sources.platform seen = search.find sources.platform w

section

variable {sources : Sources} {options : Settings.Options} {loader : Loader} {levels : Log.Levels}
  {m : Model} {w seen : Workspace} {conduct : Conduct}

theorem sight_eq_iff {home : Place} (hsources : Sources.choose home w options = .ok sources)
    (hmodel : loader w levels = .ok m) :
    sight home options loader levels seen = sight home options loader levels w ↔
      Sources.choose home seen options = .ok sources ∧ sources.Sees loader m w seen := by
  simp only [sight, hsources, hmodel, bind, Except.bind, pure, Except.pure]
  constructor
  · intro h
    cases hchosen : Sources.choose home seen options with
    | error failure => simp [hchosen] at h
    | ok chosen =>
        cases hloaded : loader seen levels with
        | error failure => simp [hchosen, hloaded] at h
        | ok loaded =>
            simp only [hchosen, hloaded, Except.ok.injEq, Sight.mk.injEq] at h
            obtain ⟨rfl, hloader, hplatform, hfindings⟩ := h
            rw [hloader, hmodel] at hloaded
            cases hloaded
            exact ⟨rfl, hloader, hplatform, List.map_inj_left.mp hfindings⟩
  · rintro ⟨hchosen, hloader, hplatform, hfindings⟩
    simp only [hchosen, hloader, hmodel, hplatform, List.map_inj_left.mpr hfindings]

theorem Sources.steady {search : Search} (hsearch : search ∈ sources.searches m) :
    search.Steady sources.platform (sources.Sees loader m w) w :=
  fun _ hseen => hseen.search search hsearch

theorem loadGlobals_mirrors : (loadGlobals sources).Mirrors (sources.Sees loader m w) := by
  refine .bind (loadHelpers_mirrors (w := w) (sources.steady ?_)) fun _ => ?_
  · simp [Sources.searches]
  refine .bind (loadPartials_mirrors (w := w) (sources.steady ?_)) fun _ => .pure _
  simp [Sources.searches]

theorem checkPlatform_mirrors : (checkPlatform sources).Mirrors (sources.Sees loader m w) := by
  refine .workspace_bind (fun u v hu hv => by rw [hu.isPlatform, hv.isPlatform]) fun _ _ => ?_
  refine .bind (.lift _) fun isDirectory => ?_
  split
  · exact .pure _
  · exact .say _ _ _

theorem loadPlatform_mirrors (hconduct : conduct.Blind) :
    (loadPlatform conduct sources).Mirrors (sources.Sees loader m w) := by
  refine .bind checkPlatform_mirrors fun _ => .get_bind (fun _ _ _ => rfl) fun run => ?_
  refine .bind (.say _ _ _) fun _ => .bind (loadScripts_mirrors (w := w) (sources.steady ?_)) fun scripts => ?_
  · simp [Sources.searches]
  refine .bind (runLifecycles_mirrors hconduct scripts _) fun _ => ?_
  refine .bind (loadHelpers_mirrors (w := w) (sources.steady ?_)) fun _ => ?_
  · simp [Sources.searches]
  refine .bind (loadPartials_mirrors (w := w) (sources.steady ?_)) fun _ => .pure _
  simp [Sources.searches]

theorem load_mirrors : loader.load.Mirrors (sources.Sees loader m w) := by
  intro run seen journal hrun hseen
  rw [Loader.load, Stateful.run_bind_ok (Stateful.run_get _), Stateful.run_bind_ok (Stateful.run_get _),
    Step.run_lift, Step.run_lift, hrun.model]
  refine ⟨rfl, journal, ?_⟩
  rw [show (run.on seen journal).desk.workspace = seen from rfl, hseen.model]
  rfl

theorem prepare_mirrors (hconduct : conduct.Blind) :
    (prepare conduct sources options loader.load).Mirrors (sources.Sees loader m w) := by
  refine .bind (.enter _) fun _ => .bind load_mirrors fun m' => .get_bind (fun _ _ _ => rfl) fun run => ?_
  refine .bind (.lift _) fun _ => .bind (.modifying (fun _ _ _ => rfl) fun _ => rfl) fun _ => ?_
  refine .bind (.setContext _) fun _ => .bind (.enter _) fun _ => .bind loadGlobals_mirrors fun _ => ?_
  exact .bind (.enter _) fun _ => .bind (loadPlatform_mirrors hconduct) fun _ => .pure _

end

end Codegen.Generation
