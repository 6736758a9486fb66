import Codegen.Proofs.Generation.Walk
import Codegen.Proofs.Platform.Discovery

/-! Helpers that are loaded from a directory. A plugin brings the function that has the name of its file, or else
the one that is called `helper`; which of the two is looked at is decided by whether the first one counts as true. The
first plugin without a helper ends the loading, and what was registered before it stays. -/

namespace Codegen

open Codegen.Files

/-! The helper of a plugin. -/

namespace Plugin

/-- The ways in which the choice of a helper misses the first function there is: the test of what has the file's name
raises a fault, something there that is no function counts as true, or a function there counts as false. -/
inductive Strays (p : Plugin) (stem : String) : Prop
  | raises {failure : Failure} (htest : p.test stem = .error failure)
  | blocked {helper : Function Value} (htest : p.test stem = .ok true) (hstem : p.function? stem = none)
      (hhelper : p.function? "helper" = some helper)
  | overlooked {f : Function Value} (htest : p.test stem = .ok false) (hstem : p.function? stem = some f)
      (hhelper : p.function? "helper" ≠ some f)

variable {p : Plugin} {stem : String}

theorem helper?_of_test {counts : Bool} (htest : p.test stem = .ok counts) :
    p.helper? stem = .ok (if counts then p.function? stem else p.function? "helper") := by
  rw [helper?, htest]
  cases counts <;> rfl

theorem helper?_of_raised {failure : Failure} (htest : p.test stem = .error failure) :
    p.helper? stem = .error failure := by
  rw [helper?, htest]
  rfl

/-- The function of the file's name is chosen before the one called `helper`, exactly unless the choice strays. -/
theorem helper?_eq_or_iff :
    p.helper? stem = .ok ((p.function? stem).or (p.function? "helper")) ↔ ¬ p.Strays stem := by
  cases htest : p.test stem with
  | error failure =>
      rw [helper?_of_raised htest]
      constructor
      · intro h
        cases h
      · exact fun h => absurd (.raises htest) h
  | ok counts =>
      rw [helper?_of_test htest, Except.ok.injEq]
      cases hstem : p.function? stem with
      | some f =>
          rw [Option.some_or]
          cases counts with
          | true =>
              refine iff_of_true rfl ?_
              rintro (htest' | ⟨-, hnone, -⟩ | ⟨hfalse, -, -⟩)
              · cases htest.symm.trans htest'
              · cases hstem.symm.trans hnone
              · cases htest.symm.trans hfalse
          | false =>
              refine ⟨?_, fun h => by_contra fun hhelper => h (.overlooked htest hstem hhelper)⟩
              rintro hhelper (htest' | ⟨htrue, -, -⟩ | ⟨-, hother, hne⟩)
              · cases htest.symm.trans htest'
              · cases htest.symm.trans htrue
              · exact hne (hhelper.trans (hstem.symm.trans hother))
      | none =>
          rw [Option.none_or]
          cases counts with
          | true =>
              constructor
              · rintro hhelper (htest' | ⟨-, -, hsome⟩ | ⟨hfalse, -, -⟩)
                · cases htest.symm.trans htest'
                · cases hhelper.trans hsome
                · cases htest.symm.trans hfalse
              · intro h
                cases hhelper : p.function? "helper" with
                | none => rfl
                | some helper => exact absurd (.blocked htest hstem hhelper) h
          | false =>
              refine iff_of_true rfl ?_
              rintro (htest' | ⟨htrue, -, -⟩ | ⟨-, hsome, -⟩)
              · cases htest.symm.trans htest'
              · cases htest.symm.trans htrue
              · cases hstem.symm.trans hsome

/-- The helper of a plugin file, when one is found. -/
def foundHelper? (p : Plugin) (stem : String) : Option (Function Value) :=
  match p.helper? stem with
  | .ok found => found
  | .error _ => none

theorem foundHelper?_eq_some_iff {helper : Function Value} :
    p.foundHelper? stem = some helper ↔ p.helper? stem = .ok (some helper) := by
  rw [foundHelper?]
  cases p.helper? stem <;> simp

/-- Why a plugin file has no helper to register. -/
inductive Declines (p : Plugin) (file : Path) : Failure → Prop
  | undefined (h : p.helper? file.stem = .ok none) :
      Declines p file (.generation (.helperUndefined file.toString file.stem))
  | raised {failure : Failure} (h : p.helper? file.stem = .error failure) : Declines p file failure

end Plugin

namespace Generation

open Platform

/-! Registering. -/

/-- The run with helpers put in one after another. -/
def Run.offering (run : Run) (entries : List (String × Function Value)) : Run :=
  { run with engine := { run.engine with
    helpers := entries.foldl (fun table (name, helper) => Table.put name helper table) run.engine.helpers } }

/-- The helpers of plugins, under the names of their files. -/
def helpersOf (listed : List (Path × Plugin)) : List (String × Function Value) :=
  listed.filterMap fun entry => (entry.2.foundHelper? entry.1.stem).map (entry.1.stem, ·)

def registerHelper (file : Path) : Step String := do
  let plugin ← importPlugin (← absolutePath file)
  match ← Step.lift (plugin.helper? file.stem) with
  | some helper =>
    modify fun run => { run with engine := run.engine.addHelper file.stem helper }
    return file.stem
  | none => throw (.generation (.helperUndefined file.toString file.stem))

/-- The files hold plugins that can be imported. -/
def Importable (w : Workspace) (listed : List (Path × Plugin)) : Prop :=
  ∀ file plugin, (file, plugin) ∈ listed → ∃ place, w.resolvePath file = .ok place ∧ place.isText = true ∧
    Text.hasEnd pluginExtension place.toString = true ∧ w.readPlugin place = .ok plugin ∧ plugin.fault = none

section

variable {run : Run} {file : Path} {plugin : Plugin} {listed : List (Path × Plugin)}

theorem imported_eq_ok {w : Workspace} {place : Path} (htext : place.isText = true)
    (hend : Text.hasEnd pluginExtension place.toString = true) (hread : w.readPlugin place = .ok plugin)
    (hfault : plugin.fault = none) : imported w place = .ok plugin := by
  rw [imported, htext, hend, hread]
  simp only [Bool.not_true, Bool.false_eq_true, if_false, hfault]

theorem run_registerHelper (h : Importable run.desk.workspace ((file, plugin) :: listed)) :
    (registerHelper file).run run =
      match plugin.helper? file.stem with
      | .ok (some helper) => (.ok file.stem, run.offering [(file.stem, helper)])
      | .ok none => (.error (.generation (.helperUndefined file.toString file.stem)), run)
      | .error failure => (.error failure, run) := by
  obtain ⟨place, hplace, htext, hend, hread, hfault⟩ := h file plugin List.mem_cons_self
  have habsolute : (absolutePath file).run run = (.ok place, run) := by
    rw [absolutePath, Stateful.run_bind_ok (run_workspace run), Step.run_lift, hplace]
  have himport : (importPlugin place).run run = (.ok plugin, run) := by
    rw [run_importPlugin, imported_eq_ok htext hend hread hfault]
  rw [registerHelper, Stateful.run_bind_ok habsolute, Stateful.run_bind_ok himport]
  cases plugin.helper? file.stem with
  | error failure => rfl
  | ok found => cases found <;> rfl

theorem run_registerHelper_declined {failure : Failure} (hdeclines : plugin.Declines file failure)
    (h : Importable run.desk.workspace ((file, plugin) :: listed)) :
    (registerHelper file).run run = (.error failure, run) := by
  rw [run_registerHelper h]
  cases hdeclines with
  | undefined hnone => rw [hnone]
  | raised hraised => rw [hraised]

theorem Run.offering_offering (run : Run) (first second : List (String × Function Value)) :
    (run.offering first).offering second = run.offering (first ++ second) := by
  simp only [offering, List.foldl_append]

theorem Run.lookup_offering (run : Run) (entries : List (String × Function Value)) (name : String) :
    (run.offering entries).engine.helpers.lookup name =
      (entries.reverse.lookup name).or (run.engine.helpers.lookup name) :=
  Table.lookup_foldl_put _ _ _

theorem helpersOf_cons {helper : Function Value} (h : plugin.foundHelper? file.stem = some helper)
    (rest : List (Path × Plugin)) : helpersOf ((file, plugin) :: rest) = (file.stem, helper) :: helpersOf rest := by
  simp [helpersOf, h]

theorem run_registerHelpers (hall : ∀ entry ∈ listed, (entry.2.foundHelper? entry.1.stem).isSome) (run : Run)
    (h : Importable run.desk.workspace listed) :
    ((listed.map Prod.fst).mapM registerHelper).run run =
      (.ok (listed.map (·.1.stem)), run.offering (helpersOf listed)) := by
  induction listed generalizing run with
  | nil => rfl
  | cons entry rest ih =>
      obtain ⟨file, plugin⟩ := entry
      obtain ⟨helper, hhelper⟩ := Option.isSome_iff_exists.mp (hall _ List.mem_cons_self)
      have hfirst := run_registerHelper h
      rw [Plugin.foundHelper?_eq_some_iff.mp hhelper] at hfirst
      have hrest := ih (fun entry hentry => hall entry (List.mem_cons_of_mem _ hentry))
        (run.offering [(file.stem, helper)]) fun file plugin hmem => h file plugin (List.mem_cons_of_mem _ hmem)
      rw [List.map_cons, List.mapM_cons, Stateful.run_bind_ok hfirst, Stateful.run_bind_ok hrest,
        Run.offering_offering, helpersOf_cons hhelper]
      rfl

theorem run_registerHelpers_declined {rest : List (Path × Plugin)} {failure : Failure}
    (hall : ∀ entry ∈ listed, (entry.2.foundHelper? entry.1.stem).isSome) (hdeclines : plugin.Declines file failure)
    (run : Run) (h : Importable run.desk.workspace (listed ++ (file, plugin) :: rest)) :
    (((listed ++ (file, plugin) :: rest).map Prod.fst).mapM registerHelper).run run =
      (.error failure, run.offering (helpersOf listed)) := by
  have hbefore := run_registerHelpers hall run fun file plugin hmem =>
    h file plugin (List.mem_append_left _ hmem)
  have hothers : Importable (run.offering (helpersOf listed)).desk.workspace ((file, plugin) :: rest) :=
    fun file plugin hmem => h file plugin (List.mem_append_right _ hmem)
  have hlast := run_registerHelper_declined hdeclines hothers
  rw [List.map_append, List.map_cons, List.mapM_append, Stateful.run_bind_ok hbefore, List.mapM_cons]
  exact Stateful.run_bind_error (Stateful.run_bind_error hlast _) _

end

/-- What a directory offers a run: the files in it that are not internal, with the plugins that they hold. -/
structure Offers (run : Run) (platform base : Path) (extension : String) (listed : List (Path × Plugin)) : Prop where
  said : Log.pluginsLogger.say run.desk.levels .debug s!"Loading helpers from directory {base}" = .ok ()
  found : ∃ files, (find platform base (some helpersDirectory) extension).run run = (.ok files, run) ∧
    files.filter (fun file => !isInternal file) = listed.map Prod.fst
  importable : Importable run.desk.workspace listed

section

variable {run : Run} {platform base : Path} {extension : String} {listed : List (Path × Plugin)}

theorem Offers.run_loadHelpers (h : Offers run platform base extension listed) :
    (loadHelpers platform base extension).run run = ((listed.map Prod.fst).mapM registerHelper).run run := by
  have hsay := run_say Log.pluginsLogger .debug s!"Loading helpers from directory {base}" run
  rw [h.said] at hsay
  obtain ⟨files, hfind, hlisted⟩ := h.found
  rw [← hlisted]
  exact (Stateful.run_bind_ok hsay _).trans (Stateful.run_bind_ok hfind _)

theorem Offers.sorted (h : Offers run platform base extension listed) (hw : run.desk.workspace.tree.Proper)
    {ending : String} (hending : AsksFor extension ending) : (listed.map (·.1.name)).Pairwise (· < ·) := by
  obtain ⟨files, hfind, hlisted⟩ := h.found
  have hnames := sorted_names_of_filesFor (Workspace.listsOnce hw) hending (find_run hfind).2
  rw [← Function.comp_def Path.name Prod.fst, ← List.map_map, ← hlisted]
  exact hnames.sublist (List.filter_sublist.map _)

end

/-! Functions and filters. -/

section

open Template

variable {scope : Scope} {name : String} {helper : Function Value}

theorem value_of_helper (hhelper : scope.helpers.lookup name = some helper)
    (hfree : scope.bindings.lookup name = none) : scope.value name = .function helper := by
  rw [Scope.value, hfree, hhelper]
  rfl

theorem filtered_of_helper (hhelper : scope.helpers.lookup name = some helper) (subject : Value)
    (positional : List Value) (named : List (String × Value)) :
    scope.filtered name subject positional named =
      liftM (Mixin.invoke scope.model scope.registry helper (subject :: positional) named) := by
  rw [Scope.filtered, hhelper]

end

/-- Which function a plugin brings, when loading ends early and what is registered then, and what stands when a
second directory is loaded after a first one. -/
theorem loadHelpers_selected {run : Run} {platform base : Path} {extension : String} {listed : List (Path × Plugin)}
    (h : Offers run platform base extension listed) :
    (∀ (plugin : Plugin) stem, plugin.helper? stem = .ok ((plugin.function? stem).or (plugin.function? "helper")) ↔
      ¬ plugin.Strays stem) ∧
    ((∀ entry ∈ listed, (entry.2.foundHelper? entry.1.stem).isSome) →
      (loadHelpers platform base extension).run run =
        (.ok (listed.map (·.1.stem)), run.offering (helpersOf listed))) ∧
    (∀ done file plugin rest failure, listed = done ++ (file, plugin) :: rest →
      (∀ entry ∈ done, (entry.2.foundHelper? entry.1.stem).isSome) → plugin.Declines file failure →
      (loadHelpers platform base extension).run run = (.error failure, run.offering (helpersOf done))) ∧
    (∀ ending, run.desk.workspace.tree.Proper → AsksFor extension ending →
      (listed.map (·.1.name)).Pairwise (· < ·)) ∧
    ∀ (other : Path) others, Offers (run.offering (helpersOf listed)) platform other extension others →
      (∀ entry ∈ listed ++ others, (entry.2.foundHelper? entry.1.stem).isSome) →
      ∃ after, (do
          let _ ← loadHelpers platform base extension
          loadHelpers platform other extension : Step (List String)).run run =
          (.ok (others.map (·.1.stem)), after) ∧
        ∀ name, after.engine.helpers.lookup name =
            ((helpersOf others).reverse.lookup name).or
              (((helpersOf listed).reverse.lookup name).or (run.engine.helpers.lookup name)) ∧
          ∀ (scope : Template.Scope) helper, scope.helpers = after.engine.helpers →
            scope.bindings.lookup name = none → after.engine.helpers.lookup name = some helper →
            scope.value name = .function helper ∧ ∀ subject positional named,
              scope.filtered name subject positional named =
                liftM (Mixin.invoke scope.model scope.registry helper (subject :: positional) named) := by
  refine ⟨fun plugin stem => Plugin.helper?_eq_or_iff, fun hall => ?_, ?_,
    fun ending hw hending => h.sorted hw hending, fun other others hothers hall => ?_⟩
  · rw [h.run_loadHelpers]
    exact run_registerHelpers hall run h.importable
  · rintro done file plugin rest failure rfl hall hdeclines
    rw [h.run_loadHelpers]
    exact run_registerHelpers_declined hall hdeclines run h.importable
  · have hfirst := run_registerHelpers (fun entry hentry => hall entry (List.mem_append_left _ hentry)) run h.importable
    have hsecond := run_registerHelpers (fun entry hentry => hall entry (List.mem_append_right _ hentry)) _
      hothers.importable
    rw [← h.run_loadHelpers] at hfirst
    rw [← hothers.run_loadHelpers] at hsecond
    refine ⟨_, (Stateful.run_bind_ok hfirst _).trans hsecond, fun name => ⟨?_, ?_⟩⟩
    · rw [Run.lookup_offering, Run.lookup_offering]
    · rintro scope helper hscope hfree hhelper
      exact ⟨value_of_helper (hscope ▸ hhelper) hfree, filtered_of_helper (hscope ▸ hhelper)⟩

/-! Three directories: in the second one the helper of the first comes again, and in the third one a number is in
the way of a helper. -/

def shouting : Plugin := { functions := [("shout", .function .upper)] }

def whispering : Plugin := { functions := [("helper", .function .lower)] }

def blocking : Plugin := { functions := [("twice", .int 2), ("helper", .function .upper)] }

def cupboard : Run :=
  .start ⟨⟨[(["g"], .directory), (["g", "_helpers"], .directory),
    (["g", "_helpers", "shout.py"], .file (.plugin shouting)),
    (["p"], .directory), (["p", "_helpers"], .directory),
    (["p", "_helpers", "shout.py"], .file (.plugin whispering)),
    (["q"], .directory), (["q", "_helpers"], .directory),
    (["q", "_helpers", "shout.py"], .file (.plugin shouting)),
    (["q", "_helpers", "twice.py"], .file (.plugin blocking))]⟩, []⟩ .empty {}

def helperFileAt (base name : String) : Path := Path.inside (.ofString (base ++ "/_helpers")) name

theorem importable_nil {w : Workspace} : Importable w [] := fun _ _ h => absurd h List.not_mem_nil

theorem importable_cons {w : Workspace} {file : Path} {plugin : Plugin} {rest : List (Path × Plugin)} (place : Path)
    (hplace : (w.resolvePath file).toOption = some place) (htext : place.isText = true)
    (hend : Text.hasEnd pluginExtension place.toString = true) (hread : w.readPlugin place = .ok plugin)
    (hfault : plugin.fault = none) (hrest : Importable w rest) : Importable w ((file, plugin) :: rest) := by
  intro other found hmem
  rcases List.mem_cons.mp hmem with heq | hmem
  · cases heq
    exact ⟨place, ok_of_toOption hplace, htext, hend, hread, hfault⟩
  · exact hrest other found hmem

theorem offers_of_found {run : Run} {platform base : Path} {listed : List (Path × Plugin)}
    (hsaid : Log.pluginsLogger.say run.desk.levels .debug s!"Loading helpers from directory {base}" = .ok ())
    (hfind : ((find platform base (some helpersDirectory) ".py").run run).1.toOption = some (listed.map Prod.fst))
    (hvisible : (listed.map Prod.fst).filter (fun file => !isInternal file) = listed.map Prod.fst)
    (himportable : Importable run.desk.workspace listed) : Offers run platform base ".py" listed where
  said := hsaid
  found := ⟨_, Prod.ext (ok_of_toOption hfind) (find_keeps (R := Eq) _ _ _ _ run).symm, hvisible⟩
  importable := himportable

def helperPlace (base name : String) : Path := ⟨"/", [base, "_helpers", name]⟩

theorem placed_shout : ∀ base ∈ ["g", "p", "q"],
    (cupboard.desk.workspace.resolvePath (helperFileAt base "shout.py")).toOption =
        some (helperPlace base "shout.py") ∧
      (helperPlace base "shout.py").isText = true ∧
      Text.hasEnd pluginExtension (helperPlace base "shout.py").toString = true ∧
      (helperFileAt base "shout.py").stem = "shout" := by
  decide +kernel

theorem stem_shout (base : String) (hbase : base ∈ ["g", "p", "q"]) : (helperFileAt base "shout.py").stem = "shout" :=
  (placed_shout base hbase).2.2.2

theorem importable_shout {base : String} (hbase : base ∈ ["g", "p", "q"]) {plugin : Plugin}
    (hread : cupboard.desk.workspace.readPlugin (helperPlace base "shout.py") = .ok plugin)
    (hfault : plugin.fault = none) {rest : List (Path × Plugin)} (hrest : Importable cupboard.desk.workspace rest) :
    Importable cupboard.desk.workspace ((helperFileAt base "shout.py", plugin) :: rest) :=
  have ⟨hplace, htext, hend, _⟩ := placed_shout base hbase
  importable_cons _ hplace htext hend hread hfault hrest

theorem importable_blocked : Importable cupboard.desk.workspace
    [(helperFileAt "q" "shout.py", shouting), (helperFileAt "q" "twice.py", blocking)] :=
  importable_shout (by decide) rfl rfl
    (importable_cons (helperPlace "q" "twice.py") (by decide +kernel) (by decide +kernel) (by decide +kernel) rfl rfl
      importable_nil)

theorem helpersOf_shout {base : String} (hbase : base ∈ ["g", "p", "q"]) {plugin : Plugin} (helper : Function Value)
    (h : plugin.foundHelper? "shout" = some helper) :
    helpersOf [(helperFileAt base "shout.py", plugin)] = [("shout", helper)] := by
  have hstem := stem_shout base hbase
  rw [helpersOf_cons (hstem ▸ h), hstem]
  rfl

theorem loadHelpers_selected_blocked :
    (loadHelpers (.ofString "p") (.ofString "q") ".py").run cupboard =
      (.error (.generation (.helperUndefined "q/_helpers/twice.py" "twice")), cupboard.offering [("shout", .upper)]) ∧
    ∃ after, (do
        let _ ← loadHelpers (.ofString "p") (.ofString "g") ".py"
        loadHelpers (.ofString "p") (.ofString "p") ".py" : Step (List String)).run cupboard =
        (.ok ["shout"], after) ∧
      after.engine.helpers.lookup "shout" = some .lower := by
  constructor
  · have hoffers : Offers cupboard (.ofString "p") (.ofString "q") ".py"
        [(helperFileAt "q" "shout.py", shouting), (helperFileAt "q" "twice.py", blocking)] :=
      offers_of_found rfl (by decide +kernel) (by decide +kernel) importable_blocked
    obtain ⟨-, -, hrefused, -⟩ := loadHelpers_selected hoffers
    have hfile : (helperFileAt "q" "twice.py").toString = "q/_helpers/twice.py" := by decide +kernel
    have hstem : (helperFileAt "q" "twice.py").stem = "twice" := by decide +kernel
    have hnone : blocking.helper? (helperFileAt "q" "twice.py").stem = .ok none := hstem ▸ rfl
    have hrun := hrefused [(helperFileAt "q" "shout.py", shouting)] _ _ [] _ rfl ?_ (.undefined hnone)
    · rwa [hfile, hstem, helpersOf_shout (by decide) .upper rfl] at hrun
    · simp only [List.forall_mem_singleton, stem_shout "q" (by decide)]
      rfl
  · have hglobal : Offers cupboard (.ofString "p") (.ofString "g") ".py" [(helperFileAt "g" "shout.py", shouting)] :=
      offers_of_found rfl (by decide +kernel) (by decide +kernel)
        (importable_shout (by decide) rfl rfl importable_nil)
    have hplatform : Offers (cupboard.offering (helpersOf [(helperFileAt "g" "shout.py", shouting)])) (.ofString "p")
        (.ofString "p") ".py" [(helperFileAt "p" "shout.py", whispering)] :=
      offers_of_found rfl (by decide +kernel) (by decide +kernel)
        (importable_shout (by decide) rfl rfl importable_nil)
    obtain ⟨-, -, -, -, htwo⟩ := loadHelpers_selected hglobal
    have hall : ∀ entry ∈ [(helperFileAt "g" "shout.py", shouting)] ++ [(helperFileAt "p" "shout.py", whispering)],
        (entry.2.foundHelper? entry.1.stem).isSome := by
      simp only [List.cons_append, List.nil_append, List.forall_mem_cons, stem_shout "g" (by decide),
        stem_shout "p" (by decide)]
      exact ⟨rfl, rfl, fun _ h => absurd h List.not_mem_nil⟩
    obtain ⟨after, hrun, hlookup⟩ := htwo (.ofString "p") _ hplatform hall
    refine ⟨after, ?_, ?_⟩
    · rw [hrun]
      simp only [List.map_cons, List.map_nil, stem_shout "p" (by decide)]
    · rw [(hlookup "shout").1, helpersOf_shout (by decide) .lower rfl]
      rfl

end Generation

end Codegen
