import Codegen.Proofs.Generation.Walked
import Codegen.Proofs.Platform.Discovery
import Mathlib.Data.List.Forall2

/-! The walk of a run through its model: which hooks and templates come in which order, and how often
each hook is run. -/

namespace Codegen.Generation

open Codegen.Files Codegen.Model Codegen.Plugin

variable {conduct : Conduct} {run after : Run}

/-! Hooks and templates one after another. -/

/-- The hooks that a class and its stereotype ask of scripts. -/
def hooksFor (m : Model) (i j : Nat) (scripts : List Nat) : List Deed :=
  scripts.flatMap fun number =>
    [.hook ⟨number, "Stereotype", (Entity.stereotype i j).name m⟩ (.entity (.stereotype i j)),
     .hook ⟨number, "Class", ((Entity.classifier i).qualifiedName? m).getD ""⟩
       (.entity (.classifier i))]

def callsOf (conduct : Conduct) (run : Run) (hook : String) (scripts : List Nat) : List Deed :=
  (scripts.filter fun number => run.provides conduct number hook).map fun number =>
    .call number hook

theorem runScripts_walked {scripts : List Nat} {m : Model} {i j : Nat}
    (hrun : (runScripts conduct scripts m i j).run run = (.ok (), after)) :
    Walked conduct run after (hooksFor m i j scripts) := by
  refine Stateful.forM_ok_invariant (fun done state => Walked conduct run state (hooksFor m i j done))
    ?_ (.refl run) hrun
  intro done number state after _ hdone hstep
  obtain ⟨_, middle, hstereotype, hrest⟩ := Stateful.bind_ok_iff.mp hstep
  obtain ⟨_, last, hclass, hlast⟩ := Stateful.bind_ok_iff.mp hrest
  cases hlast
  have hboth := (runOnce_walked hstereotype).trans (runOnce_walked hclass)
  have hmore := hdone.trans hboth
  rwa [hooksFor, List.flatMap_append, List.flatMap_singleton]

theorem runLifecycles_walked {scripts : List Nat} {hook : String}
    (hbound : ∀ number ∈ scripts, number < run.scripts.length)
    (hrun : ((scripts.forM fun number => do
      let _ ← runLifecycle number hook conduct : Step Unit)).run run = (.ok (), after)) :
    Walked conduct run after (callsOf conduct run hook scripts) := by
  refine Stateful.forM_ok_invariant
    (fun done state => Walked conduct run state (callsOf conduct run hook done)) ?_ (.refl run) hrun
  -- Whether a script has a hook does not change while hooks are called.
  intro done number state after hnumber hdone hstep
  obtain ⟨_, last, hcall, hlast⟩ := Stateful.bind_ok_iff.mp hstep
  cases hlast
  have hmore := hdone.trans (runLifecycle_walked hcall)
  rw [hdone.handles.provides_eq conduct (hbound number hnumber)] at hmore
  rw [callsOf, List.filter_append, List.map_append]
  by_cases hprovides : run.provides conduct number hook = true
  · rw [if_pos hprovides] at hmore
    rwa [List.filter_cons_of_pos (p := fun number => run.provides conduct number hook) hprovides]
  · rw [if_neg hprovides] at hmore
    rwa [List.filter_cons_of_neg (p := fun number => run.provides conduct number hook) hprovides]

theorem renderTemplate_walked {extension : String} {classifier : Value} {template : Path}
    {result : Rendered}
    (hrun : (renderTemplate extension classifier template).run run = (.ok result, after)) :
    Walked conduct run after [.render classifier template] := by
  have hcomposed := compose_keeps extension classifier template run
  have hends := renderingEnds extension classifier template run
  rw [hrun] at hends
  cases hends with
  | rendered parcel isExplicit middle hcompose written desk hdelivery result hparcel htemplate =>
      rw [hcompose] at hcomposed
      obtain ⟨context, rfl, _⟩ := hcomposed
      let events : List Event := [.sent parcel, .rendered classifier result]
      have hplanned : planned events = [.render classifier template] := by
        rw [← htemplate]
        rfl
      have hperformed : performed events = [.render classifier template] := by
        rw [← htemplate]
        rfl
      exact .of_events hplanned hperformed rfl rfl rfl

theorem renderAll_walked {extension : String} {classifier : Value} {templates : List Path}
    {results : List Rendered}
    (hrun : (renderAll extension classifier templates).run run = (.ok results, after)) :
    Walked conduct run after (templates.map (.render classifier)) := by
  refine Stateful.mapM_ok_invariant
    (fun done state => Walked conduct run state (done.map (.render classifier))) ?_ (.refl run) hrun
  intro done template result state after hdone hstep
  rw [List.map_append]
  exact hdone.trans (renderTemplate_walked hstep)

/-! The files that a run finds. -/

/-- The script files for a stereotype, or those of the project. -/
def scriptFiles (sources : Sources) (w : Workspace) (stereotype : Option String) :
    Except Failure (List Path) :=
  (Platform.filesFor w sources.platform sources.platform stereotype sources.scriptExtension).map
    fun files => files.filter fun file => !isInternal file

/-- The numbers are those of the script files for a stereotype, file by file: a number stands for the
script at the place that the file leads to. -/
def Lists (sources : Sources) (w : Workspace) (stereotype : Option String) (run : Run)
    (numbers : List Nat) : Prop :=
  ∃ files, scriptFiles sources w stereotype = .ok files ∧
    List.Forall₂ (fun file number =>
      ∃ handle, run.handles[number]? = some handle ∧ w.resolvePath file = .ok handle.1) files numbers

theorem Lists.mono {sources : Sources} {w : Workspace} {stereotype : Option String}
    {numbers : List Nat} (h : Lists sources w stereotype run numbers) (hhandles : Handles run after) :
    Lists sources w stereotype after numbers := by
  obtain ⟨files, hfiles, hnumbers⟩ := h
  refine ⟨files, hfiles, hnumbers.imp ?_⟩
  rintro file number ⟨handle, hhandle, hplace⟩
  exact ⟨handle, hhandles.keep hhandle, hplace⟩

theorem Lists.bound {sources : Sources} {w : Workspace} {stereotype : Option String}
    {numbers : List Nat} (h : Lists sources w stereotype run numbers) :
    ∀ number ∈ numbers, number < run.scripts.length := by
  obtain ⟨files, -, hnumbers⟩ := h
  induction hnumbers with
  | nil =>
      intro number hnumber
      cases hnumber
  | cons hfirst _ ih =>
      intro number hnumber
      rcases List.mem_cons.mp hnumber with rfl | hmem
      · obtain ⟨handle, hhandle, _⟩ := hfirst
        rw [← Run.length_handles]
        exact (List.getElem?_eq_some_iff.mp hhandle).1
      · exact ih number hmem

theorem find_run {platform base : Path} {stereotype : Option String} {extension : String}
    {files : List Path}
    (hrun : (find platform base stereotype extension).run run = (.ok files, after)) :
    after = run ∧
      Platform.filesFor run.desk.workspace platform base stereotype extension = .ok files := by
  rw [run_find, Prod.mk.injEq] at hrun
  exact ⟨hrun.2.symm, Platform.filesFor_of_resolve hrun.1⟩

theorem loadScript_run {file : Path} {number : Nat}
    (hrun : (loadScript file).run run = (.ok number, after)) :
    Still run after ∧ after.desk = run.desk ∧
      ∃ handle, after.handles[number]? = some handle ∧
        run.desk.workspace.resolvePath file = .ok handle.1 := by
  have hstill := loadScript_keeps Still.keptByLoading file run
  have hloaded := loaded file run
  rw [hrun] at hstill hloaded
  refine ⟨hstill, ?_⟩
  cases hloaded with
  | known number script hscript hpath => exact ⟨rfl, _, Run.handles_of_script hscript, hpath⟩
  | new script hpath hfresh hexecuted outcome houtcome =>
      obtain rfl := houtcome number rfl
      refine ⟨rfl, _, Run.handles_of_script ?_, hpath⟩
      exact List.getElem?_concat_length

theorem loadScripts_run {sources : Sources} {stereotype : Option String} {numbers : List Nat}
    (hrun : (loadScripts sources.platform sources.platform stereotype sources.scriptExtension).run run
      = (.ok numbers, after)) :
    Still run after ∧ after.desk = run.desk ∧
      Lists sources run.desk.workspace stereotype after numbers := by
  obtain ⟨found, middle, hfind, hload⟩ := Stateful.bind_ok_iff.mp hrun
  obtain ⟨rfl, hfound⟩ := find_run hfind
  have hfiles : scriptFiles sources middle.desk.workspace stereotype =
      .ok (found.filter fun file => !isInternal file) := by
    rw [scriptFiles, hfound]
    rfl
  -- A script keeps its number while the rest is loaded.
  suffices hgeneral : ∀ files run numbers, (files.mapM loadScript).run run = (.ok numbers, after) →
      Still run after ∧ after.desk = run.desk ∧
        List.Forall₂ (fun file number => ∃ handle, after.handles[number]? = some handle ∧
          run.desk.workspace.resolvePath file = .ok handle.1) files numbers by
    obtain ⟨hstill, hdesk, hnumbers⟩ := hgeneral _ _ _ hload
    exact ⟨hstill, hdesk, _, hfiles, hnumbers⟩
  intro files
  induction files with
  | nil =>
      intro run numbers hload
      cases hload
      exact ⟨refl_of Still _, rfl, .nil⟩
  | cons file rest ih =>
      intro run numbers hload
      rw [List.mapM_cons] at hload
      obtain ⟨number, first, hfirst, hmore⟩ := Stateful.bind_ok_iff.mp hload
      obtain ⟨others, last, hothers, hlast⟩ := Stateful.bind_ok_iff.mp hmore
      cases hlast
      obtain ⟨hstill, hdesk, handle, hhandle, hplace⟩ := loadScript_run hfirst
      obtain ⟨hstill', hdesk', hnumbers⟩ := ih _ _ hothers
      rw [hdesk] at hnumbers
      exact ⟨hstill.trans hstill', hdesk'.trans hdesk,
        .cons ⟨handle, hstill'.handles.keep hhandle, hplace⟩ hnumbers⟩

/-- The files are those that come from routing what was rendered with the events. -/
def FilesAfter (start : Run) (events : List Event) (w : Workspace) : Prop :=
  ∃ (calls : List Output.Call) (results : List (Option Path)) (desk : Output.Desk),
    calls.map (·.parcel) = shipped events ∧
      (Output.routeAll calls).run start.desk = (.ok results, desk) ∧ desk.workspace = w

theorem FilesAfter.of_ships {start : Run} (h : Ships start run) :
    FilesAfter start (run.since start) run.desk.workspace := by
  obtain ⟨calls, results, hcalls, hrouted⟩ := h.routed
  obtain ⟨context, hrouted⟩ := hrouted start.desk.context
  exact ⟨calls, results, _, hcalls, hrouted, rfl⟩

/-! The walk. -/

/-- A class at one of its stereotypes, with what the platform has for the stereotype. -/
structure Visit where
  classifier : Nat
  stereotype : Nat
  /-- What had been written down when the visit began. -/
  earlier : List Event
  scripts : List Nat
  templates : List Path

namespace Visit

def occasion (visit : Visit) : Nat × Nat := (visit.classifier, visit.stereotype)

def stereotypeName (m : Model) (visit : Visit) : String :=
  (Entity.stereotype visit.classifier visit.stereotype).name m

def className (m : Model) (visit : Visit) : String :=
  ((Entity.classifier visit.classifier).qualifiedName? m).getD ""

/-- The hooks come first, those of the project's scripts before those of the stereotype's, and the
templates come last. -/
def deeds (m : Model) (project : List Nat) (visit : Visit) : List Deed :=
  hooksFor m visit.classifier visit.stereotype (project ++ visit.scripts) ++
    visit.templates.map (.render (.entity (.classifier visit.classifier)))

/-- The scripts and the templates are those that are found for the stereotype among the files as they
were when the visit began. -/
def Found (sources : Sources) (m : Model) (start run : Run) (visit : Visit) : Prop :=
  ∃ w, FilesAfter start visit.earlier w ∧
    Lists sources w (some (visit.stereotypeName m)) run visit.scripts ∧
    Platform.filesFor w sources.platform sources.platform (some (visit.stereotypeName m))
      sources.templateExtension = .ok visit.templates

theorem Found.mono {sources : Sources} {m : Model} {start : Run} {visit : Visit}
    (h : visit.Found sources m start run) (hhandles : Handles run after) :
    visit.Found sources m start after := by
  obtain ⟨w, hfiles, hscripts, htemplates⟩ := h
  exact ⟨w, hfiles, hscripts.mono hhandles, htemplates⟩

end Visit

theorem hooksFor_append (m : Model) (i j : Nat) (first second : List Nat) :
    hooksFor m i j (first ++ second) = hooksFor m i j first ++ hooksFor m i j second :=
  List.flatMap_append

def Run.turnedTo (run : Run) (classifier stereotype : Value) : Run :=
  { run with desk := { run.desk with context := run.desk.context.setClass classifier stereotype } }

theorem Aside.turnedTo (run : Run) (classifier stereotype : Value) :
    Aside run (run.turnedTo classifier stereotype) :=
  .of_silent rfl rfl rfl rfl

theorem Still.turnedTo (run : Run) (classifier stereotype : Value) :
    Still run (run.turnedTo classifier stereotype) :=
  .of_scripts rfl rfl

theorem processClass_ok {sources : Sources} {project : List Nat} {m : Model} {i j : Nat} {results : List Rendered}
    (hrun : (processClass conduct sources project m i j).run run = (.ok results, after)) :
    ∃ asked numbers loaded ready files,
      (runScripts conduct project m i j).run
        (run.turnedTo (.entity (.classifier i)) (.entity (.stereotype i j))) = (.ok (), asked) ∧
      (loadScripts sources.platform sources.platform (some ((Entity.stereotype i j).name m))
        sources.scriptExtension).run asked = (.ok numbers, loaded) ∧
      (runScripts conduct numbers m i j).run loaded = (.ok (), ready) ∧
      Platform.filesFor ready.desk.workspace sources.platform sources.platform
        (some ((Entity.stereotype i j).name m)) sources.templateExtension = .ok files ∧
      (renderAll sources.templateExtension (.entity (.classifier i)) files).run ready = (.ok results, after) := by
  obtain ⟨u, said, hsay, hrun⟩ := Stateful.bind_ok_iff.mp hrun
  rw [sayStatus, run_say] at hsay
  obtain rfl : run = said := congrArg Prod.snd hsay
  rw [Stateful.run_bind_ok (run_context run), Stateful.run_bind_ok (run_setContext _ _)] at hrun
  obtain ⟨u, asked, hproject, hrun⟩ := Stateful.bind_ok_iff.mp hrun
  obtain ⟨numbers, loaded, hload, hrun⟩ := Stateful.bind_ok_iff.mp hrun
  obtain ⟨u, ready, hown, hrun⟩ := Stateful.bind_ok_iff.mp hrun
  obtain ⟨files, found, hfind, hrender⟩ := Stateful.bind_ok_iff.mp hrun
  obtain ⟨rfl, hfiles⟩ := find_run hfind
  exact ⟨asked, numbers, loaded, found, files, hproject, hload, hown, hfiles, hrender⟩

theorem processClass_walked {sources : Sources} {project : List Nat} {m : Model} {i j : Nat}
    {start : Run} {results : List Rendered} (hships : Ships start run)
    (hrun : (processClass conduct sources project m i j).run run = (.ok results, after)) :
    ∃ visit : Visit, visit.occasion = (i, j) ∧ visit.earlier = run.since start ∧
      Walked conduct run after (visit.deeds m project) ∧ visit.Found sources m start after := by
  obtain ⟨asked, scripts, loaded, ready, templates, hproject, hload, hscripts, htemplates, hrender⟩ :=
    processClass_ok hrun
  obtain ⟨hstill, hdesk, hlists⟩ := loadScripts_run hload
  have hasked := (Aside.turnedTo run _ _).trans
    ((runScripts_keeps (Aside.keptByHooks conduct) project m i j).of_run hproject)
  have hready := (runScripts_keeps (Aside.keptByHooks conduct) scripts m i j).of_run hscripts
  rw [hasked.workspace] at hlists
  rw [hready.workspace, hdesk, hasked.workspace] at htemplates
  have hhooks := runScripts_walked hscripts
  have hrendered : Walked conduct ready after _ := renderAll_walked hrender
  refine ⟨⟨i, j, run.since start, scripts, templates⟩, rfl, rfl, ?_, ?_⟩
  · have hbegun : Walked conduct run asked _ :=
      Walked.still_trans (Still.turnedTo run _ _) (runScripts_walked hproject)
    have hwalked := ((hbegun.trans_still hstill).trans hhooks).trans hrendered
    rwa [Visit.deeds, hooksFor_append]
  · have hkept := hlists.mono (hhooks.handles.trans hrendered.handles)
    exact ⟨run.desk.workspace, .of_ships hships, hkept, htemplates⟩

theorem callsOf_congr {numbers : List Nat} (hbound : ∀ number ∈ numbers, number < run.scripts.length)
    (hhandles : Handles run after) (hook : String) :
    callsOf conduct run hook numbers = callsOf conduct after hook numbers := by
  rw [callsOf, callsOf, List.filter_congr fun number hnumber =>
    (hhandles.provides_eq conduct (hbound number hnumber) hook).symm]

theorem loadPlatform_walked {sources : Sources} {project : List Nat}
    (hrun : (loadPlatform conduct sources).run run = (.ok project, after)) :
    Walked conduct run after (callsOf conduct after "init_platform" project) ∧
      Lists sources run.desk.workspace none after project := by
  obtain ⟨u, checked, hcheck, hrun⟩ := Stateful.bind_ok_iff.mp hrun
  obtain rfl : run = checked := (checkPlatform_keeps (R := Eq) sources).of_run hcheck
  rw [Stateful.run_bind_ok (Stateful.run_get run)] at hrun
  obtain ⟨u, said, hsay, hrun⟩ := Stateful.bind_ok_iff.mp hrun
  rw [sayStatus, run_say] at hsay
  obtain rfl : run = said := congrArg Prod.snd hsay
  obtain ⟨scripts, loaded, hload, hrun⟩ := Stateful.bind_ok_iff.mp hrun
  obtain ⟨u, called, hcalls, hrun⟩ := Stateful.bind_ok_iff.mp hrun
  obtain ⟨helpers, helped, hhelpers, hrun⟩ := Stateful.bind_ok_iff.mp hrun
  obtain ⟨partials, last, hpartials, hrun⟩ := Stateful.bind_ok_iff.mp hrun
  cases hrun
  obtain ⟨hstill, -, hlists⟩ := loadScripts_run hload
  have hwalked := Walked.still_trans hstill (runLifecycles_walked hlists.bound hcalls)
  have hrest : Still called after :=
    ((loadHelpers_keeps Still.keptByLoading.engine _ _ _).of_run hhelpers).trans
      ((loadPartials_keeps Still.keptByLoading.engine _ _ _).of_run hpartials)
  have hhandles := (runLifecycles_walked hlists.bound hcalls).handles.trans hrest.handles
  rw [callsOf_congr hlists.bound hhandles] at hwalked
  exact ⟨hwalked.trans_still hrest, hlists.mono hhandles⟩

/-- What a run walks through: the scripts of the project, by number, the classes at their stereotypes,
and the templates of the project. -/
structure Walk where
  project : List Nat
  visits : List Visit
  /-- What had been written down when the templates of the project were looked for. -/
  earlier : List Event
  templates : List Path

namespace Walk

/-- What comes before the first class. -/
def opening (walk : Walk) (conduct : Conduct) (run : Run) : List Deed :=
  callsOf conduct run "init_platform" walk.project

/-- What comes for the first `count` visits, and before them. -/
def upTo (walk : Walk) (conduct : Conduct) (run : Run) (m : Model) (count : Nat) : List Deed :=
  walk.opening conduct run ++ (walk.visits.take count).flatMap (Visit.deeds m walk.project)

/-- What comes before the templates of the project. -/
def untilTemplates (walk : Walk) (conduct : Conduct) (run : Run) (m : Model) : List Deed :=
  walk.upTo conduct run m walk.visits.length ++
    callsOf conduct run "init_project_templates" walk.project

def deeds (walk : Walk) (conduct : Conduct) (run : Run) (m : Model) : List Deed :=
  walk.untilTemplates conduct run m ++ walk.templates.map (.render .null)

/-- The walk is the one that a run has taken from `start`. -/
structure Describes (walk : Walk) (conduct : Conduct) (sources : Sources) (m : Model)
    (start run : Run) : Prop where
  project : Lists sources start.desk.workspace none run walk.project
  order : walk.visits.map Visit.occasion = occasions m
  visit : ∀ count visit, walk.visits[count]? = some visit → visit.Found sources m start run ∧
    visit.earlier <+: run.since start ∧ planned visit.earlier = walk.upTo conduct run m count
  earlier : walk.earlier <+: run.since start ∧
    planned walk.earlier = walk.untilTemplates conduct run m
  templates : ∃ w, FilesAfter start walk.earlier w ∧
    Platform.filesFor w sources.platform sources.platform none sources.templateExtension =
      .ok walk.templates

end Walk

/-- Where a run stands after some visits. -/
structure Visited (conduct : Conduct) (sources : Sources) (m : Model) (project : List Nat)
    (opening : List Deed) (start run : Run) (visits : List Visit) : Prop where
  ships : Ships start run
  walked : Walked conduct start run (opening ++ visits.flatMap (Visit.deeds m project))
  visit : ∀ count visit, visits[count]? = some visit → visit.Found sources m start run ∧
    visit.earlier <+: run.since start ∧
    planned visit.earlier = opening ++ (visits.take count).flatMap (Visit.deeds m project)

namespace Visited

variable {sources : Sources} {m : Model} {project : List Nat} {opening : List Deed} {start : Run}
  {visits : List Visit}

theorem none (hships : Ships start run) (hwalked : Walked conduct start run opening) :
    Visited conduct sources m project opening start run [] := by
  refine ⟨hships, ?_, fun count visit hvisit => by cases hvisit⟩
  rwa [List.flatMap_nil, List.append_nil]

theorem next {i j : Nat} {results : List Rendered}
    (h : Visited conduct sources m project opening start run visits)
    (hrun : (processClass conduct sources project m i j).run run = (.ok results, after)) :
    Handles run after ∧ ∃ visit : Visit, visit.occasion = (i, j) ∧
      Visited conduct sources m project opening start after (visits ++ [visit]) := by
  obtain ⟨visit, hoccasion, hearlier, hwalked, hfound⟩ := processClass_walked h.ships hrun
  have hships := (processClass_ships conduct sources project m i j).of_ok hrun
  have hsince := Run.since_append h.walked.journal hwalked.journal
  refine ⟨hwalked.handles, visit, hoccasion, h.ships.trans hships, ?_, ?_⟩
  · have hboth := h.walked.trans hwalked
    rwa [List.append_assoc, ← List.flatMap_singleton (Visit.deeds m project), ← List.flatMap_append]
      at hboth
  · intro count other hother
    rcases Nat.lt_or_ge count visits.length with hbefore | hlast
    · rw [List.getElem?_append_left hbefore] at hother
      obtain ⟨hfound, hbegins, hplanned⟩ := h.visit count other hother
      rw [List.take_append_of_le_length (Nat.le_of_lt hbefore)]
      refine ⟨hfound.mono hwalked.handles, hbegins.trans ?_, hplanned⟩
      exact ⟨_, hsince.symm⟩
    · have hbound := (List.getElem?_eq_some_iff.mp hother).1
      rw [List.length_append, List.length_singleton] at hbound
      obtain rfl : count = visits.length := by omega
      rw [List.getElem?_concat_length] at hother
      cases hother
      rw [List.take_left, hearlier]
      exact ⟨hfound, ⟨_, hsince.symm⟩, h.walked.planned⟩

theorem all {occasions : List (Nat × Nat)} {results : List (List Rendered)}
    (h : Visited conduct sources m project opening start run [])
    (hrun : (occasions.mapM fun (i, j) => processClass conduct sources project m i j).run run =
      (.ok results, after)) :
    Handles run after ∧ ∃ visits : List Visit, visits.map Visit.occasion = occasions ∧
      Visited conduct sources m project opening start after visits := by
  refine Stateful.mapM_ok_invariant (fun done state => Handles run state ∧ ∃ visits : List Visit,
    visits.map Visit.occasion = done ∧
      Visited conduct sources m project opening start state visits) ?_ ⟨.of_eq rfl, [], rfl, h⟩ hrun
  rintro done ⟨i, j⟩ results state after ⟨hhandles, visits, hdone, hvisited⟩ hstep
  obtain ⟨hmore, visit, hoccasion, hnext⟩ := hvisited.next hstep
  refine ⟨hhandles.trans hmore, visits ++ [visit], ?_, hnext⟩
  rw [List.map_append, hdone, List.map_singleton, hoccasion]

end Visited

theorem Walk.upTo_length (walk : Walk) (conduct : Conduct) (run : Run) (m : Model) :
    walk.upTo conduct run m walk.visits.length =
      walk.opening conduct run ++ walk.visits.flatMap (Visit.deeds m walk.project) := by
  rw [upTo, List.take_length]

/-! The stages of a run. -/

section

variable {sources : Sources} {options : Settings.Options} {m : Model} {start last : Run}

theorem prepare_walked {found : Model × List Nat}
    (hrun : (prepare conduct sources options (pure m)).run run = (.ok found, after)) :
    found.1 = m ∧ m.validate run.desk.levels = .ok () ∧
      Walked conduct run after (callsOf conduct after "init_platform" found.2) ∧
      Lists sources run.desk.workspace none after found.2 := by
  have hload : (pure m : Step Model).run { run with stages := run.stages ++ [.validateModel] } =
      (.ok m, { run with stages := run.stages ++ [.validateModel] }) := rfl
  rw [prepare, Stateful.run_bind_ok (run_enter .validateModel run), Stateful.run_bind_ok hload,
    Stateful.run_bind_ok (Stateful.run_get _)] at hrun
  obtain ⟨u, checked, hvalid, hrun⟩ := Stateful.bind_ok_iff.mp hrun
  rw [Step.run_lift, Prod.mk.injEq] at hvalid
  obtain ⟨hvalid, rfl⟩ := hvalid
  rw [Stateful.run_bind_ok (Stateful.run_modify _ _), Stateful.run_bind_ok (run_setContext _ _),
    Stateful.run_bind_ok (run_enter .loadGlobals _)] at hrun
  obtain ⟨u, global, hglobal, hrun⟩ := Stateful.bind_ok_iff.mp hrun
  rw [Stateful.run_bind_ok (run_enter .loadPlatform global)] at hrun
  obtain ⟨project, opened, hplatform, hrun⟩ := Stateful.bind_ok_iff.mp hrun
  cases hrun
  have hstill : Still run global := by
    refine Still.trans ?_ ((loadGlobals_keeps sources Still.keptByLoading.engine).of_run hglobal)
    exact .of_scripts rfl rfl
  have haside : Aside run global := by
    refine Aside.trans ?_ ((loadGlobals_keeps sources Aside.keptByLoading.engine).of_run hglobal)
    exact .of_silent rfl rfl rfl rfl
  obtain ⟨hwalked, hlists⟩ := loadPlatform_walked hplatform
  refine ⟨rfl, hvalid, ?_, ?_⟩
  · refine Walked.still_trans (hstill.trans ?_) hwalked
    exact .of_scripts rfl rfl
  · rw [← haside.workspace]
    exact hlists

theorem processProject_ok {project : List Nat} {results : List Rendered}
    (hrun : (processProject conduct sources project).run run = (.ok results, after)) :
    ∃ called files,
      ((project.forM fun number => do
        let _ ← runLifecycle number "init_project_templates" conduct : Step Unit)).run
          (Run.turnedTo { run with stages := run.stages ++ [.projectScripts] } .null .null) = (.ok (), called) ∧
      Platform.filesFor called.desk.workspace sources.platform sources.platform none sources.templateExtension =
        .ok files ∧
      (renderAll sources.templateExtension .null files).run
        { called with stages := called.stages ++ [.projectTemplates] } = (.ok results, after) := by
  rw [processProject, Stateful.run_bind_ok (run_enter .projectScripts run), Stateful.run_bind_ok (run_context _),
    Stateful.run_bind_ok (run_setContext _ _)] at hrun
  obtain ⟨u, called, hcalls, hrun⟩ := Stateful.bind_ok_iff.mp hrun
  rw [Stateful.run_bind_ok (run_enter .projectTemplates called)] at hrun
  obtain ⟨files, found, hfind, hrender⟩ := Stateful.bind_ok_iff.mp hrun
  obtain ⟨rfl, hfiles⟩ := find_run hfind
  exact ⟨called, files, hcalls, hfiles, hrender⟩

theorem processProject_walked {project : List Nat} {results : List Rendered}
    (hbound : ∀ number ∈ project, number < run.scripts.length) (hships : Ships start run)
    (hrun : (processProject conduct sources project).run run = (.ok results, after)) :
    ∃ (earlier : List Event) (templates : List Path),
      earlier <+: after.since start ∧
      planned earlier = planned (run.since start) ++
        callsOf conduct after "init_project_templates" project ∧
      (∃ w, FilesAfter start earlier w ∧
        Platform.filesFor w sources.platform sources.platform none sources.templateExtension =
          .ok templates) ∧
      Walked conduct run after (callsOf conduct after "init_project_templates" project ++
        templates.map (.render .null)) := by
  obtain ⟨called, templates, hcalls, htemplates, hrender⟩ := processProject_ok hrun
  let entered : Run := { run with stages := run.stages ++ [.projectScripts] }
  let begun := entered.turnedTo .null .null
  let found : Run := { called with stages := called.stages ++ [.projectTemplates] }
  have hbegun := (Still.enter .projectScripts run).trans (Still.turnedTo entered .null .null)
  have hfound : Aside run found :=
    ((Aside.enter .projectScripts run).trans (Aside.turnedTo entered .null .null)).trans
      (((runLifecycles_keeps (Aside.keptByHooks conduct) project _).of_run hcalls).trans
        (Aside.enter .projectTemplates called))
  have hbound_begun : ∀ number ∈ project, number < begun.scripts.length := hbound
  have hrendered : Walked conduct found after (templates.map (.render .null)) :=
    renderAll_walked hrender
  have hready : Still called found := Still.enter .projectTemplates called
  have hcalled := (runLifecycles_walked hbound_begun hcalls).trans_still hready
  rw [callsOf_congr hbound_begun (hcalled.handles.trans hrendered.handles)] at hcalled
  have hcalled := Walked.still_trans hbegun hcalled
  have hsent : Ships start found := hships.trans (.of_aside hfound)
  have hbefore := Run.since_append hships.journal hcalled.journal
  have hlater := Run.since_append hsent.journal hrendered.journal
  refine ⟨found.since start, templates, ⟨_, hlater.symm⟩, ?_,
    ⟨found.desk.workspace, .of_ships hsent, htemplates⟩, hcalled.trans hrendered⟩
  rw [hbefore, planned_append, hcalled.planned]

theorem runStages_ok {load : Step Model} {results : List Rendered}
    (hrun : (runStages conduct sources options load).run start = (.ok results, last)) :
    ∃ (found : Model × List Nat) (opened : Run) (visits : List (List Rendered)) (visited : Run)
        (forProject : List Rendered),
      (prepare conduct sources options load).run start = (.ok found, opened) ∧
      ((occasions found.1).mapM fun (i, j) => processClass conduct sources found.2 found.1 i j).run
        { opened with stages := opened.stages ++ [Stage.walkModel] } = (.ok visits, visited) ∧
      (processProject conduct sources found.2).run visited = (.ok forProject, last) ∧
      results = visits.flatten ++ forProject := by
  rw [runStages] at hrun
  obtain ⟨found, opened, hprepare, hrest⟩ := Stateful.bind_ok_iff.mp hrun
  rw [Stateful.run_bind_ok (run_enter .walkModel opened)] at hrest
  obtain ⟨visits, visited, hvisits, hrest⟩ := Stateful.bind_ok_iff.mp hrest
  obtain ⟨forProject, ended, hended, hlast⟩ := Stateful.bind_ok_iff.mp hrest
  cases hlast
  exact ⟨found, opened, visits, visited, forProject, hprepare, hvisits, hended, rfl⟩

theorem runStages_walks {results : List Rendered}
    (hrun : (runStages conduct sources options (pure m)).run start = (.ok results, last)) :
    m.validate start.desk.levels = .ok () ∧ ∃ walk : Walk,
      walk.Describes conduct sources m start last ∧
      Walked conduct start last (walk.deeds conduct last m) := by
  obtain ⟨⟨m', project⟩, opened, forClasses, visited, forProject, hprepare, hvisits, hended, -⟩ := runStages_ok hrun
  obtain ⟨hsame, hvalid, hopening, hproject⟩ := prepare_walked hprepare
  obtain rfl : m' = m := hsame
  let walking : Run := { opened with stages := opened.stages ++ [.walkModel] }
  have hready : Ships start walking := .of_aside
    (((prepare_aside conduct sources options (.pure m')).of_run hprepare).trans (Aside.enter .walkModel opened))
  have hstill : Still opened walking := Still.enter .walkModel opened
  obtain ⟨hhandles, visits, horder, hvisited⟩ :=
    (Visited.none hready (hopening.trans_still hstill)).all hvisits
  have hproject_visited := hproject.mono (hstill.handles.trans hhandles)
  obtain ⟨earlier, templates, hbegins, hplanned, htemplates, hclosing⟩ :=
    processProject_walked hproject_visited.bound hvisited.ships hended
  have hopened : callsOf conduct opened "init_platform" project =
      callsOf conduct last "init_platform" project :=
    callsOf_congr hproject.bound ((hstill.handles.trans hhandles).trans hclosing.handles) _
  rw [hopened] at hvisited
  have hclasses : Walked conduct start visited _ := hvisited.walked
  let walk : Walk := ⟨project, visits, earlier, templates⟩
  refine ⟨hvalid, walk, ⟨hproject_visited.mono hclosing.handles, horder, ?_, ⟨hbegins, ?_⟩, htemplates⟩, ?_⟩
  · intro count visit hvisit
    obtain ⟨hfound, hearlier, hdone⟩ := hvisited.visit count visit hvisit
    refine ⟨hfound.mono hclosing.handles, hearlier.trans ?_, hdone⟩
    exact ⟨_, (Run.since_append hvisited.ships.journal hclosing.journal).symm⟩
  · rw [hplanned, hclasses.planned, Walk.untilTemplates, Walk.upTo_length]
    rfl
  · have hwhole := hclasses.trans hclosing
    rw [Walk.deeds, Walk.untilTemplates, Walk.upTo_length, List.append_assoc]
    exact hwhole

end

end Codegen.Generation
