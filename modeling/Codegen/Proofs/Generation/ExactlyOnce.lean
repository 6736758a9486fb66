import Codegen.Proofs.Generation.Walk
import Codegen.Proofs.Model.Validity

/-! How often each hook is run in a whole run. -/

namespace Codegen.Generation

open Codegen.Files Codegen.Model Codegen.Plugin

variable {conduct : Conduct} {run after : Run} {m : Model}

/-! Hooks of the whole run. -/

theorem called_append (first second : List Deed) :
    called (first ++ second) = called first ++ called second :=
  List.filterMap_append

theorem called_performed (events : List Event) : called (performed events) = called (planned events) := by
  rw [called, called, performed, planned, List.filterMap_filterMap, List.filterMap_filterMap]
  refine List.filterMap_congr fun event _ => ?_
  cases event with
  | asked request value answer => cases answer <;> rfl
  | _ => rfl

theorem called_callsOf (hook : String) (numbers : List Nat) :
    called (callsOf conduct run hook numbers) =
      (numbers.filter fun number => run.provides conduct number hook).map fun number =>
        (number, hook) := by
  rw [called, callsOf, List.filterMap_map]
  exact congrFun List.filterMap_eq_map _

theorem called_renders (classifier : Value) (templates : List Path) :
    called (templates.map (.render classifier)) = [] := by
  rw [called, List.filterMap_map]
  exact List.filterMap_eq_nil_iff.mpr fun _ _ => rfl

theorem called_hooksFor (i j : Nat) (scripts : List Nat) : called (hooksFor m i j scripts) = [] := by
  rw [called, List.filterMap_eq_nil_iff]
  intro deed hdeed
  obtain ⟨number, -, hmem⟩ := List.mem_flatMap.mp hdeed
  rcases List.mem_pair.mp hmem with rfl | rfl <;> rfl

theorem count_called_callsOf (hook : String) (numbers : List Nat) (number : Nat) (other : String) :
    (called (callsOf conduct run hook numbers)).count (number, other) =
      if other = hook ∧ run.provides conduct number hook = true then numbers.count number else 0 := by
  rw [called_callsOf]
  by_cases hsame : other = hook
  · subst hsame
    have hinjective : Function.Injective fun number : Nat => (number, other) :=
      fun _ _ h => congrArg Prod.fst h
    rw [List.count_map_of_injective _ _ hinjective]
    by_cases hprovides : run.provides conduct number other = true
    · rw [if_pos ⟨rfl, hprovides⟩, 
        List.count_filter (p := fun number => run.provides conduct number other) hprovides]
    · rw [if_neg fun h => hprovides h.2]
      refine List.count_eq_zero_of_not_mem fun hmem => hprovides ?_
      exact (List.mem_filter.mp hmem).2
  · rw [if_neg fun h => hsame h.1]
    refine List.count_eq_zero_of_not_mem fun hmem => hsame ?_
    obtain ⟨_, -, heq⟩ := List.mem_map.mp hmem
    exact (congrArg Prod.snd heq).symm

namespace Walk

variable {walk : Walk}

theorem called_deeds (walk : Walk) (conduct : Conduct) (run : Run) (m : Model) :
    called (walk.deeds conduct run m) =
      called (callsOf conduct run "init_platform" walk.project) ++
        called (callsOf conduct run "init_project_templates" walk.project) := by
  have hvisits : called (walk.visits.flatMap (Visit.deeds m walk.project)) = [] := by
    rw [called, List.filterMap_flatMap, List.flatMap_eq_nil_iff]
    intro visit _
    have hvisit : called (visit.deeds m walk.project) = [] := by
      rw [Visit.deeds, called_append, called_hooksFor, called_renders, List.append_nil]
    exact hvisit
  rw [deeds, untilTemplates, upTo_length, opening, called_append, called_append, called_append,
    hvisits, called_renders, List.append_nil, List.append_nil]

end Walk

theorem Lists.count {sources : Sources} {w : Workspace} {stereotype : Option String}
    {numbers : List Nat} {files : List Path} {number : Nat} {handle : Path × Plugin}
    (h : Lists sources w stereotype run numbers) (hnodup : (run.handles.map (·.1)).Nodup)
    (hfiles : scriptFiles sources w stereotype = .ok files)
    (hhandle : run.handles[number]? = some handle) :
    numbers.count number =
      files.countP fun file => (w.resolvePath file).toOption = some handle.1 := by
  obtain ⟨found, hfound, hnumbers⟩ := h
  obtain rfl : found = files := by
    rw [hfiles] at hfound
    exact (Except.ok.inj hfound).symm
  clear hfiles hfound
  induction hnumbers with
  | nil => rfl
  | @cons file other files numbers hfirst _ ih =>
      obtain ⟨place, hplace, hresolve⟩ := hfirst
      have hsame : other = number ↔ place.1 = handle.1 := by
        constructor
        · rintro rfl
          rw [hhandle] at hplace
          cases hplace
          rfl
        · intro heq
          have hbound := (List.getElem?_eq_some_iff.mp hplace).1
          rw [← List.length_map] at hbound
          refine (List.getElem?_inj hbound hnodup).mp ?_
          rw [List.getElem?_map, List.getElem?_map, hplace, hhandle, Option.map_some, heq,
            Option.map_some]
      rw [List.count_cons, List.countP_cons, ih, hresolve]
      simp only [beq_iff_eq, hsame, Except.toOption, Option.some_inj, decide_eq_true_eq]

/-! Hooks for classes and stereotypes. -/

theorem requested_callsOf (hook : String) (numbers : List Nat) :
    requested (callsOf conduct run hook numbers) = [] := by
  rw [requested, callsOf, List.filterMap_map]
  exact List.filterMap_eq_nil_iff.mpr fun _ _ => rfl

theorem requested_renders (classifier : Value) (templates : List Path) :
    requested (templates.map (.render classifier)) = [] := by
  rw [requested, List.filterMap_map]
  exact List.filterMap_eq_nil_iff.mpr fun _ _ => rfl

theorem mem_requested_hooksFor {i j : Nat} {scripts : List Nat} {request : Request} :
    request ∈ requested (hooksFor m i j scripts) ↔ request.script ∈ scripts ∧
      (request.kind = "Stereotype" ∧ request.identity = (Entity.stereotype i j).name m ∨
        request.kind = "Class" ∧
          request.identity = ((Entity.classifier i).qualifiedName? m).getD "") := by
  obtain ⟨number, kind, identity⟩ := request
  rw [requested, hooksFor, List.filterMap_flatMap, List.mem_flatMap]
  constructor
  · rintro ⟨script, hscript, hmem⟩
    rcases List.mem_pair.mp hmem with heq | heq
    · cases heq
      exact ⟨hscript, .inl ⟨rfl, rfl⟩⟩
    · cases heq
      exact ⟨hscript, .inr ⟨rfl, rfl⟩⟩
  · rintro ⟨hscript, ⟨rfl, rfl⟩ | ⟨rfl, rfl⟩⟩
    · exact ⟨number, hscript, List.mem_cons_self⟩
    · exact ⟨number, hscript, List.mem_cons_of_mem _ List.mem_cons_self⟩

namespace Walk

/-- The scripts whose hooks are run at a visit. -/
def scriptsAt (walk : Walk) (visit : Visit) : List Nat := walk.project ++ visit.scripts

theorem mem_requested_deeds {walk : Walk} {request : Request} :
    request ∈ requested (walk.deeds conduct run m) ↔ ∃ visit ∈ walk.visits,
      request.script ∈ walk.scriptsAt visit ∧
        (request.kind = "Stereotype" ∧ request.identity = visit.stereotypeName m ∨
          request.kind = "Class" ∧ request.identity = visit.className m) := by
  have hvisits : requested (walk.deeds conduct run m) =
      walk.visits.flatMap fun visit => requested (hooksFor m visit.classifier visit.stereotype
        (walk.scriptsAt visit)) := by
    rw [deeds, untilTemplates, upTo_length, opening, requested_append, requested_append,
      requested_append, requested_callsOf, requested_callsOf, requested_renders, List.nil_append,
      List.append_nil, List.append_nil, requested, List.filterMap_flatMap]
    refine congrArg (List.flatMap · walk.visits) (funext fun visit => ?_)
    have hvisit := requested_append (hooksFor m visit.classifier visit.stereotype
      (walk.scriptsAt visit)) (visit.templates.map (.render (.entity (.classifier visit.classifier))))
    rwa [requested_renders, List.append_nil] at hvisit
  rw [hvisits, List.mem_flatMap]
  exact exists_congr fun visit => and_congr_right fun _ => mem_requested_hooksFor

end Walk

theorem classifier_lt_of_occasion {i j : Nat} (h : (i, j) ∈ occasions m) : i < m.classes.length := by
  obtain ⟨⟨c, place⟩, hclass, hmem⟩ := List.mem_flatMap.mp h
  obtain ⟨_, -, hpair⟩ := List.mem_map.mp hmem
  cases hpair
  exact (List.mem_zipIdx' hclass).1

theorem hookName_class : hookName "Class" = "init_class" := by decide +kernel

theorem hookName_stereotype : hookName "Stereotype" = "init_stereotype" := by decide +kernel

/-! The whole run. -/

theorem runPipeline_ok {sources : Sources} {options : Settings.Options} {load : Step Model}
    {start : Run} {report : Report}
    (hrun : (runPipeline sources options load conduct).run start = (.ok report, after)) :
    ∃ results last, (runStages conduct sources options load).run
        { start with stages := start.stages ++ [.start] } = (.ok results, last) ∧
      after.journal = last.journal ∧ after.scripts = last.scripts := by
  obtain ⟨results, last, hstages, hconclude⟩ := runPipeline_ok_iff.mp hrun
  have hkept := (conclude_deskKept sources results).of_run hconclude
  exact ⟨results, last, hstages, hkept.journal, hkept.scripts⟩

section

variable {walk : Walk} {last : Run}

theorem callsOf_eq (h : after.handles = last.handles) (hook : String) (numbers : List Nat) :
    callsOf conduct after hook numbers = callsOf conduct last hook numbers := by
  simp only [callsOf, Run.provides, h]

namespace Walk

theorem upTo_eq (h : after.handles = last.handles) (count : Nat) :
    walk.upTo conduct after m count = walk.upTo conduct last m count := by
  rw [upTo, upTo, opening, opening, callsOf_eq h]

theorem untilTemplates_eq (h : after.handles = last.handles) :
    walk.untilTemplates conduct after m = walk.untilTemplates conduct last m := by
  rw [untilTemplates, untilTemplates, upTo_eq h, callsOf_eq h]

theorem deeds_eq (h : after.handles = last.handles) :
    walk.deeds conduct after m = walk.deeds conduct last m := by
  rw [deeds, deeds, untilTemplates_eq h]

theorem Describes.congr {sources : Sources} {start : Run}
    (h : walk.Describes conduct sources m start last) (hhandles : after.handles = last.handles)
    (hjournal : after.journal = last.journal) : walk.Describes conduct sources m start after := by
  have hsince : after.since start = last.since start := by
    rw [Run.since, Run.since, hjournal]
  have hkept : Handles last after := .of_eq hhandles
  refine ⟨h.project.mono hkept, h.order, ?_, ?_, h.templates⟩
  · intro count visit hvisit
    obtain ⟨hfound, hearlier, hplanned⟩ := h.visit count visit hvisit
    rw [hsince, upTo_eq hhandles]
    exact ⟨hfound.mono hkept, hearlier, hplanned⟩
  · rw [hsince, untilTemplates_eq hhandles]
    exact h.earlier

theorem count_called {sources : Sources} {start : Run} {files : List Path} {number : Nat}
    {handle : Path × Plugin} {hook : String}
    (h : walk.Describes conduct sources m start run)
    (hnodup : (run.handles.map (·.1)).Nodup)
    (hfiles : scriptFiles sources start.desk.workspace none = .ok files)
    (hhandle : run.handles[number]? = some handle)
    (hhook : hook ∈ ["init_platform", "init_project_templates"]) :
    (called (walk.deeds conduct run m)).count (number, hook) =
      if run.provides conduct number hook = true then
        files.countP fun file => (start.desk.workspace.resolvePath file).toOption = some handle.1
      else 0 := by
  rw [called_deeds, List.count_append, count_called_callsOf, count_called_callsOf,
    h.project.count hnodup hfiles hhandle]
  rcases List.mem_pair.mp hhook with rfl | rfl
  · simp
  · simp

theorem count_class {number i : Nat} (hvalid : m.problems = [])
    (horder : walk.visits.map Visit.occasion = occasions m) (hi : i < m.classes.length) :
    (requested (firstTimes (run.offers conduct) [] (walk.deeds conduct run m))).count
        ⟨number, "Class", ((Entity.classifier i).qualifiedName? m).getD ""⟩ =
      if run.provides conduct number "init_class" = true ∧
        ∃ visit ∈ walk.visits, visit.classifier = i ∧ number ∈ walk.scriptsAt visit
      then 1 else 0 := by
  rw [count_firstTimes]
  refine if_congr ?_ rfl rfl
  rw [mem_requested_deeds, Run.offers, hookName_class]
  -- Qualified names tell the classes apart, so that only visits of one class make the request.
  have hname : ∀ visit ∈ walk.visits,
      ((Entity.classifier i).qualifiedName? m).getD "" = visit.className m ↔
        visit.classifier = i := by
    intro visit hvisit
    constructor
    · intro hsame
      have hoccasion : visit.occasion ∈ occasions m := horder ▸ List.mem_map_of_mem hvisit
      exact (Entity.classifier_inj hvalid hi (classifier_lt_of_occasion hoccasion) hsame).symm
    · rintro rfl
      rfl
  have hkinds : "Class" ≠ "Stereotype" := by decide
  constructor
  · rintro ⟨⟨visit, hvisit, hscript, ⟨hkind, -⟩ | ⟨-, hsame⟩⟩, -, hprovides⟩
    · exact absurd hkind hkinds
    · exact ⟨hprovides, visit, hvisit, (hname visit hvisit).mp hsame, hscript⟩
  · rintro ⟨hprovides, visit, hvisit, hclass, hscript⟩
    exact ⟨⟨visit, hvisit, hscript, .inr ⟨rfl, (hname visit hvisit).mpr hclass⟩⟩, List.not_mem_nil,
      hprovides⟩

theorem count_stereotype {number : Nat} {name : String} :
    (requested (firstTimes (run.offers conduct) [] (walk.deeds conduct run m))).count
        ⟨number, "Stereotype", name⟩ =
      if run.provides conduct number "init_stereotype" = true ∧
        ∃ visit ∈ walk.visits, visit.stereotypeName m = name ∧ number ∈ walk.scriptsAt visit
      then 1 else 0 := by
  rw [count_firstTimes]
  refine if_congr ?_ rfl rfl
  rw [mem_requested_deeds, Run.offers, hookName_stereotype]
  have hkinds : "Stereotype" ≠ "Class" := by decide
  constructor
  · rintro ⟨⟨visit, hvisit, hscript, ⟨-, hsame⟩ | ⟨hkind, -⟩⟩, -, hprovides⟩
    · exact ⟨hprovides, visit, hvisit, hsame.symm, hscript⟩
    · exact absurd hkind hkinds
  · rintro ⟨hprovides, visit, hvisit, hsame, hscript⟩
    exact ⟨⟨visit, hvisit, hscript, .inl ⟨rfl, hsame.symm⟩⟩, List.not_mem_nil, hprovides⟩

end Walk

/-- A run that succeeds comes, in this order, to the `init_platform` hooks of the project's scripts, to
the visits, class by class and stereotype by stereotype, to the `init_project_templates` hooks and to
the templates of the project. A hook of the whole run is called once for every file that leads to its
script, which is more than once where files are links to each other. If the hooks of the scripts ask
for no others, all the hooks that are run are those that come for the first time: one for each class
that a script is run for, and one for each name of a stereotype. -/
theorem runPipeline_walks (conduct : Conduct) (sources : Sources) (options : Settings.Options)
    (m : Model) (w : Workspace) (registry : Mixin.Registry) (levels : Log.Levels) {report : Report}
    {after : Run}
    (hrun : (runPipeline sources options (pure m) conduct).run (.start w registry levels) =
      (.ok report, after)) :
    ∃ walk : Walk, walk.Describes conduct sources m (.start w registry levels) after ∧
      (after.handles.map (·.1)).Nodup ∧ planned after.journal = walk.deeds conduct after m ∧
      (∀ files number handle, scriptFiles sources w none = .ok files →
        after.handles[number]? = some handle →
        ∀ hook ∈ ["init_platform", "init_project_templates"],
          (called (performed after.journal)).count (number, hook) =
            if after.provides conduct number hook = true then
              files.countP fun file => (w.resolvePath file).toOption = some handle.1
            else 0) ∧
      (after.Quiet conduct →
        performed after.journal = firstTimes (after.offers conduct) [] (walk.deeds conduct after m) ∧
        ∀ number,
          (∀ i < m.classes.length, (begun after.journal).count
              ⟨number, "Class", ((Entity.classifier i).qualifiedName? m).getD ""⟩ =
            if after.provides conduct number "init_class" = true ∧
              ∃ visit ∈ walk.visits, visit.classifier = i ∧ number ∈ walk.scriptsAt visit
            then 1 else 0) ∧
          ∀ name, (begun after.journal).count ⟨number, "Stereotype", name⟩ =
            if after.provides conduct number "init_stereotype" = true ∧
              ∃ visit ∈ walk.visits, visit.stereotypeName m = name ∧ number ∈ walk.scriptsAt visit
            then 1 else 0) := by
  let start : Run := .start w registry levels
  obtain ⟨results, last, hstages, hjournal, hscripts⟩ := runPipeline_ok hrun
  obtain ⟨hvalid, walk, hdescribes, hwalked⟩ := runStages_walks hstages
  have hhandles : after.handles = last.handles := by rw [Run.handles, Run.handles, hscripts]
  have hbegun : walk.Describes conduct sources m start last :=
    ⟨hdescribes.project, hdescribes.order, hdescribes.visit, hdescribes.earlier,
      hdescribes.templates⟩
  have hdescribes : walk.Describes conduct sources m start after := hbegun.congr hhandles hjournal
  have hlast : Walked conduct start after (walk.deeds conduct after m) := by
    rw [Walk.deeds_eq hhandles]
    refine Walked.still_trans ?_ (hwalked.trans_still (.of_scripts hjournal hscripts))
    exact .of_scripts rfl rfl
  have hsince : after.since start = after.journal := List.drop_zero
  have hplanned : planned after.journal = walk.deeds conduct after m := hsince ▸ hlast.planned
  have hnodup : (after.handles.map (·.1)).Nodup := hlast.handles.nodup List.nodup_nil
  refine ⟨walk, hdescribes, hnodup, hplanned, ?_, ?_⟩
  · intro files number handle hfiles hhandle hook hhook
    rw [called_performed, hplanned]
    exact Walk.count_called hdescribes hnodup hfiles hhandle hhook
  · intro hquiet
    have hunmarked : ∀ request, request ∈ [] ↔ start.Marked request := by
      intro request
      refine ⟨fun h => absurd h List.not_mem_nil, ?_⟩
      rintro ⟨script, hscript, _⟩
      cases hscript
    have hperformed := hlast.performed hquiet [] hunmarked
    rw [hsince] at hperformed
    refine ⟨hperformed, fun number => ⟨fun i hi => ?_, fun name => ?_⟩⟩
    · rw [← requested_performed, hperformed]
      exact Walk.count_class (problems_eq_nil_of_validate hvalid) hdescribes.order hi
    · rw [← requested_performed, hperformed]
      exact Walk.count_stereotype

end

/-! A script of the project with a link to it, and two stereotypes that share a directory. -/

def linkedPlatform : Workspace :=
  let script (hooks : List String) : Plugin :=
    { hooks := hooks.map fun hook => (hook, [.append "trace" hook]) }
  { tree := ⟨[(["r"], .directory), (["r", "p"], .directory),
      (["r", "p", "a.py"], .file (.plugin (script ["init_platform", "init_class"]))),
      (["r", "p", "b.py"], .link "a.py"), (["r", "p", "E"], .directory),
      (["r", "p", "E", "alias.json"], .file (.bytes "\"F\"".toUTF8)), (["r", "p", "F"], .directory),
      (["r", "p", "F", "s.py"], .file (.plugin (script ["init_class", "init_stereotype"]))),
      (["r", "p", "F", "t.j2"], .file (.bytes "##output aggregate all\nx".toUTF8))]⟩
    directory := ["r"] }

def twoStereotypes : Model :=
  { classes := [{ name := "A", stereotypes := [{ name := "E" }, { name := "F" }] }] }

def linkedRun : Except Failure Report × Run :=
  (runPipeline relativeSources {} (pure twoStereotypes)).run (.start linkedPlatform .empty)

/-- The link makes `init_platform` run twice, and nothing else. -/
theorem runPipeline_walks_linked :
    let after := linkedRun.2
    (called (performed after.journal)).count (0, "init_platform") = 2 ∧
      begun after.journal = [⟨0, "Class", "A"⟩, ⟨1, "Stereotype", "E"⟩, ⟨1, "Class", "A"⟩,
        ⟨1, "Stereotype", "F"⟩] ∧
      ∃ walk : Walk, walk.visits.map Visit.occasion = [(0, 0), (0, 1)] ∧
        performed after.journal =
          firstTimes (after.offers .ofPlugins) [] (walk.deeds .ofPlugins after twoStereotypes) := by
  intro after
  have hends : linkedRun.1.isOk = true ∧ after.provides .ofPlugins 0 "init_platform" = true ∧
      (∀ handle ∈ after.handles, ∀ hook ∈ handle.2.hooks, ∀ action ∈ hook.2,
        asked? action = none) ∧
      (scriptFiles relativeSources linkedPlatform none).toOption.map (fun files =>
        files.countP fun file =>
          (linkedPlatform.resolvePath file).toOption = after.handles[0]?.map (·.1)) = some 2 ∧
      begun after.journal = [⟨0, "Class", "A"⟩, ⟨1, "Stereotype", "E"⟩, ⟨1, "Class", "A"⟩,
        ⟨1, "Stereotype", "F"⟩] := by
    decide +kernel
  obtain ⟨hsucceeded, hprovides, hactions, hfiles, hbegun⟩ := hends
  rcases hrun : linkedRun with ⟨outcome, finished⟩
  rw [hrun] at hsucceeded
  cases outcome with
  | error failure => cases hsucceeded
  | ok report =>
      have hafter : after = finished := congrArg Prod.snd hrun
      obtain ⟨walk, hdescribes, -, -, hcalls, hquiet⟩ := runPipeline_walks .ofPlugins relativeSources {}
        twoStereotypes linkedPlatform .empty {} hrun
      rw [← hafter] at hcalls hquiet hdescribes
      refine ⟨?_, hbegun, walk, ?_, (hquiet ?_).1⟩
      · obtain ⟨files, hfound, -⟩ := hdescribes.project
        have hscripts : scriptFiles relativeSources linkedPlatform none = .ok files := hfound
        rcases hhandle : after.handles[0]? with _ | handle
        · rw [Run.provides, hhandle] at hprovides
          cases hprovides
        · rw [hscripts, hhandle] at hfiles
          rw [hcalls files 0 handle hscripts hhandle _ List.mem_cons_self, if_pos hprovides]
          exact Option.some_inj.mp hfiles
      · rw [hdescribes.order]
        rfl
      · refine Run.asksOnly_ofPlugins fun handle hhandle hook hhook action haction request hasked => ?_
        rw [hactions handle hhandle hook hhook action haction] at hasked
        cases hasked

end Codegen.Generation
