import Codegen.Proofs.Generation.Walk
import Codegen.Proofs.Platform.Discovery

/-! Partials that are loaded from a directory. Each is registered under the name of its file without as many
characters at the end as the extension has. That is the name without its ending when the extension is an ending
that is not empty; with a star before the ending one character more is lost, and an empty extension leaves nothing. -/

namespace Codegen

open Codegen.Files

theorem Text.dropEnd_append (text ending : String) : dropEnd ending.length (text ++ ending) = text := by
  have hlength : (text ++ ending).length - ending.length = text.toList.length := by
    rw [String.length_append, Nat.add_sub_cancel, String.length_toList]
  rw [dropEnd, hlength, String.toList_append, List.take_left, String.ofList_toList]

theorem Text.dropEnd_succ_append (text ending : String) :
    dropEnd (ending.length + 1) (text ++ ending) = dropEnd 1 text := by
  have hlength : (text ++ ending).length - (ending.length + 1) = text.length - 1 := by
    rw [String.length_append]
    omega
  have hle : text.length - 1 ≤ text.toList.length := by
    rw [String.length_toList]
    omega
  rw [dropEnd, dropEnd, hlength, String.toList_append, List.take_append_of_le_length hle]

namespace Generation

open Platform

/-! The name of a partial. -/

section

variable {extension ending before : String} {file : Path}

@[simp] theorem partialName_empty (file : Path) : partialName "" file = "" := rfl

theorem partialName_of_ending (hne : extension ≠ "") (h : file.name = before ++ extension) :
    partialName extension file = before := by
  rw [partialName, if_neg hne, h, Text.dropEnd_append]

theorem partialName_of_star (h : file.name = before ++ ending) :
    partialName ("*" ++ ending) file = Text.dropEnd 1 before := by
  have hlength : ("*" ++ ending).length = ending.length + 1 := by
    rw [String.length_append, Nat.add_comm]
    rfl
  have hne : "*" ++ ending ≠ "" := by
    intro h
    rw [h] at hlength
    cases hlength
  rw [partialName, if_neg hne, hlength, h, Text.dropEnd_succ_append]

end

/-! Registering. -/

def registerPartial (extension : String) (file : Path) : Step String := do
  let source ← Step.lift ((← workspace).readText file)
  let name := partialName extension file
  modify fun run => { run with engine := run.engine.addPartial name source }
  return name

/-- The table of partials once those of files with sources are registered. -/
def registered (extension : String) (files : List Path) (sources : List String)
    (partials : List (String × String)) : List (String × String) :=
  ((files.map (partialName extension)).zip sources).foldl (fun table (name, source) => Table.put name source table)
    partials

/-- The sources of files. -/
def Sourced (w : Workspace) : List Path → List String → Prop :=
  List.Forall₂ fun file source => w.readText file = .ok source

section

variable {run : Run} {platform base : Path} {extension : String} {files : List Path} {sources : List String}

theorem run_registerPartial {file : Path} {source : String}
    (h : run.desk.workspace.readText file = .ok source) :
    (registerPartial extension file).run run =
      (.ok (partialName extension file),
        { run with engine := run.engine.addPartial (partialName extension file) source }) := by
  have hread : (Step.lift (run.desk.workspace.readText file)).run run = (.ok source, run) := by
    rw [Step.run_lift, h]
  rw [registerPartial, Stateful.run_bind_ok (run_workspace run), Stateful.run_bind_ok hread]
  rfl

theorem run_registerPartials {w : Workspace} (h : Sourced w files sources) (run : Run)
    (hrun : run.desk.workspace = w) :
    (files.mapM (registerPartial extension)).run run =
      (.ok (files.map (partialName extension)),
        { run with engine := { run.engine with
          partials := registered extension files sources run.engine.partials } }) := by
  induction h generalizing run with
  | nil => rfl
  | @cons file source rest sources hfile hrest ih =>
      subst hrun
      have hnext := ih { run with engine := run.engine.addPartial (partialName extension file) source } rfl
      rw [List.mapM_cons, Stateful.run_bind_ok (run_registerPartial hfile), Stateful.run_bind_ok hnext]
      rfl

theorem run_loadPartials
    (hsaid : Log.pluginsLogger.say run.desk.levels .debug s!"Loading partials from directory {base}" = .ok ())
    (hfind : (find platform base (some partialsDirectory) extension).run run = (.ok files, run))
    (hsources : Sourced run.desk.workspace files sources) :
    (loadPartials platform base extension).run run =
      (.ok (files.map (partialName extension)),
        { run with engine := { run.engine with
          partials := registered extension files sources run.engine.partials } }) := by
  have hsay := run_say Log.pluginsLogger .debug s!"Loading partials from directory {base}" run
  rw [hsaid] at hsay
  rw [loadPartials]
  exact (Stateful.run_bind_ok hsay _).trans ((Stateful.run_bind_ok hfind _).trans
    (run_registerPartials hsources run rfl))

theorem lookup_registered (partials : List (String × String)) (name : String) :
    (registered extension files sources partials).lookup name =
      (((files.map (partialName extension)).zip sources).reverse.lookup name).or (partials.lookup name) :=
  Table.lookup_foldl_put _ _ _

theorem lookup_registered_of_mem (hnodup : (files.map (partialName extension)).Nodup)
    (hlength : files.length = sources.length) (partials : List (String × String)) {file : Path} {source : String}
    (h : (file, source) ∈ files.zip sources) :
    (registered extension files sources partials).lookup (partialName extension file) = some source := by
  have hnames : (((files.map (partialName extension)).zip sources).reverse.map (·.1)).Nodup := by
    rw [List.map_reverse, List.nodup_reverse, List.map_fst_zip (by rw [List.length_map, hlength])]
    exact hnodup
  have hentry : (partialName extension file, source) ∈
      ((files.map (partialName extension)).zip sources).reverse := by
    rw [List.mem_reverse, List.zip_map_left]
    exact List.mem_map.mpr ⟨(file, source), h, rfl⟩
  rw [lookup_registered, Table.lookup_of_mem hnames hentry]
  rfl

end

/-- The names of the partials of a directory. When the extension is an ending that is not empty, they are the names
of the files without it, and no partial is lost to another; with a star before an ending they lack one character
more, and an empty extension leaves nothing of them, so that the last of several files of one name replaces the
others. -/
theorem loadPartials_named {run : Run} {platform base : Path} {extension : String} {files : List Path}
    {sources : List String} (hw : run.desk.workspace.tree.Proper)
    (hsaid : Log.pluginsLogger.say run.desk.levels .debug s!"Loading partials from directory {base}" = .ok ())
    (hfind : (find platform base (some partialsDirectory) extension).run run = (.ok files, run))
    (hsources : Sourced run.desk.workspace files sources) :
    ∃ partials, (loadPartials platform base extension).run run =
        (.ok (files.map (partialName extension)), { run with engine := { run.engine with partials } }) ∧
      (∀ name, partials.lookup name =
        (((files.map (partialName extension)).zip sources).reverse.lookup name).or
          (run.engine.partials.lookup name)) ∧
      (IsPlainEnding extension → extension ≠ "" → (files.map (partialName extension)).Nodup ∧
        ∀ file source, (file, source) ∈ files.zip sources → file.name = partialName extension file ++ extension ∧
          partials.lookup (partialName extension file) = some source) ∧
      (∀ ending, IsPlainEnding ending → extension = "*" ++ ending → ∀ file ∈ files, ∃ before,
        file.name = before ++ ending ∧ partialName extension file = Text.dropEnd 1 before) ∧
      (extension = "" → ∀ file ∈ files, partialName extension file = "") := by
  obtain ⟨-, hfiles⟩ := find_run hfind
  have hends : ∀ ending, AsksFor extension ending → ∀ file ∈ files, ∃ before, file.name = before ++ ending :=
    fun ending h file hfile => name_of_filesFor h hfiles hfile
  refine ⟨_, run_loadPartials hsaid hfind hsources, lookup_registered _, fun hplain hne => ?_,
    fun ending hplain hextension file hfile => ?_, ?_⟩
  · have hnamed : ∀ file ∈ files, file.name = partialName extension file ++ extension := by
      intro file hfile
      obtain ⟨before, hbefore⟩ := hends extension ⟨hplain, .inl rfl⟩ file hfile
      rw [partialName_of_ending hne hbefore, hbefore]
    have hnames : files.map Path.name = (files.map (partialName extension)).map (· ++ extension) := by
      rw [List.map_map]
      exact List.map_congr_left hnamed
    have hsorted := sorted_names_of_filesFor (Workspace.listsOnce hw) ⟨hplain, .inl rfl⟩ hfiles
    have hnodup : (files.map (partialName extension)).Nodup :=
      .of_map (· ++ extension) (hnames ▸ hsorted.nodup)
    exact ⟨hnodup, fun file source hsource => ⟨hnamed file (List.of_mem_zip hsource).1,
      lookup_registered_of_mem hnodup hsources.length_eq _ hsource⟩⟩
  · obtain ⟨before, hbefore⟩ := hends ending ⟨hplain, .inr hextension⟩ file hfile
    exact ⟨before, hbefore, hextension ▸ partialName_of_star hbefore⟩
  · rintro rfl file -
    exact partialName_empty file

def pantry : Run :=
  .start ⟨⟨[(["p"], .directory), (["p", "_partials"], .directory),
    (["p", "_partials", "ab.j2"], .file (.bytes "H".toUTF8)),
    (["p", "_partials", "ac.j2"], .file (.bytes "K".toUTF8))]⟩, []⟩ .empty {}

def pantryFiles : List Path := ["ab.j2", "ac.j2"].map (Path.inside (.ofString "p/_partials"))

theorem proper_pantry : pantry.desk.workspace.tree.Proper := by
  constructor
  · decide
  · have hplaces : pantry.desk.workspace.tree.places =
        [["p"], ["p", "_partials"], ["p", "_partials", "ab.j2"], ["p", "_partials", "ac.j2"]] := rfl
    rw [hplaces]
    simp only [List.forall_mem_cons]
    exact ⟨rfl, rfl, rfl, rfl, fun _ h => absurd h List.not_mem_nil⟩

theorem sourced_pantry : Sourced pantry.desk.workspace pantryFiles ["H", "K"] :=
  .cons (ok_of_toOption (by decide +kernel)) (.cons (ok_of_toOption (by decide +kernel)) .nil)

theorem find_pantry (extension : String)
    (h : ((find (.ofString "p") (.ofString "p") (some partialsDirectory) extension).run pantry).1.toOption =
      some pantryFiles) :
    (find (.ofString "p") (.ofString "p") (some partialsDirectory) extension).run pantry =
      (.ok pantryFiles, pantry) :=
  Prod.ext (ok_of_toOption h) (find_keeps (R := Eq) _ _ _ _ pantry).symm

theorem said_pantry (base : Path) :
    Log.pluginsLogger.say pantry.desk.levels .debug s!"Loading partials from directory {base}" = .ok () :=
  rfl

/-- With a star before the ending the two partials come to have one name, and the second replaces the first. -/
theorem loadPartials_named_starred :
    (∃ after, (loadPartials (.ofString "p") (.ofString "p") ".j2").run pantry = (.ok ["ab", "ac"], after) ∧
      after.engine.partials.lookup "ab" = some "H" ∧ after.engine.partials.lookup "ac" = some "K") ∧
    ∃ after, (loadPartials (.ofString "p") (.ofString "p") "*.j2").run pantry = (.ok ["a", "a"], after) ∧
      after.engine.partials.lookup "a" = some "K" := by
  constructor
  · have hnames : pantryFiles.map (partialName ".j2") = ["ab", "ac"] := by decide +kernel
    obtain ⟨partials, hrun, -, hplain, -⟩ := loadPartials_named proper_pantry (said_pantry _)
      (find_pantry ".j2" (by decide +kernel)) sourced_pantry
    obtain ⟨-, hlookup⟩ := hplain (by decide) (by decide)
    obtain ⟨-, hfirst⟩ := hlookup _ _ List.mem_cons_self
    obtain ⟨-, hsecond⟩ := hlookup _ _ (List.mem_cons_of_mem _ List.mem_cons_self)
    obtain ⟨hab, hac⟩ := List.cons.inj hnames
    rw [hnames] at hrun
    rw [hab] at hfirst
    rw [(List.cons.inj hac).1] at hsecond
    exact ⟨_, hrun, hfirst, hsecond⟩
  · have hnames : pantryFiles.map (partialName "*.j2") = ["a", "a"] := by decide +kernel
    obtain ⟨partials, hrun, hlookup, -⟩ := loadPartials_named proper_pantry (said_pantry _)
      (find_pantry "*.j2" (by decide +kernel)) sourced_pantry
    rw [hnames] at hrun hlookup
    exact ⟨_, hrun, hlookup "a"⟩

end Generation

end Codegen
