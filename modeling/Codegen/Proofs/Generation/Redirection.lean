import Codegen.Proofs.Generation.Work
import Codegen.Proofs.Files.Name
import Codegen.Proofs.Model.Validity
import Codegen.Proofs.Platform.Discovery

/-! Stereotypes whose directories send the search elsewhere. The search is sent on once: what is found is what
stands in the directory that the alias names, even if an alias stands there too. -/

namespace Codegen

open Codegen.Files

namespace Platform

/-- The directory of a stereotype holds an alias file with the text. -/
structure IsAlias (w : Workspace) (platform : Path) (stereotype text : String) : Prop where
  file : w.isFile? ((platform.child stereotype).child aliasFile) = .ok true
  reads : readAlias w ((platform.child stereotype).child aliasFile) = .ok text

/-- No alias file stands in the directory of a stereotype. -/
def Unaliased (w : Workspace) (platform : Path) (stereotype : String) : Prop :=
  w.isFile? ((platform.child stereotype).child aliasFile) = .ok false

section

variable {w : Workspace} {platform : Path} {s t : String}

theorem IsAlias.redirection (h : IsAlias w platform s t) :
    redirection? w platform platform (some s) = .ok (some (platform.child t)) :=
  redirection?_some_iff.mpr ⟨h.file, t, h.reads, rfl⟩

theorem Unaliased.redirection (h : Unaliased w platform s) : redirection? w platform platform (some s) = .ok none :=
  redirection?_none_iff.mpr h

theorem IsAlias.directory (h : IsAlias w platform s t) :
    directory w platform platform (some s) = .ok (platform.child t) := by
  rw [directory_eq, h.redirection]
  rfl

theorem Unaliased.directory (h : Unaliased w platform s) :
    directory w platform platform (some s) = .ok (platform.child s) := by
  rw [directory_eq, h.redirection]
  rfl

theorem IsAlias.filesFor (h : IsAlias w platform s t) (extension : String) :
    filesFor w platform platform (some s) extension = filesIn w (platform.child t) extension := by
  rw [filesFor_eq, h.directory]
  rfl

theorem Unaliased.filesFor (h : Unaliased w platform s) (extension : String) :
    filesFor w platform platform (some s) extension = filesIn w (platform.child s) extension := by
  rw [filesFor_eq, h.directory]
  rfl

theorem IsAlias.resolve {levels : Log.Levels} (h : IsAlias w platform s t)
    (hsaid : Log.pluginsLogger.say levels .debug (redirectionMessage (some s) (platform.child t)) = .ok ())
    (extension : String) :
    resolve w levels platform platform (some s) extension = filesIn w (platform.child t) extension := by
  obtain ⟨text, htext, hjson⟩ := readAlias_ok_iff.mp h.reads
  rw [resolve_eq, searched_ok_iff.mpr (.aliased h.file htext hjson hsaid)]
  rfl

theorem Unaliased.resolve {levels : Log.Levels} (h : Unaliased w platform s) (extension : String) :
    resolve w levels platform platform (some s) extension = filesIn w (platform.child s) extension := by
  rw [resolve_eq, searched_eq, h.redirection]
  rfl

end

end Platform

namespace Generation

open Platform

/-- The log takes what is said about a directory that is searched in the room of that of the stereotype. -/
def Announces (run : Run) (stereotype : Option String) (place : Path) : Prop :=
  Log.pluginsLogger.say run.desk.levels .debug (redirectionMessage stereotype place) = .ok ()

section

variable {run : Run} {platform base : Path} {stereotype : Option String} {extension : String}

theorem loadScripts_congr {stereotype' : Option String}
    (h : (find platform base stereotype extension).run run = (find platform base stereotype' extension).run run) :
    (loadScripts platform base stereotype extension).run run =
      (loadScripts platform base stereotype' extension).run run := by
  rw [loadScripts, loadScripts, Stateful.run_bind, Stateful.run_bind, h]

end

end Generation

namespace Platform

/-- An alias makes a stereotype find what stands in the directory that it names. That is what the stereotype of
that name finds, too, as long as no alias stands in its directory; a run then loads the same scripts for both of
them and renders the same templates. An alias there sends the other stereotype on. -/
theorem filesFor_aliased {w : Workspace} {platform : Path} {s t : String} (h : IsAlias w platform s t) :
    (∀ extension, filesFor w platform platform (some s) extension = filesIn w (platform.child t) extension) ∧
    (Unaliased w platform t → ∀ extension,
      filesFor w platform platform (some s) extension = filesFor w platform platform (some t) extension) ∧
    (∀ u, IsAlias w platform t u → ∀ extension,
      filesFor w platform platform (some t) extension = filesIn w (platform.child u) extension) ∧
    (Unaliased w platform t → ∀ run : Generation.Run, run.desk.workspace = w →
      Generation.Announces run (some s) (platform.child t) → ∀ extension,
      (Generation.find platform platform (some s) extension).run run =
          (Generation.find platform platform (some t) extension).run run ∧
        (Generation.loadScripts platform platform (some s) extension).run run =
          (Generation.loadScripts platform platform (some t) extension).run run) := by
  have hsame : Unaliased w platform t → ∀ extension,
      filesFor w platform platform (some s) extension = filesFor w platform platform (some t) extension :=
    fun ht extension => (h.filesFor extension).trans (ht.filesFor extension).symm
  refine ⟨h.filesFor, hsame, fun u hu => hu.filesFor, fun ht run hrun hsaid extension => ?_⟩
  subst hrun
  have hfind : (Generation.find platform platform (some s) extension).run run =
      (Generation.find platform platform (some t) extension).run run := by
    rw [Generation.run_find, Generation.run_find, h.resolve hsaid, ht.resolve]
  exact ⟨hfind, Generation.loadScripts_congr hfind⟩

def chain : Workspace :=
  ⟨⟨[(["p"], .directory), (["p", "A"], .directory), (["p", "A", "alias.json"], .file (.bytes "\"B\"".toUTF8)),
    (["p", "B"], .directory), (["p", "B", "alias.json"], .file (.bytes "\"C\"".toUTF8)),
    (["p", "B", "b.j2"], .file (.bytes .empty)), (["p", "C"], .directory),
    (["p", "C", "c.j2"], .file (.bytes .empty))]⟩, []⟩

theorem isAlias_chain : IsAlias chain (.ofString "p") "A" "B" ∧ IsAlias chain (.ofString "p") "B" "C" :=
  ⟨⟨ok_of_toOption (by decide +kernel), ok_of_toOption (by decide +kernel)⟩,
    ok_of_toOption (by decide +kernel), ok_of_toOption (by decide +kernel)⟩

/-- The second stereotype, whose target has no alias, finds what its target finds. -/
theorem filesFor_aliased_last :
    filesFor chain (.ofString "p") (.ofString "p") (some "B") ".j2" =
        filesFor chain (.ofString "p") (.ofString "p") (some "C") ".j2" ∧
      (Generation.find (.ofString "p") (.ofString "p") (some "B") ".j2").run (.start chain .empty {}) =
        (Generation.find (.ofString "p") (.ofString "p") (some "C") ".j2").run (.start chain .empty {}) := by
  have hlast : Unaliased chain (.ofString "p") "C" := ok_of_toOption (by decide +kernel)
  have hsaid : Generation.Announces (.start chain .empty {}) (some "B") (Path.child (.ofString "p") "C") :=
    ok_of_toOption (by decide +kernel)
  obtain ⟨-, hfiles, -, hfinds⟩ := filesFor_aliased isAlias_chain.2
  exact ⟨hfiles hlast ".j2", (hfinds hlast _ rfl hsaid ".j2").1⟩

/-- An alias is not followed on: the first stereotype does not find what its target finds. -/
theorem not_filesFor_alias_eq_target :
    ¬ ∀ (w : Workspace) (platform : Path) (s t extension : String), w.tree.Proper → IsAlias w platform s t →
      filesFor w platform platform (some s) extension = filesFor w platform platform (some t) extension := by
  intro hsame
  have hproper : chain.tree.Proper := by
    constructor
    · decide +kernel
    · simp only [Tree.places, chain, List.map_cons, List.map_nil, List.forall_mem_cons]
      exact ⟨rfl, rfl, rfl, rfl, rfl, rfl, rfl, rfl, fun _ h => absurd h List.not_mem_nil⟩
  have hfiles := congrArg Except.toOption (hsame chain (.ofString "p") "A" "B" ".j2" hproper isAlias_chain.1)
  revert hfiles
  decide +kernel

/-! Whether the directory of a stereotype lies in that of the platform goes by the name of the stereotype. -/

/-- The path is that of an entry of the directory itself. -/
def IsEntryOf (d path : Path) : Prop := ∃ name, name ≠ ".." ∧ path = d.inside name

/-- The name of a stereotype leads to an entry of the platform: it is one name, or else the whole path of the entry. -/
def LeadsInto (platform : Path) (stereotype : String) : Prop :=
  let path := Path.ofString stereotype
  (path.isAbsolute = false ∧ ∃ name, name ≠ ".." ∧ path.parts = [name]) ∨
    (path.isAbsolute = true ∧ IsEntryOf platform path)

theorem isEntryOf_child_iff {platform : Path} {stereotype : String} :
    IsEntryOf platform (platform.child stereotype) ↔ LeadsInto platform stereotype := by
  rw [LeadsInto, Path.child]
  cases habsolute : (Path.ofString stereotype).isAbsolute with
  | true => simp [Path.append_of_isAbsolute platform habsolute]
  | false =>
      have hchild : platform ++ Path.ofString stereotype =
          ⟨platform.root, platform.parts ++ (Path.ofString stereotype).parts⟩ := by
        show Path.append _ _ = _
        rw [Path.append, if_neg (by simp [habsolute])]
      simp [hchild, IsEntryOf, Path.inside]

theorem isAbsolute_ofString_of_isName {name : String} (hname : Path.IsName name) :
    (Path.ofString name).isAbsolute = false := by
  have hslashes : name.toList.takeWhile (· = '/') = [] := by
    refine List.takeWhile_eq_nil_iff.mpr fun hlength hfirst => hname.1 ?_
    have hmem := name.toList.get_mem ⟨0, hlength⟩
    rwa [of_decide_eq_true hfirst] at hmem
  rw [Path.isAbsolute, Path.ofString, hslashes]
  rfl

theorem child_eq_inside {name : String} (hname : Path.IsName name) (platform : Path) :
    platform.child name = platform.inside name := by
  have hrelative := isAbsolute_ofString_of_isName hname
  show Path.append _ _ = _
  rw [Path.append, if_neg (by simp [hrelative]), Path.ofString, Path.segments_self hname]
  rfl

theorem leadsInto_iff_of_isName {name : String} (hname : Path.IsName name) (platform : Path) :
    LeadsInto platform name ↔ name ≠ ".." := by
  have hparts : (Path.ofString name).parts = [name] := Path.segments_self hname
  have hrelative := isAbsolute_ofString_of_isName hname
  constructor
  · rintro (⟨-, other, hup, hother⟩ | ⟨habsolute, -⟩)
    · rwa [List.singleton_inj.mp (hparts.symm.trans hother)]
    · cases hrelative.symm.trans habsolute
  · exact fun hup => .inl ⟨hrelative, name, hup, hparts⟩

/-- The files that are searched for a stereotype of a valid model, when no alias stands in its directory, are those of
the directory that its name leads to. That is an entry of the platform exactly if the name is one name, other than
that of the directory above, or the whole path of an entry, and then all that is found lies in it. Of this a valid model
only sees to it that the name is not blank. -/
theorem searched_inside_iff {m : Model} (hvalid : m.problems = []) {c : Model.Class} (hc : c ∈ m.classes)
    {s : Model.Stereotype} (hs : s ∈ c.stereotypes) {w : Workspace} {platform : Path}
    (halias : Unaliased w platform s.name) :
    Text.isBlankText s.name = false ∧
    ∃ place, directory w platform platform (some s.name) = .ok place ∧
      (IsEntryOf platform place ↔ LeadsInto platform s.name) ∧
      (Path.IsName s.name → place = platform.inside s.name) ∧
      ∀ extension ending files, AsksFor extension ending →
        filesFor w platform platform (some s.name) extension = .ok files → ∀ file ∈ files, ∃ name,
          file = place.inside name ∧ Text.hasEnd ending name = true := by
  refine ⟨Model.Class.isBlankText_stereotype (Model.problems_eq_nil_of_mem hvalid hc) (List.mem_map_of_mem hs),
    _, halias.directory, isEntryOf_child_iff, fun hname => child_eq_inside hname platform,
    fun extension ending files hasks hfiles file hfile => ?_⟩
  rw [halias.filesFor] at hfiles
  obtain ⟨name, hname, hend, -⟩ := mem_filesIn hasks hfiles hfile
  exact ⟨name, hname, hend⟩

def straying : Model := { classes := [{ name := "A", stereotypes := [{ name := "C" }, { name := ".." }] }] }

/-- The model is valid. Its first stereotype leads into the platform, and the second one to the directory above. -/
theorem searched_inside_iff_straying :
    (∃ place, directory chain (.ofString "p") (.ofString "p") (some "C") = .ok place ∧
        IsEntryOf (.ofString "p") place) ∧
      ∃ place, directory chain (.ofString "p") (.ofString "p") (some "..") = .ok place ∧
        ¬ IsEntryOf (.ofString "p") place := by
  have hvalid : straying.problems = [] := by decide +kernel
  have hinto : LeadsInto (.ofString "p") "C" :=
    (leadsInto_iff_of_isName ⟨by decide, by decide, by decide⟩ (.ofString "p")).mpr (by decide)
  have hnot : ¬ LeadsInto (.ofString "p") ".." := fun h =>
    (leadsInto_iff_of_isName ⟨by decide, by decide, by decide⟩ (.ofString "p")).mp h rfl
  constructor
  · have halias : Unaliased chain (.ofString "p") "C" := ok_of_toOption (by decide +kernel)
    obtain ⟨-, place, hplace, hentry, -⟩ := searched_inside_iff hvalid List.mem_cons_self List.mem_cons_self halias
    exact ⟨place, hplace, hentry.mpr hinto⟩
  · have halias : Unaliased chain (.ofString "p") ".." := ok_of_toOption (by decide +kernel)
    obtain ⟨-, place, hplace, hentry, -⟩ := searched_inside_iff hvalid List.mem_cons_self
      (List.mem_cons_of_mem _ List.mem_cons_self) halias
    exact ⟨place, hplace, fun h => hnot (hentry.mp h)⟩

end Platform

end Codegen
