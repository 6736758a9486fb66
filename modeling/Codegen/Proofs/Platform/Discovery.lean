import Codegen.Platform.Discovery
import Codegen.Proofs.Files.Listing
import Codegen.Proofs.Text.Words

/-! Which files are found for a stereotype: those of one directory, by the ending of their names, in the order of
their names. Whatever the file system refuses to answer on the way ends the search. -/

namespace Codegen

open Codegen.Files

namespace Files.Lookup

variable {ε : Type} {l other : Lookup ε}

/-- No name is listed twice. -/
def ListsOnce (l : Lookup ε) : Prop := ∀ d, (l.namesOf d).Nodup

/-- The answers are the same, and so is what is listed, if in another order. -/
structure Agrees (l other : Lookup ε) : Prop where
  isFile? : ∀ path, other.isFile? path = l.isFile? path
  isDirectory? : ∀ path, other.isDirectory? path = l.isDirectory? path
  readText : ∀ path, other.readText path = l.readText path
  names : ∀ d name, name ∈ other.namesOf d ↔ name ∈ l.namesOf d

end Files.Lookup

namespace Workspace

variable {w other : Workspace} {d : Path}

theorem listsOnce (hw : w.tree.Proper) : (w : Lookup Failure).ListsOnce := fun d => hw.nodup_namesOf w.directory d

theorem mem_namesOf_of_isFile? {name : String} (hw : w.tree.Proper) (hd : w.isDirectory? d = .ok true)
    (h : w.isFile? (d.inside name) = .ok true) : name ∈ (w : Lookup Failure).namesOf d := by
  refine Tree.mem_namesOf_iff.mpr ?_
  by_contra hfree
  rw [isDirectory?, lift_eq_ok_iff] at hd
  rw [isFile?, lift_eq_ok_iff] at h
  exact hw.isFile?_free hd hfree h

theorem agrees_of_sameEntries (h : Tree.SameEntries w.tree other.tree) (hdirectory : other.directory = w.directory) :
    (w : Lookup Failure).Agrees other where
  isFile? path := by
    show other.isFile? path = w.isFile? path
    rw [Workspace.isFile?, Workspace.isFile?, Tree.isFile?, Tree.isFile?, hdirectory, h.stat?]
  isDirectory? path := by
    show other.isDirectory? path = w.isDirectory? path
    rw [Workspace.isDirectory?, Workspace.isDirectory?, Tree.isDirectory?, Tree.isDirectory?, hdirectory, h.stat?]
  readText path := by
    show other.readText path = w.readText path
    rw [Workspace.readText, Workspace.readText, Workspace.readBytes, Workspace.readBytes, Tree.read, Tree.read,
      hdirectory, h.locate]
  names d name := by
    refine Tree.mem_namesOf_iff.trans (Iff.trans ?_ Tree.mem_namesOf_iff.symm)
    rw [hdirectory, h.inside]

end Workspace

namespace Platform

theorem readText_of_readBytes {w : Workspace} {file : Path} {text : String}
    (hbytes : w.readBytes file = .ok text.toUTF8) (h : '\r' ∉ text.toList) : w.readText file = .ok text := by
  have hdecoded : String.fromUTF8? text.toUTF8 = some text := by
    rw [String.fromUTF8?, dif_pos (show text.toUTF8.IsValidUTF8 from text.isValidUTF8)]
    rfl
  rw [Workspace.readText, hbytes]
  dsimp only [bind, Except.bind]
  rw [hdecoded]
  exact congrArg Except.ok (Text.unifyLines_eq_self h)

/-! ### The directory -/

/-- The directory that a search goes to: the own one of the stereotype, or the one below the platform that the alias
there names, once the log has taken word of it. -/
inductive Selects (l : Lookup Failure) (levels : Log.Levels) (platform base : Path) (stereotype : Option String) :
    Path → Prop
  | own (hfile : l.isFile? ((ownDirectory base stereotype).child aliasFile) = .ok false) :
      Selects l levels platform base stereotype (ownDirectory base stereotype)
  | aliased {text name : String} (hfile : l.isFile? ((ownDirectory base stereotype).child aliasFile) = .ok true)
      (htext : l.readText ((ownDirectory base stereotype).child aliasFile) = .ok text)
      (hname : Json.read text = .ok (.text name))
      (hsaid : Log.pluginsLogger.say levels .debug (redirectionMessage stereotype (platform.child name)) = .ok ()) :
      Selects l levels platform base stereotype (platform.child name)

/-- Why a search fails: it is not known whether there is an alias, the alias cannot be read, is no JSON or no text, or
the log refuses word of it. -/
inductive Misled (l : Lookup Failure) (levels : Log.Levels) (platform own : Path) (stereotype : Option String) :
    Failure → Prop
  | unknown {failure : Failure} (hfile : l.isFile? (own.child aliasFile) = .error failure) :
      Misled l levels platform own stereotype failure
  | unread {failure : Failure} (hfile : l.isFile? (own.child aliasFile) = .ok true)
      (htext : l.readText (own.child aliasFile) = .error failure) : Misled l levels platform own stereotype failure
  | malformed {text : String} {cause : Unreadable} (hfile : l.isFile? (own.child aliasFile) = .ok true)
      (htext : l.readText (own.child aliasFile) = .ok text) (hjson : Json.read text = .error cause) :
      Misled l levels platform own stereotype (.unreadable cause)
  | notText {text : String} {v : Value} (hfile : l.isFile? (own.child aliasFile) = .ok true)
      (htext : l.readText (own.child aliasFile) = .ok text) (hjson : Json.read text = .ok v)
      (hv : ∀ name, v ≠ .text name) :
      Misled l levels platform own stereotype (.aliasNotText (own.child aliasFile).toString (v.typeName {}))
  | unsaid {text name : String} {failure : Failure} (hfile : l.isFile? (own.child aliasFile) = .ok true)
      (htext : l.readText (own.child aliasFile) = .ok text) (hname : Json.read text = .ok (.text name))
      (hsaid : Log.pluginsLogger.say levels .debug (redirectionMessage stereotype (platform.child name)) =
        .error failure) : Misled l levels platform own stereotype failure

section

variable {l other : Lookup Failure} {levels : Log.Levels} {platform base d : Path} {stereotype : Option String}

theorem readAlias_ok_iff {file : Path} {name : String} :
    readAlias l file = .ok name ↔ ∃ text, l.readText file = .ok text ∧ Json.read text = .ok (.text name) := by
  rw [readAlias, Outcome.bind_ok_iff]
  refine exists_congr fun text => and_congr_right fun _ => ?_
  cases Json.read text with
  | error cause => constructor <;> intro h <;> cases h
  | ok v =>
      cases v with
      | text directory => constructor <;> intro h <;> cases h <;> rfl
      | _ => constructor <;> intro h <;> cases h

theorem readAlias_error {file : Path} {failure : Failure} (h : readAlias l file = .error failure) :
    l.readText file = .error failure ∨ ∃ text, l.readText file = .ok text ∧
      ((∃ cause, Json.read text = .error cause ∧ failure = .unreadable cause) ∨
        ∃ v, Json.read text = .ok v ∧ (∀ name, v ≠ .text name) ∧
          failure = .aliasNotText file.toString (v.typeName {})) := by
  refine (Outcome.bind_error_iff.mp h).imp_right fun ⟨text, htext, hfailed⟩ => ⟨text, htext, ?_⟩
  cases hjson : Json.read text with
  | error cause =>
      rw [hjson] at hfailed
      cases hfailed
      exact .inl ⟨cause, rfl, rfl⟩
  | ok v =>
      rw [hjson] at hfailed
      cases v with
      | text name => cases hfailed
      | _ =>
          cases hfailed
          exact .inr ⟨_, rfl, fun name => by simp, rfl⟩

theorem redirection?_eq (l : Lookup Failure) (platform base : Path) (stereotype : Option String) :
    redirection? l platform base stereotype =
      l.isFile? ((ownDirectory base stereotype).child aliasFile) >>= fun aliased =>
        if aliased then readAlias l ((ownDirectory base stereotype).child aliasFile) >>= fun name =>
          pure (some (platform.child name))
        else pure none := rfl

theorem redirection?_none_iff :
    redirection? l platform base stereotype = .ok none ↔
      l.isFile? ((ownDirectory base stereotype).child aliasFile) = .ok false := by
  rw [redirection?_eq, Outcome.bind_ok_iff]
  constructor
  · rintro ⟨aliased, hfile, hnone⟩
    cases aliased with
    | false => exact hfile
    | true =>
        obtain ⟨name, -, hname⟩ := Outcome.bind_ok_iff.mp hnone
        cases hname
  · exact fun hfile => ⟨false, hfile, rfl⟩

theorem redirection?_some_iff :
    redirection? l platform base stereotype = .ok (some d) ↔
      l.isFile? ((ownDirectory base stereotype).child aliasFile) = .ok true ∧
        ∃ name, readAlias l ((ownDirectory base stereotype).child aliasFile) = .ok name ∧ platform.child name = d := by
  rw [redirection?_eq, Outcome.bind_ok_iff]
  constructor
  · rintro ⟨aliased, hfile, hsome⟩
    cases aliased with
    | false => cases hsome
    | true =>
        obtain ⟨name, hname, hplace⟩ := Outcome.bind_ok_iff.mp hsome
        cases hplace
        exact ⟨hfile, name, hname, rfl⟩
  · rintro ⟨hfile, name, hname, rfl⟩
    exact ⟨true, hfile, Outcome.bind_ok_iff.mpr ⟨name, hname, rfl⟩⟩

theorem redirection?_error {failure : Failure} (h : redirection? l platform base stereotype = .error failure) :
    Misled l levels platform (ownDirectory base stereotype) stereotype failure := by
  rcases Outcome.bind_error_iff.mp h with hfile | ⟨aliased, hfile, hfailed⟩
  · exact .unknown hfile
  · cases aliased with
    | false => cases hfailed
    | true =>
        rcases Outcome.bind_error_iff.mp hfailed with halias | ⟨name, -, hname⟩
        · obtain htext | ⟨text, htext, ⟨cause, hjson, rfl⟩ | ⟨v, hjson, hv, rfl⟩⟩ := readAlias_error halias
          · exact .unread hfile htext
          · exact .malformed hfile htext hjson
          · exact .notText hfile htext hjson hv
        · cases hname

theorem searched_eq (l : Lookup Failure) (levels : Log.Levels) (platform base : Path) (stereotype : Option String) :
    searched l levels platform base stereotype =
      redirection? l platform base stereotype >>= fun redirected =>
        match redirected with
        | none => pure (ownDirectory base stereotype)
        | some place => Log.pluginsLogger.say levels .debug (redirectionMessage stereotype place) >>= fun _ =>
          pure place := rfl

theorem searched_ok_iff :
    searched l levels platform base stereotype = .ok d ↔ Selects l levels platform base stereotype d := by
  rw [searched_eq, Outcome.bind_ok_iff]
  constructor
  · rintro ⟨redirected, hredirected, hplace⟩
    cases redirected with
    | none =>
        cases hplace
        exact .own (redirection?_none_iff.mp hredirected)
    | some place =>
        obtain ⟨u, hsaid, hplace⟩ := Outcome.bind_ok_iff.mp hplace
        cases hplace
        obtain ⟨hfile, name, hname, rfl⟩ := redirection?_some_iff.mp hredirected
        obtain ⟨text, htext, hjson⟩ := readAlias_ok_iff.mp hname
        exact .aliased hfile htext hjson hsaid
  · intro h
    cases h with
    | own hfile => exact ⟨none, redirection?_none_iff.mpr hfile, rfl⟩
    | aliased hfile htext hname hsaid =>
        exact ⟨some _, redirection?_some_iff.mpr ⟨hfile, _, readAlias_ok_iff.mpr ⟨_, htext, hname⟩, rfl⟩,
          Outcome.bind_ok_iff.mpr ⟨(), hsaid, rfl⟩⟩

theorem searched_error {failure : Failure} (h : searched l levels platform base stereotype = .error failure) :
    Misled l levels platform (ownDirectory base stereotype) stereotype failure := by
  rcases Outcome.bind_error_iff.mp h with hfailed | ⟨redirected, hredirected, hfailed⟩
  · exact redirection?_error hfailed
  · cases redirected with
    | none => cases hfailed
    | some place =>
        obtain ⟨hfile, name, hname, rfl⟩ := redirection?_some_iff.mp hredirected
        obtain ⟨text, htext, hjson⟩ := readAlias_ok_iff.mp hname
        rcases Outcome.bind_error_iff.mp hfailed with hsaid | ⟨u, -, hplace⟩
        · exact .unsaid hfile htext hjson hsaid
        · cases hplace

theorem directory_eq (l : Lookup Failure) (platform base : Path) (stereotype : Option String) :
    directory l platform base stereotype =
      (redirection? l platform base stereotype).map fun redirected =>
        redirected.getD (ownDirectory base stereotype) := by
  rw [directory]
  cases redirection? l platform base stereotype <;> rfl

theorem directory_of_searched (h : searched l levels platform base stereotype = .ok d) :
    directory l platform base stereotype = .ok d := by
  rw [directory_eq]
  cases searched_ok_iff.mp h with
  | own hfile =>
      rw [redirection?_none_iff.mpr hfile]
      rfl
  | aliased hfile htext hname hsaid =>
      rw [redirection?_some_iff.mpr ⟨hfile, _, readAlias_ok_iff.mpr ⟨_, htext, hname⟩, rfl⟩]
      rfl

end

/-! ### The files in it -/

theorem filesFor_eq (l : Lookup Failure) (platform base : Path) (stereotype : Option String) (extension : String) :
    filesFor l platform base stereotype extension =
      directory l platform base stereotype >>= fun d => filesIn l d extension := rfl

theorem resolve_eq (l : Lookup Failure) (levels : Log.Levels) (platform base : Path) (stereotype : Option String)
    (extension : String) :
    resolve l levels platform base stereotype extension =
      searched l levels platform base stereotype >>= fun d => filesIn l d extension := rfl

/-- The extension asks for the names with the ending. A star before it makes no difference. -/
def AsksFor (extension ending : String) : Prop :=
  IsPlainEnding ending ∧ (extension = ending ∨ extension = "*" ++ ending)

theorem AsksFor.patternFor {extension ending : String} (h : AsksFor extension ending) :
    patternFor extension = "*" ++ ending := by
  have hstar : ∀ text : String, Text.hasStart "*" text = true ↔ ∃ rest, text.toList = '*' :: rest := by
    intro text
    rw [Text.hasStart, Option.isSome_iff_exists]
    exact exists_congr fun rest => Text.dropStart?_eq_some_iff
  rw [Platform.patternFor]
  rcases h.2 with rfl | rfl
  · rw [if_neg]
    rw [hstar]
    rintro ⟨rest, hrest⟩
    exact (h.1 '*' (hrest ▸ List.mem_cons_self)).1 rfl
  · rw [if_pos]
    exact (hstar _).mpr ⟨ending.toList, by simp⟩

/-- The paths of the files in the directory whose names have the ending, in the order of the names. -/
def Lists (l : Lookup Failure) (d : Path) (ending : String) (files : List Path) : Prop :=
  ∃ names : List String, files = names.map d.inside ∧ names.Pairwise (· < ·) ∧
    ∀ name, name ∈ names ↔
      name ∈ l.namesOf d ∧ Text.hasEnd ending name = true ∧ l.isFile? (d.inside name) = .ok true

/-- Why the files of a directory are not found: it is not known whether it is one, or whether something in it whose
name has the ending is a file. -/
inductive Unseen (l : Lookup Failure) (d : Path) (ending : String) (failure : Failure) : Prop
  | directory (hd : l.isDirectory? d = .error failure)
  | entry {name : String} (hlisted : name ∈ l.namesOf d) (hend : Text.hasEnd ending name = true)
      (hfile : l.isFile? (d.inside name) = .error failure)

/-- It is known of everything in the directory whose name has the ending whether it is a file. -/
def CanLook (l : Lookup Failure) (d : Path) (ending : String) : Prop :=
  ∀ name ∈ l.namesOf d, Text.hasEnd ending name = true → ∃ answer, l.isFile? (d.inside name) = .ok answer

section

variable {l other : Lookup Failure} {d : Path} {extension ending : String} {files : List Path}

theorem Lists.unique {files' : List Path} (h : Lists l d ending files) (h' : Lists l d ending files') :
    files = files' := by
  obtain ⟨names, rfl, hsorted, hmem⟩ := h
  obtain ⟨names', rfl, hsorted', hmem'⟩ := h'
  have hperm : names.Perm names' :=
    (List.perm_ext_iff_of_nodup hsorted.nodup hsorted'.nodup).mpr fun name => (hmem name).trans (hmem' name).symm
  rw [hperm.eq_of_pairwise' hsorted hsorted']

theorem Lists.sorted_names (h : Lists l d ending files) : (files.map Path.name).Pairwise (· < ·) := by
  obtain ⟨names, rfl, hsorted, -⟩ := h
  have hnames : (names.map d.inside).map Path.name = names := by
    rw [List.map_map]
    exact List.map_id'' d.name_inside names
  rwa [hnames]

theorem Lists.agrees (h : l.Agrees other) : Lists other d ending files ↔ Lists l d ending files := by
  simp only [Lists, h.isFile?, h.names]

theorem CanLook.agrees (h : l.Agrees other) : CanLook other d ending ↔ CanLook l d ending := by
  simp only [CanLook, h.isFile?, h.names]

theorem filesIn_of_not_directory (h : l.isDirectory? d = .ok false) : filesIn l d extension = .ok [] := by
  rw [filesIn, h]
  rfl

def namesWith (l : Lookup Failure) (d : Path) (ending : String) : List String :=
  (l.namesOf d).filter fun name => NamePattern.fits (.ofString ("*" ++ ending)) name

theorem mem_namesWith_iff (hending : IsPlainEnding ending) {name : String} :
    name ∈ namesWith l d ending ↔ name ∈ l.namesOf d ∧ Text.hasEnd ending name = true := by
  rw [namesWith, List.mem_filter, NamePattern.fits_star hending]

theorem filesIn_of_directory (h : AsksFor extension ending) (hd : l.isDirectory? d = .ok true) :
    filesIn l d extension = (((namesWith l d ending).map d.inside).filterM l.isFile?).map Path.sorted := by
  have hselect : l.select d [.matching (.ofString ("*" ++ ending))] = (namesWith l d ending).map d.inside := by
    simp only [Lookup.select, List.isEmpty_nil, Bool.true_or, Bool.and_true, namesWith, List.map_eq_flatMap]
    rfl
  rw [filesIn, hd, h.patternFor, SearchStep.ofPattern_star h.1, ← hselect]
  rfl

theorem mem_filesIn (h : AsksFor extension ending) (hfiles : filesIn l d extension = .ok files) {file : Path}
    (hfile : file ∈ files) :
    ∃ name, file = d.inside name ∧ Text.hasEnd ending name = true ∧ l.isFile? (d.inside name) = .ok true := by
  cases hd : l.isDirectory? d with
  | error failure =>
      rw [filesIn, hd] at hfiles
      cases hfiles
  | ok there =>
      cases there with
      | false =>
          rw [filesIn_of_not_directory hd] at hfiles
          cases hfiles
          cases hfile
      | true =>
          rw [filesIn_of_directory h hd] at hfiles
          cases hfound : ((namesWith l d ending).map d.inside).filterM l.isFile? with
          | error failure =>
              rw [hfound] at hfiles
              cases hfiles
          | ok found =>
              rw [hfound] at hfiles
              cases hfiles
              obtain ⟨hmem, hyes⟩ := filterM_mem hfound (Path.mem_sorted.mp hfile)
              obtain ⟨name, hname, rfl⟩ := List.mem_map.mp hmem
              exact ⟨name, rfl, ((mem_namesWith_iff h.1).mp hname).2, hyes⟩

theorem filesIn_lists (hl : l.ListsOnce) (h : AsksFor extension ending) (hd : l.isDirectory? d = .ok true)
    (hlook : CanLook l d ending) : ∃ files, filesIn l d extension = .ok files ∧ Lists l d ending files := by
  have hanswered : ∀ path ∈ (namesWith l d ending).map d.inside, ∃ answer, l.isFile? path = .ok answer := by
    intro path hpath
    obtain ⟨name, hname, rfl⟩ := List.mem_map.mp hpath
    obtain ⟨hlisted, hend⟩ := (mem_namesWith_iff h.1).mp hname
    exact hlook name hlisted hend
  obtain ⟨chosen, hchosen, hsub, hmem⟩ := filterM_ok hanswered
  obtain ⟨names, hnames, rfl⟩ := List.sublist_map_iff.mp hsub
  have hnodup : names.Nodup := ((hl d).filter _).sublist hnames
  refine ⟨_, by rw [filesIn_of_directory h hd, hchosen, Except.map, Path.sorted_inside], _, rfl,
    Path.pairwise_sorted_names hnodup, fun name => ?_⟩
  rw [List.mem_insertionSort, ← List.mem_map_of_injective d.inside_injective, hmem,
    List.mem_map_of_injective d.inside_injective, mem_namesWith_iff h.1, and_assoc]

theorem filesIn_error (h : AsksFor extension ending) (hd : l.isDirectory? d = .ok true)
    (hlook : ¬ CanLook l d ending) :
    ∃ failure, filesIn l d extension = .error failure ∧ Unseen l d ending failure := by
  rw [CanLook] at hlook
  push Not at hlook
  obtain ⟨name, hlisted, hend, hrefused⟩ := hlook
  have hname : d.inside name ∈ (namesWith l d ending).map d.inside :=
    List.mem_map_of_mem ((mem_namesWith_iff h.1).mpr ⟨hlisted, hend⟩)
  cases hfailed : l.isFile? (d.inside name) with
  | ok answer => exact absurd hfailed (hrefused answer)
  | error refused =>
      obtain ⟨path, hmem, failure, hpath, hfilter⟩ := filterM_error hname hfailed
      obtain ⟨other, hother, rfl⟩ := List.mem_map.mp hmem
      obtain ⟨hlisted', hend'⟩ := (mem_namesWith_iff h.1).mp hother
      exact ⟨failure, by rw [filesIn_of_directory h hd, hfilter]; rfl, .entry hlisted' hend' hpath⟩

theorem filesIn_ok_iff (hl : l.ListsOnce) (h : AsksFor extension ending) :
    filesIn l d extension = .ok files ↔
      l.isDirectory? d = .ok false ∧ files = [] ∨
        l.isDirectory? d = .ok true ∧ CanLook l d ending ∧ Lists l d ending files := by
  cases hd : l.isDirectory? d with
  | error failure =>
      have hfailed : filesIn l d extension = .error failure := by
        rw [filesIn, hd]
        rfl
      rw [hfailed]
      simp
  | ok there =>
      cases there with
      | false =>
          rw [filesIn_of_not_directory hd, Except.ok.injEq]
          simp [eq_comm]
      | true =>
          by_cases hlook : CanLook l d ending
          · obtain ⟨found, hfound, hlists⟩ := filesIn_lists hl h hd hlook
            rw [hfound, Except.ok.injEq]
            constructor
            · rintro rfl
              exact .inr ⟨rfl, hlook, hlists⟩
            · rintro (⟨hfalse, -⟩ | ⟨-, -, hfiles⟩)
              · cases hfalse
              · exact hlists.unique hfiles
          · obtain ⟨failure, hfailed, -⟩ := filesIn_error h hd hlook
            rw [hfailed]
            constructor
            · intro heq
              cases heq
            · rintro (⟨hfalse, -⟩ | ⟨-, hcan, -⟩)
              · cases hfalse
              · exact absurd hcan hlook

theorem filesIn_failed (hl : l.ListsOnce) (h : AsksFor extension ending) {failure : Failure}
    (hfailed : filesIn l d extension = .error failure) : Unseen l d ending failure := by
  cases hd : l.isDirectory? d with
  | error refused =>
      rw [filesIn, hd] at hfailed
      cases hfailed
      exact .directory hd
  | ok there =>
      cases there with
      | false => cases (filesIn_of_not_directory hd).symm.trans hfailed
      | true =>
          by_cases hlook : CanLook l d ending
          · obtain ⟨files, hfiles, -⟩ := filesIn_lists hl h hd hlook
            cases hfiles.symm.trans hfailed
          · obtain ⟨refused, hrefused, hunseen⟩ := filesIn_error h hd hlook
            cases hrefused.symm.trans hfailed
            exact hunseen

end

/-! ### Finding them -/

section

variable {l other : Lookup Failure} {levels : Log.Levels} {platform base : Path} {stereotype : Option String}
  {extension ending : String} {files : List Path}

theorem resolve_ok_iff (hl : l.ListsOnce) (h : AsksFor extension ending) :
    resolve l levels platform base stereotype extension = .ok files ↔
      ∃ d, Selects l levels platform base stereotype d ∧
        (l.isDirectory? d = .ok false ∧ files = [] ∨
          l.isDirectory? d = .ok true ∧ CanLook l d ending ∧ Lists l d ending files) := by
  rw [resolve_eq, Outcome.bind_ok_iff]
  exact exists_congr fun d => and_congr searched_ok_iff (filesIn_ok_iff hl h)

theorem resolve_error (hl : l.ListsOnce) (h : AsksFor extension ending) {failure : Failure}
    (hfailed : resolve l levels platform base stereotype extension = .error failure) :
    Misled l levels platform (ownDirectory base stereotype) stereotype failure ∨
      ∃ d, Selects l levels platform base stereotype d ∧ Unseen l d ending failure := by
  rcases Outcome.bind_error_iff.mp hfailed with hmisled | ⟨d, hd, hunseen⟩
  · exact .inl (searched_error hmisled)
  · exact .inr ⟨d, searched_ok_iff.mp hd, filesIn_failed hl h hunseen⟩

theorem filesFor_of_resolve (h : resolve l levels platform base stereotype extension = .ok files) :
    filesFor l platform base stereotype extension = .ok files := by
  obtain ⟨d, hd, hfiles⟩ := Outcome.bind_ok_iff.mp h
  exact Outcome.bind_ok_iff.mpr ⟨d, directory_of_searched hd, hfiles⟩

theorem resolve_congr
    (hredirection : redirection? other platform base stereotype = redirection? l platform base stereotype)
    (hfiles : filesFor other platform base stereotype extension = filesFor l platform base stereotype extension)
    (levels : Log.Levels) :
    resolve other levels platform base stereotype extension = resolve l levels platform base stereotype extension := by
  rw [filesFor_eq, filesFor_eq, directory_eq, directory_eq, hredirection] at hfiles
  rw [resolve_eq, resolve_eq, searched_eq, searched_eq, hredirection]
  cases hredirected : redirection? l platform base stereotype with
  | error failure => rfl
  | ok redirected =>
      rw [hredirected] at hfiles
      cases redirected with
      | none => exact hfiles
      | some place =>
          simp only [bind, Except.bind]
          cases Log.pluginsLogger.say levels .debug (redirectionMessage stereotype place) with
          | error failure => rfl
          | ok u => exact hfiles

theorem filesIn_of_filesFor (h : filesFor l platform base stereotype extension = .ok files) :
    ∃ d, filesIn l d extension = .ok files := by
  obtain ⟨d, -, hfiles⟩ := Outcome.bind_ok_iff.mp h
  exact ⟨d, hfiles⟩

theorem name_of_filesFor (h : AsksFor extension ending)
    (hfiles : filesFor l platform base stereotype extension = .ok files) {file : Path} (hfile : file ∈ files) :
    ∃ before, file.name = before ++ ending := by
  obtain ⟨d, hfound⟩ := filesIn_of_filesFor hfiles
  obtain ⟨name, rfl, hend, -⟩ := mem_filesIn h hfound hfile
  obtain ⟨before, hbefore⟩ := Text.hasEnd_iff.mp hend
  refine ⟨String.ofList before, ?_⟩
  rw [Path.name_inside, ← String.toList_inj, String.toList_append, String.toList_ofList, hbefore]

theorem sorted_names_of_filesFor (hl : l.ListsOnce) (h : AsksFor extension ending)
    (hfiles : filesFor l platform base stereotype extension = .ok files) :
    (files.map Path.name).Pairwise (· < ·) := by
  obtain ⟨d, hfound⟩ := filesIn_of_filesFor hfiles
  obtain ⟨-, rfl⟩ | ⟨-, -, hlists⟩ := (filesIn_ok_iff hl h).mp hfound
  · exact List.Pairwise.nil
  · exact hlists.sorted_names

theorem Selects.agrees (h : l.Agrees other) {d : Path} :
    Selects other levels platform base stereotype d ↔ Selects l levels platform base stereotype d := by
  have hsame : searched other levels platform base stereotype = searched l levels platform base stereotype := by
    rw [searched_eq, searched_eq, redirection?_eq, redirection?_eq, readAlias, readAlias, h.isFile?, h.readText]
  rw [← searched_ok_iff, ← searched_ok_iff, hsame]

end

def shelf : List (Place × Entry Content) :=
  [(["p"], .directory), (["p", "V"], .directory), (["p", "V", "alias.json"], .file (.bytes "\"E\"".toUTF8)),
    (["p", "E"], .directory), (["p", "E", "b.j2"], .file (.bytes .empty)), (["p", "E", "a.j2"], .link "b.j2"),
    (["p", "E", ".c.j2"], .file (.bytes .empty)), (["p", "E", "d.j2"], .directory),
    (["p", "E", "e.py"], .file (.bytes .empty))]

theorem proper_shelf : Tree.Proper (⟨shelf⟩ : Files.Tree Content) where
  nodup := by decide
  within := by
    simp only [Tree.places, shelf, List.map_cons, List.map_nil, List.forall_mem_cons]
    exact ⟨rfl, rfl, rfl, rfl, rfl, rfl, rfl, rfl, rfl, fun _ h => absurd h List.not_mem_nil⟩

theorem asksFor_star : AsksFor "*.j2" ".j2" := ⟨by decide, .inr (by decide)⟩

theorem listsOnce_shelf : ((⟨⟨shelf⟩, []⟩ : Workspace) : Lookup Failure).ListsOnce := Workspace.listsOnce proper_shelf

end Platform

end Codegen
