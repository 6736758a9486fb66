import Codegen.Proofs.Settings.Store
import Codegen.Settings.EnvironmentFile

/-! What loading an environment file comes to: variables that were not there get the value that the file
has for them, and the others stay. Loading the file again changes nothing. -/

namespace Codegen.Settings.EnvironmentFile

variable {environment after : Environment} {given : List Binding}

/-- The first value that bindings have for a name. -/
def valueOf? (given : List Binding) (name : String) : Option String :=
  given.findSome? fun binding => if binding.1 = name then binding.2 else none

@[simp] theorem valueOf?_cons_none (given : List Binding) (other name : String) :
    valueOf? ((other, none) :: given) name = valueOf? given name := by
  simp [valueOf?]

theorem valueOf?_cons_some (given : List Binding) (other value name : String) :
    valueOf? ((other, some value) :: given) name =
      if other = name then some value else valueOf? given name := by
  by_cases h : other = name <;> simp [valueOf?, h]

theorem isSome_valueOf? {name value : String} (h : (name, some value) ∈ given) :
    (valueOf? given name).isSome := by
  rw [valueOf?, List.findSome?_isSome_iff]
  exact ⟨(name, some value), h, by simp⟩

/-! Setting the variables. -/

theorem lookup_assign (h : assign environment given = (after, none)) (name : String) :
    after.lookup name = (environment.lookup name).or (valueOf? given name) := by
  induction given generalizing environment with
  | nil =>
      cases h
      simp [valueOf?]
  | cons binding rest ih =>
      obtain ⟨other, _ | value⟩ := binding
      · rw [assign] at h
        rw [ih h, valueOf?_cons_none]
      · rw [assign] at h
        rw [valueOf?_cons_some]
        split at h
        · rename_i hthere
          rw [ih h]
          by_cases hname : other = name
          · rw [hname] at hthere
            rw [Option.or_of_isSome hthere, Option.or_of_isSome hthere]
          · rw [if_neg hname]
        · rename_i hfree
          cases hfault : variableFault? other value with
          | some fault =>
              rw [hfault] at h
              cases h
          | none =>
              rw [hfault] at h
              rw [ih h, List.lookup_append, Option.or_assoc, List.lookup_cons, List.lookup_nil]
              by_cases hname : other = name
              · simp [hname]
              · simp [hname, beq_false_of_ne (Ne.symm hname)]

theorem assign_of_bound (h : ∀ name value, (name, some value) ∈ given → (environment.lookup name).isSome) :
    assign environment given = (environment, none) := by
  induction given with
  | nil => rfl
  | cons binding rest ih =>
      have hrest := ih fun name value hmem => h name value (List.mem_cons_of_mem _ hmem)
      obtain ⟨name, _ | value⟩ := binding
      · rw [assign, hrest]
      · rw [assign, if_pos (h name value List.mem_cons_self), hrest]

/-! Which names have a value does not depend on the environment that the values are worked out in. -/

/-- The names of bindings, and whether they have a value. -/
def shape (given : List Binding) : List (String × Bool) :=
  given.map fun binding => (binding.1, binding.2.isSome)

theorem shape_put (name : String) (value : Option String) (given : List Binding) :
    shape (Table.put name value given) = Table.put name value.isSome (shape given) := by
  induction given with
  | nil => rfl
  | cons binding rest ih =>
      obtain ⟨other, value'⟩ := binding
      rw [Table.put, shape, shape, List.map_cons, Table.put]
      split
      · rfl
      · exact congrArg _ ih

theorem shape_values (environment : Environment) (given : List Binding) :
    shape (values environment given) =
      given.foldl (fun done binding => Table.put binding.1 binding.2.isSome done) [] := by
  refine (List.foldl_hom shape fun done binding => ?_).symm
  rw [shape_put, Option.isSome_map]

theorem mem_values_of_mem {name value : String} (h : (name, some value) ∈ values environment given)
    (other : Environment) :
    ∃ value', (name, some value') ∈ values other given := by
  have hshape : (name, true) ∈ shape (values environment given) := List.mem_map.mpr ⟨_, h, rfl⟩
  rw [shape_values, ← shape_values other, shape, List.mem_map] at hshape
  obtain ⟨⟨_, _ | value'⟩, hmem, heq⟩ := hshape
  · cases heq
  · cases heq
    exact ⟨value', hmem⟩

/-! Loading. -/

theorem lookup_load {text : String} (h : load environment text = (after, none)) (name : String) :
    after.lookup name = (environment.lookup name).or
      (valueOf? (values environment (bindings (text.length + 1) text.toList)) name) :=
  lookup_assign h name

theorem load_again {text : String} (h : load environment text = (after, none)) :
    load after text = (after, none) := by
  refine assign_of_bound fun name value hmem => ?_
  obtain ⟨value', hmem'⟩ := mem_values_of_mem hmem environment
  rw [lookup_load h name, Option.isSome_or, isSome_valueOf? hmem', Bool.or_true]

end Codegen.Settings.EnvironmentFile

/-! Asking for the default configuration again after a reset. The environment file is loaded after the
name of the configuration was looked for in the environment, so that the variables which a request
leaves behind may send the next one to another file. -/

namespace Codegen.Settings.Session

open Codegen.Files

variable {session other after : Session} {c : Configuration}

/-! What a reading looks at. -/

/-- The sessions are the same but for the configurations that they hold. -/
structure Alike (session other : Session) : Prop where
  workspace : other.workspace = session.workspace
  environment : other.environment = session.environment
  levels : other.levels = session.levels

theorem lift_respects {α : Type} {R : Session → Session → Prop} (outcome : Except Failure α) :
    Stateful.Respects R (lift outcome) := by
  intro session other h
  rw [run_lift, run_lift]
  exact ⟨rfl, h⟩

theorem say_respects (level : Int) (message : String) : Stateful.Respects Alike (say level message) := by
  intro session other h
  rw [run_say, run_say, h.levels]
  exact ⟨rfl, h⟩

theorem readEntries_respects (file : Path) : Stateful.Respects Alike (readEntries file) := by
  refine .get_bind (fun session other h => by rw [h.workspace]) fun session =>
    .bind (lift_respects _) fun text => ?_
  split
  · exact .bind (say_respects _ _) fun _ => .throw _
  · exact .throw _
  · exact .bind (say_respects _ _) fun _ => .pure _
  · refine .bind (say_respects _ _) fun _ => ?_
    split
    · exact .throw _
    · exact .pure _
  · exact .bind (say_respects _ _) fun _ => .throw _

theorem readExpanded_respects (file : Path) : Stateful.Respects Alike (readExpanded file) :=
  .bind (readEntries_respects file) fun _ =>
    .get_bind (fun session other h => by rw [h.environment]) fun _ =>
      .bind (.forM _ fun _ _ => say_respects _ _) fun _ => .bind (say_respects _ _) fun _ => .pure _

theorem entriesAt_respects (path : Option Path) : Stateful.Respects Alike (entriesAt path) := by
  cases path with
  | none => exact .pure _
  | some path => exact readExpanded_respects path

theorem entriesAt_again {path : Option Path} {entries : List (Value × Value)} (h : Alike session other)
    (hentries : (entriesAt path).run session = (.ok entries, after)) :
    (entriesAt path).run other = (.ok entries, other) :=
  Prod.ext ((entriesAt_respects path).of_run h hentries) (entriesAt_keeps path other).symm

/-! The environment file. -/

def environmentPath (w : Workspace) : Path := w.absolute (.ofString environmentFile)

/-- The message about the environment file can be written. -/
def Announces (session : Session) : Prop :=
  ∃ record, Log.record? session.levels Log.configurationLogger Log.debugLevel
    (.ok s!"Loaded .env file from {environmentPath session.workspace}") = .ok record

/-- The values that the environment file has for variables; none when the file is left unread. -/
def offered (session : Session) : List EnvironmentFile.Binding :=
  match session.workspace.isFile? (environmentPath session.workspace), isDisabled session.environment,
    session.workspace.readText (environmentPath session.workspace) with
  | .ok true, false, .ok text =>
    EnvironmentFile.values session.environment
      (EnvironmentFile.bindings (text.length + 1) text.toList)
  | _, _, _ => []

/-- What the environment is once the environment file is dealt with: the file is not there, or it is left
unread, or it is loaded. -/
inductive Passes (session : Session) : Environment → Prop
  | absent (hfile : session.workspace.isFile? (environmentPath session.workspace) = .ok false) :
      Passes session session.environment
  | unread (hfile : session.workspace.isFile? (environmentPath session.workspace) = .ok true)
      (hdisabled : isDisabled session.environment = true) (hannounces : session.Announces) :
      Passes session session.environment
  | loaded {text : String} {environment : Environment}
      (hfile : session.workspace.isFile? (environmentPath session.workspace) = .ok true)
      (hdisabled : isDisabled session.environment = false)
      (htext : session.workspace.readText (environmentPath session.workspace) = .ok text)
      (hload : EnvironmentFile.load session.environment text = (environment, none))
      (hannounces : session.Announces) : Passes session environment

theorem say_ok_iff {level : Int} {message : String} :
    (say level message).run session = (.ok (), after) ↔
      (∃ record, Log.record? session.levels Log.configurationLogger level (.ok message) = .ok record) ∧
        session = after := by
  rw [run_say]
  cases Log.record? session.levels Log.configurationLogger level (.ok message) with
  | error failure =>
      constructor
      · intro h
        cases h
      · rintro ⟨⟨record, h⟩, _⟩
        cases h
  | ok record =>
      constructor
      · intro h
        cases h
        exact ⟨⟨record, rfl⟩, rfl⟩
      · rintro ⟨_, rfl⟩
        rfl

theorem passes_of_run (h : readEnvironmentFile.run session = (.ok (), after)) :
    Passes session after.environment := by
  rw [readEnvironmentFile, Stateful.run_bind_ok (Stateful.run_get session), Stateful.run_bind, run_lift] at h
  cases hfile : session.workspace.isFile? (session.workspace.absolute (.ofString environmentFile)) with
  | error failure =>
      rw [hfile] at h
      cases h
  | ok isFile =>
      rw [hfile] at h
      cases isFile with
      | false =>
          cases h
          exact .absent hfile
      | true =>
          dsimp only at h
          rw [if_pos rfl] at h
          cases hdisabled : isDisabled session.environment with
          | true =>
              rw [hdisabled] at h
              obtain ⟨hannounces, rfl⟩ := say_ok_iff.mp h
              exact .unread hfile hdisabled hannounces
          | false =>
              rw [hdisabled] at h
              obtain ⟨text, found, htext, h⟩ := Stateful.bind_ok_iff.mp h
              rw [run_lift, Prod.mk.injEq] at htext
              obtain ⟨htext, rfl⟩ := htext
              rcases hload : EnvironmentFile.load session.environment text with ⟨environment, fault?⟩
              rw [hload] at h
              dsimp only at h
              rw [Stateful.run_bind_ok (Stateful.run_set _ _)] at h
              cases fault? with
              | some fault => cases h
              | none =>
                  obtain ⟨hannounces, rfl⟩ := say_ok_iff.mp h
                  exact .loaded hfile hdisabled htext hload hannounces

namespace Passes

variable {environment : Environment}

theorem run (h : Passes session environment) :
    readEnvironmentFile.run session = (.ok (), { session with environment }) := by
  rw [readEnvironmentFile, Stateful.run_bind_ok (Stateful.run_get session), Stateful.run_bind, run_lift]
  cases h with
  | absent hfile =>
      rw [environmentPath] at hfile
      rw [hfile]
      rfl
  | unread hfile hdisabled hannounces =>
      rw [environmentPath] at hfile
      rw [hfile, hdisabled]
      exact say_ok_iff.mpr ⟨hannounces, rfl⟩
  | loaded hfile hdisabled htext hload hannounces =>
      rw [environmentPath] at hfile htext
      rw [hfile, hdisabled]
      dsimp only
      rw [if_pos rfl, if_neg Bool.false_ne_true, htext, Stateful.run_bind_ok (run_lift _ session), hload]
      dsimp only
      rw [Stateful.run_bind_ok (Stateful.run_set _ _)]
      exact say_ok_iff.mpr ⟨hannounces, rfl⟩

theorem again (h : Passes session environment) (hother : Alike { session with environment } other) :
    Passes other environment := by
  rcases other with ⟨workspace, found, count, kept, default, levels⟩
  obtain ⟨hworkspace, henvironment, hlevels⟩ := hother
  dsimp only at hworkspace henvironment hlevels
  subst hworkspace henvironment hlevels
  cases h with
  | absent hfile => exact .absent hfile
  | unread hfile hdisabled hannounces => exact .unread hfile hdisabled hannounces
  | loaded hfile hdisabled htext hload hannounces =>
      -- The file may have set the variable by which it is left unread.
      cases hnow : isDisabled found with
      | true => exact .unread hfile hnow hannounces
      | false => exact .loaded hfile hnow htext (EnvironmentFile.load_again hload) hannounces

theorem lookup (h : Passes session environment) (name : String) :
    environment.lookup name =
      (session.environment.lookup name).or (EnvironmentFile.valueOf? session.offered name) := by
  rw [offered]
  cases h with
  | absent hfile =>
      rw [hfile]
      exact (Option.or_none).symm
  | unread hfile hdisabled hannounces =>
      rw [hfile, hdisabled]
      exact (Option.or_none).symm
  | loaded hfile hdisabled htext hload hannounces =>
      rw [hfile, hdisabled, htext]
      exact EnvironmentFile.lookup_load hload name

/-- The name of the file that is read for the default is the same afterwards, or else the environment
file gave it. -/
theorem source_default (h : Passes session environment) :
    ({ session with environment } : Session).source .default = session.source .default ∨
      session.environment.lookup configurationVariable = none ∧ ∃ name, name ≠ "" ∧
        EnvironmentFile.valueOf? session.offered configurationVariable = some name ∧
        ({ session with environment } : Session).source .default = some name := by
  rw [source, source, h.lookup]
  cases hset : session.environment.lookup configurationVariable with
  | some name => exact .inl rfl
  | none =>
      cases hvalue : EnvironmentFile.valueOf? session.offered configurationVariable with
      | none => exact .inl rfl
      | some name =>
          by_cases hname : name = ""
          · exact .inl (by rw [hname]; rfl)
          · exact .inr ⟨rfl, name, hname, rfl, by simp [hname]⟩

end Passes

/-! Requests for the default. -/

theorem configuration_none_ok_iff (h : session.default = none) :
    (configuration none false).run session = (.ok c, after) ↔
      ∃ environment, Passes session environment ∧
        fileFor session.workspace (session.source .default) = .ok c.path ∧
        (entriesAt c.path).run { session with environment } = (.ok c.entries, { session with environment }) ∧
        c.number = session.count ∧
        after = { session with environment, count := session.count + 1, default := some c } := by
  have hrun : (configuration none false).run session = (do
      let c ← read (session.source .default)
      modify fun session => { session with default := some c }
      return c : Settling Configuration).run session := by
    rw [configuration, defaultConfiguration, Stateful.run_bind_ok (Stateful.run_get session), h]
    rfl
  rw [hrun]
  constructor
  · intro h
    obtain ⟨made, last, hread, hlast⟩ := Stateful.bind_ok_iff.mp h
    rw [Stateful.run_bind_ok (Stateful.run_modify _ last)] at hlast
    cases hlast
    obtain ⟨middle, hvariables, hpath, hentries, hnumber, rfl⟩ := read_ok_iff.mp hread
    have hpasses := passes_of_run hvariables
    have hmiddle : middle = { session with environment := middle.environment } :=
      readEnvironmentFile_keeps.of_run hvariables
    rw [hmiddle] at hpath hentries hnumber ⊢
    exact ⟨middle.environment, hpasses, hpath, hentries, hnumber, rfl⟩
  · rintro ⟨environment, hpasses, hpath, hentries, hnumber, rfl⟩
    have hread := read_ok_iff.mpr ⟨_, hpasses.run, hpath, hentries, hnumber, rfl⟩
    rw [Stateful.run_bind_ok hread, Stateful.run_bind_ok (Stateful.run_modify _ _)]
    rfl

/-- After a reset the default configuration is the one that it was, unless the environment file named
another file for it in a variable that was not there. -/
theorem configuration_reset_iff (h : session.default = none)
    (hfirst : (configuration none false).run session = (.ok c, after)) :
    (∃ c' last, (configuration none false).run after.reset = (.ok c', last) ∧ c'.path = c.path ∧
        c'.entries = c.entries) ↔
      (session.environment.lookup configurationVariable = none →
        ∀ name, EnvironmentFile.valueOf? session.offered configurationVariable = some name → name ≠ "" →
          c.path = some (.ofString name)) := by
  obtain ⟨environment, hpasses, hpath, hentries, -, rfl⟩ := (configuration_none_ok_iff h).mp hfirst
  have halike : Alike { session with environment }
      (reset { session with environment, count := session.count + 1, default := some c }) := ⟨rfl, rfl, rfl⟩
  constructor
  · rintro ⟨c', last, hsecond, hsame, -⟩ hset name hvalue hname
    obtain ⟨environment', -, hpath', -⟩ := (configuration_none_ok_iff rfl).mp hsecond
    have hsource : ({ session with environment } : Session).source .default = some name := by
      rw [source, hpasses.lookup, hset, hvalue]
      simp [hname]
    rw [← hsame]
    exact (fileFor_some_eq_ok_iff.mp (hsource ▸ hpath')).2
  · intro hnamed
    refine ⟨{ c with number := session.count + 1 }, _, (configuration_none_ok_iff rfl).mpr
      ⟨environment, hpasses.again halike, ?_, entriesAt_again halike hentries, rfl, rfl⟩, rfl, rfl⟩
    obtain hsource | ⟨hset, name, hname, hvalue, hsource⟩ := hpasses.source_default
    · exact hsource ▸ hpath
    · have hc := hnamed hset name hvalue hname
      have hexists := exists_of_fileFor (hc ▸ hpath)
      refine .trans (congrArg (fileFor session.workspace) hsource) ?_
      exact fileFor_some_eq_ok_iff.mpr ⟨hexists, hc⟩

def torn (environment : Environment) : Session where
  workspace := ⟨⟨[([".env"], .file (.bytes "MDAGEN_CONFIG=other.yml".toUTF8)),
    (["mdagen.yml"], .file (.bytes "a: 1".toUTF8)), (["other.yml"], .file (.bytes "a: 2".toUTF8))]⟩, []⟩
  environment

theorem passes_torn : Passes (torn []) [("MDAGEN_CONFIG", "other.yml")] := by
  have hfile : ((torn []).workspace.isFile? (environmentPath (torn []).workspace)).toOption = some true := by
    decide +kernel
  have htext : ((torn []).workspace.readText (environmentPath (torn []).workspace)).toOption =
      some "MDAGEN_CONFIG=other.yml" := by
    decide +kernel
  have hvalues : EnvironmentFile.values [] (EnvironmentFile.bindings 24 "MDAGEN_CONFIG=other.yml".toList) =
      [("MDAGEN_CONFIG", some "other.yml")] := by
    decide +kernel
  have hfault : variableFault? "MDAGEN_CONFIG" "other.yml" = none := by
    rw [variableFault?, String.contains_char_eq, String.contains_char_eq, String.contains_char_eq]
    decide +kernel
  refine .loaded (ok_of_toOption hfile) rfl (ok_of_toOption htext) ?_ ⟨none, rfl⟩
  show EnvironmentFile.assign [] (EnvironmentFile.values []
    (EnvironmentFile.bindings 24 "MDAGEN_CONFIG=other.yml".toList)) = _
  rw [hvalues, EnvironmentFile.assign, hfault]
  rfl

/-- The default stays what it is where the environment named it from the start, and becomes the other
one where only the environment file names it. -/
theorem configuration_reset_iff_torn :
    (∃ c after, (configuration none false).run (torn [("MDAGEN_CONFIG", "other.yml")]) = (.ok c, after) ∧
      ∃ c' last, (configuration none false).run after.reset = (.ok c', last) ∧ c'.path = c.path ∧
        c'.entries = c.entries) ∧
    ∃ c after, (configuration none false).run (torn []) = (.ok c, after) ∧
      ¬ ∃ c' last, (configuration none false).run after.reset = (.ok c', last) ∧ c'.path = c.path ∧
        c'.entries = c.entries := by
  constructor
  · have hfound : ((configuration none false).run (torn [("MDAGEN_CONFIG", "other.yml")])).1.toOption.isSome := by
      decide +kernel
    rcases hfirst : (configuration none false).run (torn [("MDAGEN_CONFIG", "other.yml")]) with ⟨_ | c, after⟩
    · rw [hfirst] at hfound
      cases hfound
    · refine ⟨c, after, rfl, (configuration_reset_iff rfl hfirst).mpr fun hset => ?_⟩
      cases hset
  · let own : Path := .ofString "/mdagen.yml"
    let opened : Session := { torn [] with environment := [("MDAGEN_CONFIG", "other.yml")] }
    have hpath : (fileFor (torn []).workspace none).toOption = some (some own) := by decide +kernel
    have hfound : ((entriesAt (some own)).run opened).1.toOption.isSome := by decide +kernel
    obtain ⟨entries, hentries⟩ := Option.isSome_iff_exists.mp hfound
    have hfirst := (configuration_none_ok_iff (c := ⟨0, some own, entries⟩) rfl).mpr
      ⟨_, passes_torn, ok_of_toOption hpath,
        Prod.ext (ok_of_toOption hentries) (entriesAt_keeps _ opened).symm, rfl, rfl⟩
    refine ⟨_, _, hfirst, fun hsame => ?_⟩
    have hoffered : EnvironmentFile.valueOf? (torn []).offered configurationVariable = some "other.yml" := by
      decide +kernel
    have hother := (configuration_reset_iff rfl hfirst).mp hsame rfl "other.yml" hoffered (by decide)
    have hown : own ≠ .ofString "other.yml" := by decide +kernel
    exact hown (Option.some.inj hother)

end Codegen.Settings.Session
