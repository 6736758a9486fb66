import Codegen.Proofs.Stateful
import Codegen.Settings.Configuration

/-! What reading a configuration comes to: a configuration of its own number that shows what its file
holds at that moment. Apart from counting it, reading changes nothing but the environment. -/

namespace Codegen.Settings

open Codegen.Files

/-- The entries of a configuration file as they are written. -/
def written? (w : Workspace) (file : Path) : Option (List (Value × Value)) :=
  match w.readText file with
  | .error _ => none
  | .ok text =>
    match Yaml.read text with
    | .ok ⟨.null, _⟩ => some []
    | .ok ⟨.map entries, false⟩ => some entries
    | _ => none

/-- The configuration shows what its file holds, with the references of the texts worked out. One that
is of no file is empty. -/
def Configuration.Shows (c : Configuration) (w : Workspace) (environment : Environment) : Prop :=
  match c.path with
  | none => c.entries = []
  | some file => ∃ entries, written? w file = some entries ∧
      c.entries = Configuration.expandEntries environment entries

namespace Session

variable {session after : Session}

@[simp] theorem run_lift {α : Type} (outcome : Except Failure α) (session : Session) :
    (lift outcome).run session = (outcome, session) := by
  cases outcome <;> rfl

theorem run_say (level : Int) (message : String) (session : Session) :
    (say level message).run session =
      ((Log.record? session.levels Log.configurationLogger level (.ok message)).map fun _ => (),
        session) := by
  rw [say, Stateful.run_bind_ok (Stateful.run_get session), Stateful.run_bind, run_lift]
  cases Log.record? session.levels Log.configurationLogger level (.ok message) <;> rfl

/-! Steps that leave everything but the environment as it is. -/

def EnvironmentOnly (session after : Session) : Prop :=
  after = { session with environment := after.environment }

instance : IsPreorder Session EnvironmentOnly where
  refl _ := rfl
  trans first middle last hfirst hsecond := by
    rw [EnvironmentOnly, hsecond, hfirst]

theorem lift_keeps {α : Type} {R : Session → Session → Prop} [Std.Refl R]
    (outcome : Except Failure α) : Stateful.Keeps R (lift outcome) :=
  .of_idle fun session => by rw [run_lift]

theorem say_keeps {R : Session → Session → Prop} [Std.Refl R] (level : Int) (message : String) :
    Stateful.Keeps R (say level message) :=
  .of_idle fun session => by rw [run_say]

theorem readEnvironmentFile_keeps : Stateful.Keeps EnvironmentOnly readEnvironmentFile := by
  intro session
  rw [readEnvironmentFile, Stateful.run_bind_ok (Stateful.run_get session), Stateful.run_bind, run_lift]
  cases session.workspace.isFile? (session.workspace.absolute (.ofString environmentFile)) with
  | error failure => rfl
  | ok isFile =>
      dsimp only
      split
      · split
        · exact say_keeps _ _ session
        · rw [Stateful.run_bind, run_lift]
          cases session.workspace.readText _ with
          | error failure => rfl
          | ok text =>
              dsimp only
              rw [Stateful.run_bind_ok (Stateful.run_set _ _)]
              split
              · rfl
              · rw [run_say]
                rfl
      · rfl

theorem readEntries_keeps (file : Path) : Stateful.Keeps Eq (readEntries file) := by
  refine .bind .get fun session => .bind (lift_keeps _) fun text => ?_
  split
  · exact .bind (say_keeps _ _) fun _ => .throw _
  · exact .throw _
  · exact .bind (say_keeps _ _) fun _ => .pure _
  · refine .bind (say_keeps _ _) fun _ => ?_
    split
    · exact .throw _
    · exact .pure _
  · exact .bind (say_keeps _ _) fun _ => .throw _

theorem readExpanded_keeps (file : Path) : Stateful.Keeps Eq (readExpanded file) :=
  .bind (readEntries_keeps file) fun _ => .bind .get fun _ =>
    .bind (.forM _ fun _ _ => say_keeps _ _) fun _ => .bind (say_keeps _ _) fun _ => .pure _

theorem readEntries_ok {file : Path} {entries : List (Value × Value)}
    (h : (readEntries file).run session = (.ok entries, after)) :
    written? session.workspace file = some entries := by
  rw [readEntries, Stateful.run_bind_ok (Stateful.run_get session)] at h
  obtain ⟨text, middle, htext, h⟩ := Stateful.bind_ok_iff.mp h
  rw [run_lift, Prod.mk.injEq] at htext
  obtain ⟨htext, rfl⟩ := htext
  rw [written?, htext]
  dsimp only
  split at h
  · rename_i hread
    obtain ⟨_, _, _, h⟩ := Stateful.bind_ok_iff.mp h
    cases h
  · cases h
  · rename_i hread
    obtain ⟨_, _, _, h⟩ := Stateful.bind_ok_iff.mp h
    cases h
    rw [hread]
  · rename_i found holdsItself hread
    obtain ⟨_, _, _, h⟩ := Stateful.bind_ok_iff.mp h
    cases holdsItself with
    | true => cases h
    | false =>
        cases h
        rw [hread]
  · obtain ⟨_, _, _, h⟩ := Stateful.bind_ok_iff.mp h
    cases h

theorem readExpanded_ok {file : Path} {entries : List (Value × Value)}
    (h : (readExpanded file).run session = (.ok entries, after)) :
    ∃ raw, written? session.workspace file = some raw ∧
      entries = Configuration.expandEntries session.environment raw := by
  obtain ⟨raw, read, hraw, h⟩ := Stateful.bind_ok_iff.mp h
  obtain rfl : session = read := (readEntries_keeps file).of_run hraw
  rw [Stateful.run_bind_ok (Stateful.run_get session)] at h
  obtain ⟨_, _, _, h⟩ := Stateful.bind_ok_iff.mp h
  obtain ⟨_, _, _, h⟩ := Stateful.bind_ok_iff.mp h
  cases h
  exact ⟨raw, readEntries_ok hraw, rfl⟩

/-! Configurations that are made by reading. -/

/-- The configuration was made by a reading that began in a session and found the environment. -/
structure Makes (session : Session) (file : Option String) (c : Configuration)
    (environment : Environment) : Prop where
  number : c.number = session.count
  path : ∀ name, file = some name → c.path = some (.ofString name)
  shows : c.Shows session.workspace environment

def counting (session : Session) (environment : Environment) : Session :=
  { session with environment, count := session.count + 1 }

/-- The file that is to be read: the one that is asked for, which has to be there, or else the one in
the working directory, if there is one. -/
def fileFor (w : Workspace) : Option String → Except Failure (Option Path)
  | none =>
    let own := w.absolute (.ofString configurationFile)
    (w.exists? own).map fun isThere => if isThere then some own else none
  | some file =>
    let path := Path.ofString file
    (w.exists? path).bind fun isThere =>
      if isThere then .ok (some path) else .error (.configurationNotFound file)

def entriesAt : Option Path → Settling (List (Value × Value))
  | none => pure []
  | some file => readExpanded file

/-- A reading goes in two steps: it finds its file, and takes the entries from there. -/
theorem run_read (file : Option String) (session : Session) :
    (read file).run session = (do
      readEnvironmentFile
      let path ← lift (fileFor (← get).workspace file)
      let entries ← entriesAt path
      let number := (← get).count
      modify fun session => { session with count := number + 1 }
      return { number, path, entries } : Settling Configuration).run session := by
  rw [read, Stateful.run_bind, Stateful.run_bind]
  rcases readEnvironmentFile.run session with ⟨_ | _, after⟩
  · rfl
  · dsimp only
    rw [Stateful.run_bind_ok (Stateful.run_get after), Stateful.run_bind_ok (Stateful.run_get after),
      Stateful.run_bind (lift (fileFor after.workspace file)), run_lift]
    cases file with
    | none =>
        dsimp only [fileFor]
        rw [Stateful.run_bind, run_lift]
        cases after.workspace.exists? (after.workspace.absolute (.ofString configurationFile)) with
        | error failure => rfl
        | ok isThere => cases isThere <;> rfl
    | some name =>
        dsimp only [fileFor]
        rw [Stateful.run_bind, run_lift]
        cases after.workspace.exists? (.ofString name) with
        | error failure => rfl
        | ok isThere => cases isThere <;> rfl

theorem entriesAt_keeps (path : Option Path) : Stateful.Keeps Eq (entriesAt path) := by
  cases path with
  | none => exact .pure _
  | some path => exact readExpanded_keeps path

theorem fileFor_some_eq_ok_iff {w : Workspace} {name : String} {path : Option Path} :
    fileFor w (some name) = .ok path ↔
      w.exists? (.ofString name) = .ok true ∧ path = some (.ofString name) := by
  rw [fileFor]
  cases w.exists? (.ofString name) with
  | error failure => simp [Except.bind]
  | ok isThere => cases isThere <;> simp [Except.bind, eq_comm]

theorem exists_of_fileFor {w : Workspace} {file : Option String} {path : Path}
    (h : fileFor w file = .ok (some path)) : w.exists? path = .ok true := by
  cases file with
  | none =>
      rw [fileFor] at h
      cases hpresent : w.exists? (w.absolute (.ofString configurationFile)) with
      | error failure => rw [hpresent] at h; cases h
      | ok isThere =>
          rw [hpresent] at h
          cases isThere with
          | true => cases h; exact hpresent
          | false => cases h
  | some name =>
      obtain ⟨hexists, hpath⟩ := fileFor_some_eq_ok_iff.mp h
      cases hpath
      exact hexists

theorem entriesAt_shows {path : Option Path} {entries : List (Value × Value)} (number : Nat)
    (h : (entriesAt path).run session = (.ok entries, after)) :
    (Configuration.mk number path entries).Shows session.workspace session.environment := by
  cases path with
  | none =>
      cases h
      rfl
  | some path => exact readExpanded_ok h

/-- What a reading that succeeds does: it sets variables, finds its file, and takes the entries. -/
theorem read_ok_iff {file : Option String} {c : Configuration} :
    (read file).run session = (.ok c, after) ↔
      ∃ middle, readEnvironmentFile.run session = (.ok (), middle) ∧
        fileFor middle.workspace file = .ok c.path ∧
        (entriesAt c.path).run middle = (.ok c.entries, middle) ∧ c.number = middle.count ∧
        after = { middle with count := middle.count + 1 } := by
  rw [run_read]
  constructor
  · intro h
    obtain ⟨_, middle, hvariables, h⟩ := Stateful.bind_ok_iff.mp h
    rw [Stateful.run_bind_ok (Stateful.run_get middle)] at h
    obtain ⟨path, found, hpath, h⟩ := Stateful.bind_ok_iff.mp h
    rw [run_lift, Prod.mk.injEq] at hpath
    obtain ⟨hpath, rfl⟩ := hpath
    obtain ⟨entries, last, hentries, h⟩ := Stateful.bind_ok_iff.mp h
    obtain rfl : middle = last := (entriesAt_keeps path).of_run hentries
    rw [Stateful.run_bind_ok (Stateful.run_get middle),
      Stateful.run_bind_ok (Stateful.run_modify _ middle)] at h
    cases h
    exact ⟨middle, hvariables, hpath, hentries, rfl, rfl⟩
  · rintro ⟨middle, hvariables, hpath, hentries, hnumber, rfl⟩
    rw [Stateful.run_bind_ok hvariables, Stateful.run_bind_ok (Stateful.run_get middle), hpath,
      Stateful.run_bind_ok (run_lift _ middle), Stateful.run_bind_ok hentries,
      Stateful.run_bind_ok (Stateful.run_get middle),
      Stateful.run_bind_ok (Stateful.run_modify _ middle), ← hnumber]
    rfl

theorem read_ok {file : Option String} {c : Configuration}
    (h : (read file).run session = (.ok c, after)) :
    after = session.counting after.environment ∧ Makes session file c after.environment := by
  obtain ⟨middle, hvariables, hpath, hentries, hnumber, rfl⟩ := read_ok_iff.mp h
  have hmiddle : middle = { session with environment := middle.environment } :=
    readEnvironmentFile_keeps.of_run hvariables
  have hshows := entriesAt_shows middle.count hentries
  rw [hmiddle] at hpath hshows hnumber ⊢
  refine ⟨rfl, hnumber, ?_, hshows⟩
  rintro name rfl
  exact (fileFor_some_eq_ok_iff.mp hpath).2

theorem read_error {file : Option String} {failure : Failure}
    (h : (read file).run session = (.error failure, after)) : EnvironmentOnly session after := by
  rw [run_read] at h
  rcases Stateful.bind_error_iff.mp h with hvariables | ⟨u, middle, hvariables, h⟩
  · exact readEnvironmentFile_keeps.of_run hvariables
  · refine trans_of EnvironmentOnly (readEnvironmentFile_keeps.of_run hvariables) ?_
    rw [Stateful.run_bind_ok (Stateful.run_get middle)] at h
    rcases Stateful.bind_error_iff.mp h with hpath | ⟨path, found, hpath, h⟩
    · obtain rfl : middle = after := (lift_keeps _).of_run hpath
      rfl
    · obtain rfl : middle = found := (lift_keeps _).of_run hpath
      rcases Stateful.bind_error_iff.mp h with hentries | ⟨entries, last, _, h⟩
      · obtain rfl : middle = after := (entriesAt_keeps path).of_run hentries
        rfl
      · cases h

end Session

/-! The options of a configuration with others in place of its own. They are worked out from the
configuration alone, which stays as it is. -/

namespace Configuration

/-- A setting of a section by its name, which has to be a text. -/
def setting : Value × Value → Except Failure (String × Value)
  | (.text name, v) => .ok (name, v)
  | _ => .error .settingNameNotText

/-- The settings of the section that options are made from. -/
def settings (c : Configuration) : Except Failure (List (String × Value)) :=
  (c.sectionAt Session.optionsSection).bind fun given => given.mapM setting

end Configuration

def isGiven (override : String × Value) : Bool :=
  match override.2 with
  | .null => false
  | _ => true

def overlay (overrides settings : List (String × Value)) : List (String × Value) :=
  (overrides.filter isGiven).foldl (fun table (name, v) => Table.put name v table) settings

/-- The options that a configuration gives, with others in their place. -/
def Configuration.options (c : Configuration) (overrides : List (String × Value)) :
    Except Failure Options :=
  c.settings.bind fun settings =>
    match Options.check (overlay overrides settings) with
    | .ok options => .ok options
    | .error problems => .error (.settings problems)

namespace Session

theorem run_mapM_lift {α β : Type} (f : α → Except Failure β) (step : α → Settling β)
    (hstep : ∀ x, step x = lift (f x)) (xs : List α) (session : Session) :
    (xs.mapM step).run session = (xs.mapM f, session) := by
  induction xs with
  | nil => rfl
  | cons x rest ih =>
      rw [List.mapM_cons, List.mapM_cons, Stateful.run_bind, hstep, run_lift]
      cases f x with
      | error failure => rfl
      | ok y =>
          dsimp only
          rw [Stateful.run_bind, ih]
          cases rest.mapM f <;> rfl

theorem run_options (file : Option String) (overrides : List (String × Value)) (session : Session) :
    (options file overrides).run session =
      match (configuration file false).run session with
      | (.ok c, after) => (c.options overrides, after)
      | (.error failure, after) => (.error failure, after) := by
  rw [options, Stateful.run_bind]
  rcases (configuration file false).run session with ⟨_ | c, after⟩
  · rfl
  · dsimp only
    rw [Stateful.run_bind, run_lift, Configuration.options, Configuration.settings]
    cases c.sectionAt optionsSection with
    | error failure => rfl
    | ok given =>
        dsimp only
        rw [Stateful.run_bind, run_mapM_lift Configuration.setting]
        · cases hnamed : given.mapM Configuration.setting with
          | error failure => simp only [Except.bind, hnamed]
          | ok named =>
              simp only [Except.bind, hnamed]
              show (match Options.check (overlay overrides named) with
                | .ok options => (pure options : Settling Options)
                | .error problems => throw (Failure.settings problems)).run after = _
              cases Options.check (overlay overrides named) <;> rfl
        · rintro ⟨key, v⟩
          cases key <;> rfl

theorem run_setting (keys : String) (file : Option String) (session : Session) :
    (setting keys file).run session =
      if keys = "" then (.error .configurationPathEmpty, session)
      else
        match (configuration file false).run session with
        | (.ok c, after) => (.ok (c.get? keys), after)
        | (.error failure, after) => (.error failure, after) := by
  rw [setting]
  split
  · rfl
  · rw [Stateful.run_bind]
    rcases (configuration file false).run session with ⟨_ | c, after⟩ <;> rfl

end Session

end Codegen.Settings
