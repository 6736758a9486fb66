import Codegen.Proofs.Settings.Reading

/-! What requests for configurations are answered with. Every answer has its slot, the one of a file or
the one of the default, and stays there until the next reset; only a file that is adopted puts its
configuration in the slot of the default. -/

namespace Codegen.Settings.Session

open Codegen.Files

variable {session after : Session} {file : Option String} {adopted : Bool}

/-- Where the answer to a request is kept. -/
inductive Slot
  | default
  | file (place : Place)
  deriving DecidableEq

def slotOf (w : Workspace) : Option String → Except Failure Slot
  | none => .ok .default
  | some file => (w.resolve (.ofString file)).map .file

def held (session : Session) : Slot → Option Configuration
  | .default => session.default
  | .file place => session.kept.lookup place

/-- The name of the file that is read for a slot; without one it is the file in the working directory. -/
def source (session : Session) : Slot → Option String
  | .default => (session.environment.lookup configurationVariable).filter (· ≠ "")
  | .file place => some (Tree.pathOf place).toString

def keep (session : Session) (c : Configuration) : Slot → Session
  | .default => { session with default := some c }
  | .file place => { session with kept := (place, c) :: session.kept }

def adopt (session : Session) (c : Configuration) (adopted : Bool) : Slot → Session
  | .default => session
  | .file _ => if adopted then { session with default := some c } else session

theorem held_keep (session : Session) (c : Configuration) (slot other : Slot) :
    (session.keep c slot).held other = if slot = other then some c else session.held other := by
  cases slot with
  | default => cases other <;> rfl
  | file place =>
      cases other with
      | default => rfl
      | file other =>
          by_cases h : place = other
          · simp [keep, held, h]
          · simp [keep, held, List.lookup_cons, h, beq_false_of_ne (Ne.symm h)]

theorem held_adopt (session : Session) (c : Configuration) (adopted : Bool) (slot other : Slot) :
    (session.adopt c adopted slot).held other =
      if other = .default ∧ adopted = true ∧ slot ≠ .default then some c else session.held other := by
  cases slot <;> cases other <;> cases adopted <;> simp [adopt, held]

@[simp] theorem held_counting (session : Session) (environment : Environment) :
    (session.counting environment).held = session.held := by
  funext slot
  cases slot <;> rfl

@[simp] theorem count_keep (session : Session) (c : Configuration) (slot : Slot) :
    (session.keep c slot).count = session.count := by
  cases slot <;> rfl

@[simp] theorem count_adopt (session : Session) (c : Configuration) (adopted : Bool) (slot : Slot) :
    (session.adopt c adopted slot).count = session.count := by
  cases slot <;> cases adopted <;> rfl

@[simp] theorem environment_keep (session : Session) (c : Configuration) (slot : Slot) :
    (session.keep c slot).environment = session.environment := by
  cases slot <;> rfl

@[simp] theorem environment_adopt (session : Session) (c : Configuration) (adopted : Bool)
    (slot : Slot) : (session.adopt c adopted slot).environment = session.environment := by
  cases slot <;> cases adopted <;> rfl

/-- How a request whose answer has a slot ends. -/
inductive Answered (session : Session) (adopted : Bool) (slot : Slot) :
    Except Failure Configuration × Session → Prop
  | held {c : Configuration} (h : session.held slot = some c) :
      Answered session adopted slot (.ok c, session.adopt c adopted slot)
  | made {c : Configuration} {environment : Environment} (h : session.held slot = none)
      (hmakes : Makes session (session.source slot) c environment) :
      Answered session adopted slot
        (.ok c, ((session.counting environment).keep c slot).adopt c adopted slot)
  | refused {failure : Failure} {after : Session} (h : session.held slot = none)
      (hsame : EnvironmentOnly session after) : Answered session adopted slot (.error failure, after)

theorem defaultConfiguration_answered (session : Session) (adopted : Bool) :
    Answered session adopted .default (defaultConfiguration.run session) := by
  rw [defaultConfiguration, Stateful.run_bind_ok (Stateful.run_get session)]
  cases hdefault : session.default with
  | some c => exact .held hdefault
  | none =>
      dsimp only
      rw [Stateful.run_bind_ok (Stateful.run_get session), Stateful.run_bind]
      rcases hread : (read (session.source .default)).run session with ⟨failure | c, after⟩
      · rw [source] at hread
        rw [hread]
        exact .refused hdefault (read_error hread)
      · obtain ⟨hafter, hmakes⟩ := read_ok hread
        rw [source] at hread
        rw [hread]
        dsimp only
        rw [Stateful.run_bind_ok (Stateful.run_modify _ after), hafter]
        exact .made hdefault hmakes

theorem configuration_answered (adopted : Bool) {slot : Slot}
    (h : slotOf session.workspace file = .ok slot) :
    Answered session adopted slot ((configuration file adopted).run session) := by
  cases file with
  | none =>
      cases h
      exact defaultConfiguration_answered session adopted
  | some file =>
      obtain ⟨place, hplace, rfl⟩ : ∃ place, session.workspace.resolve (.ofString file) = .ok place ∧
          .file place = slot := by
        rw [slotOf] at h
        cases hplace : session.workspace.resolve (.ofString file) with
        | error failure => rw [hplace] at h; cases h
        | ok place => rw [hplace] at h; cases h; exact ⟨place, rfl, rfl⟩
      rw [configuration, Stateful.run_bind_ok (Stateful.run_get session),
        Stateful.run_bind, run_lift, hplace]
      dsimp only
      cases hkept : session.kept.lookup place with
      | some c =>
          dsimp only
          rw [Stateful.run_bind_ok (Stateful.run_pure c session)]
          cases adopted <;> exact .held hkept
      | none =>
          dsimp only
          rw [Stateful.run_bind, run_say]
          split
          · rename_i hsay
            obtain rfl := congrArg Prod.snd hsay
            rw [Stateful.run_bind]
            rcases hread : (read (session.source (.file place))).run session with ⟨failure | c, after⟩
            · rw [source] at hread
              rw [hread]
              exact .refused hkept (read_error hread)
            · obtain ⟨hafter, hmakes⟩ := read_ok hread
              rw [source] at hread
              rw [hread]
              dsimp only
              rw [Stateful.run_bind_ok (Stateful.run_modify _ after), hafter]
              cases adopted <;> exact .made hkept hmakes
          · rename_i hsay
            obtain rfl := congrArg Prod.snd hsay
            exact .refused hkept rfl

theorem configuration_held (adopted : Bool) {slot : Slot} {c : Configuration}
    (h : slotOf session.workspace file = .ok slot) (hheld : session.held slot = some c) :
    (configuration file adopted).run session = (.ok c, session.adopt c adopted slot) := by
  have hanswered := configuration_answered adopted h
  generalize (configuration file adopted).run session = ending at hanswered
  cases hanswered with
  | held hc =>
      cases hheld.symm.trans hc
      rfl
  | made hnone => cases hheld.symm.trans hnone
  | refused hnone => cases hheld.symm.trans hnone

theorem configuration_unresolved (adopted : Bool) {failure : Failure}
    (h : slotOf session.workspace file = .error failure) :
    (configuration file adopted).run session = (.error failure, session) := by
  cases file with
  | none => cases h
  | some file =>
      rw [slotOf] at h
      cases hplace : session.workspace.resolve (.ofString file) with
      | ok place => rw [hplace] at h; cases h
      | error failure =>
          rw [hplace] at h
          cases h
          rw [configuration, Stateful.run_bind_ok (Stateful.run_get session), Stateful.run_bind,
            run_lift, hplace]

/-! What requests were answered with since the last reset, and which of the answers stand. -/

/-- A request that was answered. -/
structure Success where
  before : Session
  slot : Slot
  adopted : Bool
  configuration : Configuration
  after : Session

/-- Whether the answer was put in the slot of the default. -/
def Success.installs (s : Success) : Bool := s.adopted && s.slot ≠ .default

/-- The success whose answer a further request gets. For a file it is the first one for that file, for
the default the last one that was put there, or else the first one for it. -/
def standing (past : List Success) : Slot → Option Success
  | .default =>
    (past.reverse.find? Success.installs).or (past.find? fun s => s.slot = .default)
  | .file place => past.find? fun s => s.slot = .file place

theorem mem_of_standing {past : List Success} {slot : Slot} {s : Success}
    (h : standing past slot = some s) : s ∈ past := by
  cases slot with
  | default =>
      rcases Option.or_eq_some_iff.mp h with h | ⟨_, h⟩
      · exact List.mem_reverse.mp (List.mem_of_find?_eq_some h)
      · exact List.mem_of_find?_eq_some h
  | file place => exact List.mem_of_find?_eq_some h

theorem Success.installs_iff {s : Success} :
    s.installs = true ↔ s.adopted = true ∧ s.slot ≠ .default := by
  simp [Success.installs]

theorem standing_append (past : List Success) (s : Success) (slot : Slot) :
    standing (past ++ [s]) slot =
      if slot = .default ∧ s.adopted = true ∧ s.slot ≠ .default then some s
      else (standing past slot).or (if s.slot = slot then some s else none) := by
  cases slot with
  | default =>
      simp only [← Success.installs_iff]
      cases hinstalls : s.installs with
      | true => simp [standing, hinstalls]
      | false => simp [standing, hinstalls, List.find?_singleton, Option.or_assoc]
  | file place => simp [standing, List.find?_singleton]

/-- A thing that is done with configurations. -/
inductive Use
  | request (file : Option String) (adopted : Bool)
  | setting (keys : String) (file : Option String)
  | options (file : Option String) (overrides : List (String × Value))
  | reset
  /-- Files, the working directory, the environment and the levels of the log change. -/
  | outside (workspace : Workspace) (environment : Environment) (levels : Log.Levels)

namespace Use

def effect : Use → Session → Session
  | .request file adopted, session => ((configuration file adopted).run session).2
  | .setting keys file, session => ((Session.setting keys file).run session).2
  | .options file overrides, session => ((Session.options file overrides).run session).2
  | .reset, session => session.reset
  | .outside workspace environment levels, session => { session with workspace, environment, levels }

/-- The file and the adoption of the request that a use makes, if it makes one. -/
def demand? : Use → Option (Option String × Bool)
  | .request file adopted => some (file, adopted)
  | .setting keys file => if keys = "" then none else some (file, false)
  | .options file _ => some (file, false)
  | .reset | .outside .. => none

def success? (use : Use) (session : Session) : Option Success := do
  let (file, adopted) ← use.demand?
  let slot ← (slotOf session.workspace file).toOption
  let configuration ← ((configuration file adopted).run session).1.toOption
  return { before := session, slot, adopted, configuration, after := use.effect session }

/-- The successes since the last reset when a use is made after others. -/
def onto (use : Use) (session : Session) (past : List Success) : List Success :=
  match use with
  | .reset => []
  | _ => past ++ (use.success? session).toList

theorem effect_of_demand {use : Use} {file : Option String} {adopted : Bool}
    (h : use.demand? = some (file, adopted)) (session : Session) :
    use.effect session = ((configuration file adopted).run session).2 := by
  cases use with
  | request file adopted =>
      cases h
      rfl
  | setting keys file =>
      rw [demand?] at h
      split at h
      · cases h
      · cases h
        rw [effect, run_setting, if_neg ‹_›]
        rcases (configuration file false).run session with ⟨_ | c, last⟩ <;> rfl
  | options file overrides =>
      cases h
      rw [effect, run_options]
      rcases (configuration file false).run session with ⟨_ | c, last⟩ <;> rfl
  | reset => cases h
  | outside workspace environment levels => cases h

theorem onto_eq {use : Use} (hreset : use ≠ .reset) (session : Session) (past : List Success) :
    use.onto session past = past ++ (use.success? session).toList := by
  cases use with
  | reset => exact absurd rfl hreset
  | _ => rfl

theorem ne_reset_of_demand {use : Use} (hdemand : use.demand? = some (file, adopted)) :
    use ≠ .reset := by
  rintro rfl
  cases hdemand

theorem onto_of_none {use : Use} (hdemand : use.demand? = none) (hreset : use ≠ .reset)
    (session : Session) (past : List Success) : use.onto session past = past := by
  rw [onto_eq hreset, success?, hdemand]
  exact List.append_nil past

theorem onto_of_error {use : Use} {failure : Failure} (hdemand : use.demand? = some (file, adopted))
    (h : (configuration file adopted).run session = (.error failure, after)) (past : List Success) :
    use.onto session past = past := by
  have hnone : use.success? session = none := by
    rw [success?, hdemand]
    dsimp only [bind, Option.bind]
    rw [h]
    cases (slotOf session.workspace file).toOption <;> rfl
  rw [onto_eq (ne_reset_of_demand hdemand), hnone]
  exact List.append_nil past

theorem onto_of_ok {use : Use} {slot : Slot} {c : Configuration}
    (hdemand : use.demand? = some (file, adopted)) (hslot : slotOf session.workspace file = .ok slot)
    (h : (configuration file adopted).run session = (.ok c, after)) (past : List Success) :
    use.onto session past = past ++ [⟨session, slot, adopted, c, after⟩] := by
  have hsome : use.success? session = some ⟨session, slot, adopted, c, after⟩ := by
    rw [success?, hdemand, effect_of_demand hdemand]
    dsimp only [bind, Option.bind]
    rw [hslot, h]
    rfl
  rw [onto_eq (ne_reset_of_demand hdemand), hsome]
  rfl

end Use

/-- What the store holds when it comes from the past. -/
structure Stands (session : Session) (past : List Success) : Prop where
  held : ∀ slot, session.held slot = (standing past slot).map (·.configuration)
  made : ∀ slot s, standing past slot = some s → s.slot = slot →
    Makes s.before (s.before.source slot) s.configuration s.after.environment
  agree : ∀ s ∈ past, s.slot ≠ .default → session.held s.slot = some s.configuration
  numbered : ∀ s ∈ past, s.configuration.number < session.count

namespace Stands

variable {past : List Success}

theorem reset (session : Session) : Stands session.reset [] where
  held slot := by cases slot <;> rfl
  made slot s h := by cases slot <;> cases h
  agree s h := by cases h
  numbered s h := by cases h

theorem of_held (h : Stands session past) (hheld : after.held = session.held)
    (hcount : session.count ≤ after.count) : Stands after past where
  held := hheld ▸ h.held
  made := h.made
  agree := hheld ▸ h.agree
  numbered s hs := Nat.lt_of_lt_of_le (h.numbered s hs) hcount

theorem held_numbered (h : Stands session past) {slot : Slot} {c : Configuration}
    (hc : session.held slot = some c) : c.number < session.count := by
  rw [h.held] at hc
  obtain ⟨s, hs, rfl⟩ := Option.map_eq_some_iff.mp hc
  exact h.numbered s (mem_of_standing hs)

theorem answer (h : Stands session past) {slot : Slot} {c : Configuration} {middle : Session}
    (hmiddle : ∀ other, middle.held other = if slot = other then some c else session.held other)
    (hcount : session.count ≤ middle.count) (hnumber : c.number < middle.count)
    (hsame : ∀ old, session.held slot = some old → old = c)
    (hmade : session.held slot = none → Makes session (session.source slot) c middle.environment) :
    Stands (middle.adopt c adopted slot)
      (past ++ [⟨session, slot, adopted, c, middle.adopt c adopted slot⟩]) where
  held other := by
    rw [held_adopt, hmiddle, standing_append, h.held]
    by_cases hinstalls : other = .default ∧ adopted = true ∧ slot ≠ .default
    · rw [if_pos hinstalls, if_pos hinstalls]
      rfl
    · rw [if_neg hinstalls, if_neg hinstalls]
      by_cases hslot : slot = other
      · subst hslot
        have hheld := h.held slot
        rw [if_pos rfl, if_pos rfl]
        cases hstanding : standing past slot with
        | none => rfl
        | some s =>
            rw [hstanding] at hheld
            rw [← hsame s.configuration hheld]
            rfl
      · rw [if_neg hslot, if_neg hslot, Option.or_none]
  made other s hstanding hslot := by
    rw [standing_append] at hstanding
    split at hstanding
    · rename_i hinstalls
      cases hstanding
      exact absurd (hslot.trans hinstalls.1) hinstalls.2.2
    · rcases Option.or_eq_some_iff.mp hstanding with hstanding | ⟨hnone, hnew⟩
      · exact h.made other s hstanding hslot
      · split at hnew
        · rename_i heq
          cases hnew
          rw [environment_adopt, ← heq]
          exact hmade (by rw [h.held, show slot = other from heq, hnone]; rfl)
        · cases hnew
  agree s hs hslot := by
    rw [held_adopt, if_neg (fun hdefault => hslot hdefault.1), hmiddle]
    rcases List.mem_append.mp hs with hs | hs
    · split
      · rename_i heq
        have hold := h.agree s hs hslot
        rw [hsame s.configuration (heq ▸ hold)]
      · exact h.agree s hs hslot
    · obtain rfl := List.mem_singleton.mp hs
      rw [if_pos rfl]
  numbered s hs := by
    rw [count_adopt]
    rcases List.mem_append.mp hs with hs | hs
    · exact Nat.lt_of_lt_of_le (h.numbered s hs) hcount
    · obtain rfl := List.mem_singleton.mp hs
      exact hnumber

theorem configuration_some (h : Stands session past) {slot : Slot}
    (hslot : slotOf session.workspace file = .ok slot) (adopted : Bool) {s : Success}
    (hstanding : standing past slot = some s) :
    (configuration file adopted).run session =
      (.ok s.configuration, session.adopt s.configuration adopted slot) := by
  have hheld := h.held slot
  rw [hstanding] at hheld
  exact configuration_held adopted hslot hheld

theorem step (h : Stands session past) (use : Use) :
    Stands (use.effect session) (use.onto session past) := by
  cases hdemand : use.demand? with
  | none =>
      cases use with
      | request file adopted => cases hdemand
      | setting keys file =>
          have hkeys : keys = "" := by
            by_contra hkeys
            rw [Use.demand?, if_neg hkeys] at hdemand
            cases hdemand
          rwa [Use.onto_of_none hdemand Use.noConfusion, Use.effect, run_setting, if_pos hkeys]
      | options file overrides => cases hdemand
      | reset => exact .reset session
      | outside workspace environment levels =>
          rw [Use.onto_of_none hdemand Use.noConfusion]
          exact h.of_held (by funext slot; cases slot <;> rfl) (Nat.le_refl _)
  | some demand =>
      obtain ⟨file, adopted⟩ := demand
      rw [Use.effect_of_demand hdemand]
      cases hslot : slotOf session.workspace file with
      | error failure =>
          have hrun := configuration_unresolved adopted hslot
          rwa [Use.onto_of_error hdemand hrun, hrun]
      | ok slot =>
          have hanswered := configuration_answered adopted hslot
          rcases hrun : (configuration file adopted).run session with ⟨outcome, last⟩
          rw [hrun] at hanswered
          cases hanswered with
          | held hc =>
              rw [Use.onto_of_ok hdemand hslot hrun]
              exact h.answer (fun other => by split <;> simp_all) (Nat.le_refl _) (h.held_numbered hc)
                (fun old hold => Option.some.inj (hold.symm.trans hc))
                fun hnone => by cases hnone.symm.trans hc
          | made hnone hmakes =>
              rw [Use.onto_of_ok hdemand hslot hrun]
              refine h.answer (fun other => ?_) ?_ ?_ (fun old hold => ?_) fun _ => ?_
              · rw [held_keep, held_counting]
              · rw [count_keep]
                exact Nat.le_succ _
              · rw [count_keep, hmakes.number]
                exact Nat.lt_succ_self _
              · cases hnone.symm.trans hold
              · rw [environment_keep]
                exact hmakes
          | refused hnone hsame =>
              rw [Use.onto_of_error hdemand hrun]
              rw [hsame]
              exact h.of_held (by funext other; cases other <;> rfl) (Nat.le_refl _)

end Stands

/-- Where uses lead to, and what was answered since the last reset. -/
structure Course where
  session : Session
  past : List Success

def Course.go (course : Course) (use : Use) : Course :=
  ⟨use.effect course.session, use.onto course.session course.past⟩

def play (start : Session) (uses : List Use) : Course :=
  uses.foldl Course.go ⟨start.reset, []⟩

theorem play_stands (start : Session) (uses : List Use) :
    Stands (play start uses).session (play start uses).past :=
  List.foldlRecOn (motive := fun course : Course => Stands course.session course.past) uses Course.go
    (.reset start) fun _ h use _ => h.step use

theorem adopt_false (session : Session) (c : Configuration) (slot : Slot) :
    session.adopt c false slot = session := by
  cases slot <;> rfl

theorem workspace_keep (session : Session) (c : Configuration) (slot : Slot) :
    (session.keep c slot).workspace = session.workspace := by
  cases slot <;> rfl

theorem configuration_again {c : Configuration}
    (h : (configuration file false).run session = (.ok c, after)) :
    (configuration file false).run after = (.ok c, after) := by
  cases hslot : slotOf session.workspace file with
  | error failure => cases (configuration_unresolved false hslot).symm.trans h
  | ok slot =>
      have hheld : after.held slot = some c ∧ after.workspace = session.workspace := by
        have hanswered := configuration_answered false hslot
        rw [h] at hanswered
        cases hanswered with
        | held hc =>
            rw [adopt_false]
            exact ⟨hc, rfl⟩
        | made hnone hmakes =>
            rw [adopt_false, held_keep, if_pos rfl, workspace_keep]
            exact ⟨rfl, rfl⟩
      rw [configuration_held false (hheld.2 ▸ hslot) hheld.1, adopt_false]

theorem options_again {options : Options} {given : List (String × Value)}
    (h : (Session.options file given).run session = (.ok options, after))
    (other : List (String × Value)) :
    ((Session.options file other).run after).1 = ((Session.options file other).run session).1 := by
  rw [run_options] at h
  rcases hc : (configuration file false).run session with ⟨failure | c, last⟩
  · rw [hc] at h
    cases h
  · rw [hc] at h
    obtain rfl : last = after := congrArg Prod.snd h
    rw [run_options, run_options, configuration_again hc, hc]

theorem go_options (course : Course) (file : Option String) (overrides : List (String × Value)) :
    course.go (.options file overrides) = course.go (.request file false) := by
  have heffect : (Use.options file overrides).effect course.session = _ :=
    Use.effect_of_demand rfl course.session
  rw [Course.go, Course.go, Use.onto_eq Use.noConfusion, Use.onto_eq Use.noConfusion, Use.success?,
    Use.success?, heffect]
  rfl

def linked (text : String) : Workspace :=
  ⟨⟨[(["a.yml"], .file (.bytes text.toUTF8)), (["b.yml"], .link "a.yml")]⟩, []⟩

def adoption : List Use :=
  [.request (some "a.yml") false, .outside (linked "x: 1\ny: 2") [] {}, .request (some "b.yml") true]

end Codegen.Settings.Session
