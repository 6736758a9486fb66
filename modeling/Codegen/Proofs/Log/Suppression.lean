import Codegen.Log.Suppression

/-! Blocks in which loggers have another level for a time: a block gives every logger that it names the level
back that it had, however blocks lie in one another, and touches no other logger. -/

namespace Codegen.Table

variable {α : Type} {entry : String × α} {name key : String} {x : α} {table pairs : List (String × α)}

theorem mem_of_mem_put (h : entry ∈ put name x table) : entry = (name, x) ∨ entry ∈ table := by
  induction table with
  | nil => exact .inl (List.mem_singleton.mp h)
  | cons first rest ih =>
      rw [put] at h
      split at h
      · exact (List.mem_cons.mp h).imp id (List.mem_cons_of_mem first)
      · rcases List.mem_cons.mp h with rfl | hrest
        · exact .inr List.mem_cons_self
        · exact (ih hrest).imp id (List.mem_cons_of_mem first)

theorem key_mem_put : key ∈ (put name x table).map Prod.fst ↔ key = name ∨ key ∈ table.map Prod.fst := by
  induction table with
  | nil => simp [put]
  | cons first rest ih =>
      rw [put]
      split
      · rename_i hname
        rw [beq_iff_eq] at hname
        simp [hname]
      · rw [List.map_cons, List.mem_cons, ih, List.map_cons, List.mem_cons, or_left_comm]

theorem mem_foldl_put (h : entry ∈ pairs.foldl (fun table (name, x) => put name x table) table) :
    entry ∈ pairs ∨ entry ∈ table := by
  induction pairs generalizing table with
  | nil => exact .inr h
  | cons pair rest ih =>
      rcases ih h with hrest | hput
      · exact .inl (List.mem_cons_of_mem pair hrest)
      · rcases mem_of_mem_put hput with rfl | hold
        · exact .inl List.mem_cons_self
        · exact .inr hold

theorem key_mem_foldl_put : key ∈ (pairs.foldl (fun table (name, x) => put name x table) table).map Prod.fst ↔
    key ∈ pairs.map Prod.fst ∨ key ∈ table.map Prod.fst := by
  induction pairs generalizing table with
  | nil => exact (or_iff_right List.not_mem_nil).symm
  | cons pair rest ih =>
      rw [List.foldl_cons, ih, key_mem_put, List.map_cons, List.mem_cons, or_left_comm, or_assoc]

theorem mem_of_mem_ofPairs (h : entry ∈ ofPairs pairs) : entry ∈ pairs :=
  (mem_foldl_put h).resolve_right List.not_mem_nil

theorem key_mem_ofPairs : key ∈ (ofPairs pairs).map Prod.fst ↔ key ∈ pairs.map Prod.fst :=
  key_mem_foldl_put.trans (or_iff_left List.not_mem_nil)

end Codegen.Table

namespace Codegen.Log

namespace Levels

variable {levels : Levels} {name other : String} {names : List String} {level : Int}

theorem areOne_iff : areOne name other = true ↔ name = other ∨ isRoot name = true ∧ isRoot other = true := by
  rw [areOne, Bool.or_eq_true, Bool.and_eq_true, decide_eq_true_eq]

theorem level_congr (h : areOne name other = true) (levels : Levels) : levels.level name = levels.level other := by
  rcases areOne_iff.mp h with rfl | ⟨hname, hother⟩
  · rfl
  · rw [Levels.level, if_pos hname, Levels.level, if_pos hother]

theorem level_setLevel_eq (levels : Levels) (name : String) (level : Int) (other : String) :
    (levels.setLevel name level).level other = if areOne name other = true then level else levels.level other := by
  split
  · rename_i hone
    rw [← level_congr hone, level_setLevel]
  · rename_i hnot
    rw [areOne_iff, not_or, not_and] at hnot
    obtain ⟨hne, hroot⟩ := hnot
    rw [setLevel]
    split
    · rename_i hname
      rw [Levels.level, Levels.level, if_neg (hroot hname), if_neg (hroot hname)]
    · rw [Levels.level, Levels.level]
      split
      · rfl
      · rw [Table.lookup_put_of_ne (Ne.symm hne)]

theorem isNamed_cons (name other : String) (names : List String) :
    isNamed (name :: names) other = (areOne name other || isNamed names other) :=
  List.any_cons

theorem isNamed_append (first second : List String) (name : String) :
    isNamed (first ++ second) name = (isNamed first name || isNamed second name) :=
  List.any_append

theorem level_restore {former : List (String × Int)}
    (hlevel : ∀ entry ∈ former, areOne entry.1 name = true → entry.2 = level) :
    (levels.restore former).level name =
      if isNamed (former.map Prod.fst) name = true then level else levels.level name := by
  induction former generalizing levels with
  | nil => rfl
  | cons entry rest ih =>
      have hrest := @ih (levels.setLevel entry.1 entry.2) fun other hother =>
        hlevel other (List.mem_cons_of_mem entry hother)
      have hstep : levels.restore (entry :: rest) = (levels.setLevel entry.1 entry.2).restore rest := rfl
      rw [hstep, hrest, level_setLevel_eq, List.map_cons, isNamed_cons]
      by_cases hone : areOne entry.1 name = true
      · simp only [hone, hlevel entry List.mem_cons_self hone, if_true, ite_self, Bool.true_or]
      · rw [Bool.not_eq_true] at hone
        simp only [hone, Bool.false_eq_true, if_false, Bool.false_or]

theorem level_suppress (levels : Levels) (names : List String) (level : Int) (name : String) :
    (levels.suppress names level).2.level name =
      if isNamed names name = true then level else levels.level name := by
  have hsame : (levels.suppress names level).2 = levels.restore (names.map fun name => (name, level)) := by
    rw [restore, List.foldl_map]
    rfl
  have hlevel : ∀ entry ∈ names.map fun name => (name, level), areOne entry.1 name = true → entry.2 = level := by
    intro entry hentry _
    obtain ⟨_, _, rfl⟩ := List.mem_map.mp hentry
    rfl
  rw [hsame, level_restore hlevel, List.map_map]
  simp only [Function.comp_def, List.map_id']

theorem isNamed_iff : isNamed names name = true ↔ ∃ other ∈ names, areOne other name = true :=
  List.any_eq_true

theorem level_restore_suppress (levels ended : Levels) (names : List String) (level : Int) (name : String) :
    (ended.restore (levels.suppress names level).1).level name =
      if isNamed names name = true then levels.level name else ended.level name := by
  have hformer : (levels.suppress names level).1 = Table.ofPairs (names.map fun name => (name, levels.level name)) :=
    rfl
  have hlevel : ∀ entry ∈ (levels.suppress names level).1, areOne entry.1 name = true →
      entry.2 = levels.level name := by
    intro entry hentry hone
    obtain ⟨other, _, rfl⟩ := List.mem_map.mp (Table.mem_of_mem_ofPairs (hformer ▸ hentry))
    exact level_congr hone levels
  have hnames : isNamed ((levels.suppress names level).1.map Prod.fst) name = isNamed names name := by
    rw [Bool.eq_iff_iff, isNamed_iff, isNamed_iff]
    refine exists_congr fun other => and_congr_left fun _ => ?_
    rw [hformer, Table.key_mem_ofPairs, List.map_map]
    simp only [Function.comp_def, List.map_id']
  rw [level_restore hlevel, hnames]

end Levels

/-! What holds of all blocks that code goes through. -/

variable {E : Type}

namespace Code

/-- Code leaves a logger the level that it had, unless it sets the level of this logger: a block that does not name
it leaves it alone, and one that does gives it back. -/
theorem run_level (code : Code E) (levels : Levels) {name : String}
    (h : Levels.isNamed (code.run levels).settings name = false) :
    (code.run levels).levels.level name = levels.level name := by
  induction code generalizing levels with
  | finish outcome => rfl
  | setLevel other level next ih =>
      rw [run, Levels.isNamed_cons, Bool.or_eq_false_iff] at h
      rw [run]
      dsimp only
      rw [ih _ h.2, Levels.level_setLevel_eq, if_neg (Bool.eq_false_iff.mp h.1)]
  | look next ih => exact ih levels levels h
  | block names level body next ihbody ihnext =>
      rw [run, Levels.isNamed_append, Bool.or_eq_false_iff] at h
      rw [run]
      dsimp only
      rw [ihnext _ _ h.2, Levels.level_restore_suppress, ihbody _ h.1, Levels.level_suppress]
      split <;> rfl

end Code

/-- The block gave the loggers that it names its level and then the one that they had before; the other loggers had
on entering it the level of before, and on leaving it that of the end of its body. -/
structure Passage.Restores (passage : Passage) : Prop where
  named : ∀ name, Levels.isNamed passage.names name = true →
    passage.entered.level name = passage.level ∧ passage.after.level name = passage.before.level name
  other : ∀ name, Levels.isNamed passage.names name = false →
    passage.entered.level name = passage.before.level name ∧ passage.after.level name = passage.ended.level name
  unset : ∀ name, Levels.isNamed passage.settings name = false →
    passage.ended.level name = passage.entered.level name

theorem Code.run_restores (code : Code E) (levels : Levels) :
    ∀ passage ∈ (code.run levels).passages, passage.Restores := by
  induction code generalizing levels with
  | finish outcome => exact List.forall_mem_nil _
  | setLevel name level next ih => exact ih _
  | look next ih => exact ih levels levels
  | block names level body next ihbody ihnext =>
      rw [run]
      dsimp only
      rw [List.forall_mem_append, List.forall_mem_cons]
      refine ⟨ihbody _, ?_, ihnext _ _⟩
      constructor
      case named =>
        intro name hnamed
        rw [Levels.level_suppress, Levels.level_restore_suppress, if_pos hnamed, if_pos hnamed]
        exact ⟨rfl, rfl⟩
      case other =>
        intro name hother
        rw [Levels.level_suppress, Levels.level_restore_suppress, hother]
        exact ⟨rfl, rfl⟩
      case unset => exact fun name hunset => body.run_level _ hunset

/-- Code may go through blocks that lie in one another, name the same loggers, or one logger twice, and are left by
exceptions, and it may set the level of any logger anywhere. A logger that a block names has the block's level when
its body begins, and when it is left the level that it had before. The block itself does not change the level of any
other logger, so that such a logger has another level behind the block only if its level was set inside. And if its
level is set nowhere, a logger has at the end the level that it had at the start. -/
theorem suppression_restores (code : Code E) (start : Levels) :
    let trail := code.run start
    (∀ passage ∈ trail.passages, ∀ name,
      (Levels.isNamed passage.names name = true →
        passage.entered.level name = passage.level ∧ passage.after.level name = passage.before.level name) ∧
      (Levels.isNamed passage.names name = false →
        passage.entered.level name = passage.before.level name ∧
        passage.after.level name = passage.ended.level name ∧
        (Levels.isNamed passage.settings name = false →
          passage.after.level name = passage.before.level name))) ∧
    ∀ name, Levels.isNamed trail.settings name = false → trail.levels.level name = start.level name := by
  intro trail
  refine ⟨fun passage hpassage name => ?_, fun name => code.run_level start⟩
  have hrestores := code.run_restores start passage hpassage
  refine ⟨hrestores.named name, fun hother => ?_⟩
  obtain ⟨hentered, hleft⟩ := hrestores.other name hother
  refine ⟨hentered, hleft, fun hunset => ?_⟩
  calc passage.after.level name = passage.ended.level name := hleft
    _ = passage.entered.level name := hrestores.unset name hunset
    _ = passage.before.level name := hentered

/-- The outer block names a logger twice, and the inner one, which an exception leaves, shares a logger with it. Both
levels are set inside. -/
def overlapping : Code String :=
  .block ["pipeline", "plugins", "pipeline"] errorLevel
    (.setLevel "plugins" debugLevel
      (.quiet ["plugins", "output"] (.setLevel "plugins" 1 (.setLevel "root" 2 (.finish (.error "stop")))) .finish))
    .finish

theorem suppression_restores_overlapping :
    let start : Levels := { own := [("plugins", infoLevel)] }
    let trail := overlapping.run start
    trail.outcome.toOption = none ∧ trail.passages.map (·.names) =
        [["plugins", "output"], ["pipeline", "plugins", "pipeline"]] ∧
      (∀ passage ∈ trail.passages, Levels.isNamed passage.names "plugins" = true ∧
        passage.after.level "plugins" = passage.before.level "plugins") ∧
      trail.levels.level "plugins" = infoLevel ∧ trail.levels.level "" = 2 := by
  intro start trail
  refine ⟨rfl, rfl, fun passage hpassage => ?_, rfl, rfl⟩
  have hnamed : ∀ passage ∈ trail.passages, Levels.isNamed passage.names "plugins" = true := by decide
  have hrestores := (suppression_restores overlapping start).1 passage hpassage "plugins"
  exact ⟨hnamed passage hpassage, (hrestores.1 (hnamed passage hpassage)).2⟩

end Codegen.Log
