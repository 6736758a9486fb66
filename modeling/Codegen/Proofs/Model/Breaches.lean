import Codegen.Proofs.Distinct
import Codegen.Proofs.Log.Saying
import Codegen.Proofs.Model.Resolution
import Codegen.Proofs.Model.Validity

/-! What the validation of a model reports: one problem for each breach of a rule, whatever else is wrong
with the model and in whatever order its classes come. -/

namespace Codegen.Model

/-! Names and how often they are given. -/

theorem filterMap_ite {α β : Type} (test : α → Bool) (report : α → β) (items : List α) :
    (items.filterMap fun x => if test x then some (report x) else none) =
      (items.filter test).map report := by
  induction items with
  | nil => rfl
  | cons x rest ih => cases h : test x <;> simp [h, ih]

theorem listed_tally (items : List String) (test : String → Nat → Bool)
    (report : String → Nat → Problem) :
    Listed (fun name p => name ∈ items ∧ test name (items.count name) = true ∧
        report name (items.count name) = p)
      ((tally items).filterMap fun (name, times) =>
        if test name times then some (report name times) else none) := by
  have hreports : ((tally items).filterMap fun (name, times) =>
      if test name times then some (report name times) else none) =
      (items.eraseDups.filter fun name => test name (items.count name)).map fun name =>
        report name (items.count name) := by
    rw [tally, List.filterMap_map, ← filterMap_ite]
    rfl
  rw [hreports]
  refine .of_map ((eraseDups_nodup items).filter _) fun name p => ?_
  simp [List.mem_filter, and_assoc]

/-! Breaches of the rules. -/

/-- Where a class breaks a rule. A name that is given several times breaks it once. -/
inductive Class.Breach
  | name
  | segment (k : Nat)
  | stereotype (name : String)
  | attr (j : Nat)
  | repeatedAttribute (name : String)

/-- A breach of a class, and the problem that it is reported as. -/
inductive Class.Shows (c : Class) : Class.Breach → Problem → Prop
  | name : Text.isIdentifier c.name = false → Shows c .name (.badClassName c.name)
  | segment {k : Nat} {segment : String} :
      c.package[k]? = some segment → Text.isIdentifier segment = false →
      Shows c (.segment k) (.badPackageSegment segment c.name)
  | blankStereotype {name : String} : name ∈ c.stereotypeNames → Text.isBlankText name = true →
      Shows c (.stereotype name) (.emptyStereotype c.qualifiedName)
  | repeatedStereotype {name : String} : Text.isBlankText name = false → 1 < c.stereotypeNames.count name →
      Shows c (.stereotype name)
        (.repeatedStereotype c.qualifiedName name (c.stereotypeNames.count name))
  | attr {j : Nat} {a : Attribute} : c.attributes[j]? = some a → Text.isIdentifier a.name = false →
      Shows c (.attr j) (.badAttributeName a.name c.qualifiedName)
  | repeatedAttribute {name : String} : 1 < (c.attributes.map Attribute.name).count name →
      Shows c (.repeatedAttribute name)
        (.repeatedAttribute name c.qualifiedName ((c.attributes.map Attribute.name).count name))

/-- Where a model breaks a rule: in one of its classes, or by classes of one qualified name. -/
inductive Breach
  | repeatedClass (path : String)
  | ofClass (i : Nat) (breach : Class.Breach)

inductive Shows (m : Model) : Breach → Problem → Prop
  | repeatedClass {path : String} : 1 < (m.classes.map Class.qualifiedName).count path →
      Shows m (.repeatedClass path)
        (.repeatedClass path ((m.classes.map Class.qualifiedName).count path))
  | ofClass {i : Nat} {c : Class} {breach : Class.Breach} {p : Problem} : m.classes[i]? = some c →
      c.Shows breach p → Shows m (.ofClass i breach) p

theorem mem_of_one_lt_count {names : List String} {name : String} (h : 1 < names.count name) :
    name ∈ names :=
  List.count_pos_iff.mp (Nat.zero_lt_of_lt h)

namespace Class

variable (c : Class)

theorem listed_nameProblems : Listed (fun (_ : Unit) p => Text.isIdentifier c.name = false ∧
    p = .badClassName c.name) c.nameProblems := by
  rw [nameProblems]
  cases h : Text.isIdentifier c.name with
  | true => exact .nil fun _ _ h => Bool.noConfusion h.1
  | false => exact .single () _ fun _ p => by simp

theorem listed_packageProblems : Listed (fun (k : ℕ) p => ∃ segment, c.package[k]? = some segment ∧
    (!Text.isIdentifier segment) = true ∧ Problem.badPackageSegment segment c.name = p) c.packageProblems :=
  .filter _ _ c.package

theorem listed_stereotypeProblems : Listed (fun name p => name ∈ c.stereotypeNames ∧
    (Text.isBlankText name || decide (1 < c.stereotypeNames.count name)) = true ∧
    (if Text.isBlankText name then .emptyStereotype c.qualifiedName
      else .repeatedStereotype c.qualifiedName name (c.stereotypeNames.count name)) = p)
    c.stereotypeProblems := by
  have htally := listed_tally c.stereotypeNames
    (fun name times => Text.isBlankText name || decide (1 < times))
    (fun name times => if Text.isBlankText name then .emptyStereotype c.qualifiedName
      else .repeatedStereotype c.qualifiedName name times)
  convert htally using 1
  rw [stereotypeProblems]
  congr 1
  funext ⟨name, times⟩
  cases h : Text.isBlankText name <;> simp [h]

theorem listed_badAttributeNames : Listed (fun (j : ℕ) p => ∃ name,
    (c.attributes.map Attribute.name)[j]? = some name ∧ (!Text.isIdentifier name) = true ∧
    Problem.badAttributeName name c.qualifiedName = p)
    (((c.attributes.map Attribute.name).filter (!Text.isIdentifier ·)).map
      (.badAttributeName · c.qualifiedName)) :=
  .filter _ _ _

theorem listed_repeatedAttributes : Listed (fun name p => name ∈ c.attributes.map Attribute.name ∧
    decide (1 < (c.attributes.map Attribute.name).count name) = true ∧
    Problem.repeatedAttribute name c.qualifiedName ((c.attributes.map Attribute.name).count name) = p)
    ((tally (c.attributes.map Attribute.name)).filterMap fun (name, times) =>
      if times > 1 then some (.repeatedAttribute name c.qualifiedName times) else none) := by
  have htally := listed_tally (c.attributes.map Attribute.name) (fun _ times => decide (1 < times))
    (fun name times => .repeatedAttribute name c.qualifiedName times)
  simpa only [decide_eq_true_eq] using htally

theorem listed_problems : Listed c.Shows c.problems := by
  have hnames := c.listed_nameProblems.map (g := fun _ => Class.Breach.name) fun _ _ _ => rfl
  have hsegments := c.listed_packageProblems.map (g := Class.Breach.segment) fun _ _ => Breach.segment.inj
  have hstereotypes := c.listed_stereotypeProblems.map (g := Class.Breach.stereotype)
    fun _ _ => Breach.stereotype.inj
  have hattributes := c.listed_badAttributeNames.map (g := Class.Breach.attr) fun _ _ => Breach.attr.inj
  have hrepeated := c.listed_repeatedAttributes.map (g := Class.Breach.repeatedAttribute)
    fun _ _ => Breach.repeatedAttribute.inj
  rw [problems, attributeProblems]
  refine ((((hnames.append hsegments ?_).append hstereotypes ?_).append
    (hattributes.append hrepeated ?_) ?_).congr ?_)
  · rintro _ _ _ h ⟨_, rfl, -⟩
    simp at h
  · rintro _ _ _ h ⟨_, rfl, -⟩
    simp at h
  · rintro _ _ _ h ⟨_, rfl, -⟩
    simp at h
  · rintro _ _ _ h (⟨_, rfl, -⟩ | ⟨_, rfl, -⟩) <;> simp at h
  · intro b p
    constructor
    · intro h
      cases h with
      | name hbad => exact .inl (.inl (.inl ⟨(), rfl, hbad, rfl⟩))
      | segment hsegment hbad => exact .inl (.inl (.inr ⟨_, rfl, _, hsegment, by simp [hbad], rfl⟩))
      | blankStereotype hname hblank =>
          exact .inl (.inr ⟨_, rfl, hname, by simp [hblank], by simp [hblank]⟩)
      | repeatedStereotype hblank hmany =>
          exact .inl (.inr ⟨_, rfl, mem_of_one_lt_count hmany, by simp [hmany], by simp [hblank]⟩)
      | attr ha hbad => exact .inr (.inl ⟨_, rfl, _, by simp [ha], by simp [hbad], rfl⟩)
      | repeatedAttribute hmany =>
          exact .inr (.inr ⟨_, rfl, mem_of_one_lt_count hmany, by simp [hmany], rfl⟩)
    · rintro (((⟨_, rfl, hbad, rfl⟩ | ⟨k, rfl, segment, hsegment, hbad, rfl⟩) |
        ⟨name, rfl, hname, hfault, rfl⟩) | (⟨j, rfl, name, ha, hbad, rfl⟩ | ⟨name, rfl, -, hmany, rfl⟩))
      · exact .name hbad
      · exact .segment hsegment (by simpa using hbad)
      · cases hblank : Text.isBlankText name with
        | true => exact .blankStereotype hname hblank
        | false =>
            rw [hblank] at hfault
            exact .repeatedStereotype hblank (by simpa using hfault)
      · rw [List.getElem?_map, Option.map_eq_some_iff] at ha
        obtain ⟨a, ha, rfl⟩ := ha
        exact .attr ha (by simpa using hbad)
      · exact .repeatedAttribute (by simpa using hmany)

end Class

theorem listed_problems (m : Model) : Listed m.Shows m.problems := by
  have hpaths := listed_tally (m.classes.map Class.qualifiedName) (fun _ times => decide (1 < times))
    fun path times => .repeatedClass path times
  simp only [decide_eq_true_eq] at hpaths
  have hrepeated := hpaths.map (g := Breach.repeatedClass) fun _ _ => Breach.repeatedClass.inj
  have hplaces : Function.Injective fun place : ℕ × Class.Breach => Breach.ofClass place.1 place.2 := by
    rintro ⟨i, b⟩ ⟨j, c⟩ heq
    cases heq
    rfl
  have hclasses := (Listed.flatMap fun c (_ : c ∈ m.classes) => c.listed_problems).map hplaces
  refine (hrepeated.append hclasses ?_).congr fun b p => ?_
  · rintro _ _ _ ⟨_, rfl, -⟩ ⟨_, heq, -⟩
    cases heq
  · constructor
    · intro h
      cases h with
      | repeatedClass hmany => exact .inl ⟨_, rfl, mem_of_one_lt_count hmany, hmany, rfl⟩
      | ofClass hclass hbreach => exact .inr ⟨(_, _), rfl, _, hclass, hbreach⟩
    · rintro (⟨path, rfl, -, hmany, rfl⟩ | ⟨⟨i, breach⟩, rfl, c, hclass, hbreach⟩)
      · exact .repeatedClass hmany
      · exact .ofClass hclass hbreach

/-! Models without breaches. -/

structure Class.WellFormed (c : Class) : Prop where
  name : Text.isIdentifier c.name = true
  package : ∀ segment ∈ c.package, Text.isIdentifier segment = true
  stereotypes_given : ∀ name ∈ c.stereotypeNames, Text.isBlankText name = false
  stereotypes_nodup : c.stereotypeNames.Nodup
  attributes : ∀ a ∈ c.attributes, Text.isIdentifier a.name = true
  attributes_nodup : (c.attributes.map Attribute.name).Nodup

structure WellFormed (m : Model) : Prop where
  nodup : (m.classes.map Class.qualifiedName).Nodup
  classes : ∀ c ∈ m.classes, c.WellFormed

theorem Class.wellFormed_iff {c : Class} : c.WellFormed ↔ ∀ b p, ¬ c.Shows b p := by
  constructor
  · intro hc b p h
    cases h with
    | name hbad => exact absurd (hbad.symm.trans hc.name) Bool.noConfusion
    | segment hsegment hbad =>
        exact absurd (hbad.symm.trans (hc.package _ (List.mem_of_getElem? hsegment))) Bool.noConfusion
    | blankStereotype hname hblank =>
        exact absurd (hblank.symm.trans (hc.stereotypes_given _ hname)) Bool.noConfusion
    | repeatedStereotype _ hmany =>
        exact absurd (List.nodup_iff_count_le_one.mp hc.stereotypes_nodup _) (Nat.not_le_of_lt hmany)
    | attr ha hbad =>
        exact absurd (hbad.symm.trans (hc.attributes _ (List.mem_of_getElem? ha))) Bool.noConfusion
    | repeatedAttribute hmany =>
        exact absurd (List.nodup_iff_count_le_one.mp hc.attributes_nodup _) (Nat.not_le_of_lt hmany)
  · intro hnone
    have hgiven : ∀ name ∈ c.stereotypeNames, Text.isBlankText name = false := by
      intro name hname
      by_contra hblank
      exact hnone _ _ (.blankStereotype hname (by simpa using hblank))
    refine ⟨?_, fun segment hsegment => ?_, hgiven, List.nodup_iff_count_le_one.mpr fun name => ?_,
      fun a ha => ?_, List.nodup_iff_count_le_one.mpr fun name => ?_⟩
    · by_contra hbad
      exact hnone _ _ (.name (by simpa using hbad))
    · by_contra hbad
      obtain ⟨k, hk⟩ := List.mem_iff_getElem?.mp hsegment
      exact hnone _ _ (.segment hk (by simpa using hbad))
    · by_contra hmany
      have hmany : 1 < c.stereotypeNames.count name := Nat.lt_of_not_le hmany
      exact hnone _ _ (.repeatedStereotype (hgiven name (mem_of_one_lt_count hmany)) hmany)
    · by_contra hbad
      obtain ⟨j, hj⟩ := List.mem_iff_getElem?.mp ha
      exact hnone _ _ (.attr hj (by simpa using hbad))
    · by_contra hmany
      exact hnone _ _ (.repeatedAttribute (Nat.lt_of_not_le hmany))

theorem wellFormed_iff {m : Model} : m.WellFormed ↔ m.problems = [] := by
  rw [m.listed_problems.eq_nil_iff]
  constructor
  · intro hm b p h
    cases h with
    | repeatedClass hmany =>
        exact absurd (List.nodup_iff_count_le_one.mp hm.nodup _) (Nat.not_le_of_lt hmany)
    | ofClass hclass hbreach =>
        exact Class.wellFormed_iff.mp (hm.classes _ (List.mem_of_getElem? hclass)) _ _ hbreach
  · intro hnone
    refine ⟨List.nodup_iff_count_le_one.mpr fun path => ?_,
      fun c hc => Class.wellFormed_iff.mpr fun b p h => ?_⟩
    · by_contra hmany
      exact hnone _ _ (.repeatedClass (Nat.lt_of_not_le hmany))
    · obtain ⟨i, hi⟩ := List.mem_iff_getElem?.mp hc
      exact hnone _ _ (.ofClass hi h)

/-! Classes in another order. -/

theorem tally_perm {xs ys : List String} (h : xs.Perm ys) : (tally xs).Perm (tally ys) := by
  have hfirst : xs.eraseDups.Perm ys.eraseDups :=
    (List.perm_ext_iff_of_nodup (eraseDups_nodup xs) (eraseDups_nodup ys)).mpr fun name => by
      rw [List.mem_eraseDups, List.mem_eraseDups, h.mem_iff]
  have hcounts : (fun name => (name, xs.count name)) = fun name => (name, ys.count name) :=
    funext fun name => by rw [h.count_eq]
  rw [tally, tally, hcounts]
  exact hfirst.map _

theorem Class.problems_redirect (move : Nat → Nat) (c : Class) :
    (c.redirect move).problems = c.problems := by
  have hnames : (c.redirect move).attributes.map Attribute.name = c.attributes.map Attribute.name := by
    rw [redirect, List.map_map]
    rfl
  rw [problems, problems, attributeProblems, attributeProblems, hnames]
  rfl

theorem problems_perm {m n : Model} {move : Nat → Nat}
    (h : n.classes.Perm (m.classes.map (Class.redirect move))) : n.problems.Perm m.problems := by
  have hpaths : (n.classes.map Class.qualifiedName).Perm (m.classes.map Class.qualifiedName) := by
    have hmoved := h.map Class.qualifiedName
    rwa [List.map_map] at hmoved
  have hclasses : (n.classes.flatMap Class.problems).Perm (m.classes.flatMap Class.problems) := by
    have hmoved := h.flatMap_right Class.problems
    rw [List.flatMap_map] at hmoved
    simpa only [Class.problems_redirect] using hmoved
  exact ((tally_perm hpaths).filterMap _).append hclasses

/-! Validation. -/

section

variable {ε α : Type} {f : α → Except ε Unit} {xs : List α}

theorem forM_ok_iff : (xs.forM f : Except ε Unit) = .ok () ↔ ∀ x ∈ xs, f x = .ok () := by
  induction xs with
  | nil => simp [pure, Except.pure]
  | cons x rest ih =>
      rw [List.forM, List.forall_mem_cons]
      cases h : f x with
      | error e => simp [bind, Except.bind]
      | ok u => simpa [bind, Except.bind] using ih

theorem exists_of_forM_error {e : ε} (h : (xs.forM f : Except ε Unit) = .error e) :
    ∃ x ∈ xs, f x = .error e := by
  induction xs with
  | nil => cases h
  | cons x rest ih =>
      rw [List.forM] at h
      cases hx : f x with
      | error e' =>
          rw [hx] at h
          cases h
          exact ⟨x, List.mem_cons_self, hx⟩
      | ok u =>
          rw [hx] at h
          obtain ⟨y, hy, hfails⟩ := ih h
          exact ⟨y, List.mem_cons_of_mem x hy, hfails⟩

end

/-- The message on the classes that nothing is generated from. -/
def idleMessage (m : Model) : String :=
  "Classes without stereotypes are not generated: " ++ Text.join ", " m.idleClasses

section

variable {levels : Log.Levels} {m : Model}

theorem validate_of_problems (h : m.problems ≠ []) : m.validate levels =
    (m.problems.forM fun p => Log.modelLogger.say levels .error p.message) >>= fun _ =>
      .error (.generation (.invalidModel m.name (m.problems.map Problem.message))) := by
  rw [validate, if_pos h]
  rfl

theorem validate_of_no_problems (h : m.problems = []) : m.validate levels =
    if m.idleClasses ≠ [] then Log.modelLogger.say levels .debug m.idleMessage else .ok () := by
  rw [validate, if_neg (not_not_intro h)]
  rfl

/-- How validation ends: the log may refuse a message, which is then all that is told. -/
inductive Validated (levels : Log.Levels) (m : Model) : Except Failure Unit → Prop
  | accepted : m.problems = [] →
      (m.idleClasses ≠ [] → Log.modelLogger.say levels .debug m.idleMessage = .ok ()) →
      Validated levels m (.ok ())
  | unmentioned {fault : Console.MarkupFault} : m.problems = [] → m.idleClasses ≠ [] →
      Log.modelLogger.say levels .debug m.idleMessage = .error (.markup fault) →
      Validated levels m (.error (.markup fault))
  | refused : m.problems ≠ [] →
      (∀ p ∈ m.problems, Log.modelLogger.say levels .error p.message = .ok ()) →
      Validated levels m (.error (.generation (.invalidModel m.name (m.problems.map Problem.message))))
  | unreported {p : Problem} {fault : Console.MarkupFault} : p ∈ m.problems →
      Log.modelLogger.say levels .error p.message = .error (.markup fault) →
      Validated levels m (.error (.markup fault))

theorem validated_validate (levels : Log.Levels) (m : Model) : Validated levels m (m.validate levels) := by
  by_cases hproblems : m.problems = []
  · rw [validate_of_no_problems hproblems]
    by_cases hidle : m.idleClasses = []
    · rw [if_neg (not_not_intro hidle)]
      exact .accepted hproblems fun h => absurd hidle h
    · rw [if_pos hidle]
      cases hsaid : Log.modelLogger.say levels .debug m.idleMessage with
      | ok _ => exact .accepted hproblems fun _ => hsaid
      | error failure =>
          obtain ⟨fault, rfl⟩ := Log.say_error hsaid
          exact .unmentioned hproblems hidle hsaid
  · rw [validate_of_problems hproblems]
    cases hlogged : (m.problems.forM fun p => Log.modelLogger.say levels .error p.message :
        Except Failure Unit) with
    | ok _ => exact .refused hproblems (forM_ok_iff.mp hlogged)
    | error failure =>
        obtain ⟨p, hp, hsaid⟩ := exists_of_forM_error hlogged
        obtain ⟨fault, rfl⟩ := Log.say_error hsaid
        exact .unreported hp hsaid

end

def twice : Model where
  classes := [
    { name := "A", package := ["x", "1y"],
      stereotypes := [⟨"E", none⟩, ⟨" ", none⟩, ⟨"E", none⟩, ⟨" ", none⟩],
      attributes := [{ name := "a" }, { name := "[/]" }, { name := "a" }] },
    { name := "A", package := ["x", "1y"] }]

end Codegen.Model
