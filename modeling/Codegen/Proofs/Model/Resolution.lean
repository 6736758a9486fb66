import Codegen.Proofs.Model.Document
import Codegen.Proofs.Schema.Check
import Mathlib.Data.Set.List
import Mathlib.Logic.Equiv.Basic

/-! Which class a type name stands for. It is the same class in whatever order a document lists its
classes. -/

namespace Codegen

/-! Lists in another order. -/

section

variable {α : Type} {xs ys : List α}

def shifted (σ : Equiv.Perm ℕ) : Equiv.Perm ℕ where
  toFun
    | 0 => 0
    | i + 1 => σ i + 1
  invFun
    | 0 => 0
    | i + 1 => σ.symm i + 1
  left_inv i := by cases i <;> simp
  right_inv i := by cases i <;> simp

theorem exists_places_of_perm (h : ys.Perm xs) :
    ∃ σ : Equiv.Perm ℕ, ∀ i : ℕ, ys[i]? = xs[σ i]? := by
  induction h with
  | nil => exact ⟨.refl ℕ, fun _ => rfl⟩
  | cons x _ ih =>
      obtain ⟨σ, hσ⟩ := ih
      refine ⟨shifted σ, fun i => ?_⟩
      cases i with
      | zero => rfl
      | succ i => exact hσ i
  | swap x y others =>
      refine ⟨Equiv.swap 0 1, fun i => ?_⟩
      match i with
      | 0 => rfl
      | 1 => rfl
      | i + 2 =>
        rw [Equiv.swap_apply_of_ne_of_ne (by omega) (by omega)]
        rfl
  | trans _ _ first second =>
      obtain ⟨σ, hσ⟩ := first
      obtain ⟨τ, hτ⟩ := second
      exact ⟨σ.trans τ, fun i => (hσ i).trans (hτ (σ i))⟩

theorem countP_eq_one_iff {test : α → Bool} :
    xs.countP test = 1 ↔ ∃ (i : ℕ) (x : α), xs[i]? = some x ∧ test x = true ∧
      ∀ (j : ℕ) (y : α), xs[j]? = some y → test y = true → j = i := by
  induction xs with
  | nil => simp
  | cons x xs ih =>
      by_cases hx : test x = true
      · rw [List.countP_cons_of_pos hx, Nat.add_eq_right, List.countP_eq_zero]
        constructor
        · intro hnone
          refine ⟨0, x, rfl, hx, fun j y hy htest => ?_⟩
          cases j with
          | zero => rfl
          | succ j => exact absurd htest (hnone y (List.mem_of_getElem? hy))
        · rintro ⟨i, _, -, -, hunique⟩ y hy htest
          obtain ⟨j, hj⟩ := List.mem_iff_getElem?.mp hy
          have hzero := hunique 0 x rfl hx
          have hlater := hunique (j + 1) y hj htest
          omega
      · rw [List.countP_cons_of_neg hx, ih]
        constructor
        · rintro ⟨i, z, hz, htest, hunique⟩
          refine ⟨i + 1, z, hz, htest, fun j y hy hother => ?_⟩
          cases j with
          | zero =>
              cases hy
              exact absurd hother hx
          | succ j => exact congrArg (· + 1) (hunique j y hy hother)
        · rintro ⟨i, z, hz, htest, hunique⟩
          cases i with
          | zero =>
              cases hz
              exact absurd htest hx
          | succ i =>
              refine ⟨i, z, hz, htest, fun j y hy hother => ?_⟩
              exact Nat.succ.inj (hunique (j + 1) y hy hother)

end

namespace Checked

variable {α : Type}

theorem items_eq_ok_iff {check : Value → Checked α} {vs : List Value} {xs : List α} (i : Nat) :
    items check i vs = .ok xs ↔ vs.map check = xs.map .ok := by
  rw [items_ok_iff, ← List.forall₂_eq_eq_eq, List.forall₂_map_left_iff, List.forall₂_map_right_iff]

theorem list_reordered {check : Value → Checked α} {vs ws : List Value} {xs : List α}
    {σ : Equiv.Perm ℕ} (h : list check (.list vs) = .ok xs)
    (hplaces : ∀ i : ℕ, ws[i]? = vs[σ i]?) :
    ∃ ys, list check (.list ws) = .ok ys ∧ ∀ i : ℕ, ys[i]? = xs[σ i]? := by
  have hitems : vs.map check = xs.map .ok := (items_eq_ok_iff 0).mp h
  have hat : ∀ i : ℕ, (ws.map check)[i]? = (xs[σ i]?).map .ok := by
    intro i
    rw [List.getElem?_map, hplaces, ← List.getElem?_map, hitems, List.getElem?_map]
  obtain ⟨ys, hys⟩ : ws.map check ∈ Set.range (List.map .ok) := by
    rw [Set.range_list_map]
    intro checked hmem
    obtain ⟨i, hi⟩ := List.mem_iff_getElem?.mp hmem
    rw [hat] at hi
    obtain ⟨x, -, hx⟩ := Option.map_eq_some_iff.mp hi
    exact ⟨x, hx⟩
  refine ⟨ys, (items_eq_ok_iff 0).mpr hys.symm, fun i => ?_⟩
  have hsame := hat i
  rw [← hys, List.getElem?_map] at hsame
  exact Option.map_injective (fun _ _ => Except.ok.inj) hsame

end Checked

namespace Model

/-! Models with their classes in another order. -/

def DataType.redirect (move : Nat → Nat) : DataType → DataType
  | .plain name comment => .plain name comment
  | .object name comment target => .object name comment (target.map move)

def Attribute.redirect (move : Nat → Nat) (a : Attribute) : Attribute :=
  { a with type := a.type.map (·.redirect move) }

/-- The class with its references sent to where the classes have moved. -/
def Class.redirect (move : Nat → Nat) (c : Class) : Class :=
  { c with attributes := c.attributes.map (·.redirect move) }

/-- The second model has the classes of the first in another order: at each place stands the class that
was at a place of its own, and all references lead to the classes that they led to. -/
structure Reorders (σ : Equiv.Perm ℕ) (m n : Model) : Prop where
  name : n.name = m.name
  delimiter : n.delimiter = m.delimiter
  classes : ∀ i : ℕ, n.classes[i]? = (m.classes[σ i]?).map (Class.redirect σ.symm)

theorem Reorders.target? {σ : Equiv.Perm ℕ} {m n : Model} (h : Reorders σ m n) (t : DataType) :
    n.target? (t.redirect σ.symm) = (m.target? t).map (Class.redirect σ.symm) := by
  match t with
  | .plain _ _ => rfl
  | .object _ _ none => rfl
  | .object _ _ (some i) =>
    have hmoved := h.classes (σ.symm i)
    rwa [Equiv.apply_symm_apply] at hmoved

/-! Type names. -/

/-- A name means a class if it is the qualified name of the class, or if it is the name of that class
alone and the qualified name of none. -/
inductive Denotes (m : Model) (name : String) (i : Nat) : Prop
  | qualified {c : Class} : m.classes[i]? = some c → c.qualifiedName = name → Denotes m name i
  | simple {c : Class} : m.classes[i]? = some c → c.name = name →
      (∀ d ∈ m.classes, d.qualifiedName ≠ name) →
      (∀ j d, m.classes[j]? = some d → d.name = name → j = i) → Denotes m name i

section

variable {m : Model} {name : String} {i : Nat}

theorem findIdx?_eq_some_iff_of_unique {test : Class → Bool}
    (hunique : ∀ (j k : ℕ) (c d : Class), m.classes[j]? = some c → m.classes[k]? = some d →
      test c → test d → j = k) :
    m.classes.findIdx? test = some i ↔ ∃ c, m.classes[i]? = some c ∧ test c := by
  rw [List.findIdx?_eq_some_iff_getElem]
  constructor
  · rintro ⟨hi, htest, -⟩
    exact ⟨_, List.getElem?_eq_getElem hi, htest⟩
  · rintro ⟨c, hc, htest⟩
    obtain ⟨hi, rfl⟩ := List.getElem?_eq_some_iff.mp hc
    refine ⟨hi, htest, fun j hj hother => ?_⟩
    have hsame := hunique j i _ _ (List.getElem?_eq_getElem (by omega)) hc hother htest
    omega

theorem getElem?_inj_of_qualifiedName (hdistinct : (m.classes.map Class.qualifiedName).Nodup) {j : Nat}
    {c d : Class} (hc : m.classes[i]? = some c) (hd : m.classes[j]? = some d)
    (hsame : c.qualifiedName = d.qualifiedName) : i = j := by
  have hbound : i < (m.classes.map Class.qualifiedName).length := by
    rw [List.length_map]
    exact (List.getElem?_eq_some_iff.mp hc).1
  refine (List.getElem?_inj hbound hdistinct).mp ?_
  rw [List.getElem?_map, List.getElem?_map, hc, hd, Option.map_some, Option.map_some, hsame]

theorem findClass?_eq_some_iff (hdistinct : (m.classes.map Class.qualifiedName).Nodup) :
    m.findClass? name = some i ↔ m.Denotes name i := by
  have hqualified : ∀ k, m.classes.findIdx? (·.qualifiedName = name) = some k ↔
      ∃ c, m.classes[k]? = some c ∧ c.qualifiedName = name := by
    intro k
    rw [findIdx?_eq_some_iff_of_unique]
    · simp only [decide_eq_true_eq]
    · intro j k c d hj hk hc hd
      exact getElem?_inj_of_qualifiedName hdistinct hj hk
        ((of_decide_eq_true hc).trans (of_decide_eq_true hd).symm)
  rw [findClass?]
  cases hfound : m.classes.findIdx? (·.qualifiedName = name) with
  | some k =>
      obtain ⟨c, hc, hname⟩ := (hqualified k).mp hfound
      constructor
      · rintro ⟨⟩
        exact .qualified hc hname
      · intro h
        cases h with
        | qualified hd hother =>
            exact congrArg some (getElem?_inj_of_qualifiedName hdistinct hc hd (hname.trans hother.symm))
        | simple _ _ hnone _ => exact absurd hname (hnone c (List.mem_of_getElem? hc))
  | none =>
      have hnone : ∀ d ∈ m.classes, d.qualifiedName ≠ name := by
        simpa using List.findIdx?_eq_none_iff.mp hfound
      dsimp only
      rw [← List.countP_eq_length_filter]
      constructor
      · intro h
        split at h
        · next honce =>
          obtain ⟨k, c, hc, hname, hunique⟩ := countP_eq_one_iff.mp honce
          obtain ⟨hi, htest, -⟩ := List.findIdx?_eq_some_iff_getElem.mp h
          obtain rfl := hunique i _ (List.getElem?_eq_getElem hi) htest
          exact .simple hc (of_decide_eq_true hname) hnone
            fun j d hd hother => hunique j d hd (decide_eq_true hother)
        · cases h
      · intro h
        cases h with
        | qualified hc hname => exact absurd hname (hnone _ (List.mem_of_getElem? hc))
        | simple hc hname _ hunique =>
            have honce : m.classes.countP (·.name = name) = 1 :=
              countP_eq_one_iff.mpr ⟨i, _, hc, decide_eq_true hname,
                fun j d hd hother => hunique j d hd (of_decide_eq_true hother)⟩
            rw [if_pos honce, findIdx?_eq_some_iff_of_unique]
            · exact ⟨_, hc, decide_eq_true hname⟩
            · intro j k c d hj hk hfirst hsecond
              exact (hunique j c hj (of_decide_eq_true hfirst)).trans
                (hunique k d hk (of_decide_eq_true hsecond)).symm

theorem resolveType_eq_object_iff (hdistinct : (m.classes.map Class.qualifiedName).Nodup)
    (hname : name ≠ "") {c : Class} (hc : m.classes[i]? = some c) :
    m.resolveType (some name) = some (.object c.name none (some i)) ↔ m.Denotes name i := by
  rw [resolveType_of_ne_empty m hname, ← findClass?_eq_some_iff hdistinct]
  cases m.findClass? name with
  | none => simp
  | some k =>
      simp only [Option.some.injEq, DataType.object.injEq, true_and]
      constructor
      · exact And.right
      · rintro rfl
        rw [hc]
        exact ⟨rfl, rfl⟩

theorem resolveType_eq_plain (hdistinct : (m.classes.map Class.qualifiedName).Nodup)
    (hname : name ≠ "") (hnone : ∀ k, ¬ m.Denotes name k) :
    m.resolveType (some name) = some (.plain name none) := by
  rw [resolveType_of_ne_empty m hname]
  cases hfound : m.findClass? name with
  | none => rfl
  | some k => exact absurd ((findClass?_eq_some_iff hdistinct).mp hfound) (hnone k)

end

/-! Types of the model that a specification makes. -/

theorem resolveType_bare (m : Model) (name : Option String) :
    m.bare.resolveType name = m.resolveType name := by
  have hnames : ∀ i : ℕ, (m.bare.classes[i]?).map Class.name = (m.classes[i]?).map Class.name := by
    intro i
    rw [bare, List.getElem?_map, Option.map_map]
    rfl
  cases name with
  | none => rfl
  | some name =>
      by_cases hname : name = ""
      · subst hname
        rfl
      · rw [resolveType_of_ne_empty _ hname, resolveType_of_ne_empty _ hname, findClass?_bare]
        simp only [hnames]

section

variable (spec : ModelSpec) (delimiter : String)

theorem bare_ofSpec : (ofSpec spec delimiter).bare =
    { name := spec.name, classes := spec.classes.map (·.outline delimiter), delimiter } := by
  rw [bare, ofSpec]
  simp only [List.map_map]
  rfl

theorem classes_ofSpec : (ofSpec spec delimiter).classes = spec.classes.map fun c =>
    { c.outline delimiter with attributes := c.attributes.map (·.resolve (ofSpec spec delimiter)) } := by
  have hresolve : ∀ a : AttributeSpec,
      a.resolve (ofSpec spec delimiter) = a.resolve (ofSpec spec delimiter).bare := by
    intro a
    rw [AttributeSpec.resolve, AttributeSpec.resolve, resolveType_bare]
  simp only [hresolve]
  rw [bare_ofSpec]
  rfl

end

/-- The type name that a specification gives to an attribute of a class, by number. -/
def ModelSpec.typeName? (spec : ModelSpec) (i j : Nat) : Option String := do
  let c ← spec.classes[i]?
  let a ← c.attributes[j]?
  a.type

def typeAt? (m : Model) (i j : Nat) : Option DataType := do
  let c ← m.classes[i]?
  let a ← c.attributes[j]?
  a.type

theorem typeAt?_ofSpec (spec : ModelSpec) (delimiter : String) (i j : Nat) :
    (ofSpec spec delimiter).typeAt? i j =
      (ofSpec spec delimiter).resolveType (spec.typeName? i j) := by
  rw [typeAt?, ModelSpec.typeName?]
  have hclass : (ofSpec spec delimiter).classes[i]? = (spec.classes[i]?).map fun c =>
      { c.outline delimiter with attributes := c.attributes.map (·.resolve (ofSpec spec delimiter)) } := by
    conv_lhs => rw [classes_ofSpec]
    rw [List.getElem?_map]
  rw [hclass]
  cases spec.classes[i]? with
  | none => rfl
  | some c =>
      simp only [Option.map_some, Option.bind_some, bind, List.getElem?_map]
      cases c.attributes[j]? with
      | none => rfl
      | some a => rfl

/-! Models whose classes are the same in another order. -/

section

variable {m n : Model} {σ : Equiv.Perm ℕ}

theorem Denotes.reordered {name : String} {i : Nat} (h : m.Denotes name i)
    (hplaces : ∀ i : ℕ, n.classes[i]? = m.classes[σ i]?) : n.Denotes name (σ.symm i) := by
  have hmoved : n.classes[σ.symm i]? = m.classes[i]? := by
    rw [hplaces, Equiv.apply_symm_apply]
  cases h with
  | qualified hc hname => exact .qualified (hmoved.trans hc) hname
  | simple hc hname hnone hunique =>
      refine .simple (hmoved.trans hc) hname (fun d hd => ?_) fun j d hd hother => ?_
      · obtain ⟨j, hj⟩ := List.mem_iff_getElem?.mp hd
        rw [hplaces] at hj
        exact hnone d (List.mem_of_getElem? hj)
      · rw [hplaces] at hd
        rw [← hunique (σ j) d hd hother, Equiv.symm_apply_apply]

theorem qualifiedNames_nodup_reordered (hdistinct : (m.classes.map Class.qualifiedName).Nodup)
    (hplaces : ∀ i : ℕ, n.classes[i]? = m.classes[σ i]?) :
    (n.classes.map Class.qualifiedName).Nodup := by
  rw [List.nodup_iff_getElem?_ne_getElem?]
  intro i j hlt hj hsame
  rw [List.length_map] at hj
  have hsecond : n.classes[j]? = some n.classes[j] := List.getElem?_eq_getElem hj
  have hfirst : n.classes[i]? = some n.classes[i] := List.getElem?_eq_getElem (hlt.trans hj)
  rw [List.getElem?_map, List.getElem?_map, hfirst, hsecond] at hsame
  rw [hplaces] at hfirst hsecond
  have hplace := getElem?_inj_of_qualifiedName hdistinct hfirst hsecond (Option.some.inj hsame)
  exact absurd (σ.injective hplace) (Nat.ne_of_lt hlt)

theorem findClass?_reordered (hdistinct : (m.classes.map Class.qualifiedName).Nodup)
    (hplaces : ∀ i : ℕ, n.classes[i]? = m.classes[σ i]?) (name : String) :
    n.findClass? name = (m.findClass? name).map σ.symm := by
  have hback : ∀ i : ℕ, m.classes[i]? = n.classes[σ.symm i]? := by
    intro i
    rw [hplaces, Equiv.apply_symm_apply]
  refine Option.ext fun k => ?_
  rw [findClass?_eq_some_iff (qualifiedNames_nodup_reordered hdistinct hplaces),
    Option.map_eq_some_iff]
  constructor
  · intro h
    exact ⟨σ k, (findClass?_eq_some_iff hdistinct).mpr (h.reordered hback), σ.symm_apply_apply k⟩
  · rintro ⟨i, hi, rfl⟩
    exact ((findClass?_eq_some_iff hdistinct).mp hi).reordered hplaces

theorem resolveType_reordered (hdistinct : (m.classes.map Class.qualifiedName).Nodup)
    (hplaces : ∀ i : ℕ, n.classes[i]? = m.classes[σ i]?) (name : Option String) :
    n.resolveType name = (m.resolveType name).map (·.redirect σ.symm) := by
  match name with
  | none => rfl
  | some name =>
    by_cases hname : name = ""
    · subst hname
      rfl
    · rw [resolveType_of_ne_empty _ hname, resolveType_of_ne_empty _ hname,
        findClass?_reordered hdistinct hplaces]
      cases m.findClass? name with
      | none => rfl
      | some i =>
          simp only [Option.map_some, hplaces, Equiv.apply_symm_apply]
          rfl

end

theorem ofSpec_reordered {spec other : ModelSpec} {delimiter : String} {σ : Equiv.Perm ℕ}
    (hdistinct : ((ofSpec spec delimiter).classes.map Class.qualifiedName).Nodup)
    (hname : other.name = spec.name) (hplaces : ∀ i : ℕ, other.classes[i]? = spec.classes[σ i]?) :
    Reorders σ (ofSpec spec delimiter) (ofSpec other delimiter) := by
  have hbare : ∀ i : ℕ, (ofSpec other delimiter).bare.classes[i]? =
      (ofSpec spec delimiter).bare.classes[σ i]? := by
    intro i
    rw [bare_ofSpec, bare_ofSpec, List.getElem?_map, List.getElem?_map, hplaces]
  have hdistinct_bare : ((ofSpec spec delimiter).bare.classes.map Class.qualifiedName).Nodup := by
    rw [bare, List.map_map]
    exact hdistinct
  have hresolve : ∀ a : AttributeSpec, a.resolve (ofSpec other delimiter) =
      (a.resolve (ofSpec spec delimiter)).redirect σ.symm := by
    intro a
    rw [AttributeSpec.resolve, AttributeSpec.resolve, Attribute.redirect,
      ← resolveType_bare (ofSpec other delimiter), ← resolveType_bare (ofSpec spec delimiter),
      resolveType_reordered hdistinct_bare hbare]
  refine ⟨hname, rfl, fun i => ?_⟩
  rw [classes_ofSpec, classes_ofSpec, List.getElem?_map, List.getElem?_map, hplaces, Option.map_map]
  congr 1
  funext c
  simp only [Function.comp_apply, Class.redirect, List.map_map, hresolve]
  rfl

/-! Documents. -/

theorem ModelSpec.exists_fields_of_check {data : Value} {spec : ModelSpec} (h : check data = .ok spec) :
    ∃ fields, data = .map fields := by
  rw [check, Checked.record.eq_def] at h
  split at h
  · exact ⟨_, rfl⟩
  · cases h

theorem ModelSpec.check_eq_ok_iff {fields : List (Value × Value)} {spec : ModelSpec} :
    check (.map fields) = .ok spec ↔
      Checked.field "name" Checked.text (.ok "model") fields = .ok spec.name ∧
      Checked.field "classes" (Checked.list ClassSpec.check) (.ok []) fields = .ok spec.classes := by
  rw [check, Checked.record, Checked.apply_ok_iff]
  simp only [Checked.map_ok_iff]
  constructor
  · rintro ⟨_, classes, ⟨name, hname, rfl⟩, hclasses, rfl⟩
    exact ⟨hname, hclasses⟩
  · rintro ⟨hname, hclasses⟩
    exact ⟨_, _, ⟨_, hname, rfl⟩, hclasses, rfl⟩

theorem ofValue_eq_ok_iff {fields : List (Value × Value)} {delimiter : String} {m : Model} :
    ofValue (.map fields) delimiter = .ok m ↔ ∃ spec, ModelSpec.check (.map fields) = .ok spec ∧
      ¬ (delimiter = "" ∧ spec.classes ≠ []) ∧ m = ofSpec spec delimiter := by
  simp only [ofValue]
  cases ModelSpec.check (.map fields) with
  | error problems => simp
  | ok spec =>
      simp only [Except.ok.injEq, exists_eq_left']
      split
      · next h => simp [h]
      · next h => simp [h, eq_comm]

theorem ofValue_reordered {fields other : List (Value × Value)} {xs ys : List Value}
    {delimiter : String} {m : Model} {σ : Equiv.Perm ℕ}
    (haccepted : ofValue (.map fields) delimiter = .ok m)
    (hdistinct : (m.classes.map Class.qualifiedName).Nodup)
    (hname : Value.field? "name" other = Value.field? "name" fields)
    (hxs : Value.field? "classes" fields = some (.list xs))
    (hys : Value.field? "classes" other = some (.list ys)) (hplaces : ∀ i : ℕ, ys[i]? = xs[σ i]?) :
    ∃ n, ofValue (.map other) delimiter = .ok n ∧ Reorders σ m n := by
  obtain ⟨spec, hspec, hdelimiter, rfl⟩ := ofValue_eq_ok_iff.mp haccepted
  obtain ⟨hspec_name, hspec_classes⟩ := ModelSpec.check_eq_ok_iff.mp hspec
  rw [Checked.field, hxs, Checked.under_ok_iff] at hspec_classes
  obtain ⟨classes, hclasses, hmoved⟩ := Checked.list_reordered hspec_classes hplaces
  have hother : ModelSpec.check (.map other) = .ok ⟨spec.name, classes⟩ := by
    refine ModelSpec.check_eq_ok_iff.mpr ⟨?_, Checked.field_of_lookup hys hclasses⟩
    rw [Checked.field, hname]
    exact hspec_name
  refine ⟨_, ofValue_eq_ok_iff.mpr ⟨_, hother, ?_, rfl⟩, ofSpec_reordered hdistinct rfl hmoved⟩
  rintro ⟨hempty, hsome⟩
  refine hdelimiter ⟨hempty, fun hnone => hsome (List.eq_nil_iff_forall_not_mem.mpr fun c hc => ?_)⟩
  obtain ⟨i, hi⟩ := List.mem_iff_getElem?.mp hc
  rw [hmoved, hnone] at hi
  cases hi

/-- In an accepted document whose classes have qualified names of their own, a type name stands for the
class that it denotes, and for a plain type if it denotes none. In whatever order the document lists
its classes, it makes the same model with the classes in that order, and every type refers to the class
that it referred to. -/
theorem ofValue_resolves {data : Value} {delimiter : String} {m : Model}
    (haccepted : ofValue data delimiter = .ok m)
    (hdistinct : (m.classes.map Class.qualifiedName).Nodup) :
    (∀ spec, ModelSpec.check data = .ok spec →
      ∀ i j name, spec.typeName? i j = some name → name ≠ "" →
        (∀ k c, m.classes[k]? = some c →
          (m.typeAt? i j = some (.object c.name none (some k)) ↔ m.Denotes name k)) ∧
        ((∀ k, ¬ m.Denotes name k) → m.typeAt? i j = some (.plain name none))) ∧
    ∀ fields other xs ys, data = .map fields →
      Value.field? "name" other = Value.field? "name" fields →
      Value.field? "classes" fields = some (.list xs) →
      Value.field? "classes" other = some (.list ys) → ys.Perm xs →
      ∃ (σ : Equiv.Perm ℕ) (n : Model), (∀ i : ℕ, ys[i]? = xs[σ i]?) ∧
        ofValue (.map other) delimiter = .ok n ∧ Reorders σ m n ∧
        ∀ t, n.target? (t.redirect σ.symm) = (m.target? t).map (Class.redirect σ.symm) := by
  constructor
  · intro spec hspec i j name hname hne
    obtain ⟨fields, rfl⟩ := ModelSpec.exists_fields_of_check hspec
    obtain ⟨spec', hspec', -, rfl⟩ := ofValue_eq_ok_iff.mp haccepted
    cases hspec.symm.trans hspec'
    rw [typeAt?_ofSpec, hname]
    exact ⟨fun k c hc => resolveType_eq_object_iff hdistinct hne hc, resolveType_eq_plain hdistinct hne⟩
  · rintro fields other xs ys rfl hname hxs hys hperm
    obtain ⟨σ, hplaces⟩ := exists_places_of_perm hperm
    obtain ⟨n, hn, hreorders⟩ := ofValue_reordered haccepted hdistinct hname hxs hys hplaces
    exact ⟨σ, n, hplaces, hn, hreorders, hreorders.target?⟩

/-! A class that refers to two namesakes behind it, and one of them to it. -/

def listing (classes : List Value) : List (Value × Value) := [(.text "classes", .list classes)]

def namesakeClass (name package : String) (types : List String) : ClassSpec where
  name := name
  package := package
  stereotypes := []
  comment := none
  attributes := types.map fun type => ⟨"a", some type, "public", false, none⟩

def namesakes : List ClassSpec :=
  [namesakeClass "Customer" "shop" ["Order", "shop::Order", "str"], namesakeClass "Order" "" [],
    namesakeClass "Order" "shop" ["Customer"]]

def namesakeModel : Model := ofSpec ⟨"model", namesakes⟩ "::"

theorem ofValue_resolves_namesakes :
    let document (classes : List ClassSpec) := Value.map (listing (classes.map ClassSpec.document))
    ofValue (document namesakes) "::" = .ok namesakeModel ∧
      (namesakeModel.classes.map Class.qualifiedName).Nodup ∧
      namesakeModel.Denotes "Order" 1 ∧ namesakeModel.Denotes "shop::Order" 2 ∧
      namesakeModel.Denotes "Customer" 0 ∧
      ∃ (σ : Equiv.Perm ℕ) (n : Model), ofValue (document namesakes.reverse) "::" = .ok n ∧
        Reorders σ namesakeModel n := by
  have haccepted : ofValue (.map (listing (namesakes.map ClassSpec.document))) "::" =
      .ok namesakeModel := by
    with_unfolding_all rfl
  have hspec : ModelSpec.check (.map (listing (namesakes.map ClassSpec.document))) =
      .ok ⟨"model", namesakes⟩ := by
    with_unfolding_all rfl
  have hdistinct : (namesakeModel.classes.map Class.qualifiedName).Nodup := by decide +kernel
  obtain ⟨hresolved, hreordered⟩ := ofValue_resolves haccepted hdistinct
  have hdenotes : ∀ i j name, (⟨"model", namesakes⟩ : ModelSpec).typeName? i j = some name →
      name ≠ "" → ∀ k c, namesakeModel.classes[k]? = some c →
        namesakeModel.typeAt? i j = some (.object c.name none (some k)) →
        namesakeModel.Denotes name k :=
    fun i j name hname hne k c hc => ((hresolved _ hspec i j name hname hne).1 k c hc).mp
  have hname : ∀ vs, Value.field? "name" (listing vs) = none := by
    intro vs
    simp [listing, Value.field?, Value.lookup?, Value.agrees_text]
  have hclasses : ∀ vs, Value.field? "classes" (listing vs) = some (.list vs) := by
    intro vs
    simp [listing]
  obtain ⟨σ, n, -, hn, hreorders, -⟩ := hreordered _ _ _ _ rfl ((hname _).trans (hname _).symm)
    (hclasses _) (hclasses _) ((List.reverse_perm namesakes).map ClassSpec.document)
  refine ⟨haccepted, hdistinct, ?_, ?_, ?_, σ, n, hn, hreorders⟩
  · exact hdenotes 0 0 "Order" rfl (by decide) 1 _ rfl (by decide +kernel)
  · exact hdenotes 0 1 "shop::Order" rfl (by decide) 2 _ rfl (by decide +kernel)
  · exact hdenotes 2 0 "Customer" rfl (by decide) 0 _ rfl (by decide +kernel)

end Model

end Codegen
