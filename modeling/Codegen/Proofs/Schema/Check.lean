import Codegen.Schema.Check
import Mathlib.Data.List.Forall2

/-!
What checks accept and what they report. The problems of a document are those of its parts one after
another, each with its place, so that no part hides the problems of another one.
-/

namespace Codegen

namespace Checked

variable {α β : Type}

/-! Acceptance. -/

theorem map_ok_iff {f : α → β} {x : Checked α} {y : β} :
    x.map f = .ok y ↔ ∃ z, x = .ok z ∧ f z = y := by
  cases x <;> simp [Except.map]

theorem apply_ok_iff {f : Checked (α → β)} {x : Checked α} {y : β} :
    apply f x = .ok y ↔ ∃ g z, f = .ok g ∧ x = .ok z ∧ g z = y := by
  cases f <;> cases x <;> simp [apply]

theorem under_ok_iff {step : DocumentStep} {x : Checked α} {y : α} :
    under step x = .ok y ↔ x = .ok y := by
  cases x <;> simp [under]

theorem items_ok_iff {check : Value → Checked α} {vs : List Value} {xs : List α} (i : Nat) :
    items check i vs = .ok xs ↔ List.Forall₂ (fun v x => check v = .ok x) vs xs := by
  induction vs generalizing i xs with
  | nil => simp [items, eq_comm]
  | cons v vs ih =>
      simp only [items, apply_ok_iff, map_ok_iff, under_ok_iff, ih, List.forall₂_cons_left_iff]
      constructor
      · rintro ⟨_, rest, ⟨x, hx, rfl⟩, hrest, rfl⟩
        exact ⟨x, rest, hx, hrest, rfl⟩
      · rintro ⟨x, rest, hx, hrest, rfl⟩
        exact ⟨_, rest, ⟨x, hx, rfl⟩, hrest, rfl⟩

/-! Problems. -/

def problems : Checked α → List SchemaProblem
  | .ok _ => []
  | .error problems => problems

@[simp] theorem problems_ok (x : α) : problems (.ok x) = [] := rfl

@[simp] theorem problems_error (ps : List SchemaProblem) : problems (.error ps : Checked α) = ps := rfl

@[simp] theorem problems_map (f : α → β) (x : Checked α) : problems (x.map f) = x.problems := by
  cases x <;> rfl

@[simp] theorem problems_apply (f : Checked (α → β)) (x : Checked α) :
    (apply f x).problems = f.problems ++ x.problems := by
  cases f <;> cases x <;> simp [apply]

@[simp] theorem problems_under (step : DocumentStep) (x : Checked α) :
    (under step x).problems = x.problems.map (·.under step) := by
  cases x <;> rfl

theorem problems_items (check : Value → Checked α) (i : Nat) (vs : List Value) :
    (items check i vs).problems =
      (vs.zipIdx i).flatMap fun (v, j) => (check v).problems.map (·.under (.item j)) := by
  induction vs generalizing i with
  | nil => rfl
  | cons v vs ih => simp [items, ih]

def IsReasoned (x : Checked α) : Prop := x.problems = [] → ∃ y, x = .ok y

theorem IsReasoned.ok (x : α) : IsReasoned (.ok x : Checked α) := fun _ => ⟨x, rfl⟩

theorem IsReasoned.refuse (fault : SchemaFault) (input : Value) :
    IsReasoned (refuse fault input : Checked α) := by
  intro h
  cases h

theorem IsReasoned.map {x : Checked α} (h : x.IsReasoned) (f : α → β) :
    IsReasoned (x.map f) := by
  intro hnone
  rw [problems_map] at hnone
  obtain ⟨y, rfl⟩ := h hnone
  exact ⟨f y, rfl⟩

theorem IsReasoned.apply {f : Checked (α → β)} {x : Checked α} (hf : f.IsReasoned) (hx : x.IsReasoned) :
    (apply f x).IsReasoned := by
  intro hnone
  rw [problems_apply, List.append_eq_nil_iff] at hnone
  obtain ⟨g, rfl⟩ := hf hnone.1
  obtain ⟨y, rfl⟩ := hx hnone.2
  exact ⟨g y, rfl⟩

theorem IsReasoned.under {x : Checked α} (h : x.IsReasoned) (step : DocumentStep) :
    (under step x).IsReasoned := by
  intro hnone
  rw [problems_under, List.map_eq_nil_iff] at hnone
  obtain ⟨y, rfl⟩ := h hnone
  exact ⟨y, rfl⟩

theorem IsReasoned.items {check : Value → Checked α} (h : ∀ v, (check v).IsReasoned) (i : Nat)
    (vs : List Value) : (items check i vs).IsReasoned := by
  induction vs generalizing i with
  | nil => exact .ok []
  | cons v vs ih => exact .apply (.map (.under (h v) _) _) (ih (i + 1))

end Checked

/-! Checks against relations. -/

namespace Value

/-- The elements of a list, or of what may stand for one. -/
def elements? : Value → Option (List Value)
  | list vs | tuple vs | set vs => some vs
  | _ => none

/-- A value writes a text if it is the text, or its bytes. -/
inductive WritesText : Value → String → Prop
  | text (s : String) : WritesText (.text s) s
  | bytes {bs : List UInt8} {s : String} :
      String.fromUTF8? ⟨bs.toArray⟩ = some s → WritesText (.bytes bs) s

inductive WritesOptionalText : Value → Option String → Prop
  | null : WritesOptionalText .null none
  | text {v : Value} {s : String} : WritesText v s → WritesOptionalText v (some s)

inductive WritesBoolean : Value → Bool → Prop
  | bool (b : Bool) : WritesBoolean (.bool b) b
  | zero : WritesBoolean (.int 0) false
  | one : WritesBoolean (.int 1) true
  | realZero {x : Float} : Number.integerOfFloat? x = some 0 → WritesBoolean (.float x) false
  | realOne {x : Float} : Number.integerOfFloat? x = some 1 → WritesBoolean (.float x) true
  | word {v : Value} {s : String} {b : Bool} :
      WritesText v s → Checked.booleanWord? s = some b → WritesBoolean v b

/-- A list is written element by element, in its order. -/
def WritesList {α : Type} (writes : Value → α → Prop) (v : Value) (xs : List α) : Prop :=
  ∃ vs, v.elements? = some vs ∧ List.Forall₂ writes vs xs

/-- What a field writes, or its default where it is absent. -/
inductive WritesField {α : Type} (name : String) (writes : Value → α → Prop) (default : Option α)
    (fields : List (Value × Value)) (x : α) : Prop
  | given {v : Value} : field? name fields = some v → writes v x → WritesField name writes default fields x
  | absent : field? name fields = none → default = some x → WritesField name writes default fields x

/-- What a record writes in its fields. -/
def WritesRecord {α : Type} (writes : List (Value × Value) → α → Prop) (v : Value) (x : α) : Prop :=
  ∃ fields, v = .map fields ∧ writes fields x

/-- The elements of the list in a field; none where there is no list. -/
def elements (name : String) (fields : List (Value × Value)) : List Value :=
  ((field? name fields).bind elements?).getD []

theorem WritesField.default_eq {α : Type} {name : String} {writes : Value → α → Prop}
    {default : Option α} {fields : List (Value × Value)} {x : α}
    (h : WritesField name writes default fields x) (habsent : field? name fields = none) :
    default = some x := by
  cases h with
  | given hgiven _ =>
      rw [habsent] at hgiven
      cases hgiven
  | absent _ hdefault => exact hdefault

theorem WritesField.forall₂_elements {α : Type} {name : String} {writes : Value → α → Prop}
    {fields : List (Value × Value)} {xs : List α}
    (h : WritesField name (WritesList writes) (some []) fields xs) :
    List.Forall₂ writes (elements name fields) xs := by
  rw [elements]
  cases h with
  | given hgiven hwrites =>
      obtain ⟨vs, hvs, hitems⟩ := hwrites
      rw [hgiven, Option.bind_some, hvs]
      exact hitems
  | absent hgiven hdefault =>
      cases hdefault
      rw [hgiven]
      exact .nil

end Value

/-- The problem of an item as seen from the document that has the list in a field. -/
def SchemaProblem.inItem (name : String) (i : Nat) (p : SchemaProblem) : SchemaProblem :=
  (p.under (.item i)).under (.field name)

namespace Checked

variable {α β ι : Type}

/-- A check accepts what writes something, and refuses the rest for a reason. -/
structure Judges (check : ι → Checked α) (writes : ι → α → Prop) : Prop where
  accepts : ∀ v x, check v = .ok x ↔ writes v x
  isReasoned : ∀ v, (check v).IsReasoned

theorem Judges.problems_eq_nil_iff {check : ι → Checked α} {writes : ι → α → Prop}
    (h : Judges check writes) (v : ι) : (check v).problems = [] ↔ ∃ x, writes v x := by
  constructor
  · intro hnone
    obtain ⟨x, hx⟩ := h.isReasoned v hnone
    exact ⟨x, (h.accepts v x).mp hx⟩
  · rintro ⟨x, hx⟩
    rw [(h.accepts v x).mpr hx, problems_ok]

theorem Judges.congr {check : ι → Checked α} {writes others : ι → α → Prop} (h : Judges check writes)
    (hsame : ∀ v x, others v x ↔ writes v x) : Judges check others :=
  ⟨fun v x => (h.accepts v x).trans (hsame v x).symm, h.isReasoned⟩

theorem Judges.map {check : ι → Checked α} {writes : ι → α → Prop} (h : Judges check writes) (f : α → β) :
    Judges (fun v => (check v).map f) fun v y => ∃ x, writes v x ∧ f x = y :=
  ⟨fun v y => by simp only [map_ok_iff, h.accepts], fun v => (h.isReasoned v).map f⟩

theorem Judges.apply {first : ι → Checked (α → β)} {second : ι → Checked α} {writes : ι → (α → β) → Prop}
    {others : ι → α → Prop} (hfirst : Judges first writes) (hsecond : Judges second others) :
    Judges (fun v => apply (first v) (second v)) fun v y => ∃ g x, writes v g ∧ others v x ∧ g x = y :=
  ⟨fun v y => by simp only [apply_ok_iff, hfirst.accepts, hsecond.accepts],
    fun v => (hfirst.isReasoned v).apply (hsecond.isReasoned v)⟩

theorem Judges.eq_of_writes {check : ι → Checked α} {writes : ι → α → Prop} (h : Judges check writes)
    {v : ι} {x y : α} (hx : writes v x) (hy : writes v y) : x = y :=
  Except.ok.inj (((h.accepts v x).mpr hx).symm.trans ((h.accepts v y).mpr hy))

theorem judges_text : Judges text Value.WritesText := by
  refine ⟨fun v s => ?_, fun v => ?_⟩
  · constructor
    · intro h
      cases v with
      | text s' =>
          cases h
          exact .text s
      | bytes bs =>
          rw [text] at h
          split at h
          · next hread =>
            cases h
            exact .bytes hread
          · cases h
      | _ => cases h
    · intro h
      cases h with
      | text => rfl
      | bytes hread => rw [text, hread]
  · cases v with
    | text s => exact .ok s
    | bytes bs =>
        rw [text]
        split
        · exact .ok _
        · exact .refuse _ _
    | _ => exact .refuse _ _

theorem optionalText_of_ne_null {v : Value} (h : v ≠ .null) : optionalText v = (text v).map some := by
  cases v <;> first | rfl | exact absurd rfl h

theorem judges_optionalText : Judges optionalText Value.WritesOptionalText := by
  refine ⟨fun v s => ?_, fun v => ?_⟩ <;> by_cases hv : v = .null
  · subst hv
    constructor
    · rintro ⟨⟩
      exact .null
    · intro h
      cases h with
      | null => rfl
      | text htext => cases htext
  · rw [optionalText_of_ne_null hv, map_ok_iff]
    constructor
    · rintro ⟨written, htext, rfl⟩
      exact .text ((judges_text.accepts _ _).mp htext)
    · intro h
      cases h with
      | null => exact absurd rfl hv
      | text htext => exact ⟨_, (judges_text.accepts _ _).mpr htext, rfl⟩
  · subst hv
    exact .ok none
  · rw [optionalText_of_ne_null hv]
    exact .map (judges_text.isReasoned v) some

theorem writesBoolean_of_boolean {v : Value} {b : Bool} (h : boolean v = .ok b) :
    v.WritesBoolean b := by
  unfold boolean at h
  dsimp only at h
  split at h
  · cases h
    exact .bool b
  · split_ifs at h with hzero hone <;> cases h
    · exact hzero ▸ .zero
    · exact hone ▸ .one
  · split at h
    · next hx =>
      split_ifs at h with hzero hone <;> cases h
      · exact .realZero (hzero ▸ hx)
      · exact .realOne (hone ▸ hx)
    · cases h
  · split at h
    · next hword =>
      cases h
      exact .word (.text _) hword
    · cases h
  · split at h
    · next hread =>
      split at h
      · next hword =>
        cases h
        exact .word (.bytes hread) hword
      · cases h
    · cases h
  · cases h

theorem boolean_of_writesBoolean {v : Value} {b : Bool} (h : v.WritesBoolean b) :
    boolean v = .ok b := by
  cases h with
  | bool => rfl
  | zero => rfl
  | one => rfl
  | realZero hx => simp [boolean, hx]
  | realOne hx => simp [boolean, hx]
  | word htext hword => cases htext with
    | text => simp [boolean, hword]
    | bytes hread => simp [boolean, hread, hword]

theorem boolean_isReasoned (v : Value) : (boolean v).IsReasoned := by
  unfold boolean
  dsimp only
  repeat' split
  all_goals first
    | exact .ok _
    | exact .refuse _ _

theorem judges_boolean : Judges boolean Value.WritesBoolean :=
  ⟨fun _ _ => ⟨writesBoolean_of_boolean, boolean_of_writesBoolean⟩, boolean_isReasoned⟩

theorem list_eq (check : Value → Checked α) (v : Value) :
    list check v = match v.elements? with
      | some vs => items check 0 vs
      | none => refuse .notList v := by
  cases v <;> rfl

theorem judges_list {check : Value → Checked α} {writes : Value → α → Prop} (h : Judges check writes) :
    Judges (list check) (Value.WritesList writes) := by
  refine ⟨fun v xs => ?_, fun v => ?_⟩ <;> rw [list_eq]
  · rw [Value.WritesList]
    cases v.elements? with
    | none => simp [refuse]
    | some vs => simp [items_ok_iff, h.accepts]
  · cases v.elements? with
    | none => exact .refuse _ v
    | some vs => exact .items h.isReasoned 0 vs

theorem judges_field {name : String} {check : Value → Checked α} {writes : Value → α → Prop}
    (h : Judges check writes) (otherwise : List (Value × Value) → Checked α) (default : Option α)
    (haccepts : ∀ fields x, otherwise fields = .ok x ↔ default = some x)
    (hreasoned : ∀ fields, (otherwise fields).IsReasoned) :
    Judges (fun fields => field name check (otherwise fields) fields)
      (Value.WritesField name writes default) := by
  refine ⟨fun fields x => ?_, fun fields => ?_⟩ <;> simp only [field]
  · rw [under_ok_iff]
    constructor
    · intro hok
      cases hgiven : Value.field? name fields with
      | none => exact .absent hgiven ((haccepts fields x).mp (by rwa [hgiven] at hok))
      | some v => exact .given hgiven ((h.accepts v x).mp (by rwa [hgiven] at hok))
    · intro hwrites
      cases hwrites with
      | given hgiven hwrites =>
          rw [hgiven]
          exact (h.accepts _ x).mpr hwrites
      | absent hgiven hdefault =>
          rw [hgiven]
          exact (haccepts fields x).mpr hdefault
  · refine .under ?_ _
    cases Value.field? name fields with
    | none => exact hreasoned fields
    | some v => exact h.isReasoned v

theorem judges_optionalField (name : String) {check : Value → Checked α} {writes : Value → α → Prop}
    (h : Judges check writes) (default : α) :
    Judges (field name check (.ok default)) (Value.WritesField name writes (some default)) :=
  judges_field h (fun _ => .ok default) _ (fun _ _ => by simp) fun _ => .ok default

theorem judges_requiredField (name : String) {check : Value → Checked α} {writes : Value → α → Prop}
    (h : Judges check writes) :
    Judges (fun fields => field name check (refuse .required (.map fields)) fields)
      (Value.WritesField name writes none) :=
  judges_field h _ _ (fun _ _ => by simp [refuse]) fun _ => .refuse _ _

theorem judges_record {check : List (Value × Value) → Checked α}
    {writes : List (Value × Value) → α → Prop} (h : Judges check writes) (name : String) :
    Judges (record name check) (Value.WritesRecord writes) := by
  refine ⟨fun v x => ?_, fun v => ?_⟩
  · constructor
    · intro hok
      cases v with
      | map fields => exact ⟨fields, rfl, (h.accepts fields x).mp hok⟩
      | _ => cases hok
    · rintro ⟨fields, rfl, hwrites⟩
      exact (h.accepts fields x).mpr hwrites
  · cases v with
    | map fields => exact h.isReasoned fields
    | _ => exact .refuse _ _

/-! Lists in fields. -/

/-- The problem of a field that has something else than a list. -/
def listFault (name : String) (fields : List (Value × Value)) : List SchemaProblem :=
  match Value.field? name fields with
  | none => []
  | some v => if v.elements?.isSome then [] else [⟨[.field name], .notList, v⟩]

theorem problems_listField (name : String) (check : Value → Checked α) (fields : List (Value × Value)) :
    (field name (list check) (.ok []) fields).problems = listFault name fields ++
      (Value.elements name fields).zipIdx.flatMap fun (v, i) =>
        (check v).problems.map (SchemaProblem.inItem name i) := by
  rw [field, problems_under, listFault, Value.elements]
  cases Value.field? name fields with
  | none => rfl
  | some v =>
      dsimp only [Option.bind_some]
      rw [list_eq]
      cases v.elements? with
      | none => rfl
      | some vs =>
          simp only [problems_items, List.map_flatMap, List.map_map, Option.isSome_some, if_true,
            List.nil_append, Option.getD_some]
          rfl

end Checked

end Codegen
