import Codegen.Template.Rendering

/-! What a template makes depends on the variables that it uses, and on no others. -/

namespace Codegen.Template

def AgreeOn (known : String → Prop) (bindings bindings' : List (String × Value)) : Prop :=
  ∀ name, known name → bindings.lookup name = bindings'.lookup name

section

variable {known : String → Prop} {scope : Scope} {bindings : List (String × Value)}

theorem Scope.value_congr {name : String} (h : AgreeOn known scope.bindings bindings)
    (hname : known name) : { scope with bindings }.value name = scope.value name := by
  simp only [Scope.value, h name hname]

theorem Scope.along_bindings (path : List Value) :
    ∀ v, { scope with bindings }.along path v = scope.along path v := by
  induction path with
  | nil => exact fun _ => rfl
  | cons index path ih =>
      intro v
      simp only [Scope.along, ih]
      rfl

theorem Filter.apply_bindings {name : String} {filter : Filter}
    (h : Filter.all.lookup name = some filter) :
    filter.apply { scope with bindings } = filter.apply scope := by
  have hall : ∀ entry ∈ Filter.all,
      entry.2.apply { scope with bindings } = entry.2.apply scope := by
    simp only [Filter.all, List.forall_mem_cons]
    refine ⟨rfl, rfl, rfl, rfl, rfl, rfl, ?join, rfl, rfl, rfl, rfl, ?sort, rfl, rfl, rfl, nofun⟩
    all_goals
      funext v given
      simp only [join, sort, Scope.along_bindings]
  obtain ⟨before, rest, hsplit, _⟩ := List.lookup_eq_some_iff.mp h
  exact hall (name, filter) (by simp [hsplit])

theorem Scope.filtered_bindings (name : String) :
    { scope with bindings }.filtered name = scope.filtered name := by
  funext subject positional named
  simp only [Scope.filtered]
  cases scope.helpers.lookup name with
  | some helper => rfl
  | none =>
      cases hfilter : Filter.all.lookup name with
      | none => rfl
      | some filter => simp only [Filter.apply_bindings hfilter]

/-! Expressions: one case for each form, with what the names in its parts are known for. -/

mutual

theorem Expr.evaluate_congr (h : AgreeOn known scope.bindings bindings) : ∀ (e : Expr),
    (∀ name, e.holds (Expr.isNamed name) = true → known name) →
      e.evaluate { scope with bindings } = e.evaluate scope
  | .constant _, _ => rfl
  | .absent _, _ => rfl
  | .name n, hknown => by
      simp only [Expr.evaluate]
      rw [Scope.value_congr h (hknown n (by simp [Expr.holds, Expr.isNamed]))]
  | .list items, hknown => by
      simp only [Expr.evaluate]
      rw [evaluateItems_congr h items fun name hname => hknown name (by simp [Expr.holds, hname])]
  | .tuple items, hknown => by
      simp only [Expr.evaluate]
      rw [evaluateItems_congr h items fun name hname => hknown name (by simp [Expr.holds, hname])]
  | .map entries, hknown => by
      simp only [Expr.evaluate]
      rw [evaluateEntries_congr h entries fun name hname => hknown name (by simp [Expr.holds, hname])]
  | .part owner _, hknown => by
      simp only [Expr.evaluate]
      rw [owner.evaluate_congr h fun name hname => hknown name (by simp [Expr.holds, hname])]
      rfl
  | .item owner index, hknown => by
      simp only [Expr.evaluate]
      rw [owner.evaluate_congr h fun name hname => hknown name (by simp [Expr.holds, hname]),
        index.evaluate_congr h fun name hname => hknown name (by simp [Expr.holds, hname])]
      rfl
  | .call function positional named, hknown => by
      simp only [Expr.evaluate]
      rw [function.evaluate_congr h fun name hname => hknown name (by simp [Expr.holds, hname]),
        evaluateItems_congr h positional fun name hname => hknown name (by simp [Expr.holds, hname]),
        evaluateNamed_congr h named fun name hname => hknown name (by simp [Expr.holds, hname])]
      rfl
  | .filter subject _ positional named, hknown => by
      simp only [Expr.evaluate]
      rw [subject.evaluate_congr h fun name hname => hknown name (by simp [Expr.holds, hname]),
        evaluateItems_congr h positional fun name hname => hknown name (by simp [Expr.holds, hname]),
        evaluateNamed_congr h named fun name hname => hknown name (by simp [Expr.holds, hname])]
      simp only [Scope.filtered_bindings]
  | .test subject _ positional named, hknown => by
      simp only [Expr.evaluate]
      rw [subject.evaluate_congr h fun name hname => hknown name (by simp [Expr.holds, hname]),
        evaluateItems_congr h positional fun name hname => hknown name (by simp [Expr.holds, hname]),
        evaluateNamed_congr h named fun name hname => hknown name (by simp [Expr.holds, hname])]
  | .signed sign subject, hknown => by
      cases sign <;> simp only [Expr.evaluate] <;>
        rw [subject.evaluate_congr h fun name hname => hknown name (by simp [Expr.holds, hname])]
  | .binary _ left right, hknown => by
      simp only [Expr.evaluate]
      rw [left.evaluate_congr h fun name hname => hknown name (by simp [Expr.holds, hname]),
        right.evaluate_congr h fun name hname => hknown name (by simp [Expr.holds, hname])]
  | .compare first rest, hknown => by
      simp only [Expr.evaluate]
      rw [first.evaluate_congr h fun name hname => hknown name (by simp [Expr.holds, hname])]
      simp only [evaluateComparisons_congr h rest fun name hname =>
        hknown name (by simp [Expr.holds, hname])]
  | .both left right, hknown => by
      simp only [Expr.evaluate]
      rw [left.evaluate_congr h fun name hname => hknown name (by simp [Expr.holds, hname]),
        right.evaluate_congr h fun name hname => hknown name (by simp [Expr.holds, hname])]
  | .either left right, hknown => by
      simp only [Expr.evaluate]
      rw [left.evaluate_congr h fun name hname => hknown name (by simp [Expr.holds, hname]),
        right.evaluate_congr h fun name hname => hknown name (by simp [Expr.holds, hname])]
  | .negation subject, hknown => by
      simp only [Expr.evaluate]
      rw [subject.evaluate_congr h fun name hname => hknown name (by simp [Expr.holds, hname])]
  | .choice condition chosen otherwise, hknown => by
      simp only [Expr.evaluate]
      rw [condition.evaluate_congr h fun name hname => hknown name (by simp [Expr.holds, hname]),
        chosen.evaluate_congr h fun name hname => hknown name (by simp [Expr.holds, hname]),
        otherwise.evaluate_congr h fun name hname => hknown name (by simp [Expr.holds, hname])]

theorem evaluateItems_congr (h : AgreeOn known scope.bindings bindings) : ∀ (items : List Expr),
    (∀ name, itemsHold (Expr.isNamed name) items = true → known name) →
      evaluateItems { scope with bindings } items = evaluateItems scope items
  | [], _ => rfl
  | e :: rest, hknown => by
      simp only [evaluateItems]
      rw [e.evaluate_congr h fun name hname => hknown name (by simp [itemsHold, hname]),
        evaluateItems_congr h rest fun name hname => hknown name (by simp [itemsHold, hname])]

theorem evaluateEntries_congr (h : AgreeOn known scope.bindings bindings) :
    ∀ (entries : List (Expr × Expr)),
      (∀ name, entriesHold (Expr.isNamed name) entries = true → known name) →
        evaluateEntries { scope with bindings } entries = evaluateEntries scope entries
  | [], _ => rfl
  | (key, value) :: rest, hknown => by
      simp only [evaluateEntries]
      rw [key.evaluate_congr h fun name hname => hknown name (by simp [entriesHold, hname]),
        value.evaluate_congr h fun name hname => hknown name (by simp [entriesHold, hname]),
        evaluateEntries_congr h rest fun name hname => hknown name (by simp [entriesHold, hname])]

theorem evaluateNamed_congr (h : AgreeOn known scope.bindings bindings) :
    ∀ (named : List (String × Expr)),
      (∀ name, namedHold (Expr.isNamed name) named = true → known name) →
        evaluateNamed { scope with bindings } named = evaluateNamed scope named
  | [], _ => rfl
  | (_, e) :: rest, hknown => by
      simp only [evaluateNamed]
      rw [e.evaluate_congr h fun name hname => hknown name (by simp [namedHold, hname]),
        evaluateNamed_congr h rest fun name hname => hknown name (by simp [namedHold, hname])]

theorem evaluateComparisons_congr (h : AgreeOn known scope.bindings bindings) :
    ∀ (rest : List (Comparison × Expr)),
      (∀ name, comparisonsHold (Expr.isNamed name) rest = true → known name) →
        ∀ left, evaluateComparisons { scope with bindings } left rest =
          evaluateComparisons scope left rest
  | [], _, _ => rfl
  | (_, right) :: rest, hknown, left => by
      simp only [evaluateComparisons]
      rw [right.evaluate_congr h fun name hname => hknown name (by simp [comparisonsHold, hname])]
      simp only [evaluateComparisons_congr h rest fun name hname =>
        hknown name (by simp [comparisonsHold, hname])]

end

end

end Codegen.Template
