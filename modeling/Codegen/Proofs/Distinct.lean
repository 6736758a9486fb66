import Mathlib.Data.List.Forall2
import Mathlib.Data.List.Induction
import Mathlib.Data.List.Nodup

/-! The items of a list in the order in which they first come, and reports with one entry for each
cause. -/

namespace Codegen

section

variable {α : Type} [BEq α] [LawfulBEq α]

theorem eraseDups_concat (items : List α) (item : α) :
    (items ++ [item]).eraseDups =
      if item ∈ items then items.eraseDups else items.eraseDups ++ [item] := by
  rw [List.eraseDups_append]
  by_cases h : item ∈ items
  · simp [List.removeAll, h]
  · simp [List.removeAll, h, List.eraseDups_cons]

theorem eraseDups_nodup (items : List α) : items.eraseDups.Nodup := by
  induction items using List.reverseRecOn with
  | nil => exact List.nodup_nil
  | append_singleton items item ih =>
      rw [eraseDups_concat]
      split
      · exact ih
      · next hnew =>
        refine ih.append (List.nodup_singleton item) ?_
        rw [List.disjoint_singleton]
        exact fun hmem => hnew (List.mem_eraseDups.mp hmem)

/-- The first ones of each item, picked with what tells the items apart, are the first ones of what
is picked. -/
theorem eraseDups_filterMap {β : Type} [BEq β] [LawfulBEq β] {pick : α → Option β}
    (hpick : ∀ first second picked, pick first = some picked → pick second = some picked →
      first = second) (items : List α) :
    items.eraseDups.filterMap pick = (items.filterMap pick).eraseDups := by
  induction items using List.reverseRecOn with
  | nil => rfl
  | append_singleton items item ih =>
      rw [eraseDups_concat, List.filterMap_append]
      cases hitem : pick item with
      | none => by_cases hmem : item ∈ items <;> simp [hmem, hitem, ih]
      | some picked =>
          have hmem : picked ∈ items.filterMap pick ↔ item ∈ items := by
            rw [List.mem_filterMap]
            constructor
            · rintro ⟨other, hother, heq⟩
              exact hpick other item picked heq hitem ▸ hother
            · exact fun h => ⟨item, h, hitem⟩
          simp only [List.filterMap_cons, List.filterMap_nil, hitem]
          rw [eraseDups_concat, ← ih]
          by_cases h : item ∈ items
          · rw [if_pos h, if_pos (hmem.mpr h)]
          · rw [if_neg h, if_neg (h ∘ hmem.mp), List.filterMap_append]
            simp [hitem]

end

/-- The reports are those of the causes that have one, each cause being reported once. -/
def Listed {β ρ : Type} (rel : β → ρ → Prop) (reports : List ρ) : Prop :=
  ∃ causes : List β, causes.Nodup ∧ (∀ b, b ∈ causes ↔ ∃ p, rel b p) ∧ List.Forall₂ rel causes reports

namespace Listed

variable {α β γ ρ : Type} {rel other : β → ρ → Prop} {ps qs : List ρ}

theorem nil (h : ∀ b p, ¬ rel b p) : Listed rel [] :=
  ⟨[], .nil, by simpa using h, .nil⟩

theorem single (b : β) (p : ρ) (h : ∀ c q, rel c q ↔ c = b ∧ q = p) : Listed rel [p] :=
  ⟨[b], List.nodup_singleton b, by simp [h], .cons ((h b p).mpr ⟨rfl, rfl⟩) .nil⟩

theorem of_map {causes : List β} (hnodup : causes.Nodup) {report : β → ρ}
    (hrel : ∀ b p, rel b p ↔ b ∈ causes ∧ report b = p) : Listed rel (causes.map report) := by
  refine ⟨causes, hnodup, fun b => by simp [hrel], ?_⟩
  exact List.forall₂_map_right_iff.mpr (List.forall₂_same.mpr fun b hb => (hrel b _).mpr ⟨hb, rfl⟩)

theorem congr (h : Listed rel ps) (hsame : ∀ b p, other b p ↔ rel b p) : Listed other ps := by
  obtain ⟨causes, hnodup, hmem, hreports⟩ := h
  refine ⟨causes, hnodup, fun b => ?_, hreports.imp fun b p => (hsame b p).mpr⟩
  simp only [hmem, hsame]

theorem eq_nil_iff (h : Listed rel ps) : ps = [] ↔ ∀ b p, ¬ rel b p := by
  obtain ⟨causes, -, hmem, hreports⟩ := h
  constructor
  · rintro rfl b p hrel
    cases hreports
    exact List.not_mem_nil ((hmem b).mpr ⟨p, hrel⟩)
  · intro hnone
    cases hreports with
    | nil => rfl
    | cons hrel _ => exact absurd hrel (hnone _ _)

theorem append (hps : Listed rel ps) (hqs : Listed other qs) (hdisjoint : ∀ b p q, rel b p → ¬ other b q) :
    Listed (fun b p => rel b p ∨ other b p) (ps ++ qs) := by
  obtain ⟨first, hfirst, hmem_first, hreports_first⟩ := hps
  obtain ⟨second, hsecond, hmem_second, hreports_second⟩ := hqs
  refine ⟨first ++ second, hfirst.append hsecond fun b hb hb' => ?_, fun b => ?_, ?_⟩
  · obtain ⟨p, hp⟩ := (hmem_first b).mp hb
    obtain ⟨q, hq⟩ := (hmem_second b).mp hb'
    exact hdisjoint b p q hp hq
  · rw [List.mem_append, hmem_first, hmem_second, exists_or]
  · exact List.rel_append (hreports_first.imp fun _ _ => .inl) (hreports_second.imp fun _ _ => .inr)

theorem map (h : Listed rel ps) {g : β → γ} (hg : Function.Injective g) :
    Listed (fun c p => ∃ b, g b = c ∧ rel b p) ps := by
  obtain ⟨causes, hnodup, hmem, hreports⟩ := h
  refine ⟨causes.map g, hnodup.map hg, fun c => ?_, ?_⟩
  · simp only [List.mem_map, hmem]
    constructor
    · rintro ⟨b, ⟨p, hp⟩, rfl⟩
      exact ⟨p, b, rfl, hp⟩
    · rintro ⟨p, b, rfl, hp⟩
      exact ⟨b, ⟨p, hp⟩, rfl⟩
  · exact List.forall₂_map_left_iff.mpr (hreports.imp fun b p hp => ⟨b, rfl, hp⟩)

theorem flatMap {rel : α → β → ρ → Prop} {f : α → List ρ} {items : List α}
    (h : ∀ x ∈ items, Listed (rel x) (f x)) :
    Listed (fun (place : ℕ × β) p => ∃ x, items[place.1]? = some x ∧ rel x place.2 p)
      (items.flatMap f) := by
  induction items with
  | nil => exact .nil (by simp)
  | cons x rest ih =>
      obtain ⟨hx, hrest⟩ := List.forall_mem_cons.mp h
      have hfirst : Function.Injective fun b : β => ((0, b) : ℕ × β) := fun _ _ heq => (Prod.mk.inj heq).2
      have hlater : Function.Injective fun place : ℕ × β => (place.1 + 1, place.2) := by
        rintro ⟨i, b⟩ ⟨j, c⟩ heq
        simpa using heq
      refine ((hx.map hfirst).append ((ih hrest).map hlater) ?_).congr ?_
      · rintro place p q ⟨b, rfl, -⟩ ⟨⟨i, c⟩, heq, -⟩
        cases heq
      · rintro ⟨i, b⟩ p
        cases i with
        | zero => simp
        | succ i => simp

theorem filter (bad : α → Bool) (report : α → ρ) (items : List α) :
    Listed (fun (i : ℕ) p => ∃ x, items[i]? = some x ∧ bad x = true ∧ report x = p)
      ((items.filter bad).map report) := by
  have hitem : ∀ x ∈ items, Listed (fun (_ : Unit) p => bad x = true ∧ report x = p)
      (if bad x then [report x] else []) := by
    intro x _
    split
    · next hbad => exact single () (report x) fun _ p => by simp [hbad, eq_comm]
    · next hgood => exact .nil fun _ _ h => hgood h.1
  have hreports : items.flatMap (fun x => if bad x then [report x] else []) =
      (items.filter bad).map report := by
    induction items with
    | nil => rfl
    | cons x rest ih =>
        rw [List.flatMap_cons, ih fun y hy => hitem y (List.mem_cons_of_mem x hy), List.filter_cons]
        split <;> rfl
  have hfst : Function.Injective fun place : ℕ × Unit => place.1 := by
    rintro ⟨i, _⟩ ⟨j, _⟩ heq
    exact Prod.ext heq rfl
  rw [← hreports]
  refine ((flatMap hitem).map hfst).congr fun i p => ?_
  simp

end Listed

end Codegen
