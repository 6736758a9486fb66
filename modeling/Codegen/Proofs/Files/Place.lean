import Codegen.Workspace.Basic
import Mathlib.Data.List.Infix
import Mathlib.Tactic.Common

/-! Places of a tree: what stands at a place after a change, which changes leave the links as they are, and
which places no link leads away from. -/

namespace Codegen.Files.Tree

variable {α : Type}

/-! What stands at a place after an entry was put into the tree. -/

private theorem lookup_replace_self {entries : List (Place × Entry α)} {place : Place}
    (h : entries.any (·.1 = place) = true) (entry : Entry α) :
    (entries.map fun (p, e) => if p = place then (p, entry) else (p, e)).lookup place =
      some entry := by
  induction entries with
  | nil => cases h
  | cons head rest ih =>
      obtain ⟨p, e⟩ := head
      by_cases hp : p = place
      · simp [hp]
      · have hne : (place == p) = false := beq_eq_false_iff_ne.mpr (Ne.symm hp)
        have hrest : rest.any (·.1 = place) = true := by simpa [hp] using h
        simp only [List.map_cons, hp, if_false, List.lookup_cons, hne]
        exact ih hrest

private theorem lookup_replace_of_ne (entries : List (Place × Entry α)) {place other : Place}
    (hother : other ≠ place) (entry : Entry α) :
    (entries.map fun (p, e) => if p = place then (p, entry) else (p, e)).lookup other =
      entries.lookup other := by
  induction entries with
  | nil => rfl
  | cons head rest ih =>
      obtain ⟨p, e⟩ := head
      by_cases hp : p = place
      · have hne : (other == p) = false := beq_eq_false_iff_ne.mpr (hp ▸ hother)
        simp only [List.map_cons, hp, if_true, List.lookup_cons, hp ▸ hne]
        exact ih
      · simp only [List.map_cons, hp, if_false, List.lookup_cons, ih]

theorem get?_put_self (tree : Tree α) {place : Place} (hroot : place ≠ []) (entry : Entry α) :
    (tree.put place entry).get? place = some entry := by
  rw [get?, if_neg hroot, put]
  by_cases h : tree.entries.any (·.1 = place) = true
  · rw [if_pos h]
    exact lookup_replace_self h entry
  · rw [if_neg h, List.lookup_append]
    have hnone : tree.entries.lookup place = none := by
      rw [List.lookup_eq_none_iff]
      intro head hhead
      simp only [List.any_eq_true, decide_eq_true_eq, not_exists, not_and] at h
      exact bne_iff_ne.mpr (Ne.symm (h head hhead))
    simp [hnone]

theorem get?_put_of_ne (tree : Tree α) {place other : Place} (hother : other ≠ place)
    (entry : Entry α) : (tree.put place entry).get? other = tree.get? other := by
  rw [get?, get?, put]
  by_cases h : tree.entries.any (·.1 = place) = true
  · rw [if_pos h, lookup_replace_of_ne tree.entries hother]
  · have hne : (other == place) = false := beq_eq_false_iff_ne.mpr hother
    rw [if_neg h, List.lookup_append]
    simp [List.lookup_cons, hne]

/-! Changes that leave the links as they are. -/

def SameLinks (tree after : Tree α) : Prop :=
  ∀ place target, after.get? place = some (.link target) ↔ tree.get? place = some (.link target)

namespace SameLinks

variable {tree middle after : Tree α}

theorem refl (tree : Tree α) : SameLinks tree tree := fun _ _ => Iff.rfl

theorem trans (hfirst : SameLinks tree middle) (hsecond : SameLinks middle after) :
    SameLinks tree after :=
  fun place target => (hsecond place target).trans (hfirst place target)

theorem put_file {place : Place} (hroot : place ≠ [])
    (hplace : ∀ target, tree.get? place ≠ some (.link target)) (content : α) :
    SameLinks tree (tree.put place (.file content)) := by
  intro other target
  by_cases hother : other = place
  · subst hother
    rw [get?_put_self tree hroot]
    constructor
    · intro h
      cases h
    · intro h
      exact absurd h (hplace target)
  · rw [get?_put_of_ne tree hother]

end SameLinks

/-! Where the entries of a tree are listed. -/

/-- The places of the entries, in the order of their creation. -/
def places (tree : Tree α) : List Place := tree.entries.map (·.1)

theorem get?_ne_none_of_mem {tree : Tree α} {place : Place} (h : place ∈ tree.places) :
    tree.get? place ≠ none := by
  rw [get?]
  split
  · exact Option.some_ne_none _
  · intro hnone
    obtain ⟨entry, hentry, rfl⟩ := List.mem_map.mp h
    exact bne_iff_ne.mp (List.lookup_eq_none_iff.mp hnone entry hentry) rfl

theorem places_put_of_mem {tree : Tree α} {place : Place} (h : place ∈ tree.places) (entry : Entry α) :
    (tree.put place entry).places = tree.places := by
  have hany : tree.entries.any (·.1 = place) = true := by
    obtain ⟨old, hold, rfl⟩ := List.mem_map.mp h
    exact List.any_eq_true.mpr ⟨old, hold, decide_eq_true rfl⟩
  rw [put, if_pos hany, places, List.map_map]
  refine List.map_congr_left fun old _ => ?_
  show (if old.1 = place then (old.1, entry) else (old.1, old.2)).1 = old.1
  split <;> rfl

theorem places_put_of_not_mem {tree : Tree α} {place : Place} (h : place ∉ tree.places) (entry : Entry α) :
    (tree.put place entry).places = tree.places ++ [place] := by
  have hany : ¬ tree.entries.any (·.1 = place) = true := by
    rw [List.any_eq_true]
    rintro ⟨old, hold, hplace⟩
    exact h (List.mem_map.mpr ⟨old, hold, of_decide_eq_true hplace⟩)
  rw [put, if_neg hany, places, List.map_append]
  rfl

def Extends (tree after : Tree α) : Prop :=
  ∃ added, after.places = tree.places ++ added ∧ ∀ place ∈ added, place ∉ tree.places

namespace Extends

variable {tree middle after : Tree α}

theorem refl (tree : Tree α) : Extends tree tree := ⟨[], (List.append_nil _).symm, nofun⟩

theorem trans (hfirst : Extends tree middle) (hsecond : Extends middle after) : Extends tree after := by
  obtain ⟨first, hmiddle, hfresh⟩ := hfirst
  obtain ⟨second, hafter, hfresher⟩ := hsecond
  refine ⟨first ++ second, by rw [hafter, hmiddle, List.append_assoc], fun place hplace => ?_⟩
  rcases List.mem_append.mp hplace with hplace | hplace
  · exact hfresh place hplace
  · exact fun hthere => hfresher place hplace (hmiddle ▸ List.mem_append_left first hthere)

theorem put (tree : Tree α) (place : Place) (entry : Entry α) : Extends tree (tree.put place entry) := by
  by_cases h : place ∈ tree.places
  · exact ⟨[], by rw [places_put_of_mem h, List.append_nil], nofun⟩
  · refine ⟨[place], places_put_of_not_mem h entry, fun other hother => ?_⟩
    rwa [List.mem_singleton.mp hother]

end Extends

/-- Directories were created at free places, and nothing else changed. -/
structure Grows (tree after : Tree α) : Prop where
  kept : ∀ place entry, tree.get? place = some entry → after.get? place = some entry
  created : ∀ place entry, after.get? place = some entry →
    tree.get? place = some entry ∨ (entry = .directory ∧ tree.get? place = none)
  listed : Extends tree after

namespace Grows

variable {tree middle after : Tree α}

theorem refl (tree : Tree α) : Grows tree tree := ⟨fun _ _ h => h, fun _ _ h => .inl h, .refl tree⟩

theorem trans (hfirst : Grows tree middle) (hsecond : Grows middle after) : Grows tree after := by
  refine ⟨?_, ?_, hfirst.listed.trans hsecond.listed⟩
  · intro place entry h
    exact hsecond.kept place entry (hfirst.kept place entry h)
  · intro place entry h
    rcases hsecond.created place entry h with hmiddle | ⟨hdirectory, hnone⟩
    · exact hfirst.created place entry hmiddle
    · refine .inr ⟨hdirectory, ?_⟩
      by_contra hsome
      obtain ⟨entry', hentry'⟩ := Option.ne_none_iff_exists'.mp hsome
      rw [hfirst.kept place entry' hentry'] at hnone
      cases hnone

theorem put_directory {place : Place} (hfree : tree.get? place = none) :
    Grows tree (tree.put place .directory) := by
  have hroot : place ≠ [] := by
    rintro rfl
    rw [get?_nil] at hfree
    cases hfree
  refine ⟨?_, ?_, .put tree place .directory⟩
  · intro other entry h
    by_cases hother : other = place
    · subst hother
      rw [hfree] at h
      cases h
    · rw [get?_put_of_ne tree hother, h]
  · intro other entry h
    by_cases hother : other = place
    · subst hother
      rw [get?_put_self tree hroot] at h
      exact .inr ⟨(Option.some.inj h).symm, hfree⟩
    · rw [get?_put_of_ne tree hother] at h
      exact .inl h

theorem sameLinks (h : Grows tree after) : SameLinks tree after := by
  intro place target
  constructor
  · intro hafter
    rcases h.created place _ hafter with htree | ⟨hdirectory, _⟩
    · exact htree
    · cases hdirectory
  · exact h.kept place _

end Grows

/-! What stands where a walk ends. -/

theorem walkWith_found? {tree : Tree α} {follow : Bool}
    {jump : Place → List String → Except Refusal (Target α)}
    (hjump : ∀ at_ names target, jump at_ names = .ok target →
      target.found? = tree.get? target.place)
    {at_ : Place} {names : List String} {target : Target α}
    (h : tree.walkWith follow jump at_ names = .ok target) :
    target.found? = tree.get? target.place := by
  induction names generalizing at_ with
  | nil =>
      cases h
      rfl
  | cons name rest ih =>
      rw [walkWith] at h
      split at h
      · exact ih h
      · split at h
        · cases h
        · split at h
          · rename_i hnone
            split at h
            · cases h
              exact hnone.symm
            · cases h
          · exact ih h
          · rename_i content hfile
            split at h
            · cases h
              exact hfile.symm
            · cases h
          · rename_i link hlink
            split at h
            · cases h
              exact hlink.symm
            · exact hjump _ _ _ h

theorem walk_found? {tree : Tree α} {follow : Bool} {links : Nat} {at_ : Place}
    {names : List String} {target : Target α} (h : tree.walk follow links at_ names = .ok target) :
    target.found? = tree.get? target.place := by
  induction links generalizing at_ names target with
  | zero => exact walkWith_found? (fun _ _ _ hjump => by cases hjump) h
  | succ links ih => exact walkWith_found? (fun _ _ _ hjump => ih hjump) h

/-! Places that lead to themselves. -/

/-- There are no links on the way to a place or at it, and no double dots. -/
def Plain (tree : Tree α) (place : Place) : Prop :=
  ".." ∉ place ∧ ∀ above target, above <+: place → tree.get? above ≠ some (.link target)

theorem isLink_eq_false_iff {tree : Tree α} {place : Place} :
    tree.isLink place = false ↔ ∀ target, tree.get? place ≠ some (.link target) := by
  rw [isLink]
  split
  · rename_i target hlink
    simp [hlink]
  · rename_i hlink
    simpa using hlink

instance (tree : Tree α) (place : Place) : Decidable (tree.Plain place) :=
  decidable_of_iff (".." ∉ place ∧ ∀ above ∈ place.inits, tree.isLink above = false) <| by
    simp only [Plain, List.mem_inits, isLink_eq_false_iff]
    exact and_congr_right fun _ =>
      ⟨fun h above target habove => h above habove target,
        fun h above habove target => h above target habove⟩

namespace Plain

variable {tree : Tree α} {place : Place}

theorem nil (tree : Tree α) : tree.Plain [] := by
  refine ⟨List.not_mem_nil, ?_⟩
  intro above target habove
  rw [List.prefix_nil.mp habove, get?_nil]
  simp

theorem of_prefix {above : Place} (h : tree.Plain place) (habove : above <+: place) :
    tree.Plain above :=
  ⟨fun hmem => h.1 (habove.subset hmem), fun other target hother =>
    h.2 other target (hother.trans habove)⟩

theorem notLink (h : tree.Plain place) (target : String) :
    tree.get? place ≠ some (.link target) :=
  h.2 place target List.prefix_rfl

theorem append_name {name : String} (h : tree.Plain place) (hname : name ≠ "..")
    (hlink : ∀ target, tree.get? (place ++ [name]) ≠ some (.link target)) :
    tree.Plain (place ++ [name]) := by
  constructor
  · intro hmem
    rcases List.mem_append.mp hmem with hplace | hlast
    · exact h.1 hplace
    · exact hname (List.mem_singleton.mp hlast).symm
  · intro above target habove
    rcases List.prefix_concat_iff.mp habove with heq | hbefore
    · rw [heq]
      exact hlink target
    · exact h.2 above target hbefore

theorem of_sameLinks {after : Tree α} (h : tree.Plain place) (hlinks : SameLinks tree after) :
    after.Plain place :=
  ⟨h.1, fun above target habove hafter =>
    h.2 above target habove ((hlinks above target).mp hafter)⟩

end Plain

end Codegen.Files.Tree
