import Codegen.Proofs.Files.Place
import Mathlib.Data.List.Perm.Subperm

/-! Working out the place that a path names. It comes to an end however many links there are, since only a
circular link is met again while its own target is being worked out; it ends alike in trees with the same links,
and where a walk along the path ends. -/

namespace Codegen.Files.Tree

variable {α : Type} {tree after : Tree α}

/-! How working out a place goes on at a name. -/

section

variable (jump : Place → Path → Except Place Place) {at_ : Place} {name target : String}

theorem resolveWith_up (tree : Tree α) (at_ : Place) (rest : List String) :
    tree.resolveWith jump at_ (".." :: rest) = tree.resolveWith jump at_.dropLast rest := by
  simp only [resolveWith, if_true]

theorem resolveWith_link (hname : name ≠ "..") (hlink : tree.get? (at_ ++ [name]) = some (.link target))
    (rest : List String) :
    tree.resolveWith jump at_ (name :: rest) =
      match jump (at_ ++ [name]) (Path.ofString target) with
      | .ok place => tree.resolveWith jump place rest
      | .error stuck => .error (spelled stuck rest) := by
  cases hjump : jump (at_ ++ [name]) (Path.ofString target) <;>
    simp only [resolveWith, hname, if_false, hlink, hjump]

theorem resolveWith_pass (hname : name ≠ "..")
    (hlink : ∀ target, tree.get? (at_ ++ [name]) ≠ some (.link target)) (rest : List String) :
    tree.resolveWith jump at_ (name :: rest) = tree.resolveWith jump (at_ ++ [name]) rest := by
  rw [resolveWith, if_neg hname]
  split
  · rename_i target htarget
    exact absurd htarget (hlink target)
  · rfl

end

/-! Trees with the same links. -/

theorem mem_places_of_get? {place : Place} (hroot : place ≠ []) (h : tree.get? place ≠ none) :
    place ∈ tree.places := by
  rw [get?, if_neg hroot, Ne, List.lookup_eq_none_iff] at h
  push Not at h
  obtain ⟨entry, hentry, heq⟩ := h
  exact List.mem_map.mpr ⟨entry, hentry, (bne_eq_false_iff_eq.mp (Bool.eq_false_iff.mpr heq)).symm⟩

theorem mem_places_of_link {link : Place} {target : String} (h : tree.get? link = some (.link target)) :
    link ∈ tree.places := by
  refine mem_places_of_get? ?_ (by simp [h])
  rintro rfl
  rw [get?_nil] at h
  cases h

namespace SameLinks

theorem isLink_eq (h : SameLinks tree after) (place : Place) : after.isLink place = tree.isLink place := by
  rw [Bool.eq_iff_iff, ← not_iff_not, Bool.not_eq_true, Bool.not_eq_true, isLink_eq_false_iff, isLink_eq_false_iff]
  exact forall_congr' fun target => not_congr (h place target)

theorem resolveWith_eq (h : SameLinks tree after) {jump jump' : Place → Path → Except Place Place}
    (hjump : ∀ link target, tree.get? link = some (.link target) →
      jump' link (.ofString target) = jump link (.ofString target)) (at_ : Place) (names : List String) :
    after.resolveWith jump' at_ names = tree.resolveWith jump at_ names := by
  induction names generalizing at_ with
  | nil => rfl
  | cons name rest ih =>
      by_cases hname : name = ".."
      · subst hname
        rw [resolveWith_up, resolveWith_up, ih]
      · by_cases hlink : ∃ target, tree.get? (at_ ++ [name]) = some (.link target)
        · obtain ⟨target, hlink⟩ := hlink
          rw [resolveWith_link jump hname hlink, resolveWith_link jump' hname ((h _ _).mpr hlink),
            hjump _ _ hlink]
          cases jump (at_ ++ [name]) (Path.ofString target) with
          | ok place => exact ih place
          | error stuck => rfl
        · rw [not_exists] at hlink
          rw [resolveWith_pass jump hname hlink,
            resolveWith_pass jump' hname fun target htarget => hlink target ((h _ _).mp htarget), ih]

theorem resolveFrom_eq (h : SameLinks tree after) (links : Nat) (active : List Place) (at_ : Place)
    (names : List String) :
    after.resolveFrom links active at_ names = tree.resolveFrom links active at_ names := by
  induction links generalizing active at_ names with
  | zero => exact h.resolveWith_eq (fun _ _ _ => rfl) at_ names
  | succ links ih =>
      refine h.resolveWith_eq (fun link target _ => ?_) at_ names
      rw [ih]

end SameLinks

/-- The active links are links of the tree, each of them once, and there is room for the others. -/
structure Room (tree : Tree α) (links : Nat) (active : List Place) : Prop where
  nodup : active.Nodup
  within : active ⊆ tree.places
  enough : tree.places.length ≤ links + active.length

namespace Room

variable {links : Nat} {active : List Place}

theorem start (h : tree.places.length ≤ links) : tree.Room links [] := ⟨List.nodup_nil, List.nil_subset _, h⟩

theorem next {link : Place} {target : String} (h : tree.Room (links + 1) active) (hnew : link ∉ active)
    (hlink : tree.get? link = some (.link target)) : tree.Room links (link :: active) where
  nodup := List.nodup_cons.mpr ⟨hnew, h.nodup⟩
  within := List.cons_subset.mpr ⟨mem_places_of_link hlink, h.within⟩
  enough := by
    have henough := h.enough
    rw [List.length_cons]
    omega

theorem full {link : Place} {target : String} (h : tree.Room 0 active)
    (hlink : tree.get? link = some (.link target)) : link ∈ active := by
  by_contra hnew
  have hnodup : (link :: active).Nodup := List.nodup_cons.mpr ⟨hnew, h.nodup⟩
  have hlength := (hnodup.subperm (List.cons_subset.mpr ⟨mem_places_of_link hlink, h.within⟩)).length_le
  have henough := h.enough
  rw [List.length_cons] at hlength
  omega

theorem resolveFrom_eq {more : Nat} (h : tree.Room links active) (hmore : links ≤ more) (at_ : Place)
    (names : List String) : tree.resolveFrom more active at_ names = tree.resolveFrom links active at_ names := by
  induction links generalizing more active at_ names with
  | zero =>
      cases more with
      | zero => rfl
      | succ more =>
          refine (SameLinks.refl tree).resolveWith_eq (fun link target hlink => ?_) at_ names
          exact if_pos (h.full hlink)
  | succ links ih =>
      obtain ⟨more, rfl⟩ := Nat.exists_eq_succ_of_ne_zero (Nat.ne_zero_of_lt hmore)
      refine (SameLinks.refl tree).resolveWith_eq (fun link target hlink => ?_) at_ names
      by_cases hactive : link ∈ active
      · rw [if_pos hactive, if_pos hactive]
      · rw [if_neg hactive, if_neg hactive]
        exact ih (h.next hactive hlink) (Nat.le_of_succ_le_succ hmore) _ _

end Room

theorem SameLinks.resolve_eq (h : SameLinks tree after) (cwd : Place) (path : Path) :
    after.resolve cwd path = tree.resolve cwd path := by
  have hsame : ∀ at_, after.resolveFrom after.entries.length [] at_ path.parts =
      tree.resolveFrom tree.entries.length [] at_ path.parts := by
    intro at_
    have hafter : after.Room after.entries.length [] := .start (by simp [places])
    have htree : tree.Room tree.entries.length [] := .start (by simp [places])
    rw [← hafter.resolveFrom_eq (Nat.le_max_right tree.entries.length _),
      ← htree.resolveFrom_eq (Nat.le_max_left _ after.entries.length), h.resolveFrom_eq]
  rw [resolve, resolve, hsame]
  simp only [h.isLink_eq]

theorem SameLinks.resolve?_eq (h : SameLinks tree after) (cwd : Place) (path : Path) :
    after.resolve? cwd path = tree.resolve? cwd path := by
  rw [resolve?, resolve?, h.resolve_eq]

/-! Where a walk along the path ends. -/

/-- The place that names lead to, with the greatest number of links whose targets are worked out within each
other. -/
inductive Works (tree : Tree α) : Nat → Place → List String → Place → Prop
  | here (at_ : Place) : Works tree 0 at_ [] at_
  | up {depth : Nat} {at_ place : Place} {rest : List String} (hrest : Works tree depth at_.dropLast rest place) :
      Works tree depth at_ (".." :: rest) place
  | pass {depth : Nat} {at_ place : Place} {name : String} {rest : List String} (hname : name ≠ "..")
      (hlink : ∀ target, tree.get? (at_ ++ [name]) ≠ some (.link target))
      (hrest : Works tree depth (at_ ++ [name]) rest place) : Works tree depth at_ (name :: rest) place
  | through {inner depth : Nat} {at_ middle place : Place} {name target : String} {rest : List String}
      (hname : name ≠ "..") (hlink : tree.get? (at_ ++ [name]) = some (.link target))
      (htarget : Works tree inner (startOf (at_ ++ [name]) (.ofString target)) (Path.ofString target).parts middle)
      (hrest : Works tree depth middle rest place) : Works tree (max (inner + 1) depth) at_ (name :: rest) place

namespace Works

variable {depth depth' : Nat} {at_ place place' : Place} {names : List String}

theorem unique (h : tree.Works depth at_ names place) (h' : tree.Works depth' at_ names place') :
    depth = depth' ∧ place = place' := by
  induction h generalizing depth' place' with
  | here at_ =>
      cases h'
      exact ⟨rfl, rfl⟩
  | up hrest ih =>
      cases h' with
      | up hrest' => exact ih hrest'
      | pass hname _ _ => exact absurd rfl hname
      | through hname _ _ _ => exact absurd rfl hname
  | pass hname hlink hrest ih =>
      cases h' with
      | up _ => exact absurd rfl hname
      | pass _ _ hrest' => exact ih hrest'
      | through _ hlink' _ _ => exact absurd hlink' (hlink _)
  | through hname hlink htarget hrest ihtarget ihrest =>
      cases h' with
      | up _ => exact absurd rfl hname
      | pass _ hlink' _ => exact absurd hlink (hlink' _)
      | through _ hlink' htarget' hrest' =>
          cases hlink.symm.trans hlink'
          obtain ⟨rfl, rfl⟩ := ihtarget htarget'
          obtain ⟨rfl, rfl⟩ := ihrest hrest'
          exact ⟨rfl, rfl⟩

theorem split {first rest : List String} (h : tree.Works depth at_ (first ++ rest) place) :
    ∃ inner middle outer, tree.Works inner at_ first middle ∧ tree.Works outer middle rest place := by
  induction first generalizing at_ depth with
  | nil => exact ⟨0, at_, depth, .here at_, h⟩
  | cons name first ih =>
      cases h with
      | up hrest =>
          obtain ⟨inner, middle, outer, hfirst, hsecond⟩ := ih hrest
          exact ⟨inner, middle, outer, .up hfirst, hsecond⟩
      | pass hname hlink hrest =>
          obtain ⟨inner, middle, outer, hfirst, hsecond⟩ := ih hrest
          exact ⟨inner, middle, outer, .pass hname hlink hfirst, hsecond⟩
      | through hname hlink htarget hrest =>
          obtain ⟨inner, middle, outer, hfirst, hsecond⟩ := ih hrest
          exact ⟨_, middle, outer, .through hname hlink htarget hfirst, hsecond⟩

/-- The target of an active link takes at least `depth` links within each other. -/
def Outlasts (tree : Tree α) (depth : Nat) (link : Place) : Prop :=
  ∃ target inner place, tree.get? link = some (.link target) ∧ depth ≤ inner ∧
    tree.Works inner (startOf link (.ofString target)) (Path.ofString target).parts place

/-- What leads somewhere meets no link while the target of that link is being worked out: this would take as many
links within each other as the link itself, and one more. -/
theorem resolveFrom {links : Nat} {active : List Place} (h : tree.Works depth at_ names place)
    (hroom : tree.Room links active) (hactive : ∀ link ∈ active, Outlasts tree depth link) :
    tree.resolveFrom links active at_ names = .ok place := by
  induction h generalizing links active with
  | here at_ => cases links <;> rfl
  | up hrest ih =>
      have hup := ih hroom hactive
      cases links <;> rwa [Tree.resolveFrom, resolveWith_up]
  | pass hname hlink hrest ih =>
      have hpass := ih hroom hactive
      cases links <;> rwa [Tree.resolveFrom, resolveWith_pass _ hname hlink]
  | @through inner depth at_ middle place name target rest hname hlink htarget hrest ihtarget ihrest =>
      have hnew : at_ ++ [name] ∉ active := by
        intro hmem
        obtain ⟨target', inner', place', hlink', hle, htarget'⟩ := hactive _ hmem
        cases hlink.symm.trans hlink'
        have hsame := (htarget.unique htarget').1
        omega
      have hrest := ihrest hroom fun link hmem => by
        obtain ⟨target', inner', place', hlink', hle, htarget'⟩ := hactive link hmem
        exact ⟨target', inner', place', hlink', by omega, htarget'⟩
      cases links with
      | zero => exact absurd (hroom.full hlink) hnew
      | succ links =>
          have htarget := ihtarget (hroom.next hnew hlink) (List.forall_mem_cons.mpr
            ⟨⟨target, inner, middle, hlink, Nat.le_refl _, htarget⟩, fun link hmem => by
              obtain ⟨target', inner', place', hlink', hle, htarget'⟩ := hactive link hmem
              exact ⟨target', inner', place', hlink', by omega, htarget'⟩⟩)
          rw [Tree.resolveFrom] at hrest ⊢
          rw [resolveWith_link _ hname hlink, if_neg hnew, htarget]
          exact hrest

end Works

theorem walkWith_works {jump : Place → List String → Except Refusal (Target α)}
    (hjump : ∀ at_ names target, jump at_ names = .ok target → ∃ depth, tree.Works depth at_ names target.place)
    {at_ : Place} {names : List String} {target : Target α} (h : tree.walkWith true jump at_ names = .ok target) :
    ∃ depth, tree.Works depth at_ names target.place := by
  induction names generalizing at_ with
  | nil =>
      cases h
      exact ⟨0, .here at_⟩
  | cons name rest ih =>
      rw [walkWith] at h
      split at h
      · rename_i hname
        obtain ⟨depth, hrest⟩ := ih h
        exact ⟨depth, hname ▸ .up hrest⟩
      · rename_i hname
        split at h
        · cases h
        · split at h
          · rename_i hnone
            split at h
            · rename_i hrest
              subst hrest
              cases h
              exact ⟨0, .pass hname (by simp [hnone]) (.here _)⟩
            · cases h
          · rename_i hdirectory
            obtain ⟨depth, hrest⟩ := ih h
            exact ⟨depth, .pass hname (by simp [hdirectory]) hrest⟩
          · rename_i content hfile
            split at h
            · rename_i hrest
              subst hrest
              cases h
              exact ⟨0, .pass hname (by simp [hfile]) (.here _)⟩
            · cases h
          · rename_i link hlink
            split at h
            · rename_i hlast
              cases hlast.2
            · obtain ⟨depth, hjumped⟩ := hjump _ _ _ h
              obtain ⟨inner, middle, outer, htarget, hrest⟩ := hjumped.split
              rw [show at_ = (at_ ++ [name]).dropLast from List.dropLast_concat.symm] at htarget
              exact ⟨_, .through hname hlink htarget hrest⟩

theorem walk_works {links : Nat} {at_ : Place} {names : List String} {target : Target α}
    (h : tree.walk true links at_ names = .ok target) : ∃ depth, tree.Works depth at_ names target.place := by
  induction links generalizing at_ names target with
  | zero => exact walkWith_works (fun _ _ _ hjump => by cases hjump) h
  | succ links ih => exact walkWith_works (fun _ _ _ hjump => ih hjump) h

/-- A walk that follows every link leads to the place that is worked out without looking at what
stands there. -/
theorem resolve?_of_walk {links : Nat} {cwd : Place} {path : Path} {target : Target α}
    (h : tree.walk true links (if path.isAbsolute then [] else cwd) path.parts = .ok target) :
    tree.resolve? cwd path = some target.place := by
  obtain ⟨depth, hworks⟩ := walk_works h
  have hroom : tree.Room tree.entries.length [] := .start (by simp [places])
  rw [resolve?, resolve, hworks.resolveFrom hroom (List.forall_mem_nil _)]
  rfl

/-! Places that no link leads away from. -/

theorem up_not_mem_spelled {at_ : Place} (hat : ".." ∉ at_) (names : List String) : ".." ∉ spelled at_ names := by
  induction names generalizing at_ with
  | nil => exact hat
  | cons name rest ih =>
      rw [spelled, List.foldl_cons]
      refine ih ?_
      split
      · exact fun hmem => hat (List.mem_of_mem_dropLast hmem)
      · rename_i hname
        rw [List.mem_append, List.mem_singleton]
        exact not_or.mpr ⟨hat, Ne.symm hname⟩

namespace Plain

variable {place : Place}

/-- What working out a place from a plain one comes to: a plain place, or one without double dots where a
circular link leaves off. -/
def Ends (tree : Tree α) : Except Place Place → Prop
  | .ok place => tree.Plain place
  | .error stuck => ".." ∉ stuck

theorem resolveWith {jump : Place → Path → Except Place Place}
    (hjump : ∀ link target, tree.Plain link.dropLast → ".." ∉ link → Ends tree (jump link target))
    {at_ : Place} (hat : tree.Plain at_) (names : List String) : Ends tree (tree.resolveWith jump at_ names) := by
  induction names generalizing at_ with
  | nil => exact hat
  | cons name rest ih =>
      by_cases hname : name = ".."
      · subst hname
        rw [resolveWith_up]
        exact ih (hat.of_prefix (List.dropLast_prefix at_))
      · by_cases hlink : ∃ target, tree.get? (at_ ++ [name]) = some (.link target)
        · obtain ⟨target, hlink⟩ := hlink
          have hup : ".." ∉ at_ ++ [name] := by
            rw [List.mem_append, List.mem_singleton]
            exact not_or.mpr ⟨hat.1, Ne.symm hname⟩
          have hends := hjump (at_ ++ [name]) (.ofString target) (by rwa [List.dropLast_concat]) hup
          rw [resolveWith_link jump hname hlink]
          cases hfound : jump (at_ ++ [name]) (.ofString target) with
          | ok middle =>
              rw [hfound] at hends
              exact ih hends
          | error stuck =>
              rw [hfound] at hends
              exact up_not_mem_spelled hends rest
        · rw [not_exists] at hlink
          rw [resolveWith_pass jump hname hlink]
          exact ih (hat.append_name hname hlink)

theorem resolveFrom {links : Nat} {active : List Place} {at_ : Place} (hat : tree.Plain at_)
    (names : List String) : Ends tree (tree.resolveFrom links active at_ names) := by
  induction links generalizing active at_ names with
  | zero =>
      refine Plain.resolveWith (fun link target _ hup => ?_) hat names
      exact hup
  | succ links ih =>
      refine Plain.resolveWith (fun link target hlink hup => ?_) hat names
      split
      · exact hup
      · refine ih ?_ _
        rw [startOf]
        split
        · exact .nil tree
        · exact hlink

theorem resolve? {cwd : Place} {path : Path} (hcwd : tree.Plain cwd)
    (h : tree.resolve? cwd path = some place) : tree.Plain place := by
  have hstart : tree.Plain (if path.isAbsolute then [] else cwd) := by
    split
    · exact .nil tree
    · exact hcwd
  have hends : Ends tree (tree.resolveFrom tree.entries.length [] _ path.parts) := hstart.resolveFrom path.parts
  rw [Tree.resolve?, resolve] at h
  cases hfound : tree.resolveFrom tree.entries.length [] (if path.isAbsolute then [] else cwd) path.parts with
  | ok found =>
      rw [hfound] at h hends
      cases h
      exact hends
  | error stuck =>
      rw [hfound] at h hends
      dsimp only at h
      split at h
      · cases h
      · rename_i hlinks
        cases h
        refine ⟨hends, fun above target habove => isLink_eq_false_iff.mp ?_ target⟩
        rw [List.any_eq_true] at hlinks
        push Not at hlinks
        obtain ⟨below, rfl⟩ := habove
        have habove := hlinks above.length (List.mem_range.mpr (by rw [List.length_append]; omega))
        rw [List.take_left] at habove
        exact Bool.eq_false_iff.mpr habove

theorem resolveWith_append (jump : Place → Path → Except Place Place) {at_ names : Place}
    (h : tree.Plain (at_ ++ names)) : tree.resolveWith jump at_ names = .ok (at_ ++ names) := by
  induction names generalizing at_ with
  | nil => rw [Tree.resolveWith, List.append_nil]
  | cons name rest ih =>
      have hname : name ≠ ".." := by
        rintro rfl
        exact h.1 (by simp)
      have hassoc : at_ ++ name :: rest = at_ ++ [name] ++ rest := by simp
      rw [hassoc] at h ⊢
      rw [resolveWith_pass jump hname fun target => h.2 _ target (List.prefix_append _ rest)]
      exact ih h

theorem resolve?_pathOf (h : tree.Plain place) (cwd : Place) :
    tree.resolve? cwd (pathOf place) = some place := by
  have hfound : tree.resolveFrom tree.entries.length [] [] place = .ok place := by
    have hwith : ∀ jump, tree.resolveWith jump [] place = .ok ([] ++ place) := fun jump =>
      resolveWith_append jump h
    cases tree.entries.length <;> exact hwith _
  rw [Tree.resolve?, resolve]
  show Except.toOption (match tree.resolveFrom tree.entries.length [] [] place with
    | .ok place => .ok place
    | .error stuck => _) = _
  rw [hfound]
  rfl

end Plain

end Codegen.Files.Tree
