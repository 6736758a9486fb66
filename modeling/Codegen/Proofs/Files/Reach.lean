import Codegen.Proofs.Files.Writing

/-! What a path leads to stays there while nothing is taken away: the tree may get further directories
and files, and files may get another content. -/

namespace Codegen.Files.Tree

variable {α : Type} {tree middle after : Tree α}

/-! How a walk goes on at a name. -/

/-- The ways of a walk that does not fail. -/
inductive Leads (tree : Tree α) (follow : Bool)
    (jump : Place → List String → Except Refusal (Target α)) :
    Place → List String → Target α → Prop
  | here (at_ : Place) : Leads tree follow jump at_ [] ⟨at_, tree.get? at_⟩
  | up {at_ : Place} {rest : List String} {target : Target α}
      (hrest : Leads tree follow jump at_.dropLast rest target) :
      Leads tree follow jump at_ (".." :: rest) target
  | free {at_ : Place} {name : String} (hname : name ≠ "..")
      (hlong : ¬ name.utf8ByteSize > nameLimit) (hnone : tree.get? (at_ ++ [name]) = none) :
      Leads tree follow jump at_ [name] ⟨at_ ++ [name], none⟩
  | file {at_ : Place} {name : String} {content : α} (hname : name ≠ "..")
      (hlong : ¬ name.utf8ByteSize > nameLimit)
      (hfile : tree.get? (at_ ++ [name]) = some (.file content)) :
      Leads tree follow jump at_ [name] ⟨at_ ++ [name], some (.file content)⟩
  | into {at_ : Place} {name : String} {rest : List String} {target : Target α} (hname : name ≠ "..")
      (hlong : ¬ name.utf8ByteSize > nameLimit)
      (hdirectory : tree.get? (at_ ++ [name]) = some .directory)
      (hrest : Leads tree follow jump (at_ ++ [name]) rest target) :
      Leads tree follow jump at_ (name :: rest) target
  | link {at_ : Place} {name link : String} (hname : name ≠ "..")
      (hlong : ¬ name.utf8ByteSize > nameLimit)
      (hlink : tree.get? (at_ ++ [name]) = some (.link link)) (hfollow : follow = false) :
      Leads tree follow jump at_ [name] ⟨at_ ++ [name], some (.link link)⟩
  | through {at_ : Place} {name link : String} {rest : List String} {target : Target α}
      (hname : name ≠ "..") (hlong : ¬ name.utf8ByteSize > nameLimit)
      (hlink : tree.get? (at_ ++ [name]) = some (.link link)) (hlast : ¬ (rest = [] ∧ follow = false))
      (hjump : jump (if (Path.ofString link).isAbsolute then [] else at_)
        ((Path.ofString link).parts ++ rest) = .ok target) :
      Leads tree follow jump at_ (name :: rest) target

theorem Leads.walkWith {follow : Bool} {jump : Place → List String → Except Refusal (Target α)}
    {at_ : Place} {names : List String} {target : Target α}
    (h : tree.Leads follow jump at_ names target) :
    tree.walkWith follow jump at_ names = .ok target := by
  induction h with
  | here at_ => rfl
  | up hrest ih => rw [Tree.walkWith, if_pos rfl, ih]
  | free hname hlong hnone => simp only [Tree.walkWith, hname, hlong, hnone, if_false, if_true]
  | file hname hlong hfile => simp only [Tree.walkWith, hname, hlong, hfile, if_false, if_true]
  | into hname hlong hdirectory hrest ih =>
      simp only [Tree.walkWith, hname, hlong, hdirectory, if_false, ih]
  | link hname hlong hlink hfollow =>
      simp only [Tree.walkWith, hname, hlong, hlink, hfollow, and_self, if_false, if_true]
  | through hname hlong hlink hlast hjump =>
      simp only [Tree.walkWith, hname, hlong, hlink, hlast, hjump, if_false]

theorem leads_of_walkWith {follow : Bool} {jump : Place → List String → Except Refusal (Target α)}
    {at_ : Place} {names : List String} {target : Target α}
    (h : tree.walkWith follow jump at_ names = .ok target) :
    tree.Leads follow jump at_ names target := by
  induction names generalizing at_ with
  | nil =>
      cases h
      exact .here at_
  | cons name rest ih =>
      rw [Tree.walkWith] at h
      split at h
      · rename_i hname
        exact hname ▸ .up (ih h)
      · rename_i hname
        split at h
        · cases h
        · rename_i hlong
          split at h
          · rename_i hnone
            split at h
            · rename_i hrest
              subst hrest
              cases h
              exact .free hname hlong hnone
            · cases h
          · rename_i hdirectory
            exact .into hname hlong hdirectory (ih h)
          · rename_i content hfile
            split at h
            · rename_i hrest
              subst hrest
              cases h
              exact .file hname hlong hfile
            · cases h
          · rename_i link hlink
            split at h
            · rename_i hlast
              obtain ⟨rfl, hfollow⟩ := hlast
              cases h
              exact .link hname hlong hlink hfollow
            · rename_i hlast
              exact .through hname hlong hlink hlast h

/-! Walks that look through a link at the end, and walks that do not. -/

theorem Leads.followed {jump jump' : Place → List String → Except Refusal (Target α)}
    (hjump : ∀ at_ names target, jump at_ names = .ok target →
      (∀ link, target.found? ≠ some (.link link)) → jump' at_ names = .ok target)
    {at_ : Place} {names : List String} {target : Target α}
    (h : tree.Leads false jump at_ names target) (hlink : ∀ link, target.found? ≠ some (.link link)) :
    tree.Leads true jump' at_ names target := by
  induction h with
  | here at_ => exact .here at_
  | up hrest ih => exact .up (ih hlink)
  | free hname hlong hnone => exact .free hname hlong hnone
  | file hname hlong hfile => exact .file hname hlong hfile
  | into hname hlong hdirectory hrest ih => exact .into hname hlong hdirectory (ih hlink)
  | link hname hlong hfound hfollow => exact absurd rfl (hlink _)
  | through hname hlong hfound hlast htarget =>
      exact .through hname hlong hfound (fun h => by cases h.2) (hjump _ _ _ htarget hlink)

theorem walk_followed {links : Nat} {at_ : Place} {names : List String} {target : Target α}
    (h : tree.walk false links at_ names = .ok target)
    (hlink : ∀ link, target.found? ≠ some (.link link)) :
    tree.walk true links at_ names = .ok target := by
  induction links generalizing at_ names target with
  | zero =>
      exact ((leads_of_walkWith h).followed (fun _ _ _ hjump => by cases hjump) hlink).walkWith
  | succ links ih =>
      exact ((leads_of_walkWith h).followed (fun _ _ _ hjump => ih hjump) hlink).walkWith

theorem Leads.unfollowed {jump jump' : Place → List String → Except Refusal (Target α)}
    (hjump : ∀ at_ names target, jump at_ names = .ok target → target.found? ≠ none →
      ∃ target', jump' at_ names = .ok target' ∧ target'.found? ≠ none)
    {at_ : Place} {names : List String} {target : Target α}
    (h : tree.Leads true jump at_ names target) (hfound : target.found? ≠ none) :
    ∃ target', tree.Leads false jump' at_ names target' ∧ target'.found? ≠ none := by
  induction h with
  | here at_ => exact ⟨_, .here at_, hfound⟩
  | up hrest ih =>
      obtain ⟨target', hleads, hfound'⟩ := ih hfound
      exact ⟨target', .up hleads, hfound'⟩
  | free hname hlong hnone => exact absurd rfl hfound
  | file hname hlong hfile => exact ⟨_, .file hname hlong hfile, hfound⟩
  | into hname hlong hdirectory hrest ih =>
      obtain ⟨target', hleads, hfound'⟩ := ih hfound
      exact ⟨target', .into hname hlong hdirectory hleads, hfound'⟩
  | link hname hlong hlink hfollow => cases hfollow
  | @through at_ name link rest target hname hlong hlink hlast htarget =>
      by_cases hrest : rest = []
      · subst hrest
        exact ⟨_, .link hname hlong hlink rfl, by simp⟩
      · obtain ⟨target', htarget', hfound'⟩ := hjump _ _ _ htarget hfound
        exact ⟨target', .through hname hlong hlink (fun h => hrest h.1) htarget', hfound'⟩

theorem walk_unfollowed {links : Nat} {at_ : Place} {names : List String} {target : Target α}
    (h : tree.walk true links at_ names = .ok target) (hfound : target.found? ≠ none) :
    ∃ target', tree.walk false links at_ names = .ok target' ∧ target'.found? ≠ none := by
  induction links generalizing at_ names target with
  | zero =>
      obtain ⟨target', hleads, hfound'⟩ :=
        (leads_of_walkWith h).unfollowed (fun _ _ _ hjump => by cases hjump) hfound
      exact ⟨target', hleads.walkWith, hfound'⟩
  | succ links ih =>
      obtain ⟨target', hleads, hfound'⟩ :=
        (leads_of_walkWith h).unfollowed (fun _ _ _ hjump => ih hjump) hfound
      exact ⟨target', hleads.walkWith, hfound'⟩

/-! What operations answer, by where their path leads. -/

section

variable {cwd : Place} {path : Path}

theorem walk_of_locate {follow : Bool} {target : Target α} (h : tree.locate cwd path follow = .ok target) :
    tree.walk follow linkLimit (if path.isAbsolute then [] else cwd) path.parts = .ok target := by
  rw [locate] at h
  split at h
  · cases h
  · exact h

theorem locate_found? {follow : Bool} {target : Target α}
    (h : tree.locate cwd path follow = .ok target) : target.found? = tree.get? target.place :=
  walk_found? (walk_of_locate h)

theorem locate_resolves {target : Target α} (h : tree.locate cwd path = .ok target) :
    tree.resolve? cwd path = some target.place :=
  resolve?_of_walk (walk_of_locate h)

theorem locate_followed {target : Target α} (h : tree.locate cwd path false = .ok target)
    (hlink : ∀ link, target.found? ≠ some (.link link)) : tree.locate cwd path = .ok target := by
  rw [locate] at h ⊢
  split at h
  · cases h
  · rename_i hnull
    rw [if_neg hnull]
    exact walk_followed h hlink

theorem locate_unfollowed {target : Target α} (h : tree.locate cwd path = .ok target)
    (hfound : target.found? ≠ none) :
    ∃ target', tree.locate cwd path false = .ok target' ∧ target'.found? ≠ none := by
  rw [locate] at h
  split at h
  · cases h
  · rename_i hnull
    rw [locate, if_neg hnull]
    exact walk_unfollowed h hfound

theorem isDirectory?_eq_ok_true_iff :
    tree.isDirectory? cwd path = .ok true ↔
      ∃ place, tree.locate cwd path = .ok ⟨place, some .directory⟩ := by
  rw [isDirectory?, stat?]
  cases tree.locate cwd path with
  | error cause =>
      dsimp only
      split <;> simp [Except.map]
  | ok target =>
      obtain ⟨place, found?⟩ := target
      rcases found? with _ | (_ | _ | _) <;> simp [Except.map]

theorem writable_eq_ok_iff {place : Place} :
    tree.writable cwd path = .ok place ↔
      ∃ target, tree.locate cwd path = .ok target ∧ target.place = place ∧
        target.found? ≠ some .directory := by
  rw [writable]
  cases tree.locate cwd path with
  | error cause => simp [bind, Except.bind]
  | ok target =>
      obtain ⟨found, found?⟩ := target
      rcases found? with _ | (_ | _ | _) <;> simp [bind, Except.bind]

end

/-! Changes that take nothing away. -/

/-- Nothing was taken away. -/
structure Persists (tree after : Tree α) : Prop where
  directory : ∀ place, tree.get? place = some .directory → after.get? place = some .directory
  file : ∀ place content, tree.get? place = some (.file content) →
    ∃ content', after.get? place = some (.file content')
  links : SameLinks tree after
  listed : Extends tree after

namespace Persists

theorem refl (tree : Tree α) : Persists tree tree :=
  ⟨fun _ h => h, fun _ content h => ⟨content, h⟩, .refl tree, .refl tree⟩

theorem trans (hfirst : Persists tree middle) (hsecond : Persists middle after) :
    Persists tree after := by
  refine ⟨fun place h => hsecond.directory place (hfirst.directory place h), ?_,
    hfirst.links.trans hsecond.links, hfirst.listed.trans hsecond.listed⟩
  intro place content h
  obtain ⟨content', hmiddle⟩ := hfirst.file place content h
  exact hsecond.file place content' hmiddle

theorem of_grows (h : Grows tree after) : Persists tree after :=
  ⟨fun place => h.kept place _, fun place content hfile => ⟨content, h.kept place _ hfile⟩,
    h.sameLinks, h.listed⟩

theorem put_file {place : Place} (hroot : place ≠ [])
    (hlink : ∀ target, tree.get? place ≠ some (.link target))
    (hdirectory : tree.get? place ≠ some .directory) (content : α) :
    Persists tree (tree.put place (.file content)) := by
  refine ⟨?_, ?_, .put_file hroot hlink content, .put tree place _⟩
  · intro other h
    have hne : other ≠ place := by
      rintro rfl
      exact hdirectory h
    rwa [get?_put_of_ne tree hne]
  · intro other content' h
    by_cases hother : other = place
    · subst hother
      exact ⟨content, get?_put_self tree hroot _⟩
    · exact ⟨content', by rwa [get?_put_of_ne tree hother]⟩

theorem ne_none (h : Persists tree after) {place : Place} (hplace : tree.get? place ≠ none) :
    after.get? place ≠ none := by
  cases hentry : tree.get? place with
  | none => exact absurd hentry hplace
  | some entry =>
      cases entry with
      | file content =>
          obtain ⟨content', hafter⟩ := h.file place content hentry
          simp [hafter]
      | directory => simp [h.directory place hentry]
      | link target => simp [(h.links place target).mpr hentry]

theorem leads (h : Persists tree after) {follow : Bool}
    {jump jump' : Place → List String → Except Refusal (Target α)}
    (hjump : ∀ at_ names target, jump at_ names = .ok target →
      jump' at_ names = .ok ⟨target.place, after.get? target.place⟩)
    {at_ : Place} {names : List String} {target : Target α}
    (hleads : tree.Leads follow jump at_ names target) :
    after.Leads follow jump' at_ names ⟨target.place, after.get? target.place⟩ := by
  induction hleads with
  | here at_ => exact .here at_
  | up hrest ih => exact .up ih
  | @free at_ name hname hlong hnone =>
      -- Whatever has come to stand at the free name, it is no link.
      cases hafter : after.get? (at_ ++ [name]) with
      | none => exact .free hname hlong hafter
      | some entry =>
          cases entry with
          | file content => exact .file hname hlong hafter
          | directory =>
              have hhere : after.Leads follow jump' (at_ ++ [name]) [] ⟨at_ ++ [name], some .directory⟩ :=
                hafter ▸ .here (at_ ++ [name])
              exact .into hname hlong hafter hhere
          | link link =>
              rw [(h.links _ link).mp hafter] at hnone
              cases hnone
  | file hname hlong hfile =>
      obtain ⟨content, hafter⟩ := h.file _ _ hfile
      rw [hafter]
      exact .file hname hlong hafter
  | into hname hlong hdirectory hrest ih =>
      exact .into hname hlong (h.directory _ hdirectory) ih
  | link hname hlong hlink hfollow =>
      have hafter := (h.links _ _).mpr hlink
      rw [hafter]
      exact .link hname hlong hafter hfollow
  | through hname hlong hlink hlast hfound =>
      exact .through hname hlong ((h.links _ _).mpr hlink) hlast (hjump _ _ _ hfound)

theorem walk (h : Persists tree after) {follow : Bool} {links : Nat} {at_ : Place}
    {names : List String} {target : Target α}
    (hwalk : tree.walk follow links at_ names = .ok target) :
    after.walk follow links at_ names = .ok ⟨target.place, after.get? target.place⟩ := by
  induction links generalizing at_ names target with
  | zero => exact (h.leads (fun _ _ _ hjump => by cases hjump) (leads_of_walkWith hwalk)).walkWith
  | succ links ih =>
      exact (h.leads (fun _ _ _ hjump => ih hjump) (leads_of_walkWith hwalk)).walkWith

variable {cwd : Place} {path : Path}

theorem locate (h : Persists tree after) {follow : Bool} {target : Target α}
    (hlocate : tree.locate cwd path follow = .ok target) :
    after.locate cwd path follow = .ok ⟨target.place, after.get? target.place⟩ := by
  rw [Tree.locate] at hlocate ⊢
  split at hlocate
  · cases hlocate
  · rename_i hnull
    rw [if_neg hnull]
    exact h.walk hlocate

theorem exists? (h : Persists tree after) (hexists : tree.exists? cwd path = .ok true) :
    after.exists? cwd path = .ok true := by
  rw [Tree.exists?, stat?] at hexists ⊢
  cases hlocate : tree.locate cwd path with
  | error cause =>
      rw [hlocate] at hexists
      dsimp only at hexists
      split at hexists <;> cases hexists
  | ok target =>
      have hfound := locate_found? hlocate
      rw [hlocate] at hexists
      rw [h.locate hlocate]
      have hsome : target.found? ≠ none := by
        intro hnone
        simp [hnone, Except.map] at hexists
      have hafter : after.get? target.place ≠ none := h.ne_none (hfound ▸ hsome)
      simp [Except.map, Option.isSome_iff_ne_none, hafter]

theorem isDirectory? (h : Persists tree after) (hdirectory : tree.isDirectory? cwd path = .ok true) :
    after.isDirectory? cwd path = .ok true := by
  obtain ⟨place, hlocate⟩ := isDirectory?_eq_ok_true_iff.mp hdirectory
  have hfound := locate_found? hlocate
  refine isDirectory?_eq_ok_true_iff.mpr ⟨place, ?_⟩
  rw [h.locate hlocate, h.directory place hfound.symm]

theorem writable (h : Persists tree after) {place : Place}
    (hwritable : tree.writable cwd path = .ok place)
    (hplace : after.get? place ≠ some .directory) : after.writable cwd path = .ok place := by
  obtain ⟨target, hlocate, rfl, _⟩ := writable_eq_ok_iff.mp hwritable
  exact writable_eq_ok_iff.mpr ⟨_, h.locate hlocate, rfl, hplace⟩

end Persists

/-! Creating directories. -/

section

variable {cwd : Place} {path : Path}

theorem makeDirectory_ok (h : tree.makeDirectory cwd path = .ok after) :
    ∃ place, tree.locate cwd path false = .ok ⟨place, none⟩ ∧ after = tree.put place .directory := by
  rw [makeDirectory] at h
  cases hlocate : tree.locate cwd path false with
  | error cause =>
      rw [hlocate] at h
      cases h
  | ok target =>
      obtain ⟨place, found?⟩ := target
      rw [hlocate] at h
      cases found? with
      | some entry => cases h
      | none =>
          cases h
          exact ⟨place, rfl, rfl⟩

theorem makeDirectory_directory (h : tree.makeDirectory cwd path = .ok after) :
    after.isDirectory? cwd path = .ok true := by
  have hpersists := Persists.of_grows (makeDirectory_grows h)
  obtain ⟨place, hlocate, rfl⟩ := makeDirectory_ok h
  have hroot : place ≠ [] := by
    rintro rfl
    have hfound := locate_found? hlocate
    rw [get?_nil] at hfound
    cases hfound
  have hplace := get?_put_self tree hroot .directory
  have hafter := hpersists.locate hlocate
  rw [hplace] at hafter
  exact isDirectory?_eq_ok_true_iff.mpr ⟨place, locate_followed hafter (by simp)⟩

theorem ensureDirectory_directory (h : tree.ensureDirectory cwd path = .ok after) :
    after.isDirectory? cwd path = .ok true := by
  rw [ensureDirectory] at h
  split at h
  · rename_i made hmade
    cases h
    exact makeDirectory_directory hmade
  · cases h
  · split at h
    · rename_i hdirectory
      cases h
      exact hdirectory
    · cases h
    · cases h

theorem ensureDirectory_of_directory (h : tree.isDirectory? cwd path = .ok true) :
    tree.ensureDirectory cwd path = .ok tree := by
  obtain ⟨place, hlocate⟩ := isDirectory?_eq_ok_true_iff.mp h
  obtain ⟨⟨other, found?⟩, hlocate', hfound⟩ := locate_unfollowed hlocate (by simp)
  have hmake : tree.makeDirectory cwd path = .error .exists := by
    rw [makeDirectory, hlocate']
    cases found? with
    | none => exact absurd rfl hfound
    | some entry => rfl
  rw [ensureDirectory, hmake, h]

theorem ensureDirectories_directory (tree : Tree α) (cwd : Place) (root : String)
    (parts : List String) (h : (tree.ensureDirectories cwd root parts).2 = .ok ()) :
    (tree.ensureDirectories cwd root parts).1.isDirectory? cwd ⟨root, parts⟩ = .ok true := by
  rw [ensureDirectories] at h ⊢
  split at h
  · rename_i made hmade
    exact ensureDirectory_directory hmade
  · split at h
    · cases h
    · rename_i hparts
      rw [if_neg hparts]
      split at h
      · cases h
      · split at h
        · rename_i made hmade
          exact ensureDirectory_directory hmade
        · cases h
  · cases h

theorem ensureDirectories_of_directory {root : String} {parts : List String}
    (h : tree.isDirectory? cwd ⟨root, parts⟩ = .ok true) :
    tree.ensureDirectories cwd root parts = (tree, .ok ()) := by
  rw [ensureDirectories, ensureDirectory_of_directory h]

theorem ensureDirectory_created {place : Place} (h : tree.ensureDirectory cwd path = .ok after)
    (hbefore : tree.get? place = none) (hafter : after.get? place ≠ none) :
    tree.resolve? cwd path = some place := by
  rw [ensureDirectory] at h
  split at h
  · rename_i made hmade
    cases h
    obtain ⟨found, hlocate, rfl⟩ := makeDirectory_ok hmade
    have hplace : found = place := by
      by_contra hne
      rw [get?_put_of_ne tree (Ne.symm hne)] at hafter
      exact hafter hbefore
    exact hplace ▸ locate_resolves (locate_followed hlocate (by simp))
  · cases h
  · split at h
    · cases h
      exact absurd hbefore hafter
    · cases h
    · cases h

theorem ensureDirectories_created (tree : Tree α) (cwd : Place) (root : String) (parts : List String)
    {place : Place} (hbefore : tree.get? place = none)
    (hafter : (tree.ensureDirectories cwd root parts).1.get? place ≠ none) :
    ∃ above, above <+: parts ∧ tree.resolve? cwd ⟨root, above⟩ = some place := by
  fun_induction ensureDirectories tree cwd root parts with
  | case1 parts made hmade =>
      exact ⟨parts, List.prefix_rfl, ensureDirectory_created hmade hbefore hafter⟩
  | case2 => exact absurd hbefore hafter
  | case3 parts hmissing hparts made cause habove ih =>
      rw [habove] at ih
      obtain ⟨above, hprefix, hresolve⟩ := ih hafter
      exact ⟨above, hprefix.trans (List.dropLast_prefix parts), hresolve⟩
  | case4 parts hmissing hparts middle habove made hmade ih =>
      have hgrows := ensureDirectories_grows tree cwd root parts.dropLast
      rw [habove] at ih hgrows
      by_cases hmiddle : middle.get? place = none
      · have hresolve := ensureDirectory_created hmade hmiddle hafter
        rw [hgrows.sameLinks.resolve?_eq] at hresolve
        exact ⟨parts, List.prefix_rfl, hresolve⟩
      · obtain ⟨above, hprefix, hresolve⟩ := ih hmiddle
        exact ⟨above, hprefix.trans (List.dropLast_prefix parts), hresolve⟩
  | case5 parts hmissing hparts middle habove cause hcause ih =>
      rw [habove] at ih
      obtain ⟨above, hprefix, hresolve⟩ := ih hafter
      exact ⟨above, hprefix.trans (List.dropLast_prefix parts), hresolve⟩
  | case6 => exact absurd hbefore hafter

end

end Codegen.Files.Tree

namespace Codegen.Workspace

open Codegen.Files

variable {w middle after : Workspace} {path : Path}

/-- Nothing was taken away, and relative paths start from the same place. -/
structure Persists (w after : Workspace) : Prop where
  tree : Tree.Persists w.tree after.tree
  directory : after.directory = w.directory

namespace Persists

theorem refl (w : Workspace) : Persists w w := ⟨.refl w.tree, rfl⟩

theorem trans (hfirst : Persists w middle) (hsecond : Persists middle after) : Persists w after :=
  ⟨hfirst.tree.trans hsecond.tree, hsecond.directory.trans hfirst.directory⟩

theorem samePaths (h : Persists w after) : SamePaths w after := ⟨h.tree.links, h.directory⟩

theorem exists? (h : Persists w after) (hexists : w.exists? path = .ok true) :
    after.exists? path = .ok true := by
  rw [Workspace.exists?] at hexists ⊢
  rw [h.directory]
  cases htree : w.tree.exists? w.directory path with
  | error cause =>
      rw [htree] at hexists
      cases hexists
  | ok there =>
      rw [htree] at hexists
      cases hexists
      rw [h.tree.exists? htree]
      rfl

end Persists

theorem lift_eq_ok_iff {α : Type} {outcome : Except Refusal α} {x : α} :
    lift path outcome = .ok x ↔ outcome = .ok x := by
  cases outcome <;> simp [lift]

theorem ensureParents_persists (w : Workspace) (path : Path) :
    Persists w (w.ensureParents path).1 :=
  ⟨.of_grows (w.ensureParents_grows path), rfl⟩

theorem isFile?_of_locate {place : Place} {content : Content}
    (h : w.tree.locate w.directory path = .ok ⟨place, some (.file content)⟩) :
    w.isFile? path = .ok true := by
  rw [isFile?, Tree.isFile?, Tree.stat?, h]
  rfl

theorem exists?_of_locate {place : Place} {entry : Entry Content}
    (h : w.tree.locate w.directory path = .ok ⟨place, some entry⟩) : w.exists? path = .ok true := by
  rw [exists?, Tree.exists?, Tree.stat?, h]
  rfl

theorem persists_of_ensureParents {outcome : Except Failure Unit}
    (h : w.ensureParents path = (after, outcome)) : Persists w after := by
  have hmade := w.ensureParents_persists path
  rwa [h] at hmade

theorem ensureParents_again (hparents : w.ensureParents path = (middle, .ok ()))
    (h : Persists middle after) : after.ensureParents path = (after, .ok ()) := by
  have hmade : (w.tree.ensureParents w.directory path).2 = .ok () :=
    lift_eq_ok_iff.mp (congrArg Prod.snd hparents)
  have hready : Persists (w.ensureParents path).1 after := by
    rw [hparents]
    exact h
  have hdirectory := hready.tree.isDirectory? (Tree.ensureDirectories_directory _ _ _ _ hmade)
  have hsame : w.directory = after.directory := hready.directory.symm
  rw [hsame] at hdirectory
  rw [ensureParents, Tree.ensureParents, Tree.ensureDirectories_of_directory hdirectory]
  rfl

theorem ensureParents_created {place : Place} (hbefore : w.tree.get? place = none)
    (hafter : (w.ensureParents path).1.tree.get? place ≠ none) :
    ∃ above, above <+: path.parent.parts ∧
      w.tree.resolve? w.directory ⟨path.root, above⟩ = some place :=
  Tree.ensureDirectories_created w.tree w.directory path.parent.root path.parent.parts hbefore hafter

theorem writeText_eq_ok_iff {text : String} :
    w.writeText path text = .ok after ↔ ∃ place,
      w.tree.writable w.directory path = .ok place ∧ after = w.putFile place text.toUTF8 := by
  rw [writeText, Tree.write]
  cases w.tree.writable w.directory path with
  | error cause => simp [bind, Except.bind, lift, Except.map]
  | ok place =>
      simp only [bind, Except.bind, lift, Except.map, Except.ok.injEq, exists_eq_left']
      exact eq_comm

theorem writable_resolve {place : Place} (h : w.tree.writable w.directory path = .ok place) :
    w.resolve path = .ok place ∧ place ≠ [] := by
  obtain ⟨hnull, hresolve, hroot⟩ := Tree.writable_place h
  exact ⟨resolve_of_resolve? hnull hresolve, hroot⟩

theorem putFile_persists {place : Place} (hw : w.Rooted)
    (h : w.tree.writable w.directory path = .ok place) (data : ByteArray) :
    Persists w (w.putFile place data) := by
  obtain ⟨hresolve, hroot⟩ := writable_resolve h
  obtain ⟨target, hlocate, rfl, hdirectory⟩ := Tree.writable_eq_ok_iff.mp h
  rw [Tree.locate_found? hlocate] at hdirectory
  exact ⟨.put_file hroot (resolve_plain hw hresolve).notLink hdirectory _, rfl⟩

end Codegen.Workspace
