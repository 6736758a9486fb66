import Codegen.Proofs.Files.Resolve

/-! What creating directories and writing a file does to a workspace. -/

namespace Codegen.Files.Tree

variable {α : Type} {tree after : Tree α} {cwd : Place}

theorem makeDirectory_grows {path : Path} (h : tree.makeDirectory cwd path = .ok after) :
    Grows tree after := by
  rw [makeDirectory] at h
  cases hlocate : tree.locate cwd path false with
  | error cause =>
      rw [hlocate] at h
      cases h
  | ok target =>
      have hfound : target.found? = tree.get? target.place := by
        rw [locate] at hlocate
        split at hlocate
        · cases hlocate
        · exact walk_found? hlocate
      simp only [hlocate, bind, Except.bind] at h
      cases hnone : target.found? with
      | some entry =>
          rw [hnone] at h
          cases h
      | none =>
          rw [hnone] at h
          cases h
          exact Grows.put_directory (hfound.symm.trans hnone)

theorem ensureDirectory_grows {path : Path} (h : tree.ensureDirectory cwd path = .ok after) :
    Grows tree after := by
  rw [ensureDirectory] at h
  split at h
  · rename_i made hmade
    cases h
    exact makeDirectory_grows hmade
  · cases h
  · split at h
    · cases h
      exact .refl tree
    · cases h
    · cases h

theorem ensureDirectories_grows (tree : Tree α) (cwd : Place) (root : String)
    (parts : List String) : Grows tree (tree.ensureDirectories cwd root parts).1 := by
  fun_induction ensureDirectories tree cwd root parts with
  | case1 parts made hmade => exact ensureDirectory_grows hmade
  | case2 => exact .refl tree
  | case3 parts hmissing hparts above cause habove ih =>
      rw [habove] at ih
      exact ih
  | case4 parts hmissing hparts above habove made hmade ih =>
      rw [habove] at ih
      exact ih.trans (ensureDirectory_grows hmade)
  | case5 parts hmissing hparts above habove cause hcause ih =>
      rw [habove] at ih
      exact ih
  | case6 => exact .refl tree

theorem ensureParents_grows (tree : Tree α) (cwd : Place) (path : Path) :
    Grows tree (tree.ensureParents cwd path).1 :=
  ensureDirectories_grows tree cwd path.parent.root path.parent.parts

/-- A file is written to the place that its path leads to, at which no link and not the root
stands. -/
theorem writable_place {path : Path} {place : Place}
    (h : tree.writable cwd path = .ok place) :
    hasNull path = false ∧ tree.resolve? cwd path = some place ∧ place ≠ [] := by
  rw [writable] at h
  cases hlocate : tree.locate cwd path with
  | error cause =>
      rw [hlocate] at h
      cases h
  | ok target =>
      simp only [hlocate, bind, Except.bind] at h
      rw [locate] at hlocate
      split at hlocate
      · cases hlocate
      · rename_i hnull
        have hplace : target.place = place ∧ target.found? ≠ some .directory := by
          split at h
          · cases h
          · rename_i hfound
            cases h
            exact ⟨rfl, hfound⟩
        refine ⟨by simpa using hnull, ?_, ?_⟩
        · rw [← hplace.1]
          exact resolve?_of_walk hlocate
        · rintro rfl
          have hfound := walk_found? hlocate
          rw [hplace.1, get?_nil] at hfound
          exact hplace.2 hfound

end Codegen.Files.Tree

namespace Codegen.Workspace

open Codegen.Files

variable {w after : Workspace}

/-- The place that relative paths start from leads to itself. -/
def Rooted (w : Workspace) : Prop := w.tree.Plain w.directory

instance (w : Workspace) : Decidable w.Rooted := inferInstanceAs (Decidable (w.tree.Plain _))

/-- Every path leads to the same place in both workspaces. -/
structure SamePaths (w after : Workspace) : Prop where
  links : Tree.SameLinks w.tree after.tree
  directory : after.directory = w.directory

namespace SamePaths

variable {middle : Workspace}

theorem refl (w : Workspace) : SamePaths w w := ⟨.refl w.tree, rfl⟩

theorem trans (hfirst : SamePaths w middle) (hsecond : SamePaths middle after) :
    SamePaths w after :=
  ⟨hfirst.links.trans hsecond.links, hsecond.directory.trans hfirst.directory⟩

theorem rooted (h : SamePaths w after) (hw : w.Rooted) : after.Rooted := by
  rw [Rooted, h.directory]
  exact hw.of_sameLinks h.links

theorem resolve_eq (h : SamePaths w after) (path : Path) : after.resolve path = w.resolve path := by
  rw [resolve, resolve, h.directory, h.links.resolve_eq]

end SamePaths

def putFile (w : Workspace) (place : Place) (data : ByteArray) : Workspace :=
  { w with tree := w.tree.put place (.file (.bytes data)) }

theorem resolve_eq_ok {path : Path} {place : Place} (h : w.resolve path = .ok place) :
    Tree.hasNull path = false ∧ w.tree.resolve? w.directory path = some place := by
  rw [resolve] at h
  split at h
  · cases h
  · rename_i hnull
    split at h
    · rename_i found hfound
      cases h
      exact ⟨by simpa using hnull, by rw [Tree.resolve?, hfound]; rfl⟩
    · cases h

theorem resolve_plain {path : Path} {place : Place} (hw : w.Rooted)
    (h : w.resolve path = .ok place) : w.tree.Plain place :=
  hw.resolve? (resolve_eq_ok h).2

theorem resolve_of_resolve? {path : Path} {place : Place} (hnull : Tree.hasNull path = false)
    (h : w.tree.resolve? w.directory path = some place) : w.resolve path = .ok place := by
  rw [Tree.resolve?] at h
  rw [resolve, hnull, if_neg Bool.false_ne_true]
  cases hfound : w.tree.resolve w.directory path with
  | error stuck =>
      rw [hfound] at h
      cases h
  | ok found =>
      rw [hfound] at h
      cases h
      rfl

theorem ensureParents_grows (w : Workspace) (path : Path) :
    Tree.Grows w.tree (w.ensureParents path).1.tree :=
  Tree.ensureParents_grows w.tree w.directory path

theorem ensureParents_samePaths (w : Workspace) (path : Path) :
    SamePaths w (w.ensureParents path).1 :=
  ⟨(w.ensureParents_grows path).sameLinks, rfl⟩

theorem writeText_ok {path : Path} {text : String}
    (h : w.writeText path text = .ok after) :
    ∃ place, w.resolve path = .ok place ∧ place ≠ [] ∧ after = w.putFile place text.toUTF8 := by
  rw [writeText, Tree.write] at h
  cases hplace : w.tree.writable w.directory path with
  | error cause =>
      rw [hplace] at h
      cases h
  | ok place =>
      rw [hplace] at h
      cases h
      obtain ⟨hnull, hresolve, hroot⟩ := Tree.writable_place hplace
      exact ⟨place, resolve_of_resolve? hnull hresolve, hroot, rfl⟩

theorem putFile_samePaths {place : Place} (hroot : place ≠ []) (hplace : w.tree.Plain place)
    (data : ByteArray) : SamePaths w (w.putFile place data) :=
  ⟨.put_file hroot hplace.notLink _, rfl⟩

end Codegen.Workspace
