import Codegen.Proofs.Output.Sending

/-! Which files and directories deliveries touch, how the closing of the collecting files leaves them, and
what a replaced file then holds. -/

namespace Codegen.Output

open Codegen.Files

/-- What deliveries come to, once the collecting files are closed. -/
def Desk.closed (desk : Desk) : Workspace := desk.aggregates.closeAll desk.workspace

theorem Aggregates.closeAll_persists (files : Aggregates) (w : Workspace) :
    w.Persists (files.closeAll w) := by
  induction files with
  | nil => exact .refl w
  | cons file rest ih =>
      rw [closeAll_cons]
      exact ih.trans (file.close_rewrites _).persists

theorem Desk.closed_persists (desk : Desk) : desk.workspace.Persists desk.closed :=
  desk.aggregates.closeAll_persists desk.workspace

def Receipt.Passes (origin : Workspace) (place : Place) (receipt : Receipt) : Prop :=
  receipt.written ≠ none ∧ ∃ above, above <+: receipt.parcel.address.parent.parts ∧
    origin.tree.resolve? origin.directory ⟨receipt.parcel.address.root, above⟩ = some place

/-- A place at which something changed is one that a parcel was written to, or a new directory on the way
to such a place. -/
def Traced (origin : Workspace) (receipts : List Receipt) (w : Workspace) : Prop :=
  ∀ place, w.tree.get? place ≠ origin.tree.get? place →
    (∃ receipt ∈ receipts, receipt.Writes origin place) ∨
    (origin.tree.get? place = none ∧ w.tree.get? place = some .directory ∧
      ∃ receipt ∈ receipts, receipt.Passes origin place)

/-- What is known of a parcel that was written: where its address leads, a file stands. -/
structure Receipt.Stands (origin w : Workspace) (receipt : Receipt) (path : Path) : Prop where
  address : path = receipt.parcel.address
  file : ∃ place content, receipt.parcel.target? origin = some place ∧
    w.tree.get? place = some (.file content) ∧
    (receipt.parcel.mode ≠ .aggregate →
      w.tree.locate w.directory path = .ok ⟨place, some (.file content)⟩)

theorem Receipt.Stands.persists {origin w after : Workspace} {receipt : Receipt} {path : Path}
    (h : receipt.Stands origin w path) (hpersists : w.Persists after) :
    receipt.Stands origin after path := by
  obtain ⟨place, content, htarget, hfile, hlocate⟩ := h.file
  obtain ⟨content', hafter⟩ := hpersists.tree.file place content hfile
  refine ⟨h.address, place, content', htarget, hafter, fun hmode => ?_⟩
  have hfound := hpersists.tree.locate (hlocate hmode)
  rw [hafter] at hfound
  rw [hpersists.directory, hfound]

namespace Sends

variable {desk after : Desk} {receipts : List Receipt}

theorem traced (hfresh : desk.aggregates = []) (hdesk : desk.workspace.Rooted)
    (h : Sends desk receipts after) : Traced desk.workspace receipts after.workspace := by
  refine h.effects (P := fun receipts w _ => Traced desk.workspace receipts w) hfresh hdesk ?_ ?_
  · intro place hplace
    exact absurd rfl hplace
  · intro receipts w after files files' receipt hsent ih heffect place hplace
    by_cases hwrites : receipt.Writes desk.workspace place
    · exact .inl ⟨receipt, List.mem_append_right _ List.mem_cons_self, hwrites⟩
    have hnot : receipt.written ≠ none → receipt.parcel.target? desk.workspace ≠ some place :=
      fun hwritten htarget => hwrites ⟨hwritten, htarget⟩
    by_cases hbefore : w.tree.get? place = desk.workspace.tree.get? place
    · -- Nothing had changed at the place, so that this parcel made a directory there.
      have hfree : w.tree.get? place = none := by
        by_contra hsome
        obtain ⟨entry, hentry⟩ := Option.ne_none_iff_exists'.mp hsome
        exact hplace ((heffect.keeps hnot hentry).trans (hentry.symm.trans hbefore))
      have hafter : after.tree.get? place ≠ none := fun hnone =>
        hplace (hnone.trans (hfree.symm.trans hbefore))
      obtain ⟨hdirectory, hpasses⟩ := heffect.creates hsent.persists hnot hfree hafter
      exact .inr ⟨hbefore ▸ hfree, hdirectory, receipt, List.mem_append_right _ List.mem_cons_self,
        hpasses⟩
    · rcases ih place hbefore with ⟨other, hother, hwrites⟩ | ⟨hnone, hdirectory, other, hother, hpasses⟩
      · exact .inl ⟨other, List.mem_append_left _ hother, hwrites⟩
      · exact .inr ⟨hnone, heffect.keeps hnot hdirectory, other, List.mem_append_left _ hother, hpasses⟩

theorem stands (hfresh : desk.aggregates = []) (hdesk : desk.workspace.Rooted)
    (h : Sends desk receipts after) :
    ∀ receipt ∈ receipts, ∀ path, receipt.written = some path →
      receipt.Stands desk.workspace after.workspace path := by
  refine h.effects (P := fun receipts w _ => ∀ receipt ∈ receipts, ∀ path,
    receipt.written = some path → receipt.Stands desk.workspace w path) hfresh hdesk ?_ ?_
  · intro receipt hreceipt
    cases hreceipt
  · intro receipts w after files files' last hsent ih heffect receipt hreceipt path hpath
    rcases List.mem_append.mp hreceipt with hmem | hmem
    · exact (ih receipt hmem path hpath).persists (heffect.persists hdesk hsent.persists)
    · obtain rfl := List.mem_singleton.mp hmem
      obtain ⟨rfl, hfile⟩ := heffect.reaches hdesk hsent.persists hsent.there hpath
      exact ⟨rfl, hfile⟩

/-- A parcel that is not for a file, or is to preserve a file that was there from the start, is not
written. -/
theorem written_eq_none (hfresh : desk.aggregates = []) (hdesk : desk.workspace.Rooted)
    (h : Sends desk receipts after) :
    ∀ receipt ∈ receipts, receipt.parcel.mode = .property ∨ receipt.parcel.mode = .ignore ∨
      receipt.parcel.mode = .preserve ∧ desk.workspace.exists? receipt.parcel.address = .ok true →
      receipt.written = none := by
  refine h.effects (P := fun receipts _ _ => ∀ receipt ∈ receipts, receipt.parcel.mode = .property ∨
    receipt.parcel.mode = .ignore ∨
    receipt.parcel.mode = .preserve ∧ desk.workspace.exists? receipt.parcel.address = .ok true →
    receipt.written = none) hfresh hdesk ?_ ?_
  · intro receipt hreceipt
    cases hreceipt
  · intro receipts w after files files' last hsent ih heffect receipt hreceipt hmode
    rcases List.mem_append.mp hreceipt with hmem | hmem
    · exact ih receipt hmem hmode
    · obtain rfl := List.mem_singleton.mp hmem
      generalize receipt.written = written at heffect
      cases heffect with
      | unwritten _ => rfl
      | replaced hreplaced =>
          rcases hmode with hmode | hmode | ⟨hmode, hexists⟩
          · simp [hmode] at hreplaced
          · simp [hmode] at hreplaced
          · rw [hsent.persists.exists? hexists] at hreplaced
            simp [hmode] at hreplaced
      | collected haggregate => simp [haggregate] at hmode

theorem traced_closed (hfresh : desk.aggregates = []) (hdesk : desk.workspace.Rooted)
    (h : Sends desk receipts after) : Traced desk.workspace receipts after.closed := by
  have hsent := h.sent hfresh hdesk
  intro place hplace
  by_cases hopen : place ∈ after.aggregates.places
  · left
    have hopened := (hsent.mem_iff place).mp hopen
    rw [opened, List.mem_filterMap] at hopened
    obtain ⟨parcel, hparcel, htarget⟩ := hopened
    obtain ⟨hmem, haggregate⟩ := List.mem_filter.mp hparcel
    obtain ⟨receipt, hreceipt, rfl⟩ := List.mem_map.mp hmem
    have hmode := of_decide_eq_true haggregate
    exact ⟨receipt, hreceipt, h.written_ne_none hfresh hdesk hreceipt (.inr hmode), htarget⟩
  · have hsame : after.closed.tree.get? place = after.workspace.tree.get? place :=
      Aggregates.closeAll_elsewhere hopen after.workspace
    rw [hsame] at hplace ⊢
    exact h.traced hfresh hdesk place hplace

end Sends

/-! A file that was replaced, and was not written to again before the collecting files are closed:
closing may still write over it. -/

namespace Sends

variable {desk after : Desk} {before later : List Receipt} {receipt : Receipt}
  {place : Place}

theorem replaced (hfresh : desk.aggregates = []) (hdesk : desk.workspace.Rooted)
    (h : Sends desk (before ++ receipt :: later) after) (hmode : receipt.parcel.mode = .overwrite)
    (htarget : receipt.parcel.target? desk.workspace = some place)
    (hlater : ∀ other ∈ later, ¬ other.Writes desk.workspace place) :
    after.workspace.tree.get? place = some (.file (.bytes receipt.parcel.body.toUTF8)) := by
  refine h.effects (P := fun receipts w _ => ∀ later, receipts = before ++ receipt :: later →
    (∀ other ∈ later, ¬ other.Writes desk.workspace place) →
    w.tree.get? place = some (.file (.bytes receipt.parcel.body.toUTF8)))
    hfresh hdesk ?_ ?_ later rfl hlater
  -- The last parcel is the one in question, or one of those behind it, which keep its place.
  · intro later hempty
    simp at hempty
  · intro receipts w after files files' last _ ih heffect later hsplit hlater
    rcases List.eq_nil_or_concat later with rfl | ⟨middle, final, rfl⟩
    · obtain ⟨rfl, hlast⟩ := List.append_inj' hsplit rfl
      obtain rfl : last = receipt := by simpa using hlast
      generalize hwritten : last.written = written at heffect
      cases heffect with
      | unwritten hnot => exact absurd hmode hnot.1
      | replaced _ hparents hplace hwritable =>
          rw [htarget] at hplace
          cases hplace
          exact Tree.get?_put_self _ (Workspace.writable_resolve hwritable).2 _
      | collected haggregate =>
          rw [hmode] at haggregate
          cases haggregate
    · rw [List.concat_eq_append, ← List.cons_append, ← List.append_assoc] at hsplit
      obtain ⟨hreceipts, hlast⟩ := List.append_inj' hsplit rfl
      obtain rfl : last = final := by simpa using hlast
      have hnot := hlater last (by simp)
      refine heffect.keeps (fun hwritten htarget => hnot ⟨hwritten, htarget⟩)
        (ih middle hreceipts fun other hother => hlater other (by simp [hother]))

theorem collected_eq (hfresh : desk.aggregates = []) (hdesk : desk.workspace.Rooted)
    (h : Sends desk (before ++ receipt :: later) after) (hmode : receipt.parcel.mode = .overwrite)
    (hlater : ∀ other ∈ later, ¬ other.Writes desk.workspace place) :
    collected desk.workspace place ((before ++ receipt :: later).map (·.parcel)) =
      collected desk.workspace place (before.map (·.parcel)) := by
  have hnone : ∀ other ∈ receipt :: later, ¬ (other.parcel.mode = .aggregate ∧
      other.parcel.target? desk.workspace = some place) := by
    rintro other hother ⟨haggregate, htarget⟩
    rcases List.mem_cons.mp hother with rfl | hmem
    · rw [hmode] at haggregate
      cases haggregate
    · have hmem' : other ∈ before ++ receipt :: later := List.mem_append_right _ hother
      exact hlater other hmem ⟨h.written_ne_none hfresh hdesk hmem' (.inr haggregate), htarget⟩
  rw [List.map_append, collected, collected, List.filter_append, List.map_append]
  refine (congrArg _ ?_).trans (List.append_nil _)
  rw [List.map_eq_nil_iff, List.filter_eq_nil_iff]
  intro parcel hparcel hcollected
  obtain ⟨other, hother, rfl⟩ := List.mem_map.mp hparcel
  exact hnone other hother (of_decide_eq_true hcollected)

/-- When the collecting files are closed, what is held back of the bodies that were collected for a
place goes over the body that replaced the file there. -/
theorem survives (hfresh : desk.aggregates = []) (hdesk : desk.workspace.Rooted)
    (h : Sends desk (before ++ receipt :: later) after) (hmode : receipt.parcel.mode = .overwrite)
    (htarget : receipt.parcel.target? desk.workspace = some place)
    (hlater : ∀ other ∈ later, ¬ other.Writes desk.workspace place) :
    let file := Aggregate.ofTexts place (collected desk.workspace place (before.map (·.parcel)))
    (after.aggregates.closeAll after.workspace).tree.get? place =
      some (.file (.bytes (overlay receipt.parcel.body.toUTF8 file.position file.held))) := by
  intro file
  have hsent := h.sent hfresh hdesk
  have hfound := h.replaced hfresh hdesk hmode htarget hlater
  have hcollected := h.collected_eq hfresh hdesk hmode hlater
  by_cases hplace : place ∈ after.aggregates.places
  · obtain ⟨opened, hopened, rfl⟩ := List.mem_map.mp hplace
    have hmade : opened = file := by rw [hsent.made opened hopened, hcollected]
    rw [Aggregates.closeAll_found hsent.nodup hopened hfound, hmade]
  · have hnone : collected desk.workspace place (before.map (·.parcel)) = [] := by
      rw [← hcollected]
      exact collected_eq_nil _ fun hmem => hplace ((hsent.mem_iff place).mpr hmem)
    have hfile : file = { place } := by
      rw [show file = .ofTexts place _ from rfl, hnone]
      rfl
    rw [Aggregates.closeAll_elsewhere hplace, hfound, hfile]
    rfl

end Sends

end Codegen.Output
