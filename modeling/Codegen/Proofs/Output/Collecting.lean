import Codegen.Proofs.Files.Reach
import Codegen.Proofs.Output.Delivery
import Mathlib.Data.List.Dedup

/-! Collecting files: what is on the disk, what is still held back, and how both together are all that
a file was given. -/

namespace Codegen.Output

open Codegen.Files

/-- Of a workspace, only the file at one place was changed or created. -/
structure RewritesAt (place : Place) (w after : Workspace) : Prop where
  persists : w.Persists after
  elsewhere : ∀ other, other ≠ place → after.tree.get? other = w.tree.get? other

namespace RewritesAt

variable {place : Place} {w middle after : Workspace}

theorem refl (place : Place) (w : Workspace) : RewritesAt place w w := ⟨.refl w, fun _ _ => rfl⟩

theorem trans (hfirst : RewritesAt place w middle) (hsecond : RewritesAt place middle after) :
    RewritesAt place w after :=
  ⟨hfirst.persists.trans hsecond.persists, fun other hother =>
    (hsecond.elsewhere other hother).trans (hfirst.elsewhere other hother)⟩

theorem putFile (hroot : place ≠ []) (hlink : ∀ target, w.tree.get? place ≠ some (.link target))
    (hdirectory : w.tree.get? place ≠ some .directory) (data : ByteArray) :
    RewritesAt place w (w.putFile place data) :=
  ⟨⟨.put_file hroot hlink hdirectory _, rfl⟩, fun _ hother => Tree.get?_put_of_ne w.tree hother _⟩

theorem of_writable {path : Path} (hw : w.Rooted)
    (h : w.tree.writable w.directory path = .ok place) (data : ByteArray) :
    RewritesAt place w (w.putFile place data) :=
  ⟨Workspace.putFile_persists hw h data, fun _ hother => Tree.get?_put_of_ne w.tree hother _⟩

end RewritesAt

theorem eq_empty_of_isEmpty {bytes : ByteArray} (h : bytes.isEmpty = true) : bytes = .empty := by
  rw [← ByteArray.size_eq_zero_iff]
  simpa [ByteArray.isEmpty] using h

@[simp] theorem overlay_empty (data : ByteArray) (position : Nat) :
    overlay data position .empty = data := rfl

theorem overlay_of_not_isEmpty {piece : ByteArray} (h : ¬ piece.isEmpty = true) (data : ByteArray)
    (position : Nat) :
    overlay data position piece =
      data.extract 0 position ++ ⟨Array.replicate (position - data.size) 0⟩ ++ piece ++
        data.extract (position + piece.size) data.size := by
  rw [overlay, if_neg h]

theorem overlay_size (data piece : ByteArray) : overlay data data.size piece = data ++ piece := by
  by_cases hpiece : piece.isEmpty = true
  · rw [eq_empty_of_isEmpty hpiece, overlay_empty, ByteArray.append_empty]
  · have hgap : (⟨Array.replicate (data.size - data.size) 0⟩ : ByteArray) = .empty := by
      rw [Nat.sub_self]
      rfl
    rw [overlay_of_not_isEmpty hpiece, hgap, ByteArray.extract_zero_size, ByteArray.append_empty,
      ByteArray.extract_add_left, ByteArray.append_empty]

theorem overlay_append (data first second : ByteArray) (position : Nat) :
    overlay (overlay data position first) (position + first.size) second =
      overlay data position (first ++ second) := by
  by_cases hfirst : first.isEmpty = true
  · rw [eq_empty_of_isEmpty hfirst, overlay_empty, ByteArray.empty_append]
    rfl
  by_cases hsecond : second.isEmpty = true
  · rw [eq_empty_of_isEmpty hsecond, overlay_empty, ByteArray.append_empty]
  have hboth : ¬ (first ++ second).isEmpty = true := by
    simp only [ByteArray.isEmpty, beq_iff_eq, ByteArray.size_append] at hfirst ⊢
    omega
  let gap : ByteArray := ⟨Array.replicate (position - data.size) 0⟩
  let front := data.extract 0 position ++ gap ++ first
  let back := data.extract (position + first.size) data.size
  have hgap : gap.size = position - data.size := Array.size_replicate
  have hfront : front.size = position + first.size := by
    simp only [front, ByteArray.size_append, ByteArray.size_extract, hgap]
    omega
  have hback : back.size = data.size - (position + first.size) := by
    simp only [back, ByteArray.size_extract, Nat.min_self]
  have hwhole : (front ++ back).size = front.size + back.size := ByteArray.size_append
  have hend : min (position + first.size + back.size) data.size = data.size := by
    rw [hback]
    omega
  have hrest : (front ++ back).extract (position + first.size + second.size) (front ++ back).size =
      data.extract (position + (first ++ second).size) data.size := by
    rw [hwhole, ← hfront, ByteArray.extract_append_size_add, ByteArray.extract_extract, hend,
      ByteArray.size_append, Nat.add_assoc]
  have hnone : position + first.size - (front ++ back).size = 0 := by
    rw [hwhole, hfront]
    omega
  rw [overlay_of_not_isEmpty hfirst, overlay_of_not_isEmpty hboth, overlay_of_not_isEmpty hsecond]
  calc (front ++ back).extract 0 (position + first.size) ++
        ⟨Array.replicate (position + first.size - (front ++ back).size) 0⟩ ++ second ++
        (front ++ back).extract (position + first.size + second.size) (front ++ back).size
      = front ++ .empty ++ second ++ data.extract (position + (first ++ second).size) data.size := by
        rw [ByteArray.extract_append_eq_left hfront.symm, hrest, hnone]
        rfl
    _ = data.extract 0 position ++ gap ++ (first ++ second) ++
        data.extract (position + (first ++ second).size) data.size := by
        rw [ByteArray.append_empty, ByteArray.append_assoc (a := data.extract 0 position ++ gap)]

def spill (w : Workspace) (place : Place) (position : Nat) (bytes : ByteArray) : Workspace :=
  match w.tree.get? place with
  | some (.file content) =>
    let data := match content with
      | .bytes data => data
      | .plugin _ => .empty
    { w with tree := w.tree.put place (.file (.bytes (overlay data position bytes))) }
  | _ => w

theorem ne_nil_of_file {w : Workspace} {place : Place} {content : Content}
    (h : w.tree.get? place = some (.file content)) : place ≠ [] := by
  rintro rfl
  rw [Tree.get?_nil] at h
  cases h

theorem spill_rewrites (w : Workspace) (place : Place) (position : Nat) (bytes : ByteArray) :
    RewritesAt place w (spill w place position bytes) := by
  rw [spill]
  split
  · rename_i content hfound
    exact .putFile (ne_nil_of_file hfound) (by simp [hfound]) (by simp [hfound]) _
  · exact .refl place w

theorem spill_found {w : Workspace} {place : Place} {data : ByteArray}
    (h : w.tree.get? place = some (.file (.bytes data))) (position : Nat) (bytes : ByteArray) :
    (spill w place position bytes).tree.get? place =
      some (.file (.bytes (overlay data position bytes))) := by
  simp only [spill, h]
  exact Tree.get?_put_self w.tree (ne_nil_of_file h) _

namespace Aggregate

variable {w after : Workspace} {file : Aggregate} {data body bytes : ByteArray}

/-- What is held back. -/
def held (file : Aggregate) : ByteArray := file.block ++ file.pending

/-- The file has data on the disk, and the next block goes behind it. -/
structure Stored (w : Workspace) (file : Aggregate) (data : ByteArray) : Prop where
  found : w.tree.get? file.place = some (.file (.bytes data))
  position : data.size = file.position

/-- What is on the disk and what is held back come to a body. -/
def Holds (w : Workspace) (file : Aggregate) (body : ByteArray) : Prop :=
  ∃ data, file.Stored w data ∧ data ++ file.block ++ file.pending = body

/-- What was handed on, wherever it is now, and what is held back come to a body. -/
def Given (file : Aggregate) (body : ByteArray) : Prop :=
  ∃ out : ByteArray, out.size = file.position ∧ out ++ file.held = body

/-! Handing on some of what is held back. -/

/-- Bytes that were held back went to the disk, behind those that went before, and nothing else
happened. -/
structure HandsOn (w : Workspace) (file : Aggregate) (bytes : ByteArray)
    (result : Workspace × Aggregate) : Prop where
  place : result.2.place = file.place
  rewrites : RewritesAt file.place w result.1
  position : result.2.position = file.position + bytes.size
  held : file.held = bytes ++ result.2.held
  found : ∀ data, w.tree.get? file.place = some (.file (.bytes data)) →
    result.1.tree.get? file.place = some (.file (.bytes (overlay data file.position bytes)))

namespace HandsOn

variable {result last : Workspace × Aggregate} {first second : ByteArray}

theorem none {file' : Aggregate} (hplace : file'.place = file.place)
    (hposition : file'.position = file.position) (hheld : file.held = file'.held) :
    file.HandsOn w .empty (w, file') :=
  ⟨hplace, .refl file.place w, hposition, by rw [ByteArray.empty_append, hheld], fun _ h => h⟩

theorem spill {file' : Aggregate} (hplace : file'.place = file.place)
    (hposition : file'.position = file.position + bytes.size)
    (hheld : file.held = bytes ++ file'.held) :
    file.HandsOn w bytes (spill w file.place file.position bytes, file') :=
  ⟨hplace, spill_rewrites w _ _ _, hposition, hheld, fun _ h => spill_found h _ _⟩

theorem trans (hfirst : file.HandsOn w first result)
    (hsecond : result.2.HandsOn result.1 second last) :
    file.HandsOn w (first ++ second) last := by
  have hrewrites := hsecond.rewrites
  have hfound := hsecond.found
  rw [hfirst.place] at hrewrites hfound
  refine ⟨hsecond.place.trans hfirst.place, hfirst.rewrites.trans hrewrites, ?_, ?_, ?_⟩
  · rw [hsecond.position, hfirst.position, ByteArray.size_append, Nat.add_assoc]
  · rw [hfirst.held, hsecond.held, ByteArray.append_assoc]
  · intro data hdata
    rw [hfound _ (hfirst.found data hdata), hfirst.position, overlay_append]

theorem given (h : file.HandsOn w bytes result) (hgiven : file.Given body) :
    result.2.Given body := by
  obtain ⟨out, hout, rfl⟩ := hgiven
  refine ⟨out ++ bytes, ?_, ?_⟩
  · rw [ByteArray.size_append, hout, h.position]
  · rw [h.held, ByteArray.append_assoc]

theorem holds (h : file.HandsOn w bytes result) (hholds : file.Holds w body) :
    result.2.Holds result.1 body := by
  obtain ⟨data, hstored, rfl⟩ := hholds
  have hfound := h.found data hstored.found
  rw [← hstored.position, overlay_size, ← h.place] at hfound
  refine ⟨data ++ bytes, ⟨hfound, ?_⟩, ?_⟩
  · rw [ByteArray.size_append, hstored.position, h.position]
  · have hheld := h.held
    rw [Aggregate.held, Aggregate.held] at hheld
    rw [ByteArray.append_assoc, ByteArray.append_assoc, ← hheld, ByteArray.append_assoc]

end HandsOn

theorem emit_eq (w : Workspace) (file : Aggregate) (bytes : ByteArray) :
    file.emit w bytes =
      (spill w file.place file.position bytes, { file with position := file.position + bytes.size }) := by
  rw [emit, spill]
  rcases w.tree.get? file.place with _ | (content | _ | _) <;> rfl

theorem emitBlock_handsOn (w : Workspace) (file : Aggregate) :
    file.HandsOn w file.block (file.emitBlock w) := by
  rw [emitBlock, emit_eq]
  refine .spill rfl rfl ?_
  rw [held, held, ByteArray.empty_append]

theorem handOn_handsOn (file : Aggregate) : ∃ bytes file', ∀ w,
    (file.handOn w).2 = file' ∧ file.HandsOn w bytes (file.handOn w) := by
  simp only [handOn]
  split
  · refine ⟨_, _, fun w => ⟨rfl, .none rfl rfl ?_⟩⟩
    rw [held, held, ByteArray.append_empty]
  · -- The block goes out before the pending texts, and these do so only when they fill a block.
    let emptied : Aggregate := { file with block := .empty, position := file.position + file.block.size }
    have hblock : ∀ w, file.HandsOn w file.block
        (Output.spill w file.place file.position file.block, emptied) := by
      intro w
      refine .spill rfl rfl ?_
      rw [held, held, ByteArray.empty_append]
    simp only [emitBlock, emit_eq]
    split
    · refine ⟨_, _, fun w => ⟨rfl, (hblock w).trans (.spill rfl rfl ?_)⟩⟩
      rw [held, held, ByteArray.append_empty, ByteArray.empty_append]
      exact ByteArray.append_empty.symm
    · refine ⟨_, _, fun w => ⟨rfl, (hblock w).trans (.none rfl rfl ?_)⟩⟩
      rw [held, held, ByteArray.append_empty]
      exact ByteArray.empty_append

@[simp] theorem handOn_pending (w : Workspace) (file : Aggregate) :
    (file.handOn w).2.pending = .empty := by
  simp only [handOn, emitBlock, emit_eq]
  split
  · rfl
  · split <;> rfl

/-! Adding a text, and closing. -/

def filled (file : Aggregate) (text : String) : Aggregate :=
  { file with pending := file.pending ++ text.toUTF8 }

theorem filled_held (file : Aggregate) (text : String) :
    (file.filled text).held = file.held ++ text.toUTF8 := by
  rw [held, held, filled, ByteArray.append_assoc]

theorem HandsOn.filled {result : Workspace × Aggregate} (h : file.HandsOn w bytes result)
    (text : String) : (file.filled text).HandsOn w bytes (result.1, result.2.filled text) := by
  refine ⟨h.place, h.rewrites, h.position, ?_, h.found⟩
  rw [filled_held, h.held, filled_held, ByteArray.append_assoc]

theorem add_handsOn (file : Aggregate) (text : String) : ∃ bytes file', ∀ w,
    (file.add w text).2 = file' ∧ (file.filled text).HandsOn w bytes (file.add w text) := by
  have hlast : ∀ file : Aggregate, ∃ bytes file', ∀ w,
      (if pendingLimit ≤ file.pending.size then file.handOn w else (w, file)).2 = file' ∧
      file.HandsOn w bytes (if pendingLimit ≤ file.pending.size then file.handOn w else (w, file)) := by
    intro file
    split
    · exact file.handOn_handsOn
    · exact ⟨.empty, file, fun w => ⟨rfl, .none rfl rfl rfl⟩⟩
  simp only [add]
  split
  · obtain ⟨first, middle, hfirst⟩ := file.handOn_handsOn
    obtain ⟨second, file', hsecond⟩ := hlast (middle.filled text)
    refine ⟨first ++ second, file', fun w => ?_⟩
    obtain ⟨hmiddle, hhands⟩ := hfirst w
    obtain ⟨hfile', hmore⟩ := hsecond (file.handOn w).1
    have hfilled := hhands.filled text
    rw [hmiddle] at hfilled ⊢
    exact ⟨hfile', hfilled.trans hmore⟩
  · exact hlast (file.filled text)

@[simp] theorem add_place (w : Workspace) (file : Aggregate) (text : String) :
    (file.add w text).2.place = file.place := by
  obtain ⟨bytes, file', hadd⟩ := file.add_handsOn text
  exact (hadd w).2.place

theorem add_rewrites (w : Workspace) (file : Aggregate) (text : String) :
    RewritesAt file.place w (file.add w text).1 := by
  obtain ⟨bytes, file', hadd⟩ := file.add_handsOn text
  exact (hadd w).2.rewrites

theorem add_snd (w after : Workspace) (file : Aggregate) (text : String) :
    (file.add w text).2 = (file.add after text).2 := by
  obtain ⟨bytes, file', hadd⟩ := file.add_handsOn text
  rw [(hadd w).1, (hadd after).1]

theorem add_found (hw : w.tree.get? file.place = some (.file (.bytes data)))
    (hafter : after.tree.get? file.place = some (.file (.bytes data))) (text : String) :
    ∃ data', (file.add w text).1.tree.get? file.place = some (.file (.bytes data')) ∧
      (file.add after text).1.tree.get? file.place = some (.file (.bytes data')) := by
  obtain ⟨bytes, file', hadd⟩ := file.add_handsOn text
  exact ⟨_, (hadd w).2.found data hw, (hadd after).2.found data hafter⟩

theorem Holds.add (h : file.Holds w body) (text : String) :
    (file.add w text).2.Holds (file.add w text).1 (body ++ text.toUTF8) := by
  obtain ⟨bytes, file', hadd⟩ := file.add_handsOn text
  obtain ⟨data, hstored, hbody⟩ := h
  refine (hadd w).2.holds ⟨data, ⟨hstored.found, hstored.position⟩, ?_⟩
  rw [← hbody, filled, ByteArray.append_assoc, ByteArray.append_assoc, ByteArray.append_assoc]

theorem Given.add (h : file.Given body) (w : Workspace) (text : String) :
    (file.add w text).2.Given (body ++ text.toUTF8) := by
  obtain ⟨bytes, file', hadd⟩ := file.add_handsOn text
  obtain ⟨out, hout, rfl⟩ := h
  refine (hadd w).2.given ⟨out, hout, ?_⟩
  rw [filled_held, ByteArray.append_assoc]

/-- The open file of a place that was given texts. -/
def ofTexts (place : Place) (texts : List String) : Aggregate :=
  texts.foldl (fun file text => (file.add ⟨⟨[]⟩, []⟩ text).2) { place }

theorem ofTexts_append (place : Place) (texts : List String) (w : Workspace) (text : String) :
    ofTexts place (texts ++ [text]) = ((ofTexts place texts).add w text).2 := by
  rw [ofTexts, List.foldl_append, List.foldl_cons, List.foldl_nil]
  exact add_snd _ w _ text

theorem ofTexts_given (place : Place) (texts : List String) :
    (ofTexts place texts).Given (String.join texts).toUTF8 := by
  induction texts using List.reverseRecOn with
  | nil => exact ⟨.empty, rfl, rfl⟩
  | append_singleton texts text ih =>
      rw [ofTexts_append place texts ⟨⟨[]⟩, []⟩, String.join_append, String.join_cons, String.join_nil,
        String.append_empty, String.toUTF8_eq_toByteArray, String.toByteArray_append]
      exact ih.add _ text

theorem close_handsOn (w : Workspace) (file : Aggregate) :
    ∃ last, file.HandsOn w file.held (file.close w, last) := by
  obtain ⟨first, _, hhandOn⟩ := file.handOn_handsOn
  have hfirst := (hhandOn w).2
  have hsecond := (file.handOn w).2.emitBlock_handsOn (file.handOn w).1
  have hheld : (file.handOn w).2.held = (file.handOn w).2.block := by
    rw [held, handOn_pending, ByteArray.append_empty]
  have hboth := hfirst.trans hsecond
  rw [← hheld, ← hfirst.held] at hboth
  exact ⟨_, hboth⟩

theorem close_rewrites (w : Workspace) (file : Aggregate) :
    RewritesAt file.place w (file.close w) := by
  obtain ⟨last, hclose⟩ := file.close_handsOn w
  exact hclose.rewrites

theorem close_found (h : w.tree.get? file.place = some (.file (.bytes data))) :
    (file.close w).tree.get? file.place =
      some (.file (.bytes (overlay data file.position file.held))) := by
  obtain ⟨last, hclose⟩ := file.close_handsOn w
  exact hclose.found data h

end Aggregate

namespace Aggregates

def places (files : Aggregates) : List Place := files.map (·.place)

theorem paths_eq (files : Aggregates) : files.paths = files.places.map Tree.pathOf := by
  rw [paths, places, List.map_map]
  rfl

theorem paths_nodup_iff (files : Aggregates) : files.paths.Nodup ↔ files.places.Nodup := by
  rw [paths_eq]
  refine List.nodup_map_iff ?_
  intro place other h
  exact congrArg Path.parts h

private theorem foldl_add_of_not_mem {files : Aggregates} {place : Place}
    (hplace : place ∉ files.places) (text : String) (w : Workspace) (done : Aggregates) :
    files.foldl (fun (w, done) file =>
      if file.place = place then
        let (w, file) := file.add w text
        (w, done ++ [file])
      else (w, done ++ [file])) (w, done) = (w, done ++ files) := by
  induction files generalizing done with
  | nil => simp
  | cons file rest ih =>
      have hfile : file.place ≠ place := fun h => hplace (by simp [places, h])
      have hrest : place ∉ Aggregates.places rest := fun h => hplace (List.mem_cons_of_mem _ h)
      simp only [List.foldl_cons, hfile, if_false]
      rw [ih hrest, List.append_assoc]
      rfl

theorem write_open {w : Workspace} {before rest : Aggregates} {file : Aggregate} {path : Path}
    (hfiles : Aggregates.places (before ++ file :: rest) |>.Nodup)
    (hplace : w.resolve path = .ok file.place) (text : String) :
    write w (before ++ file :: rest) path text =
      .ok ((file.add w text).1, before ++ (file.add w text).2 :: rest, Tree.pathOf file.place) := by
  simp only [places, List.map_append, List.map_cons, List.nodup_append, List.nodup_cons] at hfiles
  have hbefore : file.place ∉ Aggregates.places before := fun hmem =>
    hfiles.2.2 file.place hmem file.place List.mem_cons_self rfl
  have hrest : file.place ∉ Aggregates.places rest := hfiles.2.1.1
  have hopen : (before ++ file :: rest).any (·.place = file.place) = true := by simp
  simp only [write, hplace, bind, Except.bind, hopen, if_true]
  rw [List.foldl_append, foldl_add_of_not_mem hbefore, List.foldl_cons]
  simp only [if_true]
  rw [foldl_add_of_not_mem hrest]
  simp [pure, Except.pure]

theorem write_new {w : Workspace} {files : Aggregates} {path : Path} {place : Place}
    (hplace : w.resolve path = .ok place) (hnew : place ∉ files.places) (text : String) :
    files.write w path text = (w.writeText (Tree.pathOf place) "").map fun opened =>
      ((Aggregate.add opened { place } text).1, files ++ [(Aggregate.add opened { place } text).2],
        Tree.pathOf place) := by
  have hclosed : ¬ files.any (·.place = place) = true := by
    intro hopen
    obtain ⟨file, hfile, hsame⟩ := List.any_eq_true.mp hopen
    exact hnew (of_decide_eq_true hsame ▸ List.mem_map_of_mem hfile)
  simp only [write, hplace, bind, Except.bind, hclosed, Bool.false_eq_true, if_false]
  cases w.writeText (Tree.pathOf place) "" <;> rfl

theorem opened_iff {w opened : Workspace} {path : Path} {place : Place} (hw : w.Rooted)
    (hplace : w.resolve path = .ok place) :
    w.writeText (Tree.pathOf place) "" = .ok opened ↔
      w.tree.writable w.directory (Tree.pathOf place) = .ok place ∧
        opened = w.putFile place .empty := by
  rw [Workspace.writeText_eq_ok_iff]
  constructor
  · rintro ⟨found, hwritable, rfl⟩
    obtain ⟨_, hfound⟩ := Workspace.resolve_eq_ok (Workspace.writable_resolve hwritable).1
    rw [(Workspace.resolve_plain hw hplace).resolve?_pathOf] at hfound
    cases hfound
    exact ⟨hwritable, rfl⟩
  · rintro ⟨hwritable, rfl⟩
    exact ⟨place, hwritable, rfl⟩

/-- The file that takes a text for a place, and the workspace in which it does: the open file of the
place, or else a new and empty one. -/
inductive Takes (w : Workspace) (files : Aggregates) (place : Place) : Workspace → Aggregate → Prop
  | again {file : Aggregate} (hfile : file ∈ files) (hplace : file.place = place) :
      Takes w files place w file
  | first (hnew : place ∉ files.places)
      (hwritable : w.tree.writable w.directory (Tree.pathOf place) = .ok place) :
      Takes w files place (w.putFile place .empty) { place }

/-- What writing a text to the collecting file of a place comes to. -/
structure Written (w : Workspace) (files : Aggregates) (place : Place) (text : String)
    (after : Workspace) (files' : Aggregates) : Prop where
  rewrites : RewritesAt place w after
  nodup : files'.places.Nodup
  mem_iff : ∀ other, other ∈ files'.places ↔ other ∈ files.places ∨ other = place
  others : ∀ file ∈ files, file.place ≠ place → file ∈ files'
  added : ∃ ready file, Takes w files place ready file ∧ after = (file.add ready text).1 ∧
    (file.add ready text).2 ∈ files'

theorem written_open {before rest : Aggregates} {file : Aggregate}
    (hfiles : Aggregates.places (before ++ file :: rest) |>.Nodup) (w : Workspace) (text : String) :
    Written w (before ++ file :: rest) file.place text (file.add w text).1
      (before ++ (file.add w text).2 :: rest) := by
  have hplaces : Aggregates.places (before ++ (file.add w text).2 :: rest) =
      Aggregates.places (before ++ file :: rest) := by
    simp [places]
  have hfile : file ∈ before ++ file :: rest := List.mem_append_right _ List.mem_cons_self
  refine ⟨file.add_rewrites w text, hplaces ▸ hfiles, ?_, ?_, w, file, .again hfile rfl, rfl,
    List.mem_append_right _ List.mem_cons_self⟩
  · intro other
    rw [hplaces]
    constructor
    · exact .inl
    · rintro (hmem | rfl)
      · exact hmem
      · exact List.mem_map_of_mem hfile
  · intro other hother hne
    rcases List.mem_append.mp hother with hmem | hmem
    · exact List.mem_append_left _ hmem
    · rcases List.mem_cons.mp hmem with rfl | hmem
      · exact absurd rfl hne
      · exact List.mem_append_right _ (List.mem_cons_of_mem _ hmem)

theorem written_new {w : Workspace} {files : Aggregates} {place : Place} (hw : w.Rooted)
    (hfiles : files.places.Nodup) (hnew : place ∉ files.places)
    (hwritable : w.tree.writable w.directory (Tree.pathOf place) = .ok place) (text : String) :
    Written w files place text (Aggregate.add (w.putFile place .empty) { place } text).1
      (files ++ [(Aggregate.add (w.putFile place .empty) { place } text).2]) := by
  have hplaces : Aggregates.places
      (files ++ [(Aggregate.add (w.putFile place .empty) { place } text).2]) =
      files.places ++ [place] := by
    simp [places]
  refine ⟨(RewritesAt.of_writable hw hwritable .empty).trans (Aggregate.add_rewrites _ { place } text),
    ?_, ?_, ?_, _, _, .first hnew hwritable, rfl, List.mem_append_right _ List.mem_cons_self⟩
  · rw [hplaces, List.nodup_append]
    refine ⟨hfiles, List.nodup_singleton place, ?_⟩
    intro other hother last hlast heq
    rw [heq, List.mem_singleton.mp hlast] at hother
    exact hnew hother
  · intro other
    rw [hplaces, List.mem_append, List.mem_singleton]
  · intro other hother hne
    exact List.mem_append_left _ hother

theorem written_of_write {w after : Workspace} {files files' : Aggregates} {path target : Path}
    {text : String} (hw : w.Rooted) (hfiles : files.places.Nodup)
    (h : files.write w path text = .ok (after, files', target)) :
    ∃ place, w.resolve path = .ok place ∧ Written w files place text after files' := by
  cases hplace : w.resolve path with
  | error failure =>
      rw [write, hplace] at h
      cases h
  | ok place =>
      refine ⟨place, rfl, ?_⟩
      by_cases hopen : place ∈ files.places
      · obtain ⟨file, hfile, rfl⟩ := List.mem_map.mp hopen
        obtain ⟨before, rest, rfl⟩ := List.append_of_mem hfile
        rw [write_open hfiles hplace] at h
        cases h
        exact written_open hfiles w text
      · rw [write_new hplace hopen] at h
        cases hopened : w.writeText (Tree.pathOf place) "" with
        | error failure =>
            rw [hopened] at h
            cases h
        | ok opened =>
            rw [hopened] at h
            cases h
            obtain ⟨hwritable, rfl⟩ := (opened_iff hw hplace).mp hopened
            exact written_new hw hfiles hopen hwritable text

theorem eq_of_place {files : Aggregates} (hfiles : files.places.Nodup) {file other : Aggregate}
    (hfile : file ∈ files) (hother : other ∈ files) (hplace : other.place = file.place) :
    other = file :=
  List.inj_on_of_nodup_map hfiles hother hfile hplace

namespace Written

variable {w after : Workspace} {files files' : Aggregates} {place : Place} {text : String}

theorem notOpen {file : Aggregate} (hfile : file ∈ files) (hplace : file.place = place) :
    ¬ place ∉ files.places :=
  fun hnew => hnew (hplace ▸ List.mem_map_of_mem hfile)

theorem behind (h : Written w files place text after files') (hfiles : files.places.Nodup)
    {file : Aggregate} (hfile : file ∈ files) (hplace : file.place = place) {body : ByteArray}
    (hholds : file.Holds w body) :
    ∃ file' ∈ files', file'.place = place ∧ file'.Holds after (body ++ text.toUTF8) := by
  obtain ⟨ready, taker, htakes, rfl, hmem⟩ := h.added
  cases htakes with
  | again htaker hsame =>
      obtain rfl := eq_of_place hfiles hfile htaker (hsame.trans hplace.symm)
      exact ⟨_, hmem, (taker.add_place w text).trans hplace, hholds.add text⟩
  | first hnew hwritable => exact absurd hnew (notOpen hfile hplace)

theorem alone (h : Written w files place text after files') (hplace : place ∉ files.places) :
    ∃ file' ∈ files', file'.place = place ∧ file'.Holds after text.toUTF8 := by
  obtain ⟨ready, taker, htakes, rfl, hmem⟩ := h.added
  cases htakes with
  | again htaker hsame => exact absurd hplace (notOpen htaker hsame)
  | first hnew hwritable =>
      have hroot := (Workspace.writable_resolve hwritable).2
      have hempty : Aggregate.Holds (w.putFile place .empty) { place } .empty :=
        ⟨.empty, ⟨Tree.get?_put_self w.tree hroot _, rfl⟩, rfl⟩
      have hadded := hempty.add text
      rw [ByteArray.empty_append] at hadded
      exact ⟨_, hmem, Aggregate.add_place _ { place } text, hadded⟩

theorem made (h : Written w files place text after files') {texts : List String}
    (htexts : ∀ file ∈ files, file.place = place → file = .ofTexts place texts)
    (hnone : place ∉ files.places → texts = []) {file' : Aggregate} (hfile' : file' ∈ files')
    (hplace : file'.place = place) : file' = .ofTexts place (texts ++ [text]) := by
  obtain ⟨ready, taker, htakes, rfl, hmem⟩ := h.added
  have htaken : taker.place = place ∧ taker = .ofTexts place texts := by
    cases htakes with
    | again htaker hsame => exact ⟨hsame, htexts taker htaker hsame⟩
    | first hnew hwritable =>
        rw [hnone hnew]
        exact ⟨rfl, rfl⟩
  have hsame := (taker.add_place ready text).trans htaken.1
  rw [eq_of_place h.nodup hmem hfile' (hplace.trans hsame.symm), Aggregate.ofTexts_append _ _ ready,
    ← htaken.2]

theorem there (h : Written w files place text after files')
    (hthere : ∀ file ∈ files, ∃ content, w.tree.get? file.place = some (.file content)) :
    ∃ content, after.tree.get? place = some (.file content) := by
  obtain ⟨ready, taker, htakes, rfl, hmem⟩ := h.added
  have hpersists := (taker.add_rewrites ready text).persists.tree
  cases htakes with
  | again htaker hsame =>
      obtain ⟨content, hcontent⟩ := hthere taker htaker
      exact hsame ▸ hpersists.file _ content hcontent
  | first hnew hwritable =>
      have hroot := (Workspace.writable_resolve hwritable).2
      exact hpersists.file place _ (Tree.get?_put_self w.tree hroot _)

end Written

/-! Closing all files. -/

theorem closeAll_cons (w : Workspace) (file : Aggregate) (rest : Aggregates) :
    closeAll w (file :: rest) = file.close (closeAll w rest) := rfl

theorem closeAll_elsewhere {files : Aggregates} {place : Place} (hplace : place ∉ files.places)
    (w : Workspace) : (closeAll w files).tree.get? place = w.tree.get? place := by
  induction files with
  | nil => rfl
  | cons file rest ih =>
      have hfile : place ≠ file.place := fun h => hplace (by simp [places, h])
      have hrest : place ∉ Aggregates.places rest := fun h => hplace (List.mem_cons_of_mem _ h)
      rw [closeAll_cons, (file.close_rewrites _).elsewhere place hfile, ih hrest]

theorem closeAll_found {files : Aggregates} (hfiles : files.places.Nodup) {w : Workspace}
    {file : Aggregate} (hfile : file ∈ files) {data : ByteArray}
    (h : w.tree.get? file.place = some (.file (.bytes data))) :
    (closeAll w files).tree.get? file.place =
      some (.file (.bytes (overlay data file.position file.held))) := by
  induction files with
  | nil => cases hfile
  | cons head rest ih =>
      obtain ⟨hhead, hrest⟩ := List.nodup_cons.mp hfiles
      rw [closeAll_cons]
      rcases List.mem_cons.mp hfile with rfl | hmem
      · exact Aggregate.close_found ((closeAll_elsewhere hhead w).trans h)
      · have hne : file.place ≠ head.place := by
          intro heq
          exact hhead (List.mem_map.mpr ⟨file, hmem, heq⟩)
        rw [(head.close_rewrites _).elsewhere file.place hne]
        exact ih hrest hmem

theorem closeAll_holds {files : Aggregates} (hfiles : files.places.Nodup) {w : Workspace}
    {file : Aggregate} (hfile : file ∈ files) {body : ByteArray} (h : file.Holds w body) :
    (closeAll w files).tree.get? file.place = some (.file (.bytes body)) := by
  obtain ⟨data, hstored, rfl⟩ := h
  rw [closeAll_found hfiles hfile hstored.found, ← hstored.position, overlay_size, Aggregate.held,
    ByteArray.append_assoc]

end Aggregates

end Codegen.Output
