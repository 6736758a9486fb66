import Codegen.Proofs.Output.Touched

/-! Deliveries that are made a second time, on the files that the first time left. -/

namespace Codegen.Output

open Codegen.Files

/-- How a file stands while deliveries are repeated: nothing but bodies to preserve was written to it
yet; it holds the same both times; or a body to preserve went over what had been written to it, which
does not happen the second time. -/
inductive Standing
  | untouched
  | level (isOpen : Bool)
  | diverted (isOpen : Bool)
  deriving DecidableEq

namespace Standing

/-- Whether the file is open as a collecting file. -/
def isOpen : Standing → Bool
  | untouched => false
  | level isOpen => isOpen
  | diverted isOpen => isOpen

def isDiverted : Standing → Bool
  | diverted _ => true
  | _ => false

/-- What a body that is written makes of it, by its mode. A collecting file is emptied when it is
opened, and only then. -/
def next (standing : Standing) : Mode → Standing
  | .overwrite => .level standing.isOpen
  | .aggregate => if standing = .diverted true then standing else .level true
  | _ => if standing = .untouched then standing else .diverted standing.isOpen

end Standing

instance (origin : Workspace) (place : Place) (receipt : Receipt) :
    Decidable (receipt.Writes origin place) :=
  inferInstanceAs (Decidable (_ ∧ _))

/-- How the file at a place stands after deliveries. -/
def standing (origin : Workspace) (place : Place) (receipts : List Receipt) : Standing :=
  (receipts.filter fun receipt => receipt.Writes origin place).foldl
    (fun standing receipt => standing.next receipt.parcel.mode) .untouched

section

variable {origin : Workspace} {place : Place} {receipts : List Receipt} {receipt : Receipt}

theorem standing_append_written (h : receipt.Writes origin place) :
    standing origin place (receipts ++ [receipt]) =
      (standing origin place receipts).next receipt.parcel.mode := by
  simp [standing, h]

theorem standing_append_other (h : ¬ receipt.Writes origin place) :
    standing origin place (receipts ++ [receipt]) = standing origin place receipts := by
  simp [standing, h]

theorem exists_writes_of_standing (h : standing origin place receipts ≠ .untouched) :
    ∃ receipt ∈ receipts, receipt.Writes origin place := by
  by_contra hnone
  have hfilter : (receipts.filter fun receipt => receipt.Writes origin place) = [] := by
    rw [List.filter_eq_nil_iff]
    intro receipt hreceipt hwrites
    exact hnone ⟨receipt, hreceipt, of_decide_eq_true hwrites⟩
  rw [standing, hfilter] at h
  exact h rfl

/-- A file stands diverted only when a body that was neither to replace it nor to be collected in it was
written over another one. -/
theorem writes_of_isDiverted (h : (standing origin place receipts).isDiverted = true) :
    ∃ before receipt later, receipts = before ++ receipt :: later ∧ receipt.Writes origin place ∧
      receipt.parcel.mode ≠ .overwrite ∧ receipt.parcel.mode ≠ .aggregate ∧
      ∃ other ∈ before, other.Writes origin place := by
  induction receipts using List.reverseRecOn with
  | nil => cases h
  | append_singleton before last ih =>
      have hearlier : (standing origin place before).isDiverted = true →
          ∃ earlier receipt later, before ++ [last] = earlier ++ receipt :: later ∧
            receipt.Writes origin place ∧ receipt.parcel.mode ≠ .overwrite ∧
            receipt.parcel.mode ≠ .aggregate ∧ ∃ other ∈ earlier, other.Writes origin place := by
        intro hdiverted
        obtain ⟨earlier, receipt, later, rfl, hreceipt⟩ := ih hdiverted
        exact ⟨earlier, receipt, later ++ [last], by simp, hreceipt⟩
      by_cases hwrites : last.Writes origin place
      · rw [standing_append_written hwrites] at h
        by_cases hmode : last.parcel.mode = .overwrite
        · rw [hmode] at h
          cases h
        by_cases haggregate : last.parcel.mode = .aggregate
        · rw [haggregate, Standing.next] at h
          split at h
          · exact hearlier h
          · cases h
        refine ⟨before, last, [], rfl, hwrites, hmode, haggregate, exists_writes_of_standing fun hnone => ?_⟩
        rw [hnone] at h
        cases hlast : last.parcel.mode <;> simp_all [Standing.next, Standing.isDiverted]
      · rw [standing_append_other hwrites] at h
        exact hearlier h

end

/-! The files of both times. -/

/-- What is known, by its standing, of a file the first time and the second, when `settled` is what the
first time comes to. -/
def Standing.Echoes (settled w again : Workspace) (place : Place) : Standing → Prop
  | untouched => again.tree.get? place = settled.tree.get? place
  | level _ => ∃ data, w.tree.get? place = some (.file (.bytes data)) ∧
      again.tree.get? place = some (.file (.bytes data))
  | diverted _ => ∃ content, w.tree.get? place = some (.file content)

/-- The files of the second time keep up with those of the first. The collecting files are the same. -/
structure Echoes (origin settled : Workspace) (receipts : List Receipt) (w again : Workspace)
    (files : Aggregates) : Prop where
  persists : settled.Persists again
  isOpen : ∀ place, (standing origin place receipts).isOpen = true ↔ place ∈ files.places
  files : ∀ place, (standing origin place receipts).Echoes settled w again place

namespace Echoes

variable {origin settled w after again again' : Workspace} {receipts : List Receipt}
  {receipt : Receipt} {files files' : Aggregates} {place : Place}

theorem start (origin settled : Workspace) : Echoes origin settled [] origin settled [] := by
  refine ⟨.refl settled, fun place => ?_, fun place => rfl⟩
  simp [standing, Standing.isOpen, Aggregates.places]

theorem unwritten (h : Echoes origin settled receipts w again files) (hwritten : receipt.written = none) :
    Echoes origin settled (receipts ++ [receipt]) w again files := by
  have hnot : ∀ place, ¬ receipt.Writes origin place := fun place hwrites => hwrites.1 hwritten
  refine ⟨h.persists, fun place => ?_, fun place => ?_⟩
  · rw [standing_append_other (hnot place)]
    exact h.isOpen place
  · rw [standing_append_other (hnot place)]
    exact h.files place

theorem written (h : Echoes origin settled receipts w again files)
    (heffect : Effect origin receipt.parcel w files receipt.written after files')
    (hwrites : receipt.Writes origin place) (hagain : RewritesAt place again again')
    (hopen : ∀ other, other ≠ place → (other ∈ files'.places ↔ other ∈ files.places))
    (hplace : (((standing origin place receipts).next receipt.parcel.mode).isOpen = true ↔
      place ∈ files'.places) ∧
      ((standing origin place receipts).next receipt.parcel.mode).Echoes settled after again' place) :
    Echoes origin settled (receipts ++ [receipt]) after again' files' := by
  have hother : ∀ other, other ≠ place → ¬ receipt.Writes origin other := by
    rintro other hne ⟨_, htarget⟩
    rw [hwrites.2] at htarget
    exact hne (Option.some.inj htarget).symm
  -- What was known of any other place is still so: its standing is the same, and both times it is kept.
  refine ⟨h.persists.trans hagain.persists, fun other => ?_, fun other => ?_⟩
  · by_cases hne : other = place
    · rw [hne, standing_append_written hwrites]
      exact hplace.1
    · rw [standing_append_other (hother other hne), hopen other hne]
      exact h.isOpen other
  · by_cases hne : other = place
    · rw [hne, standing_append_written hwrites]
      exact hplace.2
    · rw [standing_append_other (hother other hne)]
      have hfile := h.files other
      have hsame := hagain.elsewhere other hne
      have hkeeps : ∀ entry, w.tree.get? other = some entry → after.tree.get? other = some entry :=
        fun entry => heffect.keeps fun hwritten htarget => hother other hne ⟨hwritten, htarget⟩
      cases hstanding : standing origin other receipts with
      | untouched =>
          rw [hstanding] at hfile
          exact hsame.trans hfile
      | level isOpen =>
          rw [hstanding] at hfile
          obtain ⟨data, hfirst, hsecond⟩ := hfile
          exact ⟨data, hkeeps _ hfirst, hsame.trans hsecond⟩
      | diverted isOpen =>
          rw [hstanding] at hfile
          obtain ⟨content, hfirst⟩ := hfile
          exact ⟨content, hkeeps _ hfirst⟩

end Echoes

/-! One delivery the second time. -/

theorem Aggregates.isOpen_eq {w again : Workspace} (hpaths : w.SamePaths again) (files : Aggregates)
    (path : Path) : files.isOpen again path = files.isOpen w path := by
  rw [isOpen, isOpen, hpaths.resolve_eq]

theorem Aggregates.write_again {w again after : Workspace} {files files' : Aggregates}
    {path target : Path} {text : String} (hw : w.Rooted) (hfiles : files.places.Nodup)
    (hpersists : w.Persists again)
    (hfree : ∀ place, w.resolve path = .ok place → again.tree.get? place ≠ some .directory)
    (h : files.write w path text = .ok (after, files', target)) :
    ∃ place again', w.resolve path = .ok place ∧
      files.write again path text = .ok (again', files', target) ∧
      Written again files place text again' files' ∧
      ((place ∈ files.places → ∃ data, w.tree.get? place = some (.file (.bytes data)) ∧
          again.tree.get? place = some (.file (.bytes data))) →
        ∃ data, after.tree.get? place = some (.file (.bytes data)) ∧
          again'.tree.get? place = some (.file (.bytes data))) := by
  obtain ⟨place, hplace, hwritten⟩ := written_of_write hw hfiles h
  have hagain := hpersists.samePaths.rooted hw
  have hplace' : again.resolve path = .ok place := (hpersists.samePaths.resolve_eq path).trans hplace
  by_cases hopen : place ∈ files.places
  · obtain ⟨file, hfile, rfl⟩ := List.mem_map.mp hopen
    obtain ⟨before, rest, rfl⟩ := List.append_of_mem hfile
    rw [write_open hfiles hplace] at h
    cases h
    refine ⟨file.place, (file.add again text).1, hplace, ?_, ?_, fun hsame => ?_⟩
    · rw [write_open hfiles hplace', file.add_snd again w]
    · rw [file.add_snd w again]
      exact written_open hfiles again text
    · obtain ⟨data, hfirst, hsecond⟩ := hsame hopen
      exact Aggregate.add_found hfirst hsecond text
  · rw [write_new hplace hopen] at h
    cases hopened : w.writeText (Tree.pathOf place) "" with
    | error failure =>
        rw [hopened] at h
        cases h
    | ok opened =>
        rw [hopened] at h
        cases h
        obtain ⟨hwritable, rfl⟩ := (opened_iff hw hplace).mp hopened
        have hwritable' : again.tree.writable again.directory (Tree.pathOf place) = .ok place := by
          rw [hpersists.directory]
          exact hpersists.tree.writable hwritable (hfree place hplace)
        have hroot := (Workspace.writable_resolve hwritable).2
        have hsnd := Aggregate.add_snd (w.putFile place .empty) (again.putFile place .empty) { place } text
        refine ⟨place, (Aggregate.add (again.putFile place .empty) { place } text).1, hplace, ?_, ?_,
          fun _ => ?_⟩
        · rw [write_new hplace' hopen, (opened_iff hagain hplace').mpr ⟨hwritable', rfl⟩, hsnd]
          rfl
        · rw [hsnd]
          exact written_new hagain hfiles hopen hwritable' text
        · let opened : Aggregate := { place }
          exact opened.add_found (Tree.get?_put_self _ hroot _) (Tree.get?_put_self _ hroot _) text

section

variable {origin settled again : Workspace} {receipts : List Receipt} {m : Model} {parcel : Parcel}
  {desk after : Desk} {written : Option Path}

theorem Echoes.replaced {ready : Workspace} {place : Place} (horigin : origin.Rooted)
    (hpersists : origin.Persists desk.workspace)
    (h : Echoes origin settled receipts desk.workspace again desk.aggregates)
    (hmode : parcel.mode = .overwrite)
    (hparents : desk.workspace.ensureParents parcel.address = (ready, .ok ()))
    (hwritable : ready.tree.writable ready.directory parcel.address = .ok place)
    (hsettled : (ready.putFile place parcel.body.toUTF8).Persists settled) :
    again.ensureParents parcel.address = (again, .ok ()) ∧
    again.tree.writable again.directory parcel.address = .ok place ∧
    Echoes origin settled (receipts ++ [⟨parcel, some parcel.address⟩])
      (ready.putFile place parcel.body.toUTF8) (again.putFile place parcel.body.toUTF8)
      desk.aggregates := by
  have hready := hpersists.trans (Workspace.persists_of_ensureParents hparents)
  have hput := Workspace.putFile_persists (hready.samePaths.rooted horigin) hwritable
    parcel.body.toUTF8
  have hagain : ready.Persists again := hput.trans (hsettled.trans h.persists)
  obtain ⟨hresolve, hroot⟩ := Workspace.writable_resolve hwritable
  have hfile := Tree.get?_put_self ready.tree hroot (.file (.bytes parcel.body.toUTF8))
  obtain ⟨content, hcontent⟩ := (hsettled.trans h.persists).tree.file place _ hfile
  have hwritable' : again.tree.writable again.directory parcel.address = .ok place := by
    rw [hagain.directory]
    exact hagain.tree.writable hwritable (by simp [hcontent])
  have htarget := target?_eq hready.samePaths hresolve
  have hrooted := (hready.trans hagain).samePaths.rooted horigin
  refine ⟨Workspace.ensureParents_again hparents hagain, hwritable', ?_⟩
  refine h.written (.replaced (.inl hmode) hparents htarget hwritable) ⟨by simp, htarget⟩
    (.of_writable hrooted hwritable' _) (fun _ _ => Iff.rfl) ?_
  rw [hmode]
  exact ⟨h.isOpen place, parcel.body.toUTF8, hfile,
    Tree.get?_put_self again.tree hroot (.file (.bytes parcel.body.toUTF8))⟩

theorem Echoes.preserved (horigin : origin.Rooted)
    (hsent : Sent origin (receipts.map (·.parcel)) desk.workspace desk.aggregates)
    (h : Echoes origin settled receipts desk.workspace again desk.aggregates)
    (hmode : parcel.mode = .preserve)
    (heffect : Effect origin parcel desk.workspace desk.aggregates (some parcel.address)
      after.workspace desk.aggregates)
    (hsettled : after.workspace.Persists settled) :
    again.exists? parcel.address = .ok true ∧
    Echoes origin settled (receipts ++ [⟨parcel, some parcel.address⟩]) after.workspace again
      desk.aggregates := by
  obtain ⟨_, place, content, htarget, hafter, hlocate⟩ :=
    heffect.reaches horigin hsent.persists hsent.there rfl
  have hexists := Workspace.exists?_of_locate (hlocate (by simp [hmode]))
  refine ⟨(hsettled.trans h.persists).exists? hexists, ?_⟩
  refine h.written heffect ⟨by simp, htarget⟩ (.refl place again) (fun _ _ => Iff.rfl) ?_
  have hopen := h.isOpen place
  have hfile := h.files place
  rw [hmode]
  cases hstanding : standing origin place receipts with
  | untouched =>
      rw [hstanding] at hopen hfile
      exact ⟨hopen, hfile⟩
  | level isOpen =>
      rw [hstanding] at hopen
      exact ⟨hopen, content, hafter⟩
  | diverted isOpen =>
      rw [hstanding] at hopen
      exact ⟨hopen, content, hafter⟩

theorem Echoes.collected {ready : Workspace} {aggregates : Aggregates} {target : Path}
    (horigin : origin.Rooted)
    (hsent : Sent origin (receipts.map (·.parcel)) desk.workspace desk.aggregates)
    (h : Echoes origin settled receipts desk.workspace again desk.aggregates)
    (hmode : parcel.mode = .aggregate)
    (hparents : desk.workspace.ensureParents parcel.address = (ready, .ok ()))
    (hwrite : desk.aggregates.write ready parcel.address parcel.body =
      .ok (after.workspace, aggregates, target))
    (hsettled : after.workspace.Persists settled) :
    ∃ again', again.ensureParents parcel.address = (again, .ok ()) ∧ ready.Persists again ∧
      desk.aggregates.write again parcel.address parcel.body = .ok (again', aggregates, target) ∧
      Echoes origin settled (receipts ++ [⟨parcel, some parcel.address⟩]) after.workspace again'
        aggregates := by
  have hmade := Workspace.persists_of_ensureParents hparents
  have hready := hsent.persists.trans hmade
  have hrooted := hready.samePaths.rooted horigin
  obtain ⟨place, hresolve, hwritten⟩ := Aggregates.written_of_write hrooted hsent.nodup hwrite
  have htarget := target?_eq hready.samePaths hresolve
  have heffect : Effect origin parcel desk.workspace desk.aggregates (some parcel.address)
      after.workspace aggregates := .collected hmode hparents htarget hwritten
  have hagain : ready.Persists again :=
    hwritten.rewrites.persists.trans (hsettled.trans h.persists)
  obtain ⟨_, found, content, hfound, hfile, _⟩ :=
    heffect.reaches horigin hsent.persists hsent.there rfl
  obtain rfl := Option.some.inj (hfound.symm.trans htarget)
  obtain ⟨content', hagainFile⟩ := (hsettled.trans h.persists).tree.file found content hfile
  obtain ⟨place, again', hplace, hwrite', hwritten', hcontent⟩ :=
    Aggregates.write_again hrooted hsent.nodup hagain (fun place hplace => by
      obtain rfl := Except.ok.inj (hresolve.symm.trans hplace)
      simp [hagainFile]) hwrite
  obtain rfl := Except.ok.inj (hresolve.symm.trans hplace)
  refine ⟨again', Workspace.ensureParents_again hparents hagain, hagain, hwrite', ?_⟩
  refine h.written heffect ⟨by simp, htarget⟩ hwritten'.rewrites ?_ ?_
  · intro other hne
    rw [hwritten.mem_iff]
    exact or_iff_left hne
  · have hopen := h.isOpen found
    have hbefore := h.files found
    have hmem := (hwritten.mem_iff found).mpr (.inr rfl)
    -- A file that is opened now is emptied both times, one that was open held the same before.
    rw [hmode]
    cases hstanding : standing origin found receipts with
    | untouched =>
        rw [hstanding] at hopen
        exact ⟨iff_of_true rfl hmem, hcontent fun hmem => by cases hopen.mpr hmem⟩
    | level isOpen =>
        rw [hstanding] at hbefore
        obtain ⟨data, hfirst, hsecond⟩ := hbefore
        have hkept := (desk.workspace.ensureParents_grows parcel.address).kept _ _ hfirst
        rw [hparents] at hkept
        exact ⟨iff_of_true rfl hmem, hcontent fun _ => ⟨data, hkept, hsecond⟩⟩
    | diverted isOpen =>
        rw [hstanding] at hopen
        cases isOpen with
        | true => exact ⟨iff_of_true rfl hmem, content, hfile⟩
        | false => exact ⟨iff_of_true rfl hmem, hcontent fun hmem => by cases hopen.mpr hmem⟩

theorem Delivers.twice (horigin : origin.Rooted)
    (hsent : Sent origin (receipts.map (·.parcel)) desk.workspace desk.aggregates)
    (hechoes : Echoes origin settled receipts desk.workspace again desk.aggregates)
    (h : Delivers m parcel desk written after) (hsettled : after.workspace.Persists settled)
    (hlog : parcel.mode = .preserve → Log.outputLogger.say desk.levels .debug
      s!"Preserving existing file {parcel.address}" = .ok ()) :
    ∃ written' again', Delivers m parcel { desk with workspace := again } written'
        { after with workspace := again' } ∧
      Echoes origin settled (receipts ++ [⟨parcel, written⟩]) after.workspace again'
        after.aggregates := by
  have heffect := h.effect horigin hsent.persists hsent.nodup
  have hagain := (heffect.persists horigin hsent.persists).trans (hsettled.trans hechoes.persists)
  cases h with
  | accumulated hmode hcontext hsay =>
      exact ⟨none, again, .accumulated hmode hcontext hsay, hechoes.unwritten rfl⟩
  | ignored hmode hsay => exact ⟨none, again, .ignored hmode hsay, hechoes.unwritten rfl⟩
  | preserved hmode hexists hsay =>
      exact ⟨none, again, .preserved hmode (hagain.exists? hexists) hsay, hechoes.unwritten rfl⟩
  | replaced hmode hparents hwritable hsay =>
      rcases hmode with hmode | ⟨hmode, _⟩
      · obtain ⟨hparents', hwritable', hnext⟩ :=
          hechoes.replaced horigin hsent.persists hmode hparents hwritable hsettled
        exact ⟨_, _, .replaced (.inl hmode) hparents' hwritable' hsay, hnext⟩
      · -- It was created the first time, and is found the second time.
        obtain ⟨hexists, hnext⟩ := hechoes.preserved horigin hsent hmode heffect hsettled
        exact ⟨none, again, .preserved hmode hexists (hlog hmode), hnext⟩
  | collected hmode hparents hopen hopening hwrite hsay =>
      obtain ⟨again', hparents', hready, hwrite', hnext⟩ :=
        hechoes.collected horigin hsent hmode hparents hwrite hsettled
      rw [← Aggregates.isOpen_eq hready.samePaths] at hopen
      refine ⟨some parcel.address, again', .collected hmode hparents' hopen ?_ hwrite' hsay, hnext⟩
      intro hclosed
      obtain ⟨opened, hresolve, hsay⟩ := hopening hclosed
      refine ⟨opened, ?_, hsay⟩
      rw [Workspace.resolvePath, hready.samePaths.resolve_eq]
      exact hresolve

end

/-- Once the collecting files are closed, a file that does not stand diverted holds what it held after
the first time. -/
theorem Echoes.closed {origin w again : Workspace} {parcels : List Parcel} {receipts : List Receipt}
    {files : Aggregates} (hsent : Sent origin parcels w files)
    (h : Echoes origin (files.closeAll w) receipts w again files) (place : Place) :
    (files.closeAll again).tree.get? place = (files.closeAll w).tree.get? place ∨
      (standing origin place receipts).isDiverted = true ∧
        (∃ content, (files.closeAll w).tree.get? place = some (.file content)) ∧
        ∃ content, (files.closeAll again).tree.get? place = some (.file content) := by
  have hopen := h.isOpen place
  have hplace := h.files place
  cases hstanding : standing origin place receipts with
  | untouched =>
      rw [hstanding] at hopen hplace
      have hclosed : place ∉ files.places := fun hmem => by cases hopen.mpr hmem
      exact .inl ((Aggregates.closeAll_elsewhere hclosed again).trans hplace)
  | level isOpen =>
      rw [hstanding] at hplace
      obtain ⟨data, hfirst, hsecond⟩ := hplace
      left
      by_cases hmem : place ∈ files.places
      · obtain ⟨file, hfile, rfl⟩ := List.mem_map.mp hmem
        rw [Aggregates.closeAll_found hsent.nodup hfile hfirst,
          Aggregates.closeAll_found hsent.nodup hfile hsecond]
      · rw [Aggregates.closeAll_elsewhere hmem, Aggregates.closeAll_elsewhere hmem, hfirst, hsecond]
  | diverted isOpen =>
      rw [hstanding] at hplace
      obtain ⟨content, hfirst⟩ := hplace
      obtain ⟨content', hsettled⟩ := (files.closeAll_persists w).tree.file place content hfirst
      have hsecond := (h.persists.trans (files.closeAll_persists again)).tree.file place content' hsettled
      exact .inr ⟨rfl, ⟨content', hsettled⟩, hsecond⟩

/-! The files in between. -/

/-- The desk after parcels were delivered. What is in the context does not matter. -/
def routed (w : Workspace) (levels : Log.Levels) (parcels : List Parcel) : Desk :=
  ((routeAll (parcels.map fun parcel => ⟨{}, [], parcel⟩)).run ⟨w, [], [], levels⟩).2

/-- The files at every moment while parcels are delivered. -/
def moments (w : Workspace) (levels : Log.Levels) (parcels : List Parcel) : List Workspace :=
  parcels.inits.map fun sent => (routed w levels sent).workspace

/-- The files after parcels were delivered and the collecting files closed. -/
def settled (w : Workspace) (levels : Log.Levels) (parcels : List Parcel) : Workspace :=
  (routed w levels parcels).closed

theorem mem_moments_start (w : Workspace) (levels : Log.Levels) (parcels : List Parcel) :
    w ∈ moments w levels parcels :=
  List.mem_map.mpr ⟨[], (List.mem_inits _ _).mpr List.nil_prefix, rfl⟩

theorem Delivers.anyContext {m : Model} {parcel : Parcel} {desk after : Desk} {written : Option Path}
    (h : Delivers m parcel desk written after) :
    ∃ context, Delivers {} parcel { desk with context := [] } written { after with context } := by
  cases h with
  | accumulated hmode hcontext hsay => exact ⟨_, .accumulated hmode rfl hsay⟩
  | ignored hmode hsay => exact ⟨[], .ignored hmode hsay⟩
  | preserved hmode hexists hsay => exact ⟨[], .preserved hmode hexists hsay⟩
  | replaced hmode hparents hwritable hsay => exact ⟨[], .replaced hmode hparents hwritable hsay⟩
  | collected hmode hparents hopen hopening hwrite hsay =>
      exact ⟨[], .collected hmode hparents hopen hopening hwrite hsay⟩

namespace Sends

theorem run {desk after : Desk} {receipts : List Receipt} (h : Sends desk receipts after) :
    ∀ context, ∃ context', (routeAll (receipts.map fun receipt => ⟨{}, [], receipt.parcel⟩)).run
      { desk with context } = (.ok (receipts.map (·.written)), { after with context := context' }) := by
  induction h with
  | nothing => exact fun context => ⟨context, rfl⟩
  | aside _ context ih => exact ih
  | @next receipts middle after m parcel written _ hdelivers ih =>
      intro context
      obtain ⟨between, hbefore⟩ := ih context
      obtain ⟨context', hdelivers⟩ := hdelivers.anyContext
      have hroute : (Call.route ⟨{}, [], parcel⟩).run { middle with context := between } =
          (.ok written, { after with context := context' }) := hdelivers.run
      have hlast : ([⟨{}, [], parcel⟩].mapM Call.route).run { middle with context := between } =
          (.ok [written], { after with context := context' }) := by
        rw [List.mapM_cons, Stateful.run_bind_ok hroute]
        rfl
      refine ⟨context', ?_⟩
      rw [routeAll] at hbefore
      rw [routeAll, List.map_append, List.mapM_append, Stateful.run_bind_ok hbefore, List.map_singleton,
        Stateful.run_bind_ok hlast, List.map_append]
      rfl

variable {w : Workspace} {context : Generation.Context} {levels : Log.Levels} {after : Desk}
  {receipts : List Receipt} {parcels : List Parcel}

theorem routed (h : Sends ⟨w, [], context, levels⟩ receipts after) :
    ∃ context, Output.routed w levels (receipts.map (·.parcel)) = { after with context } := by
  obtain ⟨context', hrun⟩ := h.run []
  refine ⟨context', ?_⟩
  rw [Output.routed, List.map_map]
  exact congrArg Prod.snd hrun

theorem mem_moments (h : Sends ⟨w, [], context, levels⟩ receipts after)
    (hbegins : receipts.map (·.parcel) <+: parcels) : after.workspace ∈ moments w levels parcels := by
  obtain ⟨_, hrouted⟩ := h.routed
  refine List.mem_map.mpr ⟨receipts.map (·.parcel), (List.mem_inits _ _).mpr hbegins, ?_⟩
  rw [hrouted]

theorem settled (h : Sends ⟨w, [], context, levels⟩ receipts after) :
    Output.settled w levels (receipts.map (·.parcel)) = after.closed := by
  obtain ⟨_, hrouted⟩ := h.routed
  rw [Output.settled, hrouted]
  rfl

end Sends

end Codegen.Output
