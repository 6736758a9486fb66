import Codegen.Proofs.Files.Reach
import Codegen.Proofs.Output.Route

/-! Parcels that are delivered one after another, and none refused: what each delivery does to the files,
and which of them it answers. -/

namespace Codegen.Output

open Codegen.Files

/-- What a delivery that is not refused answers, and the desk that it leaves. -/
inductive Delivers (m : Model) (parcel : Parcel) (desk : Desk) : Option Path → Desk → Prop
  | accumulated (hmode : parcel.mode = .property) {context : Generation.Context}
      (hcontext : desk.context.accumulate m (propertyName parcel.address.toString) parcel.body =
        .ok context)
      (hsay : Log.outputLogger.say desk.levels .debug
        s!"Accumulated output into context property '{propertyName parcel.address.toString}'" = .ok ()) :
      Delivers m parcel desk none { desk with context }
  | ignored (hmode : parcel.mode = .ignore)
      (hsay : Log.outputLogger.say desk.levels .debug s!"Ignored output for {parcel.address}" = .ok ()) :
      Delivers m parcel desk none desk
  | preserved (hmode : parcel.mode = .preserve)
      (hexists : desk.workspace.exists? parcel.address = .ok true)
      (hsay : Log.outputLogger.say desk.levels .debug s!"Preserving existing file {parcel.address}" =
        .ok ()) :
      Delivers m parcel desk none desk
  | replaced {ready : Workspace} {place : Place}
      (hmode : parcel.mode = .overwrite ∨
        parcel.mode = .preserve ∧ desk.workspace.exists? parcel.address = .ok false)
      (hparents : desk.workspace.ensureParents parcel.address = (ready, .ok ()))
      (hwritable : ready.tree.writable ready.directory parcel.address = .ok place)
      (hsay : Log.outputLogger.say desk.levels .info s!"Generated {parcel.address}" = .ok ()) :
      Delivers m parcel desk (some parcel.address)
        { desk with workspace := ready.putFile place parcel.body.toUTF8 }
  | collected {ready after : Workspace} {aggregates : Aggregates} {isOpen : Bool} {target : Path}
      (hmode : parcel.mode = .aggregate)
      (hparents : desk.workspace.ensureParents parcel.address = (ready, .ok ()))
      (hopen : desk.aggregates.isOpen ready parcel.address = .ok isOpen)
      (hopening : isOpen = false → ∃ opened, ready.resolvePath parcel.address = .ok opened ∧
        Log.outputLogger.say desk.levels .debug s!"Opening aggregate file {opened}" = .ok ())
      (hwrite : desk.aggregates.write ready parcel.address parcel.body =
        .ok (after, aggregates, target))
      (hsay : Log.outputLogger.say desk.levels .info s!"Appended to {parcel.address}" = .ok ()) :
      Delivers m parcel desk (some parcel.address) { desk with workspace := after, aggregates }

theorem run_lift_ok_iff {α : Type} {outcome : Except Failure α} {desk after : Desk} {x : α} :
    (Routing.lift outcome).run desk = (.ok x, after) ↔ outcome = .ok x ∧ desk = after := by
  rw [Routing.run_lift, Prod.mk.injEq]

theorem run_say_ok_iff {method : Log.Method} {message : String} {desk after : Desk} :
    (Routing.say method message).run desk = (.ok (), after) ↔
      Log.outputLogger.say desk.levels method message = .ok () ∧ desk = after := by
  rw [Routing.run_say, Prod.mk.injEq]

theorem run_ensureParents_ok_iff {path : Path} {desk after : Desk} :
    (ensureParents path).run desk = (.ok (), after) ↔ ∃ ready,
      desk.workspace.ensureParents path = (ready, .ok ()) ∧ after = { desk with workspace := ready } := by
  rw [run_ensureParents]
  rcases desk.workspace.ensureParents path with ⟨ready, outcome⟩
  constructor
  · rintro ⟨⟩
    exact ⟨ready, rfl, rfl⟩
  · rintro ⟨_, ⟨⟩, rfl⟩
    rfl

theorem overwrite_ok_iff {path : Path} {body : String} {desk after : Desk} :
    (overwrite path body).run desk = (.ok (), after) ↔ ∃ ready place,
      desk.workspace.ensureParents path = (ready, .ok ()) ∧
      ready.tree.writable ready.directory path = .ok place ∧
      Log.outputLogger.say desk.levels .info s!"Generated {path}" = .ok () ∧
      after = { desk with workspace := ready.putFile place body.toUTF8 } := by
  constructor
  · intro h
    obtain ⟨_, _, hfirst, h⟩ := Stateful.bind_ok_iff.mp h
    obtain ⟨ready, hparents, rfl⟩ := run_ensureParents_ok_iff.mp hfirst
    rw [Stateful.run_bind_ok (Stateful.run_get _)] at h
    obtain ⟨written, _, hsecond, h⟩ := Stateful.bind_ok_iff.mp h
    obtain ⟨hwrite, rfl⟩ := run_lift_ok_iff.mp hsecond
    rw [Stateful.run_bind_ok (Stateful.run_set _ _)] at h
    obtain ⟨hsay, rfl⟩ := run_say_ok_iff.mp h
    obtain ⟨place, hwritable, rfl⟩ := Workspace.writeText_eq_ok_iff.mp hwrite
    exact ⟨ready, place, hparents, hwritable, hsay, rfl⟩
  · rintro ⟨ready, place, hparents, hwritable, hsay, rfl⟩
    have hwrite : ready.writeText path body = .ok (ready.putFile place body.toUTF8) :=
      Workspace.writeText_eq_ok_iff.mpr ⟨place, hwritable, rfl⟩
    rw [overwrite, Stateful.run_bind_ok (run_ensureParents_ok_iff.mpr ⟨ready, hparents, rfl⟩),
      Stateful.run_bind_ok (Stateful.run_get _),
      Stateful.run_bind_ok (run_lift_ok_iff.mpr ⟨hwrite, rfl⟩),
      Stateful.run_bind_ok (Stateful.run_set _ _)]
    exact run_say_ok_iff.mpr ⟨hsay, rfl⟩

def announce (path : Path) : Routing Unit := do
  let desk ← get
  unless ← Routing.lift (desk.aggregates.isOpen desk.workspace path) do
    let target ← Routing.lift (desk.workspace.resolvePath path)
    Routing.say .debug s!"Opening aggregate file {target}"

theorem run_announce_ok_iff {path : Path} {desk after : Desk} :
    (announce path).run desk = (.ok (), after) ↔
      (∃ isOpen, desk.aggregates.isOpen desk.workspace path = .ok isOpen ∧
        (isOpen = false → ∃ opened, desk.workspace.resolvePath path = .ok opened ∧
          Log.outputLogger.say desk.levels .debug s!"Opening aggregate file {opened}" = .ok ())) ∧
      desk = after := by
  rw [announce, Stateful.run_bind_ok (Stateful.run_get _)]
  constructor
  · intro h
    obtain ⟨isOpen, _, hfirst, h⟩ := Stateful.bind_ok_iff.mp h
    obtain ⟨hopen, rfl⟩ := run_lift_ok_iff.mp hfirst
    cases isOpen with
    | true =>
        cases h
        exact ⟨⟨true, hopen, by simp⟩, rfl⟩
    | false =>
        obtain ⟨opened, _, hsecond, h⟩ := Stateful.bind_ok_iff.mp h
        obtain ⟨hresolve, rfl⟩ := run_lift_ok_iff.mp hsecond
        obtain ⟨hsay, rfl⟩ := run_say_ok_iff.mp h
        exact ⟨⟨false, hopen, fun _ => ⟨opened, hresolve, hsay⟩⟩, rfl⟩
  · rintro ⟨⟨isOpen, hopen, hopening⟩, rfl⟩
    rw [Stateful.run_bind_ok (run_lift_ok_iff.mpr ⟨hopen, rfl⟩)]
    cases isOpen with
    | true => rfl
    | false =>
        obtain ⟨opened, hresolve, hsay⟩ := hopening rfl
        simp only [Bool.false_eq_true, if_false]
        rw [Stateful.run_bind_ok (run_lift_ok_iff.mpr ⟨hresolve, rfl⟩)]
        exact run_say_ok_iff.mpr ⟨hsay, rfl⟩

theorem run_aggregate (path : Path) (body : String) (desk : Desk) :
    (aggregate path body).run desk = (do
      announce path
      let (workspace, aggregates, target) ←
        Routing.lift (desk.aggregates.write desk.workspace path body)
      set { desk with workspace, aggregates }
      return target : Routing Path).run desk := by
  rw [aggregate, announce, bind_assoc, Stateful.run_bind_ok (Stateful.run_get desk),
    Stateful.run_bind_ok (Stateful.run_get desk), bind_assoc]
  refine congrArg (fun step : Bool → Routing Path => (_ >>= step).run desk) (funext fun isOpen => ?_)
  cases isOpen with
  | true => simp only [if_true, pure_bind]
  | false => simp only [Bool.false_eq_true, if_false, bind_assoc]

theorem aggregate_ok_iff {path target : Path} {body : String} {desk after : Desk} :
    (aggregate path body).run desk = (.ok target, after) ↔ ∃ isOpen written aggregates,
      desk.aggregates.isOpen desk.workspace path = .ok isOpen ∧
      (isOpen = false → ∃ opened, desk.workspace.resolvePath path = .ok opened ∧
        Log.outputLogger.say desk.levels .debug s!"Opening aggregate file {opened}" = .ok ()) ∧
      desk.aggregates.write desk.workspace path body = .ok (written, aggregates, target) ∧
      after = { desk with workspace := written, aggregates } := by
  rw [run_aggregate]
  constructor
  · intro h
    obtain ⟨_, _, hfirst, h⟩ := Stateful.bind_ok_iff.mp h
    obtain ⟨⟨isOpen, hopen, hopening⟩, rfl⟩ := run_announce_ok_iff.mp hfirst
    obtain ⟨⟨written, aggregates, target⟩, _, hsecond, h⟩ := Stateful.bind_ok_iff.mp h
    obtain ⟨hwrite, rfl⟩ := run_lift_ok_iff.mp hsecond
    cases h
    exact ⟨isOpen, written, aggregates, hopen, hopening, hwrite, rfl⟩
  · rintro ⟨isOpen, written, aggregates, hopen, hopening, hwrite, rfl⟩
    rw [Stateful.run_bind_ok (run_announce_ok_iff.mpr ⟨⟨isOpen, hopen, hopening⟩, rfl⟩),
      Stateful.run_bind_ok (run_lift_ok_iff.mpr ⟨hwrite, rfl⟩)]
    rfl

theorem delivers_of_run {m : Model} {parcel : Parcel} {desk after : Desk} {written : Option Path}
    (h : (parcel.deliver m).run desk = (.ok written, after)) :
    Delivers m parcel desk written after := by
  obtain ⟨mode, path, body⟩ := parcel
  cases mode with
  | overwrite =>
      obtain ⟨_, _, hfirst, h⟩ := Stateful.bind_ok_iff.mp h
      obtain ⟨ready, place, hparents, hwritable, hsay, rfl⟩ := overwrite_ok_iff.mp hfirst
      cases h
      exact .replaced (.inl rfl) hparents hwritable hsay
  | preserve =>
      rw [Parcel.deliver, route, Stateful.run_bind_ok (Stateful.run_get desk)] at h
      obtain ⟨there, _, hfirst, h⟩ := Stateful.bind_ok_iff.mp h
      obtain ⟨hexists, rfl⟩ := run_lift_ok_iff.mp hfirst
      cases there with
      | true =>
          obtain ⟨_, _, hsecond, h⟩ := Stateful.bind_ok_iff.mp h
          obtain ⟨hsay, rfl⟩ := run_say_ok_iff.mp hsecond
          cases h
          exact .preserved rfl hexists hsay
      | false =>
          obtain ⟨_, _, hsecond, h⟩ := Stateful.bind_ok_iff.mp h
          obtain ⟨ready, place, hparents, hwritable, hsay, rfl⟩ := overwrite_ok_iff.mp hsecond
          cases h
          exact .replaced (.inr ⟨rfl, hexists⟩) hparents hwritable hsay
  | aggregate =>
      obtain ⟨_, _, hfirst, h⟩ := Stateful.bind_ok_iff.mp h
      obtain ⟨ready, hparents, rfl⟩ := run_ensureParents_ok_iff.mp hfirst
      obtain ⟨target, _, hsecond, h⟩ := Stateful.bind_ok_iff.mp h
      obtain ⟨isOpen, after, aggregates, hopen, hopening, hwrite, rfl⟩ := aggregate_ok_iff.mp hsecond
      obtain ⟨_, _, hthird, h⟩ := Stateful.bind_ok_iff.mp h
      obtain ⟨hsay, rfl⟩ := run_say_ok_iff.mp hthird
      cases h
      exact .collected rfl hparents hopen hopening hwrite hsay
  | property =>
      rw [Parcel.deliver, route, Stateful.run_bind_ok (Stateful.run_get desk)] at h
      obtain ⟨context, _, hfirst, h⟩ := Stateful.bind_ok_iff.mp h
      obtain ⟨hcontext, rfl⟩ := run_lift_ok_iff.mp hfirst
      rw [Stateful.run_bind_ok (Stateful.run_set _ _)] at h
      obtain ⟨_, _, hsecond, h⟩ := Stateful.bind_ok_iff.mp h
      obtain ⟨hsay, rfl⟩ := run_say_ok_iff.mp hsecond
      cases h
      exact .accumulated rfl hcontext hsay
  | ignore =>
      obtain ⟨_, _, hfirst, h⟩ := Stateful.bind_ok_iff.mp h
      obtain ⟨hsay, rfl⟩ := run_say_ok_iff.mp hfirst
      cases h
      exact .ignored rfl hsay

theorem Delivers.run {m : Model} {parcel : Parcel} {desk after : Desk} {written : Option Path}
    (h : Delivers m parcel desk written after) :
    (parcel.deliver m).run desk = (.ok written, after) := by
  obtain ⟨mode, path, body⟩ := parcel
  cases h with
  | @accumulated hmode context hcontext hsay =>
      obtain rfl : mode = .property := hmode
      let changed : Desk := { desk with context }
      refine (Stateful.run_bind_ok (Stateful.run_get desk) _).trans ?_
      refine (Stateful.run_bind_ok (run_lift_ok_iff.mpr ⟨hcontext, rfl⟩) _).trans ?_
      refine (Stateful.run_bind_ok (Stateful.run_set _ changed) _).trans ?_
      exact Stateful.run_bind_ok ((@run_say_ok_iff _ _ changed changed).mpr ⟨hsay, rfl⟩) _
  | ignored hmode hsay =>
      obtain rfl : mode = .ignore := hmode
      exact Stateful.run_bind_ok (run_say_ok_iff.mpr ⟨hsay, rfl⟩) _
  | preserved hmode hexists hsay =>
      obtain rfl : mode = .preserve := hmode
      refine (Stateful.run_bind_ok (Stateful.run_get desk) _).trans ?_
      refine (Stateful.run_bind_ok (run_lift_ok_iff.mpr ⟨hexists, rfl⟩) _).trans ?_
      exact Stateful.run_bind_ok (run_say_ok_iff.mpr ⟨hsay, rfl⟩) _
  | @replaced ready place hmode hparents hwritable hsay =>
      have hrun : (overwrite (Path.ofString path) body).run desk =
          (.ok (), { desk with workspace := ready.putFile place body.toUTF8 }) :=
        overwrite_ok_iff.mpr ⟨ready, place, hparents, hwritable, hsay, rfl⟩
      rcases hmode with hmode | ⟨hmode, hexists⟩
      · obtain rfl : mode = .overwrite := hmode
        exact Stateful.run_bind_ok hrun _
      · obtain rfl : mode = .preserve := hmode
        refine (Stateful.run_bind_ok (Stateful.run_get desk) _).trans ?_
        refine (Stateful.run_bind_ok (run_lift_ok_iff.mpr ⟨hexists, rfl⟩) _).trans ?_
        exact Stateful.run_bind_ok hrun _
  | @collected ready after aggregates isOpen target hmode hparents hopen hopening hwrite hsay =>
      obtain rfl : mode = .aggregate := hmode
      let begun : Desk := { desk with workspace := ready }
      let ended : Desk := { desk with workspace := after, aggregates }
      refine (Stateful.run_bind_ok (run_ensureParents_ok_iff.mpr ⟨_, hparents, rfl⟩) _).trans ?_
      have hrun : (aggregate (Path.ofString path) body).run begun = (.ok target, ended) :=
        aggregate_ok_iff.mpr ⟨isOpen, after, aggregates, hopen, hopening, hwrite, rfl⟩
      refine (Stateful.run_bind_ok hrun _).trans ?_
      exact Stateful.run_bind_ok ((@run_say_ok_iff _ _ ended ended).mpr ⟨hsay, rfl⟩) _

/-! What a delivery does to the files. -/

/-- The files and the collecting files that a delivery leaves, and whether it wrote to its address;
`origin` is what addresses are worked out in. -/
inductive Effect (origin : Workspace) (parcel : Parcel) (w : Workspace) (files : Aggregates) :
    Option Path → Workspace → Aggregates → Prop
  | unwritten (hmode : parcel.mode ≠ .overwrite ∧ parcel.mode ≠ .aggregate)
      (hexists : parcel.mode = .preserve → w.exists? parcel.address = .ok true) :
      Effect origin parcel w files none w files
  | replaced {ready : Workspace} {place : Place}
      (hmode : parcel.mode = .overwrite ∨
        parcel.mode = .preserve ∧ w.exists? parcel.address = .ok false)
      (hparents : w.ensureParents parcel.address = (ready, .ok ()))
      (htarget : parcel.target? origin = some place)
      (hwritable : ready.tree.writable ready.directory parcel.address = .ok place) :
      Effect origin parcel w files (some parcel.address) (ready.putFile place parcel.body.toUTF8) files
  | collected {ready after : Workspace} {files' : Aggregates} {place : Place}
      (hmode : parcel.mode = .aggregate)
      (hparents : w.ensureParents parcel.address = (ready, .ok ()))
      (htarget : parcel.target? origin = some place)
      (hwritten : Aggregates.Written ready files place parcel.body after files') :
      Effect origin parcel w files (some parcel.address) after files'

theorem Delivers.effect {origin : Workspace} {m : Model} {parcel : Parcel} {desk after : Desk}
    {written : Option Path} (horigin : origin.Rooted) (hpersists : origin.Persists desk.workspace)
    (hnodup : desk.aggregates.places.Nodup) (h : Delivers m parcel desk written after) :
    Effect origin parcel desk.workspace desk.aggregates written after.workspace after.aggregates := by
  have hready : ∀ {ready : Workspace}, desk.workspace.ensureParents parcel.address = (ready, .ok ()) →
      origin.SamePaths ready := fun hparents =>
    (hpersists.trans (Workspace.persists_of_ensureParents hparents)).samePaths
  cases h with
  | accumulated hmode => exact .unwritten (by simp [hmode]) (by simp [hmode])
  | ignored hmode => exact .unwritten (by simp [hmode]) (by simp [hmode])
  | preserved hmode hexists => exact .unwritten (by simp [hmode]) fun _ => hexists
  | replaced hmode hparents hwritable =>
      have htarget := target?_eq (hready hparents) (Workspace.writable_resolve hwritable).1
      exact .replaced hmode hparents htarget hwritable
  | collected hmode hparents hopen hopening hwrite =>
      obtain ⟨place, hresolve, hwritten⟩ :=
        Aggregates.written_of_write ((hready hparents).rooted horigin) hnodup hwrite
      exact .collected hmode hparents (target?_eq (hready hparents) hresolve) hwritten

namespace Effect

variable {origin w after : Workspace} {parcel : Parcel} {files files' : Aggregates}
  {written : Option Path}

theorem persists (horigin : origin.Rooted) (hw : origin.Persists w)
    (h : Effect origin parcel w files written after files') : w.Persists after := by
  cases h with
  | unwritten hmode => exact .refl w
  | replaced hmode hparents htarget hwritable =>
      have hmade := Workspace.persists_of_ensureParents hparents
      have hrooted := (hw.trans hmade).samePaths.rooted horigin
      exact hmade.trans (Workspace.putFile_persists hrooted hwritable _)
  | collected hmode hparents htarget hwritten =>
      exact (Workspace.persists_of_ensureParents hparents).trans hwritten.rewrites.persists

theorem elsewhere (h : Effect origin parcel w files written after files') {place : Place}
    (hplace : written ≠ none → parcel.target? origin ≠ some place) :
    after.tree.get? place = w.tree.get? place ∨ written ≠ none ∧
      after.tree.get? place = (w.ensureParents parcel.address).1.tree.get? place := by
  have hne : ∀ {target}, written ≠ none → parcel.target? origin = some target → place ≠ target := by
    rintro target hwritten htarget rfl
    exact hplace hwritten htarget
  cases h with
  | unwritten hmode => exact .inl rfl
  | replaced hmode hparents htarget hwritable =>
      rw [hparents]
      exact .inr ⟨by simp, Tree.get?_put_of_ne _ (hne (by simp) htarget) _⟩
  | collected hmode hparents htarget hwritten =>
      rw [hparents]
      exact .inr ⟨by simp, hwritten.rewrites.elsewhere place (hne (by simp) htarget)⟩

theorem keeps (h : Effect origin parcel w files written after files') {place : Place}
    (hplace : written ≠ none → parcel.target? origin ≠ some place) {entry : Entry Content}
    (hentry : w.tree.get? place = some entry) : after.tree.get? place = some entry := by
  rcases h.elsewhere hplace with hsame | ⟨_, hsame⟩
  · exact hsame.trans hentry
  · exact hsame.trans ((w.ensureParents_grows parcel.address).kept place entry hentry)

theorem creates (hw : origin.Persists w) (h : Effect origin parcel w files written after files')
    {place : Place} (hplace : written ≠ none → parcel.target? origin ≠ some place)
    (hfree : w.tree.get? place = none) (hafter : after.tree.get? place ≠ none) :
    after.tree.get? place = some .directory ∧ written ≠ none ∧
      ∃ above, above <+: parcel.address.parent.parts ∧
        origin.tree.resolve? origin.directory ⟨parcel.address.root, above⟩ = some place := by
  rcases h.elsewhere hplace with hsame | ⟨hwritten, hsame⟩
  · rw [hsame] at hafter
    exact absurd hfree hafter
  · rw [hsame] at hafter ⊢
    obtain ⟨entry, hentry⟩ := Option.ne_none_iff_exists'.mp hafter
    obtain ⟨above, habove, hresolve⟩ := Workspace.ensureParents_created hfree hafter
    rw [hw.directory, hw.tree.links.resolve?_eq] at hresolve
    refine ⟨?_, hwritten, above, habove, hresolve⟩
    rcases (w.ensureParents_grows parcel.address).created place entry hentry with hthere | ⟨rfl, _⟩
    · rw [hfree] at hthere
      cases hthere
    · exact hentry

theorem reaches (horigin : origin.Rooted) (hw : origin.Persists w)
    (hthere : ∀ file ∈ files, ∃ content, w.tree.get? file.place = some (.file content))
    (h : Effect origin parcel w files written after files') {path : Path}
    (hpath : written = some path) :
    path = parcel.address ∧ ∃ place content, parcel.target? origin = some place ∧
      after.tree.get? place = some (.file content) ∧
      (parcel.mode ≠ .aggregate →
        after.tree.locate after.directory parcel.address = .ok ⟨place, some (.file content)⟩) := by
  cases h with
  | unwritten hmode => cases hpath
  | @replaced ready _ hmode hparents htarget hwritable =>
      cases hpath
      have hmade := Workspace.persists_of_ensureParents hparents
      have hrooted := (hw.trans hmade).samePaths.rooted horigin
      obtain ⟨hresolve, hroot⟩ := Workspace.writable_resolve hwritable
      obtain ⟨target, hlocate, rfl, _⟩ := Tree.writable_eq_ok_iff.mp hwritable
      have hput := Tree.get?_put_self ready.tree hroot (.file (.bytes parcel.body.toUTF8))
      have hpersists := Workspace.putFile_persists hrooted hwritable parcel.body.toUTF8
      have hfound := hpersists.tree.locate hlocate
      rw [show (ready.putFile _ _).tree.get? target.place = _ from hput] at hfound
      exact ⟨rfl, _, _, htarget, hput, fun _ => hfound⟩
  | collected hmode hparents htarget hwritten =>
      cases hpath
      have hmade := Workspace.persists_of_ensureParents hparents
      obtain ⟨content, hfound⟩ := hwritten.there fun file hfile => by
        obtain ⟨content, hcontent⟩ := hthere file hfile
        exact hmade.tree.file file.place content hcontent
      exact ⟨rfl, _, content, htarget, hfound, fun hnot => absurd hmode hnot⟩

theorem mode_of_none (h : Effect origin parcel w files none after files') :
    parcel.mode ≠ .overwrite ∧ parcel.mode ≠ .aggregate := by
  cases h with
  | unwritten hmode => exact hmode

end Effect

/-! A whole sequence of deliveries. -/

/-- The collecting files after parcels were delivered: one for each place that parcels were collected
for, each on the disk and given what was collected for it. -/
structure Sent (origin : Workspace) (parcels : List Parcel) (w : Workspace) (files : Aggregates) :
    Prop where
  persists : origin.Persists w
  nodup : files.places.Nodup
  mem_iff : ∀ place, place ∈ files.places ↔ place ∈ opened origin parcels
  there : ∀ file ∈ files, ∃ content, w.tree.get? file.place = some (.file content)
  made : ∀ file ∈ files, file = .ofTexts file.place (Output.collected origin file.place parcels)

namespace Sent

variable {origin w after : Workspace} {parcels : List Parcel} {parcel : Parcel}
  {files files' : Aggregates} {written : Option Path}

theorem start (origin : Workspace) : Sent origin [] origin [] := by
  refine ⟨.refl origin, List.nodup_nil, fun place => Iff.rfl, ?_, ?_⟩
  · rintro file ⟨⟩
  · rintro file ⟨⟩

theorem uncollected (h : Sent origin parcels w files) (hmode : parcel.mode ≠ .aggregate)
    (hpersists : w.Persists after) : Sent origin (parcels ++ [parcel]) after files := by
  refine ⟨h.persists.trans hpersists, h.nodup, ?_, ?_, ?_⟩
  · intro place
    rw [opened_append_other origin parcels hmode]
    exact h.mem_iff place
  · intro file hfile
    obtain ⟨content, hcontent⟩ := h.there file hfile
    exact hpersists.tree.file file.place content hcontent
  · intro file hfile
    rw [collected_append_other origin file.place parcels hmode]
    exact h.made file hfile

/-- A parcel that is collected is given to the collecting file of its target, and the others are left as
they were. -/
theorem collected {ready : Workspace} {place : Place} (h : Sent origin parcels w files)
    (hmode : parcel.mode = .aggregate) (hready : w.Persists ready)
    (htarget : parcel.target? origin = some place)
    (hwritten : Aggregates.Written ready files place parcel.body after files') :
    Sent origin (parcels ++ [parcel]) after files' := by
  have hpersists := hready.trans hwritten.rewrites.persists
  have hthere : ∀ file ∈ files, ∃ content, ready.tree.get? file.place = some (.file content) := by
    intro file hfile
    obtain ⟨content, hcontent⟩ := h.there file hfile
    exact hready.tree.file file.place content hcontent
  have hbefore : ∀ file ∈ files', file.place ≠ place → file ∈ files := by
    intro file hfile hne
    have hmem := ((hwritten.mem_iff file.place).mp (List.mem_map_of_mem hfile)).resolve_right hne
    obtain ⟨other, hother, hsame⟩ := List.mem_map.mp hmem
    have hstill := hwritten.others other hother (hsame ▸ hne)
    exact Aggregates.eq_of_place hwritten.nodup hfile hstill hsame ▸ hother
  refine ⟨h.persists.trans hpersists, hwritten.nodup, ?_, ?_, ?_⟩
  · intro other
    rw [hwritten.mem_iff, h.mem_iff, opened_append origin parcels hmode htarget, List.mem_append,
      List.mem_singleton]
  · intro file hfile
    by_cases hplace : file.place = place
    · exact hplace ▸ hwritten.there hthere
    · obtain ⟨content, hcontent⟩ := h.there file (hbefore file hfile hplace)
      exact hpersists.tree.file file.place content hcontent
  · intro file hfile
    by_cases hplace : file.place = place
    · subst hplace
      rw [collected_append_self origin file.place parcels hmode htarget]
      refine hwritten.made ?_ ?_ hfile rfl
      · intro other hother hsame
        rw [← hsame]
        exact h.made other hother
      · intro hnew
        exact collected_eq_nil origin fun hmem => hnew ((h.mem_iff file.place).mpr hmem)
    · rw [collected_append_of_ne origin file.place parcels htarget hplace]
      exact h.made file (hbefore file hfile hplace)

theorem next (horigin : origin.Rooted) (h : Sent origin parcels w files)
    (heffect : Effect origin parcel w files written after files') :
    Sent origin (parcels ++ [parcel]) after files' := by
  have hpersists := heffect.persists horigin h.persists
  cases heffect with
  | unwritten hmode => exact h.uncollected hmode.2 hpersists
  | replaced hmode hparents htarget hwritable =>
      refine h.uncollected ?_ hpersists
      rcases hmode with hmode | ⟨hmode, _⟩ <;> simp [hmode]
  | collected hmode hparents htarget hwritten =>
      exact h.collected hmode (Workspace.persists_of_ensureParents hparents) htarget hwritten

end Sent

/-- A parcel that was delivered, and where it was written. -/
structure Receipt where
  parcel : Parcel
  written : Option Path

/-- Something was written to the file at a place. -/
def Receipt.Writes (origin : Workspace) (place : Place) (receipt : Receipt) : Prop :=
  receipt.written ≠ none ∧ receipt.parcel.target? origin = some place

/-- Deliveries one after another, none of them refused. What becomes of the context in between does
not matter. -/
inductive Sends (desk : Desk) : List Receipt → Desk → Prop
  | nothing : Sends desk [] desk
  | aside {receipts : List Receipt} {after : Desk} (h : Sends desk receipts after)
      (context : Generation.Context) : Sends desk receipts { after with context }
  | next {receipts : List Receipt} {middle after : Desk} {m : Model} {parcel : Parcel}
      {written : Option Path} (h : Sends desk receipts middle)
      (hdelivers : Delivers m parcel middle written after) :
      Sends desk (receipts ++ [⟨parcel, written⟩]) after

namespace Sends

variable {desk middle after : Desk} {receipts first second : List Receipt}

theorem trans (hfirst : Sends desk first middle) (hsecond : Sends middle second after) :
    Sends desk (first ++ second) after := by
  induction hsecond with
  | nothing =>
      rw [List.append_nil]
      exact hfirst
  | aside _ context ih => exact ih.aside context
  | next _ hdelivers ih =>
      rw [← List.append_assoc]
      exact ih.next hdelivers

theorem sent (hfresh : desk.aggregates = []) (hdesk : desk.workspace.Rooted)
    (h : Sends desk receipts after) :
    Sent desk.workspace (receipts.map (·.parcel)) after.workspace after.aggregates := by
  induction h with
  | nothing =>
      rw [hfresh]
      exact .start desk.workspace
  | aside _ context ih => exact ih
  | next _ hdelivers ih =>
      rw [List.map_append, List.map_singleton]
      exact ih.next hdesk (hdelivers.effect hdesk ih.persists ih.nodup)

theorem effects {P : List Receipt → Workspace → Aggregates → Prop} (hfresh : desk.aggregates = [])
    (hdesk : desk.workspace.Rooted) (hstart : P [] desk.workspace [])
    (hnext : ∀ (receipts : List Receipt) (w after : Workspace) (files files' : Aggregates)
      (receipt : Receipt), Sent desk.workspace (receipts.map (·.parcel)) w files →
      P receipts w files →
      Effect desk.workspace receipt.parcel w files receipt.written after files' →
      P (receipts ++ [receipt]) after files')
    (h : Sends desk receipts after) : P receipts after.workspace after.aggregates := by
  induction h with
  | nothing =>
      rw [hfresh]
      exact hstart
  | aside _ context ih => exact ih
  | next hsends hdelivers ih =>
      have hsent := hsends.sent hfresh hdesk
      exact hnext _ _ _ _ _ ⟨_, _⟩ hsent ih (hdelivers.effect hdesk hsent.persists hsent.nodup)

theorem written_ne_none (hfresh : desk.aggregates = []) (hdesk : desk.workspace.Rooted)
    (h : Sends desk receipts after) {receipt : Receipt}
    (hreceipt : receipt ∈ receipts)
    (hmode : receipt.parcel.mode = .overwrite ∨ receipt.parcel.mode = .aggregate) :
    receipt.written ≠ none := by
  refine h.effects (P := fun receipts _ _ => ∀ receipt ∈ receipts,
    receipt.parcel.mode = .overwrite ∨ receipt.parcel.mode = .aggregate → receipt.written ≠ none)
    hfresh hdesk ?_ ?_ receipt hreceipt hmode
  · intro receipt hreceipt
    cases hreceipt
  · intro receipts w after files files' last _ ih heffect receipt hreceipt hmode hnone
    rcases List.mem_append.mp hreceipt with hmem | hmem
    · exact ih receipt hmem hmode hnone
    · obtain rfl := List.mem_singleton.mp hmem
      rw [hnone] at heffect
      obtain ⟨hoverwrite, haggregate⟩ := heffect.mode_of_none
      exact hmode.elim hoverwrite haggregate

theorem levels (h : Sends desk receipts after) : after.levels = desk.levels := by
  induction h with
  | nothing => rfl
  | aside _ context ih => exact ih
  | next _ hdelivers ih => cases hdelivers <;> exact ih

theorem persists (hfresh : desk.aggregates = []) (hdesk : desk.workspace.Rooted)
    (hfirst : Sends desk first middle) (hsecond : Sends middle second after) :
    middle.workspace.Persists after.workspace := by
  induction hsecond with
  | nothing => exact .refl _
  | aside _ context ih => exact ih
  | next hsends hdelivers ih =>
      have hsent := (hfirst.trans hsends).sent hfresh hdesk
      have heffect := hdelivers.effect hdesk hsent.persists hsent.nodup
      exact ih.trans (heffect.persists hdesk hsent.persists)

end Sends

end Codegen.Output
