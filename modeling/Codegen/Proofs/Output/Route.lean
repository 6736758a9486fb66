import Codegen.Proofs.Output.Collecting

/-! Calls of the router one after another: a collecting file ends up with the bodies that were sent to
it, in their order, however its path was written. -/

namespace Codegen.Output

open Codegen.Files

/-- A call of the router: a parcel, and the model and the context at that time. -/
structure Call where
  model : Model
  context : Generation.Context
  parcel : Parcel

def Call.route (call : Call) : Routing (Option Path) := do
  modify fun desk => { desk with context := call.context }
  call.parcel.deliver call.model

def routeAll (calls : List Call) : Routing (List (Option Path)) := calls.mapM Call.route

def Parcel.target? (w : Workspace) (parcel : Parcel) : Option Place :=
  (w.resolve parcel.address).toOption

/-- The parcel is to replace the file at a place, or to create it. -/
def Parcel.Replaces (w : Workspace) (place : Place) (parcel : Parcel) : Prop :=
  (parcel.mode = .overwrite ∨ parcel.mode = .preserve) ∧ parcel.target? w = some place

instance (w : Workspace) (place : Place) (parcel : Parcel) :
    Decidable (parcel.Replaces w place) :=
  inferInstanceAs (Decidable (_ ∧ _))

/-- The places of the collecting files that parcels are addressed to. -/
def opened (w : Workspace) (parcels : List Parcel) : List Place :=
  (parcels.filter (·.mode = .aggregate)).filterMap (·.target? w)

/-- The bodies for the collecting file at a place, in their order. -/
def collected (w : Workspace) (place : Place) (parcels : List Parcel) : List String :=
  (parcels.filter fun parcel => parcel.mode = .aggregate ∧ parcel.target? w = some place).map
    (·.body)

/-! What is opened and collected as parcels are added. -/

section

variable (w : Workspace) (place : Place) (parcels : List Parcel) {parcel : Parcel}

theorem opened_append_other (hmode : parcel.mode ≠ .aggregate) :
    opened w (parcels ++ [parcel]) = opened w parcels := by
  simp [opened, hmode]

theorem collected_append_other (hmode : parcel.mode ≠ .aggregate) :
    collected w place (parcels ++ [parcel]) = collected w place parcels := by
  simp [collected, hmode]

variable {target : Place}

theorem opened_append (hmode : parcel.mode = .aggregate) (htarget : parcel.target? w = some target) :
    opened w (parcels ++ [parcel]) = opened w parcels ++ [target] := by
  simp [opened, hmode, htarget]

theorem collected_append_self (hmode : parcel.mode = .aggregate)
    (htarget : parcel.target? w = some place) :
    collected w place (parcels ++ [parcel]) = collected w place parcels ++ [parcel.body] := by
  simp [collected, hmode, htarget]

theorem collected_append_of_ne (htarget : parcel.target? w = some target) (hplace : place ≠ target) :
    collected w place (parcels ++ [parcel]) = collected w place parcels := by
  have hne : ¬ target = place := fun h => hplace h.symm
  simp [collected, htarget, hne]

variable {place parcels} in
theorem collected_eq_nil (hplace : place ∉ opened w parcels) : collected w place parcels = [] := by
  rw [collected, List.map_eq_nil_iff, List.filter_eq_nil_iff]
  intro parcel hparcel hcollected
  obtain ⟨hmode, htarget⟩ := of_decide_eq_true hcollected
  apply hplace
  rw [opened, List.mem_filterMap]
  exact ⟨parcel, List.mem_filter.mpr ⟨hparcel, decide_eq_true hmode⟩, htarget⟩

end

/-! What a collecting file was given, while other parcels are delivered. -/

def Gathers (desk : Desk) (place : Place) (body : ByteArray) : Prop :=
  ∃ file ∈ desk.aggregates, file.place = place ∧ file.Holds desk.workspace body

theorem Gathers.congr {desk after : Desk} {place : Place} {body : ByteArray}
    (h : Gathers desk place body) (hfiles : after.aggregates = desk.aggregates)
    (hsame : ∀ entry, desk.workspace.tree.get? place = some entry →
      after.workspace.tree.get? place = some entry) : Gathers after place body := by
  obtain ⟨file, hfile, rfl, data, hstored, hbody⟩ := h
  exact ⟨file, hfiles ▸ hfile, rfl, data, ⟨hsame _ hstored.found, hstored.position⟩, hbody⟩

theorem Gathers.closed {desk : Desk} {place : Place} {body : ByteArray}
    (h : Gathers desk place body) (hnodup : desk.aggregates.places.Nodup) :
    (closeAll.run desk).2.workspace.tree.get? place = some (.file (.bytes body)) := by
  obtain ⟨file, hfile, rfl, hholds⟩ := h
  exact Aggregates.closeAll_holds hnodup hfile hholds

variable {origin : Workspace} {desk after : Desk} {parcel : Parcel}
  {outcome : Except Failure (Option Path)}

theorem target?_eq {w : Workspace} {place : Place} (hpaths : origin.SamePaths w)
    (hplace : w.resolve parcel.address = .ok place) : parcel.target? origin = some place := by
  rw [Parcel.target?, ← hpaths.resolve_eq, hplace]
  rfl

/-- Whatever comes of a delivery, paths lead where they led, no place is opened twice, and what other
collecting files were given is kept. -/
theorem Delivered.keeps (horigin : origin.Rooted) (hpaths : origin.SamePaths desk.workspace)
    (hnodup : desk.aggregates.places.Nodup) (h : Delivered parcel desk (outcome, after)) :
    origin.SamePaths after.workspace ∧ after.aggregates.places.Nodup ∧
      ∀ place body, (parcel.mode.isFiled = true → parcel.target? origin ≠ some place) →
        Gathers desk place body → Gathers after place body := by
  have hparents := desk.workspace.ensureParents_samePaths parcel.address
  have hgrows := desk.workspace.ensureParents_grows parcel.address
  generalize hresult : (outcome, after) = result at h
  cases h with
  | unfiled outcome context hmode =>
      cases hresult
      exact ⟨hpaths, hnodup, fun place body _ hgathers => hgathers⟩
  | blocked failure hmode =>
      cases hresult
      refine ⟨hpaths.trans hparents, hnodup, fun place body _ hgathers => ?_⟩
      exact hgathers.congr rfl (hgrows.kept place)
  | written outcome place hmode hplace hroot =>
      cases hresult
      have hready := hpaths.trans hparents
      have htarget := target?_eq hready hplace
      have hplain := Workspace.resolve_plain (hready.rooted horigin) hplace
      have hput := Workspace.putFile_samePaths hroot hplain parcel.body.toUTF8
      refine ⟨hready.trans hput, hnodup, fun other body hother hgathers => ?_⟩
      refine hgathers.congr rfl fun entry hentry => ?_
      have hne : other ≠ place := by
        rintro rfl
        refine hother ?_ htarget
        rcases hmode with h | h <;> rw [h] <;> rfl
      exact (Tree.get?_put_of_ne _ hne _).trans (hgrows.kept other entry hentry)
  | appended outcome hmode workspace aggregates target hwrite =>
      cases hresult
      have hready := hpaths.trans hparents
      obtain ⟨place, hplace, hwritten⟩ :=
        Aggregates.written_of_write (hready.rooted horigin) hnodup hwrite
      have htarget := target?_eq hready hplace
      refine ⟨hready.trans hwritten.rewrites.persists.samePaths, hwritten.nodup, fun other body hother hgathers => ?_⟩
      have hne : other ≠ place := by
        rintro rfl
        exact hother (by rw [hmode]; rfl) htarget
      obtain ⟨file, hfile, rfl, hholds⟩ := hgathers
      have hstill := hwritten.others file hfile hne
      have hsame := hwritten.rewrites.elsewhere file.place hne
      obtain ⟨data, hstored, hbody⟩ := hholds
      exact ⟨file, hstill, rfl, data,
        ⟨hsame.trans (hgrows.kept _ _ hstored.found), hstored.position⟩, hbody⟩

/-! A whole sequence of calls that return. -/

/-- The desk after parcels were delivered: the open files are those that parcels were collected for,
each with what it was given. -/
structure Collecting (origin : Workspace) (parcels : List Parcel) (desk : Desk) : Prop where
  paths : origin.SamePaths desk.workspace
  nodup : desk.aggregates.places.Nodup
  mem_iff : ∀ place, place ∈ desk.aggregates.places ↔ place ∈ opened origin parcels
  gathers : ∀ place ∈ opened origin parcels, (∀ parcel ∈ parcels, ¬ parcel.Replaces origin place) →
    Gathers desk place (String.join (collected origin place parcels)).toUTF8

theorem Collecting.start {desk : Desk} (hfresh : desk.aggregates = []) :
    Collecting desk.workspace [] desk := by
  refine ⟨.refl _, ?_, ?_, ?_⟩
  · rw [hfresh]
    exact List.nodup_nil
  · intro place
    rw [hfresh]
    rfl
  · intro place hplace
    cases hplace

/-- A parcel that is not to be collected changes neither which files are open nor what they were
given. -/
theorem Collecting.deliver_other {parcels : List Parcel} (horigin : origin.Rooted)
    (h : Collecting origin parcels desk) (hmode : parcel.mode ≠ .aggregate)
    (hdelivered : Delivered parcel desk (outcome, after)) :
    Collecting origin (parcels ++ [parcel]) after := by
  obtain ⟨hpaths, hnodup, hkeeps⟩ := hdelivered.keeps horigin h.paths h.nodup
  have haggregates : after.aggregates = desk.aggregates := by
    generalize hresult : (outcome, after) = result at hdelivered
    cases hdelivered with
    | appended _ hcollected => exact absurd hcollected hmode
    | _ =>
        cases hresult
        rfl
  refine ⟨hpaths, hnodup, ?_, ?_⟩
  · intro place
    rw [haggregates, opened_append_other origin parcels hmode]
    exact h.mem_iff place
  · intro place hplace hreplaces
    rw [opened_append_other origin parcels hmode] at hplace
    rw [collected_append_other origin place parcels hmode]
    refine hkeeps place _ ?_ (h.gathers place hplace fun other hother =>
      hreplaces other (List.mem_append_left _ hother))
    intro hfiled htarget
    refine hreplaces parcel (List.mem_append_right _ List.mem_cons_self) ⟨?_, htarget⟩
    generalize parcel.mode = mode at hfiled hmode
    cases mode with
    | overwrite => exact .inl rfl
    | preserve => exact .inr rfl
    | aggregate => exact absurd rfl hmode
    | property => cases hfiled
    | ignore => cases hfiled

theorem Collecting.deliver_aggregate {parcels : List Parcel} (horigin : origin.Rooted)
    (h : Collecting origin parcels desk) (hmode : parcel.mode = .aggregate)
    (hok : outcome.isOk = true) (hdelivered : Delivered parcel desk (outcome, after)) :
    Collecting origin (parcels ++ [parcel]) after := by
  obtain ⟨hpaths, hnodup, hkeeps⟩ := hdelivered.keeps horigin h.paths h.nodup
  have hparents := desk.workspace.ensureParents_samePaths parcel.address
  have hgrows := desk.workspace.ensureParents_grows parcel.address
  generalize hresult : (outcome, after) = result at hdelivered
  cases hdelivered with
  | unfiled outcome' context hnot =>
      cases hresult
      exact absurd hmode (hnot hok)
  | blocked failure hfiled =>
      cases hresult
      cases hok
  | written outcome' place hreplaced =>
      cases hresult
      rw [hmode] at hreplaced
      rcases hreplaced with h | h <;> cases h
  | appended outcome' _ workspace aggregates target hwrite =>
      cases hresult
      have hready := h.paths.trans hparents
      obtain ⟨place, hplace, hwritten⟩ :=
        Aggregates.written_of_write (hready.rooted horigin) h.nodup hwrite
      have htarget := target?_eq hready hplace
      refine ⟨hpaths, hnodup, ?_, ?_⟩
      · intro other
        rw [hwritten.mem_iff, opened_append origin parcels hmode htarget, List.mem_append,
          List.mem_singleton, h.mem_iff]
      · intro other hother hreplaces
        have hbefore : ∀ earlier ∈ parcels, ¬ earlier.Replaces origin other :=
          fun earlier hearlier => hreplaces earlier (List.mem_append_left _ hearlier)
        rw [opened_append origin parcels hmode htarget, List.mem_append, List.mem_singleton] at hother
        by_cases hne : other = place
        · subst hne
          rw [collected_append_self origin other parcels hmode htarget, String.join_append,
            String.join_cons, String.join_nil, String.append_empty]
          by_cases hopen : other ∈ opened origin parcels
          · obtain ⟨file, hfile, rfl, data, hstored, hbody⟩ := h.gathers other hopen hbefore
            obtain ⟨added, hadded, hsame, hholds⟩ := hwritten.behind h.nodup hfile rfl
              ⟨data, ⟨hgrows.kept _ _ hstored.found, hstored.position⟩, hbody⟩
            refine ⟨added, hadded, hsame, ?_⟩
            rw [String.toUTF8_eq_toByteArray, String.toByteArray_append]
            exact hholds
          · have hclosed : other ∉ desk.aggregates.places := fun hmem =>
              hopen ((h.mem_iff other).mp hmem)
            rw [collected_eq_nil origin hopen, String.join_nil, String.empty_append]
            exact hwritten.alone hclosed
        · rw [collected_append_of_ne origin other parcels htarget hne]
          refine hkeeps other _ ?_ (h.gathers other (hother.resolve_right hne) hbefore)
          intro _ hsame
          rw [htarget] at hsame
          exact hne (Option.some.inj hsame).symm

theorem Collecting.route {parcels : List Parcel} {call : Call} {result : Option Path}
    (horigin : origin.Rooted) (h : Collecting origin parcels desk)
    (hroute : call.route.run desk = (.ok result, after)) :
    Collecting origin (parcels ++ [call.parcel]) after := by
  let ready : Desk := { desk with context := call.context }
  have hready : Collecting origin parcels ready := ⟨h.paths, h.nodup, h.mem_iff, h.gathers⟩
  have hdelivered : Delivered call.parcel ready (.ok result, after) := by
    rw [← hroute]
    exact delivered call.model call.parcel ready
  by_cases hmode : call.parcel.mode = .aggregate
  · exact hready.deliver_aggregate horigin hmode rfl hdelivered
  · exact hready.deliver_other horigin hmode hdelivered

theorem routeAll_collecting {calls : List Call} {results : List (Option Path)}
    (hfresh : desk.aggregates = []) (hrooted : desk.workspace.Rooted)
    (h : (routeAll calls).run desk = (.ok results, after)) :
    Collecting desk.workspace (calls.map (·.parcel)) after := by
  refine Stateful.mapM_ok_invariant
    (fun done after => Collecting desk.workspace (done.map (·.parcel)) after) ?_
    (Collecting.start hfresh) h
  intro done call result before after hbefore hroute
  rw [List.map_append, List.map_singleton]
  exact hbefore.route hrooted hroute

theorem Collecting.length_aggregates {parcels : List Parcel} (h : Collecting origin parcels desk) :
    desk.aggregates.length = (opened origin parcels).dedup.length := by
  have hperm : desk.aggregates.places.Perm (opened origin parcels).dedup := by
    rw [List.perm_ext_iff_of_nodup h.nodup (List.nodup_dedup _)]
    intro place
    rw [List.mem_dedup]
    exact h.mem_iff place
  rw [← hperm.length_eq, Aggregates.places, List.length_map]

end Codegen.Output
