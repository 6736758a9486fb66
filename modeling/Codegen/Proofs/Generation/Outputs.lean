import Codegen.Proofs.Generation.Reported
import Codegen.Proofs.Output.Touched

/-! What the report of a run says of the files: which were touched, and what those hold that were
replaced. -/

namespace Codegen.Generation

open Codegen.Files

theorem Rendered.target?_eq_some_iff {w : Workspace} {result : Rendered} {place : Place} :
    result.parcel.target? w = some place ↔ w.resolve result.parcel.address = .ok place := by
  rw [Output.Parcel.target?]
  cases w.resolve result.parcel.address <;> simp [Except.toOption]

theorem Report.mem_outputs {report : Report} {output : String × Path} :
    output ∈ report.outputs ↔ ∃ result ∈ report.templates,
      result.written = some output.2 ∧ result.mode.name = output.1 := by
  obtain ⟨name, path⟩ := output
  rw [Report.outputs, List.mem_filterMap]
  refine exists_congr fun result => and_congr_right fun _ => ?_
  cases result.written with
  | none => simp
  | some other => simp [and_comm]

theorem mem_receipts {results : List Rendered} {receipt : Output.Receipt} :
    receipt ∈ receipts results ↔ ∃ result ∈ results, result.receipt = receipt :=
  List.mem_map

/-! The entries of the report and the files. -/

namespace Report

variable {report : Report} {w : Workspace} {context : Context} {levels : Log.Levels}
  {last : Output.Desk}

theorem output_of_written (hw : w.Rooted)
    (hsends : Output.Sends ⟨w, [], context, levels⟩ (receipts report.templates) last)
    {receipt : Output.Receipt} (hreceipt : receipt ∈ receipts report.templates)
    (hwritten : receipt.written ≠ none) :
    ∃ output ∈ report.outputs, output.2 = receipt.parcel.address := by
  obtain ⟨path, hpath⟩ := Option.ne_none_iff_exists'.mp hwritten
  have haddress := (hsends.stands rfl hw receipt hreceipt path hpath).address
  obtain ⟨result, hresult, rfl⟩ := mem_receipts.mp hreceipt
  exact ⟨(result.mode.name, path), mem_outputs.mpr ⟨result, hresult, hpath, rfl⟩, haddress⟩

theorem changed (hw : w.Rooted)
    (hsends : Output.Sends ⟨w, [], context, levels⟩ (receipts report.templates) last) {place : Place}
    (hplace : last.closed.tree.get? place ≠ w.tree.get? place) :
    (∃ content, last.closed.tree.get? place = some (.file content)) ∧
      (∃ output ∈ report.outputs, w.resolve output.2 = .ok place) ∨
    w.tree.get? place = none ∧ last.closed.tree.get? place = some .directory ∧
      ∃ output ∈ report.outputs, ∃ above, above <+: output.2.parent.parts ∧
        w.tree.resolve? w.directory ⟨output.2.root, above⟩ = some place := by
  rcases hsends.traced_closed rfl hw place hplace with
    ⟨receipt, hreceipt, hwritten, htarget⟩ |
      ⟨hfree, hdirectory, receipt, hreceipt, hwritten, above, habove, hresolve⟩
  · obtain ⟨output, houtput, haddress⟩ := output_of_written hw hsends hreceipt hwritten
    obtain ⟨path, hpath⟩ := Option.ne_none_iff_exists'.mp hwritten
    have hstands := (hsends.stands rfl hw receipt hreceipt path hpath).persists last.closed_persists
    obtain ⟨found, content, hfound, hfile, _⟩ := hstands.file
    rw [htarget] at hfound
    cases hfound
    obtain ⟨result, _, rfl⟩ := mem_receipts.mp hreceipt
    exact .inl ⟨⟨content, hfile⟩, output, houtput, haddress ▸ Rendered.target?_eq_some_iff.mp htarget⟩
  · obtain ⟨output, houtput, haddress⟩ := output_of_written hw hsends hreceipt hwritten
    rw [← haddress] at habove hresolve
    exact .inr ⟨hfree, hdirectory, output, houtput, above, habove, hresolve⟩

theorem reached (hw : w.Rooted)
    (hsends : Output.Sends ⟨w, [], context, levels⟩ (receipts report.templates) last)
    {output : String × Path} (houtput : output ∈ report.outputs) :
    ∃ place content, w.resolve output.2 = .ok place ∧
      last.closed.tree.get? place = some (.file content) ∧
      (output.1 ≠ Output.Mode.aggregate.name → last.closed.isFile? output.2 = .ok true) ∧
      ∀ target, last.closed.tree.locate w.directory output.2 = .ok target →
        target = ⟨place, some (.file content)⟩ := by
  have hpersists : w.Persists last.closed := (hsends.sent rfl hw).persists.trans last.closed_persists
  obtain ⟨result, hresult, hwritten, hname⟩ := mem_outputs.mp houtput
  have hstands := (hsends.stands rfl hw _ (mem_receipts.mpr ⟨result, hresult, rfl⟩) _ hwritten).persists
    last.closed_persists
  obtain ⟨place, content, htarget, hfile, hlocate⟩ := hstands.file
  have hresolve : w.resolve output.2 = .ok place :=
    hstands.address ▸ Rendered.target?_eq_some_iff.mp htarget
  refine ⟨place, content, hresolve, hfile, fun hother => ?_, fun target htarget => ?_⟩
  · refine Workspace.isFile?_of_locate (hlocate fun hmode => hother ?_)
    exact hname.symm.trans (congrArg Output.Mode.name hmode)
  · have hsame := Tree.locate_resolves htarget
    have hfound := Tree.locate_found? htarget
    rw [hpersists.tree.links.resolve?_eq, (Workspace.resolve_eq_ok hresolve).2] at hsame
    obtain ⟨found, found?⟩ := target
    cases hsame
    rw [hfile] at hfound
    cases hfound
    rfl

end Report

section

variable {conduct : Conduct} {sources : Sources} {options : Settings.Options} {load : Step Model}
  {w : Workspace} {registry : Mixin.Registry} {levels : Log.Levels} {report : Report} {after : Run}

/-- After a run, a file that a template replaced, and that no later template was written to, holds the
body of that template, with whatever the collecting file of the same place held back until the end
written over it. It holds the body as it is if no earlier template was collected for it. -/
theorem runPipeline_replaced (hload : load.Keeps Aside) (hw : w.Rooted)
    (hrun : (runPipeline sources options load conduct).run (.start w registry levels) =
      (.ok report, after)) {before later : List Rendered} {result : Rendered}
    (htemplates : report.templates = before ++ result :: later) (hmode : result.mode = .overwrite) :
    ∃ place, result.parcel.target? w = some place ∧
      ((∀ other ∈ later, other.written ≠ none → other.parcel.target? w ≠ some place) →
        let texts := Output.collected w place (before.map Rendered.parcel)
        let file := Output.Aggregate.ofTexts place texts
        file.Given (String.join texts).toUTF8 ∧
        after.desk.workspace.tree.get? place =
          some (.file (.bytes (Output.overlay result.body.toUTF8 file.position file.held))) ∧
        (texts = [] →
          after.desk.workspace.tree.get? place = some (.file (.bytes result.body.toUTF8)))) := by
  obtain ⟨last, hsends, hfiles⟩ := runPipeline_sends hload hrun
  have hsplit : receipts report.templates =
      receipts before ++ result.receipt :: receipts later := by
    rw [htemplates, receipts, List.map_append, List.map_cons]
    rfl
  have hmem : result.receipt ∈ receipts report.templates := by
    rw [hsplit]
    exact List.mem_append_right _ List.mem_cons_self
  obtain ⟨path, hpath⟩ := Option.ne_none_iff_exists'.mp
    (hsends.written_ne_none rfl hw hmem (.inl hmode))
  obtain ⟨place, _, htarget, _⟩ := (hsends.stands rfl hw _ hmem path hpath).file
  refine ⟨place, htarget, fun hlater => ?_⟩
  intro texts file
  have hafter : ∀ other ∈ receipts later, ¬ other.Writes w place := by
    rintro other hother ⟨hwritten, htarget⟩
    obtain ⟨rendered, hrendered, rfl⟩ := mem_receipts.mp hother
    exact hlater rendered hrendered hwritten htarget
  rw [hsplit] at hsends
  have hsurvives := hsends.survives rfl hw hmode htarget hafter
  rw [map_parcel_receipts] at hsurvives
  have hfound : after.desk.workspace.tree.get? place =
      some (.file (.bytes (Output.overlay result.body.toUTF8 file.position file.held))) := by
    rw [hfiles]
    exact hsurvives
  refine ⟨Output.Aggregate.ofTexts_given place texts, hfound, fun hnone => ?_⟩
  rw [hfound, show file = .ofTexts place texts from rfl, hnone]
  rfl

end

/-- The body that replaced the file is longer than what was collected before. -/
theorem runPipeline_replaced_collected :
    (endOf "##output overwrite all\nyyy").2.desk.workspace.tree.get? ["r", "all"] =
      some (.file (.bytes "xyy".toUTF8)) := by
  have hsent : (endOf "##output overwrite all\nyyy").1.toOption.map Report.parcels =
      some [⟨.aggregate, "all", "x"⟩, ⟨.overwrite, "all", "yyy"⟩] := by
    decide +kernel
  rcases hrun : endOf "##output overwrite all\nyyy" with ⟨outcome, after⟩
  rw [hrun] at hsent
  cases outcome with
  | error failure => cases hsent
  | ok report =>
      obtain ⟨first, rest, htemplates, hfirst, hrest⟩ := List.map_eq_cons_iff.mp (Option.some.inj hsent)
      obtain ⟨second, none, rfl, hsecond, hnone⟩ := List.map_eq_cons_iff.mp hrest
      obtain rfl := List.map_eq_nil_iff.mp hnone
      have hmode : second.mode = .overwrite := congrArg (·.mode) hsecond
      have hbody : second.body = "yyy" := congrArg (·.body) hsecond
      obtain ⟨place, htarget, hfile⟩ := runPipeline_replaced (.pure oneClass) (by decide +kernel) hrun
        (show report.templates = [first] ++ second :: [] from htemplates) hmode
      have hplace : second.parcel.target? (twoTemplates "##output overwrite all\nyyy").desk.workspace =
          some ["r", "all"] := by
        rw [hsecond]
        decide +kernel
      obtain rfl := Option.some.inj (htarget.symm.trans hplace)
      obtain ⟨_, hfound, _⟩ := hfile fun other hother => by cases hother
      rw [List.map_singleton, hfirst, hbody] at hfound
      refine hfound.trans (congrArg (fun bytes => some (Entry.file (Content.bytes bytes))) ?_)
      decide +kernel

section

variable {conduct : Conduct} {sources : Sources} {options : Settings.Options} {load : Step Model}
  {w : Workspace} {registry : Mixin.Registry} {levels : Log.Levels} {report : Report} {after : Run}

/-- A run changes files, and creates them, only where entries of the report lead, and creates
directories only above those; it takes nothing away. Where an entry of the report leads there is a
file after the run, and an entry that is not collected leads there step by step. A file that templates
leave out, or find there from the start and are to preserve, keeps its content and is not among the
entries. -/
theorem runPipeline_outputs (hload : load.Keeps Aside) (hw : w.Rooted)
    (hrun : (runPipeline sources options load conduct).run (.start w registry levels) =
      (.ok report, after)) :
    (∀ place, after.desk.workspace.tree.get? place ≠ w.tree.get? place →
      (∃ content, after.desk.workspace.tree.get? place = some (.file content)) ∧
        (∃ output ∈ report.outputs, w.resolve output.2 = .ok place) ∨
      w.tree.get? place = none ∧ after.desk.workspace.tree.get? place = some .directory ∧
        ∃ output ∈ report.outputs, ∃ above, above <+: output.2.parent.parts ∧
          w.tree.resolve? w.directory ⟨output.2.root, above⟩ = some place) ∧
    (∀ output ∈ report.outputs, ∃ place content, w.resolve output.2 = .ok place ∧
      after.desk.workspace.tree.get? place = some (.file content) ∧
      (output.1 ≠ Output.Mode.aggregate.name → after.desk.workspace.isFile? output.2 = .ok true) ∧
      ∀ target, after.desk.workspace.tree.locate w.directory output.2 = .ok target →
        target = ⟨place, some (.file content)⟩) ∧
    (∀ place content, w.tree.get? place = some (.file content) →
      (∀ result ∈ report.templates, result.parcel.target? w = some place →
        result.mode = .property ∨ result.mode = .ignore ∨
          result.mode = .preserve ∧ w.exists? result.parcel.address = .ok true) →
      after.desk.workspace.tree.get? place = some (.file content) ∧
        ∀ output ∈ report.outputs, w.resolve output.2 ≠ .ok place) := by
  obtain ⟨last, hsends, hfiles⟩ := runPipeline_sends hload hrun
  have hclosed : after.desk.workspace = last.closed := hfiles
  rw [hclosed]
  refine ⟨fun place => Report.changed hw hsends, fun output => Report.reached hw hsends, ?_⟩
  intro place content hcontent hmodes
  have hnot : ∀ output ∈ report.outputs, w.resolve output.2 ≠ .ok place := by
    intro output houtput hplace
    obtain ⟨result, hresult, hwritten, _⟩ := Report.mem_outputs.mp houtput
    have hmem := mem_receipts.mpr ⟨result, hresult, rfl⟩
    have haddress := (hsends.stands rfl hw _ hmem output.2 hwritten).address
    have htarget : result.parcel.target? w = some place :=
      Rendered.target?_eq_some_iff.mpr (haddress ▸ hplace)
    have hnone := hsends.written_eq_none rfl hw _ hmem (hmodes result hresult htarget)
    cases hwritten.symm.trans hnone
  refine ⟨?_, hnot⟩
  by_contra hchanged
  rcases Report.changed hw hsends fun h => hchanged (h.trans hcontent) with
    ⟨_, output, houtput, hplace⟩ | ⟨hfree, _⟩
  · exact hnot output houtput hplace
  · rw [hcontent] at hfree
    cases hfree

end

/-- A new file below new directories. -/
theorem runPipeline_outputs_below :
    (endOf "##output preserve new/sub/f\ny").2.desk.workspace.isFile? (.ofString "new/sub/f") =
      .ok true := by
  have houtputs : ((endOf "##output preserve new/sub/f\ny").1.toOption.any fun report =>
      ("preserve", .ofString "new/sub/f") ∈ report.outputs) = true := by
    decide +kernel
  rcases hrun : endOf "##output preserve new/sub/f\ny" with ⟨outcome, after⟩
  rw [hrun] at houtputs
  cases outcome with
  | error failure => cases houtputs
  | ok report =>
      obtain ⟨_, hreached, _⟩ := runPipeline_outputs (.pure oneClass) (by decide +kernel) hrun
      obtain ⟨place, content, _, _, hfile, _⟩ := hreached _ (of_decide_eq_true houtputs)
      exact hfile (by decide +kernel)

end Codegen.Generation
