import Codegen.Generation.Rendering
import Codegen.Model.Reader
import Codegen.Proofs.Generation.Step
import Codegen.Proofs.Model.Validity
import Codegen.Proofs.Output.Property

/-! Where the output of a template goes that names no path. For the classes of a valid model these places
differ as soon as the classes or the extensions do. -/

namespace Codegen.Generation

open Codegen.Files Codegen.Model

section

variable {run : Run} {extension : String} {template : Path} {i : Nat} {c : Model.Class}

theorem readMember_own (hclass : run.model.classes[i]? = some c) {name : String} {v : Value}
    (hown : Mixin.elementMember run.model (.classifier i) (.classifier c) name = some v) :
    (readMember (.entity (.classifier i)) name).run run = (.ok v, run) := by
  rw [readMember, Stateful.run_bind_ok (Stateful.run_get run), Step.run_lift]
  have helement : (Entity.classifier i).element? run.model = some (.classifier c) := by
    simp [Entity.element?, hclass]
  simp only [Mixin.read, Mixin.depthBound, Mixin.readWithin, Mixin.readEntity, Mixin.nativeMember?,
    helement, hown]

theorem readMember_name (hclass : run.model.classes[i]? = some c) :
    (readMember (.entity (.classifier i)) "name").run run = (.ok (.text c.name), run) :=
  readMember_own hclass rfl

theorem readMember_package (hclass : run.model.classes[i]? = some c) :
    (readMember (.entity (.classifier i)) "package_dir_name").run run =
      (.ok (.text c.packageDirectory), run) :=
  readMember_own hclass rfl

theorem run_displayed_text (s : String) (run : Run) : (displayed (.text s)).run run = (.ok s, run) := rfl

theorem run_defaultPath (hclass : run.model.classes[i]? = some c) (root : String) :
    (defaultPath (.entity (.classifier i)) template extension root).run run =
      (.ok (root ++ "/" ++ ((if c.packageDirectory = "" then "" else c.packageDirectory ++ "/") ++
        (c.name ++ Output.defaultExtension template.name))), run) := by
  have hbefore : (if (Value.text c.packageDirectory).isTrue then c.packageDirectory ++ "/" else "") =
      if c.packageDirectory = "" then "" else c.packageDirectory ++ "/" := by
    by_cases hroot : c.packageDirectory = ""
    · rw [hroot]
      rfl
    · rw [if_neg hroot]
      exact if_pos (decide_eq_true hroot)
  rw [defaultPath.eq_def]
  dsimp only
  rw [Stateful.run_bind_ok (readMember_package hclass), Stateful.run_bind_ok (run_displayed_text _ _),
    Stateful.run_bind_ok (readMember_name hclass), Stateful.run_bind_ok (run_displayed_text _ _), hbefore,
    Stateful.run_pure]
  simp only [String.append_assoc]

end

/-! ### Places of classes -/

def placeOf (c : Model.Class) (extension : String) : List String := c.package ++ [c.name ++ extension]

section

variable {c d : Model.Class} {extension other : String}

theorem packageDirectory_append (hvalid : c.problems = []) (file : String) :
    (if c.packageDirectory = "" then "" else c.packageDirectory ++ "/") ++ file =
      Text.join "/" (c.package ++ [file]) := by
  have hiff := Class.packageDirectory_eq_empty_iff hvalid
  rw [Class.inRootPackage, List.isEmpty_iff] at hiff
  by_cases hroot : c.package = []
  · rw [if_pos (hiff.mpr hroot), hroot, List.nil_append, Text.join_singleton]
    exact String.empty_append
  · rw [if_neg fun hempty => hroot (hiff.mp hempty), Text.join_append "/" hroot (List.cons_ne_nil _ _),
      Text.join_singleton, Class.packageDirectory]

theorem isName_of_mem_placeOf (hvalid : c.problems = []) (hextension : Output.IsExtension extension)
    {segment : String} (h : segment ∈ placeOf c extension) : Path.IsName segment ∧ segment ≠ ".." := by
  have hdots : ∀ {name : String} (ending : String), Text.isIdentifier name = true → name ++ ending ≠ ".." := by
    intro name ending hname hdots
    have hlist := congrArg String.toList hdots
    rw [String.toList_append] at hlist
    cases htext : name.toList with
    | nil => exact Text.ne_empty_of_isIdentifier hname (by simpa using htext)
    | cons first others =>
        rw [htext] at hlist
        obtain ⟨rfl, _⟩ := List.cons.inj hlist
        exact Text.dot_not_mem_of_isIdentifier hname (htext ▸ List.mem_cons_self)
  rcases List.mem_append.mp h with h | h
  · have hsegment := Class.isIdentifier_segment hvalid h
    have hnone : Output.IsExtension "" := ⟨by decide, .inl rfl⟩
    have hplain := Output.isName_identifier hsegment hnone
    have hnot := hdots "" hsegment
    rw [String.append_empty] at hplain hnot
    exact ⟨hplain, hnot⟩
  · obtain rfl := List.mem_singleton.mp h
    have hname := Class.isIdentifier_name hvalid
    exact ⟨Output.isName_identifier hname hextension, hdots extension hname⟩

theorem split_place (hvalid : c.problems = []) (hextension : Output.IsExtension extension) :
    Text.split "/" (Text.join "/" (placeOf c extension)) = placeOf c extension :=
  Text.split_join (c := '/') (by decide) (by simp [placeOf]) fun _ hsegment =>
    (isName_of_mem_placeOf hvalid hextension hsegment).1.1

theorem append_extension_inj {name name' : String} (hname : '.' ∉ name.toList) (hname' : '.' ∉ name'.toList)
    (hextension : Output.IsExtension extension) (hother : Output.IsExtension other)
    (h : name ++ extension = name' ++ other) : name = name' ∧ extension = other := by
  have hbefore : ∀ {own ending : String}, '.' ∉ own.toList → Output.IsExtension ending →
      (own ++ ending).toList.takeWhile (· ≠ '.') = own.toList := by
    intro own ending hown hending
    have hall : ∀ c ∈ own.toList, decide (c ≠ '.') = true := by
      intro c hc
      rw [decide_eq_true_eq]
      rintro rfl
      exact hown hc
    rw [String.toList_append, List.takeWhile_append_of_pos hall]
    rcases hending.2 with rfl | hdot
    · simp
    · cases htext : ending.toList with
      | nil => simp
      | cons first others =>
          rw [htext, List.head?_cons, Option.some.injEq] at hdot
          rw [List.takeWhile_cons_of_neg (by simp [hdot]), List.append_nil]
  have hnames : name.toList = name'.toList := by
    rw [← hbefore hname hextension, h, hbefore hname' hother]
  have hsame := String.toList_inj.mp hnames
  subst hsame
  have hlist := congrArg String.toList h
  rw [String.toList_append, String.toList_append] at hlist
  exact ⟨rfl, String.toList_inj.mp (List.append_cancel_left hlist)⟩

theorem join_placeOf_inj (hc : c.problems = []) (hd : d.problems = [])
    (hextension : Output.IsExtension extension) (hother : Output.IsExtension other) :
    Text.join "/" (placeOf c extension) = Text.join "/" (placeOf d other) ↔
      (c.package = d.package ∧ c.name = d.name) ∧ extension = other := by
  constructor
  · intro h
    have hplaces : placeOf c extension = placeOf d other := by
      rw [← split_place hc hextension, h, split_place hd hother]
    obtain ⟨hpackage, hfile⟩ := List.append_inj' hplaces rfl
    obtain ⟨hname, hsame⟩ := append_extension_inj
      (Text.dot_not_mem_of_isIdentifier (Class.isIdentifier_name hc))
      (Text.dot_not_mem_of_isIdentifier (Class.isIdentifier_name hd)) hextension hother
      (List.head_eq_of_cons_eq hfile)
    exact ⟨⟨hpackage, hname⟩, hsame⟩
  · rintro ⟨⟨hpackage, hname⟩, rfl⟩
    rw [placeOf, placeOf, hpackage, hname]

end

theorem run_defaultPath_place {c : Model.Class} {run : Run} {template : Path} {i : Nat}
    (hclass : run.model.classes[i]? = some c) (hvalid : c.problems = []) (extension root : String) :
    (defaultPath (.entity (.classifier i)) template extension root).run run =
      (.ok (root ++ "/" ++ Text.join "/" (placeOf c (Output.defaultExtension template.name))), run) := by
  rw [run_defaultPath hclass, packageDirectory_append hvalid]
  rfl

/-- All classes of the model part the segments of their packages in the same way. -/
def SharesDelimiter (m : Model) : Prop := ∃ delimiter, ∀ c ∈ m.classes, c.delimiter = delimiter

theorem sharesDelimiter_of_ofValue {data : Value} {delimiter : String} {m : Model}
    (h : ofValue data delimiter = .ok m) : SharesDelimiter m := by
  refine ⟨delimiter, fun c hc => ?_⟩
  rw [ofValue.eq_def] at h
  dsimp only at h
  split at h
  · cases h
  · split at h
    · cases h
    · cases h
      obtain ⟨spec, _, rfl⟩ := List.mem_map.mp hc
      rfl

theorem class_inj {m : Model} (hvalid : m.problems = []) (hshared : SharesDelimiter m) {i j : Nat}
    {c d : Model.Class} (hi : m.classes[i]? = some c) (hj : m.classes[j]? = some d)
    (hpackage : c.package = d.package) (hname : c.name = d.name) : i = j := by
  obtain ⟨delimiter, hdelimiter⟩ := hshared
  have hqualified : c.qualifiedName = d.qualifiedName := by
    rw [Class.qualifiedName, Class.qualifiedName, Class.inRootPackage, Class.inRootPackage, Class.packageName,
      Class.packageName, hpackage, hname, hdelimiter c (List.mem_of_getElem? hi),
      hdelimiter d (List.mem_of_getElem? hj)]
  refine Entity.classifier_inj hvalid (List.getElem?_eq_some_iff.mp hi).1
    (List.getElem?_eq_some_iff.mp hj).1 ?_
  rw [Entity.qualifiedName?_classifier hi, Entity.qualifiedName?_classifier hj, hqualified]

/-- Every template has a place for every class of a valid model, in a directory below the output root. Two
of these places are the same only for the same class and the same extension. -/
theorem defaultPath_distinct :
    (∀ data delimiter m, ofValue data delimiter = .ok m → SharesDelimiter m) ∧
    ∀ (run : Run), run.model.problems = [] → SharesDelimiter run.model →
      ∀ i < run.model.classes.length, ∀ j < run.model.classes.length,
      ∀ (template other : Path) (extension root : String), ∃ path path',
        (defaultPath (.entity (.classifier i)) template extension root).run run = (.ok path, run) ∧
        (defaultPath (.entity (.classifier j)) other extension root).run run = (.ok path', run) ∧
        (path = path' ↔
          i = j ∧ Output.defaultExtension template.name = Output.defaultExtension other.name) ∧
        ∃ below, path = root ++ "/" ++ below ∧
          ∀ segment ∈ Text.split "/" below, segment ≠ "" ∧ segment ≠ "." ∧ segment ≠ ".." := by
  refine ⟨fun data delimiter m => sharesDelimiter_of_ofValue, ?_⟩
  intro run hvalid hshared i hi j hj template other extension root
  have hc := List.getElem?_eq_getElem hi
  have hd := List.getElem?_eq_getElem hj
  have hc_valid := problems_eq_nil_of_mem hvalid (List.getElem_mem hi)
  have hd_valid := problems_eq_nil_of_mem hvalid (List.getElem_mem hj)
  have hextension := Output.isExtension_defaultExtension template.name
  have hother := Output.isExtension_defaultExtension other.name
  refine ⟨_, _, run_defaultPath_place hc hc_valid extension root,
    run_defaultPath_place hd hd_valid extension root, ?_, _, rfl, fun segment hsegment => ?_⟩
  · have hcancel : ∀ {below below' : String}, root ++ "/" ++ below = root ++ "/" ++ below' ↔ below = below' := by
      intro below below'
      rw [← String.toList_inj, String.toList_append, String.toList_append (t := below'), List.append_cancel_left_eq,
        String.toList_inj]
    rw [hcancel, join_placeOf_inj hc_valid hd_valid hextension hother]
    refine and_congr_left fun _ => ⟨fun h => class_inj hvalid hshared hc hd h.1 h.2, ?_⟩
    rintro rfl
    exact ⟨rfl, rfl⟩
  · rw [split_place hc_valid hextension] at hsegment
    obtain ⟨⟨_, hne, hdot⟩, hdots⟩ := isName_of_mem_placeOf hc_valid hextension hsegment
    exact ⟨hne, hdot, hdots⟩

def homonyms : Model where
  classes := [{ name := "Order" }, { name := "Order", package := ["shop"] }]

/-- Each of them has a place of its own. -/
theorem defaultPath_distinct_homonyms :
    homonyms.problems = [] ∧ SharesDelimiter homonyms ∧ ∃ (run : Run) (path path' : String),
      run.model = homonyms ∧
      (defaultPath (.entity (.classifier 0)) (.ofString "Model.py.j2") "" "gen").run run = (.ok path, run) ∧
      (defaultPath (.entity (.classifier 1)) (.ofString "Model.py.j2") "" "gen").run run = (.ok path', run) ∧
      path ≠ path' := by
  have hvalid : homonyms.problems = [] := by decide +kernel
  have hshared : SharesDelimiter homonyms := ⟨"::", by decide⟩
  let run : Run := { model := homonyms, desk := ⟨⟨.empty, []⟩, [], [], {}⟩ }
  obtain ⟨path, path', hpath, hpath', hsame, -⟩ := defaultPath_distinct.2 run hvalid hshared 0 (by decide) 1
    (by decide) (.ofString "Model.py.j2") (.ofString "Model.py.j2") "" "gen"
  refine ⟨hvalid, hshared, run, path, path', rfl, hpath, hpath', fun h => ?_⟩
  cases (hsame.mp h).1

end Codegen.Generation
