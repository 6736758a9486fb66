import Codegen.Model.File
import Codegen.Proofs.Log.Saying

/-! Which documents are neither models nor reported as problems of one. -/

namespace Codegen

/-- Whether a failure is reported as a problem of the model. -/
def Failure.isModelProblem : Failure → Bool
  | .generation e => e.kind = .modelValidation
  | _ => false

namespace Model

variable {α β : Type}

/-- Whatever fails is reported as a problem of the model. -/
def Reports (outcome : Except Failure α) : Prop :=
  ∀ failure, outcome = .error failure → failure.isModelProblem = true

theorem reports_ok (x : α) : Reports (.ok x) := nofun

theorem reports_error_iff (failure : Failure) :
    Reports (.error failure : Except Failure α) ↔ failure.isModelProblem = true :=
  ⟨fun h => h failure rfl, fun h _ hfailure => Except.error.inj hfailure ▸ h⟩

theorem reports_bind_iff (outcome : Except Failure α) (next : α → Except Failure β) :
    Reports (outcome >>= next) ↔ Reports outcome ∧ ∀ x, outcome = .ok x → Reports (next x) := by
  cases outcome with
  | error failure =>
      refine ⟨fun h => ⟨(reports_error_iff failure).mpr (h failure rfl), nofun⟩, fun h => ?_⟩
      exact (reports_error_iff failure).mpr (h.1 failure rfl)
  | ok x =>
      refine ⟨fun h => ⟨reports_ok x, ?_⟩, fun h => h.2 x rfl⟩
      rintro _ ⟨⟩
      exact h

theorem reports_say_iff (levels : Log.Levels) (component : Log.Component) (method : Log.Method)
    (message : String) :
    Reports (component.say levels method message) ↔ component.say levels method message = .ok () := by
  cases hsay : component.say levels method message with
  | ok u => exact iff_of_true (reports_ok u) rfl
  | error failure =>
      obtain ⟨fault, rfl⟩ := Log.say_error hsay
      exact iff_of_false (fun h => by cases h _ rfl) nofun

/-! Documents. -/

/-- The shape that a document has as a model, an empty document being an empty mapping. -/
def shape (data : Value) : Checked ModelSpec :=
  ModelSpec.check <| match data with
    | .null => .map []
    | v => v

/-- A document that has the shape of a model with classes in it. -/
def HasClasses (data : Value) : Prop := ∃ spec, shape data = .ok spec ∧ spec.classes ≠ []

theorem ofValue_eq (data : Value) (delimiter : String) :
    ofValue data delimiter =
      match shape data with
      | .error problems => .error (.generation (.malformedModel (problems.map SchemaProblem.text)))
      | .ok spec =>
        if delimiter = "" ∧ spec.classes ≠ [] then .error .emptyDelimiter
        else .ok (ofSpec spec delimiter) := rfl

theorem reports_ofValue_iff (data : Value) (delimiter : String) :
    Reports (ofValue data delimiter) ↔ ¬ (delimiter = "" ∧ HasClasses data) := by
  rw [ofValue_eq]
  cases hshape : shape data with
  | error problems =>
      refine iff_of_true ((reports_error_iff _).mpr rfl) ?_
      rintro ⟨_, spec, hspec, _⟩
      cases hshape.symm.trans hspec
  | ok spec =>
      by_cases hempty : delimiter = "" ∧ spec.classes ≠ []
      · simp only [if_pos hempty, reports_error_iff]
        exact iff_of_false nofun fun h => h ⟨hempty.1, spec, hshape, hempty.2⟩
      · simp only [if_neg hempty]
        refine iff_of_true (reports_ok _) ?_
        rintro ⟨hdelimiter, other, hother, hclasses⟩
        cases hshape.symm.trans hother
        exact hempty ⟨hdelimiter, hclasses⟩

theorem parse_eq (levels : Log.Levels) (data : Value) (delimiter : String) :
    parse levels data delimiter =
      (ofValue data delimiter >>= fun m =>
        Log.modelLogger.say levels .debug (parsedMessage m) >>= fun _ => .ok m) := rfl

/-- What has to hold for a document to become a model or to be reported: the empty delimiter does not have to split
packages, and the log takes word of the model. -/
structure Reportable (levels : Log.Levels) (data : Value) (delimiter : String) : Prop where
  splits : ¬ (delimiter = "" ∧ HasClasses data)
  said : ∀ m, ofValue data delimiter = .ok m → Log.modelLogger.say levels .debug (parsedMessage m) = .ok ()

theorem reports_parse_iff (levels : Log.Levels) (data : Value) (delimiter : String) :
    Reports (parse levels data delimiter) ↔ Reportable levels data delimiter := by
  rw [parse_eq, reports_bind_iff, reports_ofValue_iff]
  simp only [reports_bind_iff, reports_say_iff, reports_ok, implies_true, and_true]
  exact ⟨fun h => ⟨h.1, h.2⟩, fun h => ⟨h.1, h.2⟩⟩

/-! Files. -/

def afterReading (levels : Log.Levels) (path : Files.Path) (delimiter : String) :
    Except Failure Value → Except Failure Model
  | .ok data => parse levels data delimiter
  | .error (.unreadable .yaml) => .error (.generation (.unreadableModel path.toString "malformed document"))
  | .error failure => .error failure

theorem read_eq {levels : Log.Levels} {w : Workspace} {file delimiter : String} {bytes : ByteArray}
    (hfile : w.readBytes (.ofString file) = .ok bytes)
    (hname : (Files.Path.ofString file).toString.contains '\x00' = false) (reader : DocumentReader) :
    read levels w file delimiter reader =
      (Log.modelLogger.say levels .info (readingMessage (.ofString file)) >>= fun _ =>
        afterReading levels (.ofString file) delimiter (reader bytes)) := by
  rw [read]
  simp only [hname, hfile]
  cases Log.modelLogger.say levels .info (readingMessage (.ofString file)) with
  | error failure => rfl
  | ok u =>
      simp only [bind, Except.bind, afterReading]
      cases reader bytes with
      | ok data => rfl
      | error failure => cases failure <;> rfl

theorem reports_afterReading_iff {levels : Log.Levels} {path : Files.Path} {delimiter : String}
    {answer : Except Failure Value} :
    Reports (afterReading levels path delimiter answer) ↔
      (∀ failure, answer = .error failure → failure = .unreadable .yaml ∨ failure.isModelProblem = true) ∧
        ∀ data, answer = .ok data → Reportable levels data delimiter := by
  cases answer with
  | ok data =>
      rw [afterReading, reports_parse_iff]
      simp
  | error failure =>
      have hpassed (hother : failure ≠ .unreadable .yaml) :
          afterReading levels path delimiter (.error failure) = .error failure := by
        rw [afterReading.eq_def]
        split
        · contradiction
        · exact absurd (Except.error.inj ‹_›) hother
        · rw [Except.error.inj ‹Except.error failure = _›]
      by_cases hyaml : failure = .unreadable .yaml
      · subst hyaml
        rw [afterReading, reports_error_iff]
        simp [Failure.isModelProblem, GenerationError.unreadableModel, GenerationError.kind]
      · rw [hpassed hyaml, reports_error_iff]
        simp [hyaml]

def holding (bytes : ByteArray) : Workspace where
  tree := ⟨[(["m"], .file (.bytes bytes))]⟩
  directory := []

theorem readBytes_holding (bytes : ByteArray) :
    (holding bytes).readBytes (.ofString "m") = .ok bytes := by
  have hpath : Files.Path.ofString "m" = ⟨"", ["m"]⟩ := by decide +kernel
  rw [hpath]
  rfl

def complains (answer : Except Failure Value) : Bool :=
  match answer with
  | .ok _ => false
  | .error (.unreadable cause) => cause ≠ .yaml
  | .error _ => false

def listingOne : Value := .map [(.text "classes", .list [.map [(.text "name", .text "A")]])]

def unsayable : Value := .map [(.text "name", .text "[/]")]

end Model

end Codegen
