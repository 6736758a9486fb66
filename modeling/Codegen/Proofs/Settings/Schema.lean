import Codegen.Proofs.Model.Document
import Codegen.Proofs.Schema.Check
import Codegen.Proofs.Settings.Reading

/-! What the options are that a list of settings gives: each is read from the setting of its name, or is
its default when there is none. -/

namespace Codegen

namespace Settings

variable {settings : List (String × Value)}

theorem field?_text (name : String) (settings : List (String × Value)) :
    Value.field? name (settings.map fun (key, v) => (Value.text key, v)) = settings.lookup name := by
  induction settings with
  | nil => rfl
  | cons entry rest ih =>
      obtain ⟨key, v⟩ := entry
      rw [List.map_cons, Value.field?_cons_text, ih, List.lookup_cons]
      by_cases h : key = name
      · simp [h]
      · rw [if_neg h, beq_false_of_ne (Ne.symm h)]

/-- An option that is read from the setting of its name, or is its default. -/
def Follows {α : Type} (settings : List (String × Value)) (name : String) (check : Value → Checked α)
    (default x : α) : Prop :=
  match settings.lookup name with
  | none => x = default
  | some v => check v = .ok x

theorem field_ok_iff {α : Type} {name : String} {check : Value → Checked α} {default x : α} :
    Checked.field name check (.ok default) (settings.map fun (key, v) => (Value.text key, v)) = .ok x ↔
      Follows settings name check default x := by
  rw [Checked.field, Checked.under_ok_iff, field?_text, Follows]
  cases settings.lookup name with
  | none => simp [eq_comm]
  | some v => rfl

/-- The settings without a meaning of their own. -/
def furtherSettings (settings : List (String × Value)) : List (String × Value) :=
  settings.filter fun (name, _) => name ∉ Options.names

namespace Options

structure Reads (settings : List (String × Value)) (options : Options) : Prop where
  output : Follows settings "output" Checked.text "./gen" options.output
  platform : Follows settings "platform" Checked.text "python" options.platform
  platformDirectory : Follows settings "platform_dir" pathCheck none options.platformDirectory
  globalPlugins : Follows settings "global_plugins_dir" pathCheck none options.globalPlugins
  delimiter : Follows settings "package_delimiter" Checked.text "::" options.delimiter
  templateExtension : Follows settings "template_extension" Checked.text ".j2" options.templateExtension
  scriptExtension : Follows settings "script_extension" Checked.text ".py" options.scriptExtension
  commentWidth : Follows settings "comment_width" widthCheck 80 options.commentWidth
  further : options.further = furtherSettings settings

theorem check_ok_iff {options : Options} : check settings = .ok options ↔ Reads settings options := by
  simp only [check, Checked.map_ok_iff, Checked.apply_ok_iff, field_ok_iff]
  constructor
  · rintro ⟨_, ⟨_, width, ⟨_, script, ⟨_, template, ⟨_, delimiter, ⟨_, globals, ⟨_, directory,
      ⟨_, platform, ⟨output, houtput, rfl⟩, hplatform, rfl⟩, hdirectory, rfl⟩, hglobals, rfl⟩,
      hdelimiter, rfl⟩, htemplate, rfl⟩, hscript, rfl⟩, hwidth, rfl⟩, rfl⟩
    exact ⟨houtput, hplatform, hdirectory, hglobals, hdelimiter, htemplate, hscript, hwidth, rfl⟩
  · intro h
    refine ⟨_, ⟨_, _, ⟨_, _, ⟨_, _, ⟨_, _, ⟨_, _, ⟨_, _, ⟨_, _, ⟨_, h.output, rfl⟩, h.platform, rfl⟩,
      h.platformDirectory, rfl⟩, h.globalPlugins, rfl⟩, h.delimiter, rfl⟩, h.templateExtension, rfl⟩,
      h.scriptExtension, rfl⟩, h.commentWidth, rfl⟩, ?_⟩
    exact congrArg (fun further => { options with further }) h.further.symm

end Options

/-! Settings with others in their place. -/

theorem lookup_overlay (overrides settings : List (String × Value)) (name : String) :
    (overlay overrides settings).lookup name =
      ((overrides.filter isGiven).reverse.lookup name).or (settings.lookup name) := by
  rw [overlay, Table.lookup_foldl_put]

theorem further_put {name : String} (h : name ∈ Options.names) (v : Value)
    (settings : List (String × Value)) : furtherSettings (Table.put name v settings) = furtherSettings settings := by
  induction settings with
  | nil => simp [Table.put, furtherSettings, h]
  | cons entry rest ih =>
      obtain ⟨key, w⟩ := entry
      rw [Table.put]
      split
      · rename_i heq
        obtain rfl := eq_of_beq heq
        simp [furtherSettings, h]
      · simp only [furtherSettings, List.filter_cons] at ih ⊢
        rw [ih]

theorem further_overlay {overrides : List (String × Value)}
    (h : ∀ override ∈ overrides, override.1 ∈ Options.names) (settings : List (String × Value)) :
    furtherSettings (overlay overrides settings) = furtherSettings settings := by
  rw [overlay]
  have hgiven : ∀ override ∈ overrides.filter isGiven, override.1 ∈ Options.names :=
    fun override hmem => h override (List.mem_of_mem_filter hmem)
  generalize overrides.filter isGiven = given at hgiven
  induction given generalizing settings with
  | nil => rfl
  | cons override rest ih =>
      rw [List.foldl_cons, ih _ fun other hmem => hgiven other (List.mem_cons_of_mem _ hmem)]
      exact further_put (hgiven override List.mem_cons_self) override.2 settings

end Settings

end Codegen
