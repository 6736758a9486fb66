import Codegen.Log.Component

/-! When the log refuses a message, and when it never does. -/

namespace Codegen.Log

variable {levels : Levels} {component : Component} {method : Method} {message : String}

theorem exists_say_eq (levels : Levels) (component : Component) (method : Method) (message : String) :
    ∃ text, component.say levels method message = do
      let _ ← record? levels component.logger method.level (.ok text)
      return () := by
  cases method <;> exact ⟨_, rfl⟩

theorem say_error {failure : Failure} (h : component.say levels method message = .error failure) :
    ∃ fault, failure = .markup fault := by
  obtain ⟨text, hsay⟩ := exists_say_eq levels component method message
  rw [hsay, record?] at h
  split at h
  · simp only [bind, Except.bind] at h
    split at h
    · rename_i fault hfault
      split at hfault
      · cases hfault
      · cases hfault
        cases h
        exact ⟨_, rfl⟩
    · cases h
  · cases h

theorem say_of_disabled (message : String) (h : levels.isEnabled component.logger method.level = false) :
    component.say levels method message = .ok () := by
  obtain ⟨text, hsay⟩ := exists_say_eq levels component method message
  rw [hsay, record?, h]
  rfl

end Codegen.Log
