import Retrieval.Proofs.Outcome
import Retrieval.Settings.Resolve

/-!
Settings that are accepted. However settings come about, from a document, from layers or from
files, they are checked as a whole after everything was laid over the defaults, so none of the
accepted ones has a zero where there must not be one.
-/

namespace Retrieval

namespace Settings

def IsPositive (settings : Settings) : Prop :=
  ∀ setting : PositiveSetting, 0 < setting.value settings

theorem validate_eq_ok_iff {settings accepted : Settings} :
    settings.validate = .ok accepted ↔ settings = accepted ∧ settings.IsPositive := by
  unfold validate
  split
  · rename_i setting hsetting
    have hzero : setting.value settings = 0 := by simpa using List.find?_some hsetting
    refine ⟨nofun, fun h => ?_⟩
    exact absurd hzero (Nat.pos_iff_ne_zero.mp (h.2 setting))
  · rename_i hnone
    have hpositive : settings.IsPositive := by
      intro setting
      have hne := List.find?_eq_none.mp hnone setting (by cases setting <;> decide)
      simpa [Nat.pos_iff_ne_zero] using hne
    simp [hpositive]

/-- The ways in which settings are had: a document describes them, layers are resolved to them, or
files describe them. -/
inductive Accepted : Settings → Prop
  | parsed {text : String} {settings : Settings} (h : parse text = .ok settings) :
      Accepted settings
  | resolved {layers : List Layer} {settings : Settings} (h : resolve layers = .ok settings) :
      Accepted settings
  | loaded {files : List SettingsFile} {settings : Settings} (h : load files = .ok settings) :
      Accepted settings

/-- Whatever is accepted is what some layers are resolved to. -/
theorem Accepted.exists_resolve {settings : Settings} (h : settings.Accepted) :
    ∃ layers, resolve layers = .ok settings := by
  cases h with
  | parsed h =>
      obtain ⟨layer, -, hvalidate⟩ := Except.bind_eq_ok_iff.mp h
      exact ⟨[layer], hvalidate⟩
  | resolved h => exact ⟨_, h⟩
  | loaded h =>
      obtain ⟨layers, -, hresolve⟩ := Except.bind_eq_ok_iff.mp h
      exact ⟨layers, hresolve⟩

/-- Accepted settings have passed the check. -/
theorem Accepted.isPositive {settings : Settings} (h : settings.Accepted) :
    settings.IsPositive := by
  obtain ⟨layers, hresolve⟩ := h.exists_resolve
  obtain ⟨rfl, hpositive⟩ := validate_eq_ok_iff.mp hresolve
  exact hpositive

end Settings

end Retrieval
