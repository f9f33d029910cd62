import ChipEight.CommandLine.Parse
import ChipEight.Proofs.Refusal

/-!
# Accepted command lines

A command line that sets something sets the clock and the scale to positive numbers. Only the seed
can be left without a value.

## Main results

* `CommandLine.parse_positive` — the clock and the scale that a command line sets
* `CommandLine.Setting.valueOr?_eq_none_iff` — a setting without a value
-/

namespace ChipEight.CommandLine

theorem Setting.valueOr?_eq_none_iff {α : Type} {setting : Setting α} {default : α} :
    setting.valueOr? default = none ↔ setting = .void := by
  cases setting <;> simp [valueOr?]

namespace Settings

theorem one_le_of_positive {flag : Flag} {setting : Setting Int} {default n : Int}
    (accepted : positive flag setting default = .ok n) : 1 ≤ n := by
  unfold positive at accepted
  split at accepted
  · cases accepted
  · split at accepted
    · cases accepted
    · next notBelow =>
      obtain rfl := Except.ok.inj accepted
      exact Int.not_lt.mp notBelow

theorem finish_positive {settings : Settings} {options : Options}
    (finished : settings.finish = .ok options) : 1 ≤ options.clock ∧ 1 ≤ options.scale := by
  obtain ⟨file, -, rest⟩ := bind_eq_ok_iff.mp finished
  split at rest
  · cases rest
  · obtain ⟨clock, clockRead, rest⟩ := bind_eq_ok_iff.mp rest
    obtain ⟨scale, scaleRead, rest⟩ := bind_eq_ok_iff.mp rest
    obtain rfl := Except.ok.inj rest
    exact ⟨one_le_of_positive clockRead, one_le_of_positive scaleRead⟩

end Settings

/-- A command line that is accepted sets the clock and the scale to positive numbers. -/
theorem parse_positive {words : List String} {options : Options}
    (accepted : parse words = .ok options) : 1 ≤ options.clock ∧ 1 ≤ options.scale := by
  unfold parse at accepted
  split at accepted
  · cases accepted
  · exact Settings.finish_positive accepted

end ChipEight.CommandLine
