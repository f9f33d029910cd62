/-!
# Operations that may be refused

An operation that runs another one first gives a result when both do, and is refused for the reason
of the first one that is.

## Main definitions

* `Alike` — two operations come out the same way

## Main results

* `bind_eq_ok_iff`, `bind_eq_error_iff` — when one operation after another succeeds or is refused
* `Alike.eq_error_iff` — operations that come out the same way are refused for the same reason
* `Alike.bind`, `Alike.map` — operations that come out the same way may be followed by such
  operations
* `Alike.refl`, `Alike.eq` — what comes out the same way is alike, and it is equal if the results
  are
-/

namespace ChipEight

variable {ε α β : Type} {first : Except ε α} {second : α → Except ε β}

@[simp] theorem ok_bind (a : α) : (Except.ok a >>= second) = second a := rfl

@[simp] theorem error_bind (reason : ε) : (Except.error reason >>= second) = .error reason := rfl

theorem pure_eq_ok (a : α) : (pure a : Except ε α) = .ok a := rfl

theorem bind_eq_ok_iff {b : β} :
    (first >>= second) = .ok b ↔ ∃ a, first = .ok a ∧ second a = .ok b := by
  cases first with
  | error reason => simp
  | ok a => simp

theorem bind_eq_error_iff {reason : ε} :
    (first >>= second) = .error reason ↔
      first = .error reason ∨ ∃ a, first = .ok a ∧ second a = .error reason := by
  cases first with
  | error reason => simp
  | ok a => simp

/-- Two operations come out the same way: both give results, which are related, or both are refused
for the same reason. -/
inductive Alike {β' : Type} (related : β → β' → Prop) : Except ε β → Except ε β' → Prop
  | ok {b : β} {b' : β'} : related b b' → Alike related (.ok b) (.ok b')
  | error (reason : ε) : Alike related (.error reason) (.error reason)

theorem Alike.refl {related : β → β → Prop} (same : ∀ b, related b b) (result : Except ε β) :
    Alike related result result := by
  cases result with
  | ok b => exact .ok (same b)
  | error reason => exact .error reason

theorem Alike.eq {first second : Except ε β} (alike : Alike (· = ·) first second) :
    first = second := by
  cases alike with
  | ok same => rw [same]
  | error reason => rfl

theorem Alike.eq_error_iff {β' : Type} {related : β → β' → Prop} {first : Except ε β}
    {second : Except ε β'} (alike : Alike related first second) {reason : ε} :
    first = .error reason ↔ second = .error reason := by
  cases alike with
  | ok same => simp
  | error reason => simp

theorem Alike.bind {α' β' : Type} {related : α → α' → Prop} {next : β → β' → Prop}
    {first' : Except ε α'} {second' : α' → Except ε β'} (start : Alike related first first')
    (goesOn : ∀ a a', related a a' → Alike next (second a) (second' a')) :
    Alike next (first >>= second) (first' >>= second') := by
  cases start with
  | ok same => exact goesOn _ _ same
  | error reason => exact .error reason

theorem Alike.map {α' β' : Type} {related : α → α' → Prop} {next : β → β' → Prop}
    {first' : Except ε α'} {f : α → β} {f' : α' → β'} (start : Alike related first first')
    (goesOn : ∀ a a', related a a' → next (f a) (f' a')) :
    Alike next (first.map f) (first'.map f') := by
  cases start with
  | ok same => exact .ok (goesOn _ _ same)
  | error reason => exact .error reason

end ChipEight
