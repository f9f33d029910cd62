import ChipEight.Proofs.Refusal

/-!
# Calls one after the other

An object serves calls: it answers and becomes another object, or it refuses the call and stays what
it is. Two kinds of objects that serve every call alike cannot be told apart by any list of calls,
so one of them stands for the other.

## Main definitions

* `attempt` — an object serves a call or refuses it
* `Served`, `serveAll` — what comes of calls one after the other, the refused ones included
* `Simulates` — related objects serve every call alike and stay related

## Main results

* `final_take_succ_of_refused`, `serveAll_concat_of_error` — a call that is refused changes nothing
* `Simulates.always` — related objects serve every list of calls alike and stay related
-/

namespace ChipEight

variable {ε ω κ σ τ : Type}

/-- What an object answers to a call, and what becomes of it. When it refuses the call it stays what
it is. -/
def attempt (serve : σ → κ → Except ε (ω × σ)) (object : σ) (call : κ) : Except ε ω × σ :=
  match serve object call with
  | .ok (answer, next) => (.ok answer, next)
  | .error reason => (.error reason, object)

/-- What came of calls one after the other: the answers in order, and what the object is in the
end. -/
structure Served (ε ω σ : Type) where
  answers : List (Except ε ω)
  final : σ

/-- An object serves calls one after the other, also behind those that it refuses. -/
def serveAll (serve : σ → κ → Except ε (ω × σ)) (object : σ) : List κ → Served ε ω σ
  | [] => ⟨[], object⟩
  | call :: rest =>
    ⟨(attempt serve object call).1 :: (serveAll serve (attempt serve object call).2 rest).answers,
      (serveAll serve (attempt serve object call).2 rest).final⟩

variable {serve : σ → κ → Except ε (ω × σ)} {serve' : τ → κ → Except ε (ω × τ)}
  {object next : σ} {call : κ}

theorem attempt_of_ok {answer : ω} (served : serve object call = .ok (answer, next)) :
    attempt serve object call = (.ok answer, next) := by
  simp only [attempt, served]

theorem attempt_of_error {reason : ε} (refused : serve object call = .error reason) :
    attempt serve object call = (.error reason, object) := by
  simp only [attempt, refused]

theorem serveAll_append (object : σ) (first second : List κ) :
    serveAll serve object (first ++ second) =
      ⟨(serveAll serve object first).answers ++
          (serveAll serve (serveAll serve object first).final second).answers,
        (serveAll serve (serveAll serve object first).final second).final⟩ := by
  induction first generalizing object with
  | nil => rfl
  | cons call rest ih => simp only [List.cons_append, serveAll, ih]

theorem object_of_refused {reason : ε} (refused : (attempt serve object call).1 = .error reason) :
    (attempt serve object call).2 = object := by
  cases served : serve object call with
  | ok found =>
    rw [attempt_of_ok served] at refused
    cases refused
  | error reason => rw [attempt_of_error served]

/-- A call that is refused changes nothing. -/
theorem final_take_succ_of_refused {calls : List κ} {i : Nat} {reason : ε}
    (refused : (serveAll serve object calls).answers[i]? = some (.error reason)) :
    (serveAll serve object (calls.take (i + 1))).final =
      (serveAll serve object (calls.take i)).final := by
  -- along the calls and the place together; the object at the start of the rest is another one
  induction calls generalizing object i with
  | nil => cases refused
  | cons call rest ih =>
    cases i with
    | zero => exact object_of_refused (Option.some.inj refused)
    | succ i => exact ih refused

/-- A call that is refused in the end changes nothing. -/
theorem serveAll_concat_of_error {calls : List κ} {answers : List (Except ε ω)} {reason : ε}
    (before : serveAll serve object calls = ⟨answers, next⟩)
    (refused : serve next call = .error reason) :
    serveAll serve object (calls ++ [call]) = ⟨answers ++ [.error reason], next⟩ := by
  simp only [serveAll_append, before, serveAll, attempt_of_error refused]

/-- Related objects serve every call alike: both refuse it for the same reason, or both give the
same answer and are related afterwards. -/
def Simulates (related : σ → τ → Prop) (serve : σ → κ → Except ε (ω × σ))
    (serve' : τ → κ → Except ε (ω × τ)) : Prop :=
  ∀ object object', related object object' → ∀ call,
    Alike (fun found found' => found.1 = found'.1 ∧ related found.2 found'.2)
      (serve object call) (serve' object' call)

namespace Simulates

variable {related : σ → τ → Prop} {object' : τ}

theorem once (simulates : Simulates related serve serve') (start : related object object')
    (call : κ) :
    (attempt serve object call).1 = (attempt serve' object' call).1 ∧
      related (attempt serve object call).2 (attempt serve' object' call).2 := by
  have alike := simulates object object' start call
  revert alike
  generalize found : serve object call = result
  generalize found' : serve' object' call = result'
  intro alike
  cases alike with
  | ok same =>
    rw [attempt_of_ok found, attempt_of_ok found']
    exact ⟨congrArg Except.ok same.1, same.2⟩
  | error reason =>
    rw [attempt_of_error found, attempt_of_error found']
    exact ⟨rfl, start⟩

/-- **Simulation.** Related objects serve every list of calls alike, the refused ones included, and
are related in the end. -/
theorem always (simulates : Simulates related serve serve') (start : related object object')
    (calls : List κ) :
    (serveAll serve object calls).answers = (serveAll serve' object' calls).answers ∧
      related (serveAll serve object calls).final (serveAll serve' object' calls).final := by
  -- the relation is what carries the induction: it holds again before the rest of the calls
  induction calls generalizing object object' with
  | nil => exact ⟨rfl, start⟩
  | cons call rest ih =>
    obtain ⟨first, goesOn⟩ := simulates.once start call
    obtain ⟨others, related⟩ := ih goesOn
    refine ⟨?_, related⟩
    simp only [serveAll, first, others]

/-- What comes of calls, with the answers that both objects give. -/
theorem exists_serveAll (simulates : Simulates related serve serve')
    (start : related object object') (calls : List κ) :
    ∃ answers final final', serveAll serve object calls = ⟨answers, final⟩ ∧
      serveAll serve' object' calls = ⟨answers, final'⟩ ∧ related final final' := by
  obtain ⟨same, ends⟩ := simulates.always start calls
  refine ⟨_, _, _, rfl, ?_, ends⟩
  rw [same]

end Simulates

end ChipEight
