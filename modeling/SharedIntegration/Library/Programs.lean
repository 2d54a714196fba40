/-!
# Programs over a shared store

A program makes one call after another on a store that others use too, and goes on with the answer
of each. It is data, so that its calls can be interleaved with those of others, and so that what it
calls is a property of its text: under a promise about the answers, which calls it makes and which
results it ends with.
-/

/-- A program: it has ended with a result, or it makes a call and goes on with the answer. -/
inductive Program (Call : Type) (Answer : Call → Type) (Result : Type)
  | done (result : Result)
  | call (call : Call) (next : Answer call → Program Call Answer Result)

namespace Program

variable {Call : Type} {Answer : Call → Type} {Result Store : Type}

/-- As long as its calls are answered as promised, the program makes allowed calls only, and ends with accepted
results. -/
def Uses (allowed : Call → Prop) (promised : (c : Call) → Answer c → Prop) (accepted : Result → Prop) :
    Program Call Answer Result → Prop
  | done result => accepted result
  | call c next => allowed c ∧ ∀ answer, promised c answer → (next answer).Uses allowed promised accepted

/-- The next call of a program, on a store that answers it. -/
def step (serve : Store → (c : Call) → Store × Answer c) (store : Store) :
    Program Call Answer Result → Option (Store × Program Call Answer Result)
  | done _ => none
  | call c next =>
    let (store', answer) := serve store c
    some (store', next answer)

variable {allowed allowed' : Call → Prop} {promised promised' : (c : Call) → Answer c → Prop}
  {accepted accepted' : Result → Prop} {serve serve' : Store → (c : Call) → Store × Answer c}
  {store store' : Store} {program program' : Program Call Answer Result}

/-- A program that uses less, or is promised more, does no more. -/
theorem Uses.mono (h : program.Uses allowed promised accepted) (hcall : ∀ c, allowed c → allowed' c)
    (hpromise : ∀ c answer, promised' c answer → promised c answer)
    (hresult : ∀ result, accepted result → accepted' result) : program.Uses allowed' promised' accepted' := by
  induction program with
  | done result => exact hresult result h
  | call c next ih => exact ⟨hcall c h.1, fun answer hanswer => ih answer (h.2 answer (hpromise c answer hanswer))⟩

/-- A step makes an allowed call; the program behind it is as good, if the answer was as promised. -/
theorem Uses.step (h : program.Uses allowed promised accepted)
    (hstep : program.step serve store = some (store', program')) :
    ∃ c, allowed c ∧ store' = (serve store c).1 ∧
      (promised c (serve store c).2 → program'.Uses allowed promised accepted) := by
  cases program with
  | done result => cases hstep
  | call c next =>
    cases hstep
    exact ⟨c, h.1, rfl, h.2 _⟩

/-- On a store that answers its calls alike, a program makes the same call and goes on alike. -/
theorem Uses.step_alike {other : Store} (h : program.Uses allowed promised accepted)
    (halike : ∀ c, allowed c → (serve store c).2 = (serve' other c).2)
    (hstep : program.step serve store = some (store', program')) :
    ∃ c, allowed c ∧ store' = (serve store c).1 ∧ program.step serve' other = some ((serve' other c).1, program') := by
  cases program with
  | done result => cases hstep
  | call c next =>
    cases hstep
    refine ⟨c, h.1, rfl, ?_⟩
    rw [Program.step, halike c h.1]

end Program
