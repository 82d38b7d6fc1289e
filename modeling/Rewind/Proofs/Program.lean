import Rewind.Program

/-!
Rules for the calls of a program.

Rules say, from what was asked and answered so far, which calls may come next. What was asked and
answered is summed up in a standing, so that a program obeys rules from a standing on if every call
that it can come to is allowed there, whatever the answers are. The values that it can end with are
described together with the standing at its end.

Main statements: a program that obeys rules goes on to allowed calls only (`Obeys.next`), and
obedience is put together along the parts of a program (`Obeys.bind`, `Obeys.exceptBind`).
-/

namespace Rewind

/-- Which calls may be made, by what came before. -/
structure Rules (Standing : Type) where
  allows : Standing → Request → Prop
  /-- The standing behind a call and its answer. -/
  next : Standing → (request : Request) → Except ServiceError request.Response → Standing

namespace Program

variable {Standing α β : Type}

instance : LawfulMonad Program := by
  refine LawfulMonad.mk' Program ?_ (fun _ _ => rfl) ?_
  · intro α program
    induction program with
    | done value => rfl
    | call request resume ih => exact congrArg (call request) (funext ih)
    | pause resume ih => exact congrArg pause (funext ih)
    | read cursor enough resume ih =>
        exact congrArg (read cursor enough) (funext fun failure => funext (ih failure))
  · intro α β γ program f g
    induction program with
    | done value => rfl
    | call request resume ih => exact congrArg (call request) (funext ih)
    | pause resume ih => exact congrArg pause (funext ih)
    | read cursor enough resume ih =>
        exact congrArg (read cursor enough) (funext fun failure => funext (ih failure))

/-- A call that fails brings no value. -/
theorem mapError_ne_ok (error : ServiceError) (value : α) :
    Except.mapError ResetError.service (.error error) ≠ .ok value := by
  change Except.error (ResetError.service error) ≠ Except.ok value
  simp

/-- The request for a page of the run behind a cursor. -/
def pageRequest (cursor : HistoryCursor) (token : Option Token) : Request :=
  .history { cursor.request with token }

/-- A program keeps to rules from a standing on, and ends with values of a kind. Pages that arrive
while a history is read leave the standing as it is. -/
inductive Obeys (rules : Rules Standing) (ends : Standing → α → Prop) :
    Standing → Program α → Prop
  | done {standing : Standing} {value : α} :
      ends standing value → Obeys rules ends standing (.done value)
  | call {standing : Standing} {request : Request}
      {resume : Except ServiceError request.Response → Program α} :
      rules.allows standing request →
      (∀ answer, Obeys rules ends (rules.next standing request answer) (resume answer)) →
      Obeys rules ends standing (.call request resume)
  | pause {standing : Standing} {resume : Unit → Program α} :
      Obeys rules ends standing (resume ()) → Obeys rules ends standing (.pause resume)
  | read {standing : Standing} {cursor : HistoryCursor} {enough : List Event → Bool}
      {resume : Option ServiceError → HistoryCursor → Program α} :
      (∀ token, rules.allows standing (pageRequest cursor token)) →
      (∀ token page, rules.next standing (pageRequest cursor token) (.ok page) = standing) →
      (∀ cursor, Obeys rules ends standing (resume none cursor)) →
      (∀ token error cursor',
        Obeys rules ends (rules.next standing (pageRequest cursor token) (.error error))
          (resume (some error) cursor')) →
      Obeys rules ends standing (.read cursor enough resume)

namespace Obeys

variable {rules : Rules Standing} {standing : Standing}

/-- What may come next: an end of the right kind, an allowed call, or a pause. -/
theorem next {ends : Standing → α → Prop} {program : Program α}
    (h : Obeys rules ends standing program) :
    match program.next with
    | .done value => ends standing value
    | .ask request resume =>
        rules.allows standing request ∧
          ∀ answer, Obeys rules ends (rules.next standing request answer) (resume answer)
    | .pause resume => Obeys rules ends standing resume := by
  induction h with
  | done hvalue => exact hvalue
  | call hallowed hresume => exact ⟨hallowed, hresume⟩
  | pause hresume => exact hresume
  | @read standing cursor enough resume hallowed hpage hnone hsome ihnone =>
      simp only [Program.next]
      by_cases hsatisfied : isSatisfied cursor enough
      · simpa [hsatisfied] using ihnone cursor
      · simp only [hsatisfied, Bool.false_eq_true, ↓reduceIte]
        refine ⟨hallowed cursor.pages.token, ?_⟩
        intro answer
        cases answer with
        | error error => exact hsome cursor.pages.token error cursor
        | ok page =>
            have hstanding : rules.next standing (.history cursor.request) (.ok page) = standing :=
              hpage cursor.pages.token page
            simp only [hstanding]
            exact .read hallowed hpage hnone hsome

/-- What follows a program takes up the standing and the value that it ends with. -/
theorem bind {before : Standing → α → Prop} {ends : Standing → β → Prop} {program : Program α}
    {f : α → Program β} (h : Obeys rules before standing program)
    (hf : ∀ standing value, before standing value → Obeys rules ends standing (f value)) :
    Obeys rules ends standing (program.bind f) := by
  induction h with
  | done hvalue => exact hf _ _ hvalue
  | call hallowed _ ih => exact .call hallowed ih
  | pause _ ih => exact .pause ih
  | read hallowed hpage _ _ ihnone ihsome => exact .read hallowed hpage ihnone ihsome

/-- The same for programs that may fail. A failure is passed on. -/
theorem exceptBind {before : Standing → Except ResetError α → Prop}
    {ends : Standing → Except ResetError β → Prop} {procedure : Procedure α}
    {f : α → Procedure β} (h : Obeys rules before standing (ExceptT.run procedure))
    (hok : ∀ standing value, before standing (.ok value) → Obeys rules ends standing (ExceptT.run (f value)))
    (herror : ∀ standing error, before standing (.error error) → ends standing (.error error)) :
    Obeys rules ends standing (ExceptT.run (procedure >>= f)) := by
  apply h.bind
  intro standing result hresult
  cases result with
  | ok value => exact hok standing value hresult
  | error error => exact .done (herror standing error hresult)

/-- What holds of all ends may be weakened. -/
theorem mono {ends ends' : Standing → α → Prop} {program : Program α}
    (h : Obeys rules ends standing program)
    (hends : ∀ standing value, ends standing value → ends' standing value) :
    Obeys rules ends' standing program := by
  induction h with
  | done hvalue => exact .done (hends _ _ hvalue)
  | call hallowed _ ih => exact .call hallowed ih
  | pause _ ih => exact .pause ih
  | read hallowed hpage _ _ ihnone ihsome => exact .read hallowed hpage ihnone ihsome

end Obeys

end Program

end Rewind
