import Routing.Operation

/-!
# How operations run

* `Operation.start_bind`, `Operation.start_tryCatch`: an operation after another
* `Operation.thereafter`: what there is to say about the state after an operation
-/
theorem Except.eq_ok_of_toOption {ε α : Type} {x : Except ε α} {a : α} (h : x.toOption = some a) : x = .ok a := by
  cases x with
  | error e => cases h
  | ok b => exact congrArg Except.ok (Option.some.inj h)

namespace Routing.Operation

variable {σ τ α β : Type}

@[simp] theorem start_pure (a : α) (s : σ) : (pure a : Operation σ α).start s = some (.ok a, s) :=
  rfl

@[simp] theorem start_throw (e : RouterError) (s : σ) :
    (throw e : Operation σ α).start s = some (.error e, s) :=
  rfl

@[simp] theorem start_get (s : σ) : (get : Operation σ σ).start s = some (.ok s, s) :=
  rfl

@[simp] theorem start_modify (f : σ → σ) (s : σ) :
    (modify f : Operation σ Unit).start s = some (.ok (), f s) :=
  rfl

@[simp] theorem start_modifyGet (f : σ → α × σ) (s : σ) :
    (modifyGet f : Operation σ α).start s = some (.ok (f s).1, (f s).2) :=
  rfl

@[simp] theorem start_within (view : τ → σ) (put : σ → τ → τ) (x : Operation σ α) (t : τ) :
    (x.within view put).start t = (x.start (view t)).map fun o => (o.1, put o.2 t) :=
  rfl

@[simp] theorem start_ensuring (x : Operation σ α) (change : σ → σ) (s : σ) :
    (x.ensuring change).start s = (x.start s).map fun o => (o.1, change o.2) :=
  rfl

theorem start_bind (x : Operation σ α) (f : α → Operation σ β) (s : σ) :
    (x >>= f).start s = (x.start s).bind fun
      | (.ok a, t) => (f a).start t
      | (.error e, t) => some (.error e, t) := by
  change (x s).bind _ = (x s).bind _
  congr 1
  funext o
  obtain ⟨_ | _, t⟩ := o <;> rfl

theorem start_tryCatch (x : Operation σ α) (f : RouterError → Operation σ α) (s : σ) :
    (tryCatch x f : Operation σ α).start s = (x.start s).bind fun
      | (.ok a, t) => some (.ok a, t)
      | (.error e, t) => (f e).start t := by
  change (x s).bind _ = (x s).bind _
  congr 1
  funext o
  obtain ⟨_ | _, t⟩ := o <;> rfl

/-- What there is to say about the state after an operation; nothing if the operation has no value. -/
def thereafter {ε : Type} (x : Operation σ α) (f : α → σ → List ε) (s : σ) : List ε :=
  match x.start s with
  | some (.ok a, t) => f a t
  | _ => []

theorem flatMap_thereafter {ε ζ : Type} (x : Operation σ α) (f : α → σ → List ε) (g : ε → List ζ)
    (s : σ) : (x.thereafter f s).flatMap g = x.thereafter (fun a t => (f a t).flatMap g) s := by
  simp only [thereafter]
  split <;> simp

end Routing.Operation
