import Enquiry.Host.Call

/-!
# Programs

A program with a state of type `σ` that can break off for a reason of type `ε`. It is given what
comes after it in both cases, and becomes a task.
-/

namespace Enquiry.Host

/-- A program that gives an `α`. -/
def Program (ε σ α : Type) : Type := σ → (α → σ → Task) → (ε → σ → Task) → Task

namespace Program

variable {ε σ α β : Type}

@[inline] protected def pure (a : α) : Program ε σ α := fun s next _ => next a s

@[inline] protected def bind (x : Program ε σ α) (f : α → Program ε σ β) : Program ε σ β :=
  fun s next stop => x s (fun a s => f a s next stop) stop

instance : Monad (Program ε σ) where
  pure := Program.pure
  bind := Program.bind

instance : MonadStateOf σ (Program ε σ) where
  get := fun s next _ => next s s
  set s := fun _ next _ => next () s
  modifyGet f := fun s next _ =>
    match f s with
    | (a, s) => next a s

instance : MonadExceptOf ε (Program ε σ) where
  throw e := fun s _ stop => stop e s
  tryCatch x handle := fun s next stop => x s next fun e s => handle e s next stop

instance : Inhabited (Program ε σ α) := ⟨fun _ _ _ => .exit 0⟩

/-- Asks something of the machine. -/
@[inline] def call (c : Call) : Program ε σ c.Reply := fun s next _ => .call c fun reply => next reply s

/-- Starts a child that goes on from the present state; the parent gets its number. -/
@[inline] def fork (child : σ → Task) : Program ε σ Nat := fun s next _ =>
  .fork (child s) fun number => next number s

/-- Ends the process. -/
def exit (status : Nat) : Program ε σ α := fun _ _ _ => .exit status

/-- What breaks off is a value. -/
def attempt (x : Program ε σ α) : Program ε σ (Except ε α) := fun s next _ =>
  x s (fun a s => next (.ok a) s) fun e s => next (.error e) s

/-- Goes on in another way when something breaks off. -/
@[inline] def recover {δ : Type} (x : Program ε σ α) (handle : ε → Program δ σ α) : Program δ σ α :=
  fun s next stop => x s next fun e s => handle e s next stop

end Program

end Enquiry.Host
