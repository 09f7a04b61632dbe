import ManagementUnit.Notice

/-!
# Dialogues with the driver

What a client does is a `Dialogue`: it takes an action, such as opening a file or reading from an
open one, and goes on as the reply says, until it has a result. Nothing is assumed about the replies
but their form. In particular a read delivers at most as many bytes as were asked for, which is part
of the type of its reply.

An `Attempt` is a dialogue that may end in an error instead of a result.
-/

namespace ManagementUnit

/-- One open file of the driver. The serial number is the driver's own and tells two openings of one
file apart. -/
structure Handle where
  node : Node
  serial : Nat
deriving DecidableEq, Repr

/-- A handle for people; its serial number is not shown. -/
def Handle.inspect (handle : Handle) : String :=
  "Handle \x7b node: " ++ handle.node.tag ++ ", .. \x7d"

/-- One thing a client does: it opens a file, repositions an open file at its start, reads at most
`limit` bytes, writes bytes, closes an open file, or logs a notice. -/
inductive Action where
  | acquire (node : Node) (access : Access)
  | rewind (handle : Handle)
  | read (handle : Handle) (limit : Nat)
  | write (handle : Handle) (bytes : Bytes)
  | close (handle : Handle)
  | note (notice : Notice)
deriving DecidableEq, Repr

/-- What an action is answered with: the serial number of an opened file, the bytes that a read
delivers, the number of bytes that a write reports, or an error of the operating system. Closing a
file and logging always succeed. -/
@[reducible] def Action.Reply : Action → Type
  | .acquire .. => Except IoError Nat
  | .rewind _ => Except IoError Unit
  | .read _ limit => Except IoError { bytes : Bytes // bytes.length ≤ limit }
  | .write .. => Except IoError Nat
  | .close _ => Unit
  | .note _ => Unit

/-- A client's side of a conversation with the driver: the conversation is over, or the client acts
and goes on by the reply. -/
inductive Dialogue (α : Type) where
  | done (value : α)
  | act (action : Action) (next : action.Reply → Dialogue α)

namespace Dialogue

variable {α β γ : Type}

/-- One dialogue after another. -/
protected def bind : Dialogue α → (α → Dialogue β) → Dialogue β
  | done value, f => f value
  | act action next, f => act action fun reply => (next reply).bind f

instance : Monad Dialogue where
  pure := done
  bind := Dialogue.bind

@[simp] theorem pure_eq_done (value : α) : (pure value : Dialogue α) = done value := rfl

@[simp] theorem done_bind (value : α) (f : α → Dialogue β) : done value >>= f = f value := rfl

@[simp] theorem act_bind (action : Action) (next : action.Reply → Dialogue α)
    (f : α → Dialogue β) : act action next >>= f = act action fun reply => next reply >>= f := rfl

theorem bind_done (dialogue : Dialogue α) : dialogue >>= done = dialogue := by
  induction dialogue with
  | done value => rfl
  | act action next ih => exact congrArg (act action) (funext ih)

theorem bind_assoc (dialogue : Dialogue α) (f : α → Dialogue β) (g : β → Dialogue γ) :
    dialogue >>= f >>= g = dialogue >>= fun value => f value >>= g := by
  induction dialogue with
  | done value => rfl
  | act action next ih => exact congrArg (act action) (funext ih)

instance : LawfulMonad Dialogue :=
  LawfulMonad.mk' _ bind_done (fun _ _ => rfl) bind_assoc

/-- A single action and its reply. -/
def ask (action : Action) : Dialogue action.Reply :=
  act action done

/-- Opens a file. -/
def acquire (node : Node) (access : Access) : Dialogue (Except IoError Handle) :=
  return (← ask (.acquire node access)).map (Handle.mk node)

/-- Closes an open file. -/
def close (handle : Handle) : Dialogue Unit :=
  ask (.close handle)

/-- Closes open files, in order. -/
def closeAll : List Handle → Dialogue Unit
  | [] => pure ()
  | handle :: handles => do
    close handle
    closeAll handles

/-- Logs a notice. -/
def note (notice : Notice) : Dialogue Unit :=
  ask (.note notice)

end Dialogue

/-- A dialogue that may end in an error. -/
abbrev Attempt : Type → Type :=
  ExceptT Error Dialogue

/-- Ends an attempt: the reason is logged and the error is the result. -/
def Attempt.fail {α : Type} (notice : Notice) (error : Error) : Attempt α := do
  Dialogue.note notice
  throw error

end ManagementUnit
