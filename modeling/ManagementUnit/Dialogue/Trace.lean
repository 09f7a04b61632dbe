import ManagementUnit.Dialogue.Basic

/-!
# Traces of dialogues

A trace is the list of the actions that were taken, each with its reply. `Dialogue.Produces` relates
a dialogue to every trace that some behaviour of the driver leads it through, together with the
result it then has; so what holds of all traces of a dialogue holds whatever the driver does.
-/

namespace ManagementUnit

/-- An action that was taken and the reply it got. -/
structure Event where
  action : Action
  reply : action.Reply

/-- Events in the order in which they happened. -/
abbrev Trace := List Event

/-- The trace is one that the dialogue can run through, and the value is its result then. -/
inductive Dialogue.Produces {α : Type} : Dialogue α → Trace → α → Prop where
  | done (value : α) : Produces (.done value) [] value
  | act {action : Action} {next : action.Reply → Dialogue α} {reply : action.Reply}
      {trace : Trace} {value : α} :
      Produces (next reply) trace value →
        Produces (.act action next) (⟨action, reply⟩ :: trace) value

namespace Event

/-- The notice that an event logs. -/
def notice? : Event → Option Notice
  | ⟨.note notice, _⟩ => some notice
  | _ => none

/-- One line for a call on the driver: the call, the file, and how it went. A call that moves bytes
shows their number, any other only its failure. A notice is no call. -/
def line? : Event → Option String
  | ⟨.acquire node access, reply⟩ =>
    some ("open " ++ node.fileName ++ " " ++ mode access ++ failure reply)
  | ⟨.rewind handle, reply⟩ => some ("rewind " ++ handle.node.fileName ++ failure reply)
  | ⟨.read handle limit, reply⟩ =>
    some ("read " ++ handle.node.fileName ++ " " ++ Nat.repr limit
      ++ outcome (reply.map fun bytes => bytes.val.length))
  | ⟨.write handle bytes, reply⟩ =>
    some ("write " ++ handle.node.fileName ++ " " ++ Hex.run bytes ++ outcome reply)
  | ⟨.close handle, _⟩ => some ("close " ++ handle.node.fileName)
  | ⟨.note _, _⟩ => none
where
  mode : Access → String
    | .readOnly => "ro"
    | .readWrite => "rw"
  failure {α : Type} : Except IoError α → String
    | .ok _ => ""
    | .error _ => " -> fail"
  outcome : Except IoError Nat → String
    | .ok count => " -> " ++ Nat.repr count
    | .error _ => " -> fail"

end Event

namespace Trace

/-- The notices of a trace. -/
def notices (trace : Trace) : List Notice :=
  trace.filterMap Event.notice?

/-- The calls of a trace, one line each. -/
def lines (trace : Trace) : List String :=
  trace.filterMap Event.line?

/-- The handles that are open after a trace, given those open before it: an opening adds a handle,
and a closing takes it away once. -/
def openAfter (handles : List Handle) : Trace → List Handle
  | [] => handles
  | ⟨.acquire node _, .ok serial⟩ :: trace => openAfter (handles ++ [⟨node, serial⟩]) trace
  | ⟨.close handle, _⟩ :: trace => openAfter (handles.erase handle) trace
  | _ :: trace => openAfter handles trace

end Trace

end ManagementUnit
