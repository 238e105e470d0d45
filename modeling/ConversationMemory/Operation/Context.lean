/-!
# The scope of an operation

* `OperationContext`: a deadline and a token with which an operation can be stopped.
* `OperationContext.withDeadline`, `OperationContext.withTimeout`,
  `OperationContext.withCancellation`: narrow the scope; the earliest deadline counts.
* `OperationContext.orTimeout`: the scope under a general timeout, which yields to any deadline.
* `OperationContext.interruptAt`: what an operation finds when it looks at its scope.
* `OperationContext.stopsAt`: the first time at which it finds something.

Times are milliseconds from some common start.
-/

namespace ConversationMemory

/-- What stops an operation. -/
inductive Interrupt
  | cancelled
  | deadlineExceeded
  deriving DecidableEq, Repr

/-- The interrupt in words. -/
def Interrupt.message : Interrupt → String
  | cancelled => "context cancelled"
  | deadlineExceeded => "context deadline exceeded"

/-- A token by which someone else can stop an operation: the time at which it fires, if it ever
does. -/
structure CancellationToken where
  firesAt : Option Nat
  deriving DecidableEq, Repr

/-- The scope of one operation; without anything it is never stopped. -/
structure OperationContext where
  deadline : Option Nat := none
  token : Option CancellationToken := none
  deriving DecidableEq, Repr

namespace OperationContext

/-- The scope with a deadline, unless it has an earlier one. -/
def withDeadline (context : OperationContext) (deadline : Nat) : OperationContext :=
  { context with deadline := some (context.deadline.elim deadline (min · deadline)) }

/-- The scope that ends some time from now. -/
def withTimeout (context : OperationContext) (now timeout : Nat) : OperationContext :=
  context.withDeadline (now + timeout)

/-- The scope with another token. -/
def withCancellation (context : OperationContext) (token : CancellationToken) : OperationContext :=
  { context with token := some token }

/-- The scope under a timeout from now, when it has no deadline. -/
def orTimeout (context : OperationContext) (now : Nat) (timeout : Option Nat) : OperationContext :=
  match context.deadline, timeout with
  | none, some timeout => context.withTimeout now timeout
  | _, _ => context

/-- When the token fires. -/
def firesAt (context : OperationContext) : Option Nat :=
  context.token.bind CancellationToken.firesAt

/-- What the operation finds when it looks at its scope at a time: a token that has fired hides a
deadline that has passed. -/
def interruptAt (context : OperationContext) (time : Nat) : Option Interrupt :=
  if context.firesAt.any (· ≤ time) then some .cancelled
  else if context.deadline.any (· ≤ time) then some .deadlineExceeded
  else none

/-- When the operation is stopped at the latest, if at all. -/
def stopsAt (context : OperationContext) : Option Nat :=
  match context.firesAt, context.deadline with
  | some fired, some deadline => some (min fired deadline)
  | some fired, none => some fired
  | none, deadline => deadline

end OperationContext

end ConversationMemory
