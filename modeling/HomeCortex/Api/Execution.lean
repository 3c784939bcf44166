/-
# One answer stream

`api/execution.py`.  An answer is an asynchronous generator of text chunks.  An
`AnswerExecution` hands the non-empty chunks on and, however the consumption ends,
closes the source and gives the concatenation of the chunks it took to the persist
callback.  The flag `_started` guards against a second `tokens()` of one execution;
the route makes one of each, so the model has no such flag.
-/

import HomeCortex.Common.Json
import HomeCortex.Library.Generators

namespace HomeCortex
namespace Api

/-- The exceptions that end an answer stream: the agent's own, and all others. -/
inductive AnswerError where
  | agentLimit (message : String)
  | agentStreaming (message : String)
  | other (exception_type : String)
deriving DecidableEq, Repr

/-- What is awaited while an answer is served: the next chunk of the model's stream,
and the persist callback with the assembled answer. -/
inductive AnswerWait where
  | chunk
  | persist (answer : String)
deriving DecidableEq, Repr

/-- `AsyncIterator[str]`; one without `aclose` is one whose closing does nothing. -/
abbrev AnswerStream := Generator AnswerWait AnswerError String

/-- `AnswerExecution`. -/
structure AnswerExecution where
  source : AnswerStream
  persist : Option (String → AnswerWait)

/-- `suppress(asyncio.CancelledError, Exception)`. -/
def cancelledOrException (error : Thrown AnswerError) : Bool :=
  error.isException || error = .cancelled

/-- The body of the `async for`. -/
def takeChunk (chunk : String) : Frame AnswerWait AnswerError String (List String) Unit := do
  if chunk ≠ "" then
    modify fun collected => collected ++ [chunk]
    Frame.emit chunk

/-- The `finally` block: close the source, then persist what was collected. -/
def AnswerExecution.finish (execution : AnswerExecution) (suppress_persist_errors : Bool) :
    Frame AnswerWait AnswerError String (AnswerStream × List String) Unit := do
  Frame.suppress cancelledOrException Frame.aclose
  let (_, collected) ← get
  let answer := String.join collected
  if answer ≠ "" then
    match execution.persist with
    | none => pure ()
    | some persist =>
        if suppress_persist_errors then
          Frame.suppress Thrown.isException (Frame.call (persist answer))
        else Frame.call (persist answer)

/-- `AnswerExecution.tokens`; its variables are the source and `collected`. -/
def AnswerExecution.tokens (execution : AnswerExecution) (suppress_persist_errors : Bool) :
    Frame AnswerWait AnswerError String (AnswerStream × List String) Unit :=
  Frame.ensure (Frame.forEach takeChunk) (execution.finish suppress_persist_errors)

/-- The generator object `execution.tokens(…)`. -/
def AnswerExecution.tokenStream (execution : AnswerExecution) (suppress_persist_errors : Bool) :
    AnswerStream :=
  (execution.tokens suppress_persist_errors).generator (execution.source, [])

/-! ### Sources -/

/-- An answer stream as a sequence: before each chunk and before the end it awaits the
model; it ends normally or by an exception.  `onExit` is what its own cleanup does when
it is closed at a chunk. -/
def answerSource (ending onExit : Except (Thrown AnswerError) Unit) :
    List String → Coroutine AnswerWait AnswerError String (Except (Thrown AnswerError) Unit)
  | [] => .await .chunk fun
      | .ok () => .ret ending
      | .error error => .ret (.error error)
  | chunk :: chunks => .await .chunk fun
      | .ok () => .yield chunk fun
          | .ok () => answerSource ending onExit chunks
          | .error _ => .ret onExit
      | .error error => .ret (.error error)

end Api
end HomeCortex
