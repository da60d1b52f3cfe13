/-!
# Bounded writers

Where text goes: a writer that keeps what it is given, up to a limit if it has
one. The write that passes the limit keeps what still fits and fails, and so does
every later one that has something to write. Everything the bridge writes is
ASCII, so a character is a byte and the limit counts either.
-/

namespace InputBridge

/-- Why writing failed. -/
inductive WriteError where
  | full
  | flushFailed
  deriving DecidableEq, Repr

/-- The text of a write error. -/
def WriteError.message : WriteError → String
  | .full => "writer full"
  | .flushFailed => "flush failed"

/-- A writer with the text it kept. -/
structure Writer where
  text : String := ""
  /-- Number of characters it has room for in all, if that is limited. -/
  limit : Option Nat := none
  /-- Does every flush fail? -/
  refusesFlush : Bool := false
  /-- How often it was told to flush. -/
  flushes : Nat := 0

namespace Writer

/-- Writes `piece`, as far as it fits. -/
def write (writer : Writer) (piece : String) : Except WriteError Unit × Writer :=
  match writer.limit with
  | none => (.ok (), { writer with text := writer.text ++ piece })
  | some limit =>
    let room := limit - writer.text.length
    if piece.length ≤ room then (.ok (), { writer with text := writer.text ++ piece })
    else
      let kept := String.ofList (piece.toList.take room)
      (.error .full, { writer with text := writer.text ++ kept })

/-- Flushes the writer. -/
def flush (writer : Writer) : Except WriteError Unit × Writer :=
  (if writer.refusesFlush then .error .flushFailed else .ok (),
    { writer with flushes := writer.flushes + 1 })

end Writer

end InputBridge
