import ClassVM.ClassFile.ReadError
import ClassVM.ClassFile.ReadEvent
import ClassVM.Log.Traced

/-! # Steps of reading

A reader takes a cursor to a value and the cursor after it, or stops with an error, and lists the
events on the way. Readers are put together in sequence, and a counted list is one reader repeated. -/

namespace ClassVM.ClassFile

/-- A step of the reader: from a cursor to a value and the cursor after it. -/
def Reader (α : Type) := Cursor → Log.Traced ReadEvent ReadError (α × Cursor)

namespace Reader

variable {α β : Type}

instance : Monad Reader where
  map f reader := fun cursor => (fun (a, after) => (f a, after)) <$> reader cursor
  pure a := fun cursor => pure (a, cursor)
  bind reader next := fun cursor => do
    let (a, after) ← reader cursor
    next a after

/-- Stops with an error. -/
def fail (e : ReadError) : Reader α := fun _ => .fail e

/-- Reports an event. -/
def emit (event : ReadEvent) : Reader Unit := fun cursor => do
  .emit event
  pure ((), cursor)

/-- A read of the cursor. -/
def read (f : Cursor → Cursor.Result α) : Reader α := fun cursor =>
  match f cursor with
  | (.ok a, after) => pure (a, after)
  | (.error e, _) => .fail (.endOfInput e)

/-- A lookup in the pool. -/
def lookup (result : Except Pool.LookupError α) : Reader α :=
  match result with
  | .ok a => pure a
  | .error e => fail (.lookup e)

/-- The same step `count` times. -/
def times (reader : Reader α) : (count : Nat) → Reader (List α)
  | 0 => pure []
  | count + 1 => do
      let first ← reader
      (first :: ·) <$> times reader count

end Reader

end ClassVM.ClassFile
