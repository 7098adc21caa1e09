/-! # Where output goes

A sink is asked to take a line, or to see to it that what it has taken arrives. How it answers is up
to the sink, and may depend on all that it was asked before: it may fail and do better later, and a
call may never return. Of a line that it does not take as a whole, it keeps the first bytes. -/

namespace ClassVM

namespace Sink

/-- Why a sink did not do what it was asked to. -/
structure Fault where
  message : String
  deriving DecidableEq

/-- What a sink is asked to do. -/
inductive Call where
  | write (bytes : List UInt8)
  | flush
  deriving DecidableEq

/-- The bytes that a call hands over. -/
def Call.bytes : Call → List UInt8
  | .write bytes => bytes
  | .flush => []

/-- How a call ends. -/
inductive Reply where
  /-- All bytes were taken. -/
  | done
  /-- Only so many of the bytes were taken, the first of them. -/
  | failed (taken : Nat) (cause : Fault)
  deriving DecidableEq

/-- What a sink was asked so far, the latest call first, and the bytes that it has taken. -/
structure Past where
  calls : List Call
  written : Array UInt8
  deriving DecidableEq

end Sink

/-- What a sink has been asked and has taken, and how it answers after any past. There is no answer
to a call that never returns. -/
structure Sink extends Sink.Past where
  answer : Sink.Past → Sink.Call → Option Sink.Reply

namespace Sink

/-- The sink after a call of which it took some bytes. -/
def after (sink : Sink) (call : Call) (taken : List UInt8) : Sink :=
  { sink with calls := call :: sink.calls, written := sink.written ++ taken }

/-- Asks a sink to do something: whether it did, and the sink afterwards. -/
def ask (sink : Sink) (call : Call) : Option (Except Fault Unit × Sink) :=
  match sink.answer sink.toPast call with
  | none => none
  | some .done => some (.ok (), sink.after call call.bytes)
  | some (.failed taken cause) => some (.error cause, sink.after call (call.bytes.take taken))

/-! ## Sinks with a limit -/

/-- The fault of a sink that can take no more bytes. -/
def Fault.full : Fault := ⟨"sink full"⟩

/-- The fault of a sink that cannot be flushed. -/
def Fault.flushFailed : Fault := ⟨"flush failed"⟩

/-- The number of bytes that can still be taken within a limit. -/
def Past.room (past : Past) (limit : Nat) : Nat := limit - past.written.size

/-- The answers of a sink that may have a limit on the number of its bytes: bytes up to the limit
are taken, and the first byte beyond it is a fault. Flushing may be set to fail. -/
def answerWithin (limit : Option Nat) (flushFails : Bool) (past : Past) : Call → Option Reply
  | .write bytes =>
      match limit with
      | none => some .done
      | some limit =>
          if bytes.length ≤ past.room limit then some .done
          else some (.failed (past.room limit) .full)
  | .flush => if flushFails then some (.failed 0 .flushFailed) else some .done

/-- A sink without bytes that may have a limit, and may fail to be flushed. -/
def limited (limit : Option Nat) (flushFails : Bool) : Sink where
  calls := []
  written := #[]
  answer := answerWithin limit flushFails

/-- A sink without bytes that takes everything. -/
def unlimited : Sink := limited none false

end Sink

end ClassVM
