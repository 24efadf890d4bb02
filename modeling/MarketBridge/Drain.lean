import MarketBridge.Journal

/-!
# `Drain` — emptying the signal queue

A drain asks how many signals are queued, polls once into that many slots, and trusts the smaller of
the queue length and the count that the engine reports. Every one of those slots is accounted for:
it is decoded and handed over, or its tag is among the refused ones. Nothing beyond them is read.
-/

namespace MarketBridge

/-- Decodes one signal. An unknown tag is an error under the strict policy; under the lenient one
it becomes a hold and leaves a warning. -/
def RawSignal.decode {σ : Type} (policy : DecodePolicy) (raw : RawSignal) :
    Op σ (Except Error Signal) :=
  match Action.ofTag? raw.tag, policy with
  | some action, _ => return .ok ⟨raw.strategy, action, raw.timestamp⟩
  | none, .lenient => do
    Op.log (.unknownTag raw)
    return .ok ⟨raw.strategy, .hold, raw.timestamp⟩
  | none, .strict => return .error (.decoding "signal action" raw.tag.toUInt64)

/-- What a drain took out of the queue: the decoded signals, the tags that were refused, both in
order, and how many signals there were in all. -/
structure Batch where
  accepted : List Signal
  refused : List UInt8
  copied : UInt64
  deriving DecidableEq

namespace Batch

/-- Nothing drained. -/
def empty : Batch := ⟨[], [], 0⟩

/-- Decodes signals one after another into the accepted ones and the refused tags. -/
def decodeAll {σ : Type} (policy : DecodePolicy) :
    List RawSignal → Op σ (List Signal × List UInt8)
  | [] => return ([], [])
  | raw :: rest => do
    match ← raw.decode policy with
    | .ok signal =>
      (fun (accepted, refused) => (signal :: accepted, refused)) <$> decodeAll policy rest
    | .error _ =>
      (fun (accepted, refused) => (accepted, raw.tag :: refused)) <$> decodeAll policy rest

/-- The contents of a buffer of `slots` blank slots after the engine has written to it. -/
def buffer (slots : UInt64) (written : List RawSignal) : List RawSignal :=
  (written ++ List.replicate slots.toNat RawSignal.blank).take slots.toNat

/-- Warns if the engine reports another count than the length that it gave for its queue. -/
def logMismatch {σ : Type} (queued copied : UInt64) : Op σ Unit :=
  if queued < copied then Op.log (.overReported queued copied)
  else if copied < queued then Op.log (.underReported queued copied)
  else return ()

/-- Drains a queue that holds `queued` signals, by its answer to the poll. -/
def ofPoll {σ : Type} (policy : DecodePolicy) (queued : UInt64) (poll : Poll) : Op σ Batch := do
  logMismatch queued poll.count
  let copied := min poll.count queued
  let (accepted, refused) ← decodeAll policy ((buffer queued poll.written).take copied.toNat)
  Op.log (.drained copied)
  return ⟨accepted, refused, copied⟩

/-- Drains the queue behind `call`. An empty queue is not polled, and an error of the engine is
passed on. -/
def drain {σ : Type} (call : (c : EngineCall) → Op σ (Except Error c.Answer))
    (policy : DecodePolicy) : Op σ (Except Error Batch) := do
  match ← call .signalsLen with
  | .error e => return .error e
  | .ok queued =>
    if queued = 0 then return .ok empty
    else
      match ← call (.pollSignals queued) with
      | .error e => return .error e
      | .ok poll => return .ok (← ofPoll policy queued poll)

/-- The answer of a drain into the caller's buffer: the count, or the first refused tag. -/
def count (b : Batch) : Except Error UInt64 :=
  match b.refused with
  | [] => .ok b.copied
  | first :: _ => .error (.decoding "signal action" first.toUInt64)

/-- The answer of a drain that hands the signals over: all of them, or those that were decoded
together with the number of refused tags and the first one. -/
def signals (b : Batch) : Except Error (List Signal) :=
  match b.refused with
  | [] => .ok b.accepted
  | first :: _ => .error (.undecodedSignals b.accepted b.refused.length first)

end Batch

end MarketBridge
