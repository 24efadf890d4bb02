import Mathlib.Data.List.Forall2
import MarketBridge.Session.Step

/-!
# `Journal.Trace` — what a journal says about native code

Log lines tell a reader what happened; the native calls are what did happen. `trace` keeps only
the calls, in order and with the site where each one ran. Whatever is read off a journal by
`callsAt`, the counters among it, depends on the trace alone (`callsAt_eq_of_trace`,
`Counters.ofEvents_eq_of_trace`).
-/

namespace MarketBridge

/-- Whether the event is a native call. -/
def Event.isNative : Event → Bool
  | .log _ => false
  | .native _ _ => true

/-- What is left of `events` without the log lines. -/
def trace (events : List Event) : List Event :=
  events.filter Event.isNative

@[simp] theorem trace_nil : trace [] = [] := rfl

@[simp] theorem trace_append (xs ys : List Event) : trace (xs ++ ys) = trace xs ++ trace ys :=
  List.filter_append ..

@[simp] theorem trace_cons_log (n : Notice) (events : List Event) :
    trace (.log n :: events) = trace events := rfl

@[simp] theorem trace_cons_native (site : Site) (c : NativeCall) (events : List Event) :
    trace (.native site c :: events) = .native site c :: trace events := rfl

@[simp] theorem trace_map_log {α : Type} (f : α → Notice) (xs : List α) :
    trace (xs.map fun x => .log (f x)) = [] := by
  induction xs with
  | nil => rfl
  | cons x rest ih => rw [List.map_cons, trace_cons_log, ih]

theorem trace_flatMap {α β : Type} {f : α → List Event} {g : β → List Event} {xs : List α}
    {ys : List β} (h : List.Forall₂ (fun x y => trace (f x) = trace (g y)) xs ys) :
    trace (xs.flatMap f) = trace (ys.flatMap g) := by
  induction h with
  | nil => rfl
  | cons hxy _ ih => rw [List.flatMap_cons, List.flatMap_cons, trace_append, trace_append, hxy, ih]

/-- The calls at a site survive the removal of the log lines. -/
theorem callsAt_trace (site : Site) (events : List Event) :
    callsAt site (trace events) = callsAt site events := by
  induction events with
  | nil => rfl
  | cons event rest ih =>
    cases event with
    | log n => rw [trace_cons_log, ih]; rfl
    | native s c =>
      rw [trace_cons_native]
      unfold callsAt at ih ⊢
      rw [List.filterMap_cons, List.filterMap_cons, ih]

theorem callsAt_eq_of_trace {xs ys : List Event} (h : trace xs = trace ys) (site : Site) :
    callsAt site xs = callsAt site ys := by
  rw [← callsAt_trace, h, callsAt_trace]

theorem Counters.ofEvents_eq_of_trace {xs ys : List Event} (h : trace xs = trace ys) :
    ofEvents xs = ofEvents ys := by
  unfold ofEvents
  rw [callsAt_eq_of_trace h]

end MarketBridge
