import MarketBridge.Handle

/-!
# `Handle` — a handle frees its allocation once and only once

While it is owned a handle can be asked for its pointer, asked whether it is released, and released,
in any order and any number of times; at the end it is dropped. What a call answers and what it
leaves in the journal depends on nothing but whether a release came before it (`perform_held`), and
so it does throughout a life (`performAll_held`). Over the whole life the destructor runs exactly
once and on the pointer that the handle was made from: at the first release, or when the handle is
dropped if there was none (`handles_free_once`).
-/

namespace MarketBridge.Handle

variable {σ : Type}

/-! ## Calls on a handle -/

/-- A call on a handle that has not been dropped. -/
inductive Call
  | pointer
  | isReleased
  | release
  deriving DecidableEq, Repr

/-- What a call answers. -/
inductive Reply (σ : Type)
  | pointer (answer : Except Error σ)
  | flag (answer : Bool)

/-- Carries out a call. -/
def perform : Call → Op (Handle σ) (Reply σ)
  | .pointer => return .pointer (← Op.get).pointer
  | .isReleased => return .flag (← Op.get).isReleased
  | .release => return .flag (← release)

/-- Carries out calls one after the other. -/
def performAll : List Call → Op (Handle σ) (List (Reply σ))
  | [] => return []
  | call :: rest => do
    let reply ← perform call
    let replies ← performAll rest
    return reply :: replies

/-- What a handle leaves in the journal when the calls are made on it and it is then dropped. -/
def lifetime (calls : List Call) (h : Handle σ) : List Event :=
  (performAll calls h).events ++ (performAll calls h).state.drop

/-- What a call on the handle of a pointer answers; `freed` tells whether a release came before. -/
def Call.reply (label : String) (pointer : σ) (freed : Bool) : Call → Reply σ
  | .pointer => .pointer (if freed then .error (.precondition label) else .ok pointer)
  | .isReleased => .flag freed
  | .release => .flag (!freed)

theorem length_performAll (calls : List Call) (h : Handle σ) :
    (performAll calls h).answer.length = calls.length := by
  induction calls generalizing h with
  | nil => rfl
  | cons call rest ih =>
    simp only [performAll, Op.bind_apply, Op.pure_apply, List.length_cons, ih]

/-! ## Before and after the first release -/

section Held

variable (free : σ → List Event) (label : String) (pointer : σ)

/-- The handle of a pointer, before or after the allocation has been freed. -/
def held (freed : Bool) : Handle σ :=
  ⟨label, free, if freed then none else some pointer⟩

/-- What freeing the allocation leaves in the journal. -/
def freeing : List Event :=
  free pointer ++ [.log (.handleReleased label)]

/-- A pointer that is not null is held from the beginning. -/
theorem acquire_some (capacity : UInt64) :
    acquire (some pointer) free label capacity () =
      ⟨.ok (held free label pointer false), (), [.log (.handleAcquired label)]⟩ := rfl

theorem drop_held (freed : Bool) :
    (held free label pointer freed).drop = if freed then [] else freeing free label pointer := by
  cases freed <;> rfl

/-- One call. Only a release that is the first one does anything. -/
theorem perform_held (call : Call) (freed : Bool) :
    perform call (held free label pointer freed) =
      ⟨call.reply label pointer freed, held free label pointer (freed || decide (call = .release)),
        if freed = false ∧ call = .release then freeing free label pointer else []⟩ := by
  cases call with
  | pointer => cases freed <;> rfl
  | isReleased => cases freed <;> rfl
  | release =>
    cases freed with
    | false => simp [perform, release, held, freeing, Call.reply]
    | true => rfl

/-- A release among several calls is the first of them or one of the others. -/
theorem released_cons (freed : Bool) (call : Call) (rest : List Call) :
    (freed || decide (Call.release ∈ call :: rest)) =
      (freed || decide (call = .release) || decide (.release ∈ rest)) := by
  simp [Bool.or_assoc, eq_comm]

/-- Any number of calls: the allocation is freed if one of them is a release, and only if it had not
been freed before. -/
theorem performAll_held (calls : List Call) (freed : Bool) :
    (performAll calls (held free label pointer freed)).state =
        held free label pointer (freed || decide (.release ∈ calls)) ∧
      (performAll calls (held free label pointer freed)).events =
        if freed = false ∧ .release ∈ calls then freeing free label pointer else [] := by
  induction calls generalizing freed with
  | nil => cases freed <;> exact ⟨rfl, rfl⟩
  | cons call rest ih =>
    obtain ⟨hstate, hevents⟩ := ih (freed || decide (call = .release))
    simp only [performAll, Op.bind_apply, Op.pure_apply, perform_held, hstate, hevents,
      List.append_nil]
    refine ⟨by rw [released_cons], ?_⟩
    -- the first release may be this call, or one of the others, or long past
    cases freed with
    | true => simp
    | false =>
      by_cases hrelease : call = .release
      · simp [hrelease]
      · simp [hrelease, Ne.symm hrelease]

/-- The answer of a call in the middle of others. -/
theorem reply_held (before after : List Call) (call : Call) (freed : Bool) :
    (performAll (before ++ call :: after) (held free label pointer freed)).answer[before.length]? =
      some (call.reply label pointer (freed || decide (.release ∈ before))) := by
  induction before generalizing freed with
  | nil => simp [performAll, perform_held]
  | cons first before ih =>
    simp only [List.cons_append, performAll, Op.bind_apply, Op.pure_apply, perform_held,
      List.length_cons, List.getElem?_cons_succ, ih, released_cons]

/-- Whatever the calls, freeing happens once between the first of them and the end of the drop. -/
theorem lifetime_held (calls : List Call) :
    lifetime calls (held free label pointer false) = freeing free label pointer := by
  obtain ⟨hstate, hevents⟩ := performAll_held free label pointer calls false
  unfold lifetime
  rw [hstate, hevents, drop_held]
  by_cases hrelease : .release ∈ calls
  · simp [hrelease]
  · simp [hrelease]

end Held

/-! ## The whole life -/

/-- Finds the runs of the destructor `free` in a journal, each with the pointer it was given. -/
structure Finds (runOf? : Event → Option σ) (free : σ → List Event) : Prop where
  run : ∀ pointer, (free pointer).filterMap runOf? = [pointer]
  log : ∀ notice, runOf? (.log notice) = none

/-- What is true of the handle `h` of `pointer`, whatever calls are made on it before it is
dropped. -/
structure FreesOnce (h : Handle σ) (free : σ → List Event) (label : String) (pointer : σ)
    (calls : List Call) : Prop where
  /-- There is one answer for each call, and it depends on whether a release came before. -/
  answers : (performAll calls h).answer.length = calls.length ∧
    ∀ before call after, calls = before ++ call :: after →
      (performAll calls h).answer[before.length]? =
        some (call.reply label pointer (decide (.release ∈ before)))
  /-- The calls free the allocation as soon as one of them is a release. -/
  called : ∀ before after, calls = before ++ after →
    (performAll before h).events =
      if .release ∈ before then freeing free label pointer else []
  /-- The drop frees the allocation if none was. -/
  dropped : (performAll calls h).state.drop =
    if .release ∈ calls then [] else freeing free label pointer
  /-- From the first call to the end of the drop the destructor runs once, on the pointer. -/
  once : lifetime calls h = freeing free label pointer ∧
    ∀ runOf?, Finds runOf? free → (lifetime calls h).filterMap runOf? = [pointer]

theorem freesOnce_held (free : σ → List Event) (label : String) (pointer : σ)
    (calls : List Call) :
    FreesOnce (held free label pointer false) free label pointer calls where
  answers := by
    refine ⟨length_performAll _ _, ?_⟩
    rintro before call after rfl
    rw [reply_held, Bool.false_or]
  called before _ _ := by
    rw [(performAll_held free label pointer before false).2]
    simp
  dropped := by
    rw [(performAll_held free label pointer calls false).1, drop_held]
    simp
  once := by
    refine ⟨lifetime_held free label pointer calls, ?_⟩
    rintro runOf? ⟨hrun, hlog⟩
    rw [lifetime_held, freeing, List.filterMap_append, hrun]
    simp [hlog]

/-- **A handle frees its allocation once and only once.** Null makes no handle and leaves nothing in
the journal. From any other pointer there is a handle that gives the pointer out until the first
release, whatever calls are made on it and in whatever order; the destructor runs exactly once, on
that pointer, at the first release or else at the drop. -/
theorem handles_free_once (raw : Option σ) (free : σ → List Event) (label : String)
    (capacity : UInt64) (calls : List Call) :
    (raw = none →
      acquire raw free label capacity () = ⟨.error (.allocation label capacity), (), []⟩) ∧
      ∀ pointer, raw = some pointer →
        ∃ h, acquire raw free label capacity () = ⟨.ok h, (), [.log (.handleAcquired label)]⟩ ∧
          FreesOnce h free label pointer calls := by
  constructor
  · rintro rfl
    rfl
  · rintro pointer rfl
    exact ⟨_, acquire_some free label pointer capacity, freesOnce_held free label pointer calls⟩

/-! ### A handle that is released twice -/

/-- A destructor that leaves one native call, at the place that it is given. -/
def freeAt (site : Site) : List Event :=
  [.native site .engineFree]

/-- The place at which an event ran that destructor, if it did. -/
def freedAt? : Event → Option Site
  | .native site .engineFree => some site
  | _ => none

theorem finds_freeAt : Finds freedAt? freeAt :=
  ⟨fun _ => rfl, fun _ => rfl⟩

/-- It gives its pointer out, is freed by the first release only, and not again when dropped. -/
theorem handle_released_twice :
    Finds freedAt? freeAt ∧
      ∃ h, acquire (some Site.loaded) freeAt "engine" 4 () =
          ⟨.ok h, (), [.log (.handleAcquired "engine")]⟩ ∧
        (performAll [.pointer, .release, .release, .pointer] h).answer[0]? =
          some (.pointer (.ok .loaded)) ∧
        (performAll [.pointer, .release, .release, .pointer] h).answer[2]? =
          some (.flag false) ∧
        (performAll [.pointer, .release, .release, .pointer] h).answer[3]? =
          some (.pointer (.error (.precondition "engine"))) ∧
        (lifetime [.pointer, .release, .release, .pointer] h).filterMap freedAt? = [.loaded] := by
  obtain ⟨h, hmade, frees⟩ := (handles_free_once (some Site.loaded) freeAt "engine" 4
    [.pointer, .release, .release, .pointer]).2 .loaded rfl
  refine ⟨finds_freeAt, h, hmade, ?_, ?_, ?_, frees.once.2 _ finds_freeAt⟩
  · exact frees.answers.2 [] .pointer [.release, .release, .pointer] rfl
  · exact frees.answers.2 [.pointer, .release] .release [.pointer] rfl
  · exact frees.answers.2 [.pointer, .release, .release] .pointer [] rfl

end MarketBridge.Handle
