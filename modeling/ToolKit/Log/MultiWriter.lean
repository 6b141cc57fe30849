import ToolKit.Run
import ToolKit.Go
import Mathlib.Data.List.Range

/-! `MultiWriter` of the log package (`log/logger.go`), which `New` puts under the logger when a
configuration has several outputs. Writers are given by identifiers, and what each of their
`Write` calls returns is given with the call. -/

namespace ToolKit.Log

/-- What one `Write` returned: the count of bytes and the error. -/
abbrev Written := Nat × Option GoError

/-- `MultiWriter.Write`'s loop from the writer at position `i` of `writers` on, where `reply i` is
what the `i`-th call returns and `len` is `len(p)`: the writers called, in order, and the result. -/
def write (len : Nat) (reply : Nat → Written) (i : Nat) : List Nat → List Nat × Written
  | [] => ([], (len, none))
  | w :: rest =>
    match reply i with
    | (n, some err) => ([w], (n, some err))
    | (_, none) => let r := write len reply (i + 1) rest; (w :: r.1, r.2)

/-- What `Write` does, said without the loop: the writers up to the first whose call returns an
error, and that call's result; or every writer and `len(p), nil`. -/
def writeSpec (len : Nat) (reply : Nat → Written) (writers : List Nat) : List Nat × Written :=
  match (List.range writers.length).find? fun i => (reply i).2.isSome with
  | some j => (writers.take (j + 1), reply j)
  | none => (writers, (len, none))

theorem write_eq_writeSpec (len : Nat) (reply : Nat → Written) (i : Nat) (writers : List Nat) :
    write len reply i writers = writeSpec len (fun k => reply (i + k)) writers := by
  induction writers generalizing i with
  | nil => rfl
  | cons w rest ih =>
    simp only [writeSpec, List.length_cons, List.range_succ_eq_map, List.find?_cons, Nat.add_zero]
    rcases hr : reply i with ⟨n, _ | err⟩
    · simp only [write, hr, ih, writeSpec, List.find?_map]
      cases found : (List.range rest.length).find? (fun k => (reply (i + (k + 1))).2.isSome) <;>
        simp [Function.comp_def, found, Nat.add_assoc, Nat.add_comm 1]
    · simp [write, hr]

/-- When every writer's call succeeds, `Write` calls them all and returns `len(p), nil`. -/
theorem write_of_ok (len : Nat) {reply : Nat → Written} {writers : List Nat} {i : Nat}
    (ok : ∀ k < writers.length, (reply (i + k)).2 = none) : write len reply i writers = (writers, (len, none)) := by
  induction writers generalizing i with
  | nil => rfl
  | cons w rest ih =>
    have first : (reply i).2 = none := ok 0 (by simp)
    have later : ∀ k < rest.length, (reply (i + 1 + k)).2 = none := fun k hk => by
      simpa [Nat.add_assoc, Nat.add_comm 1] using ok (k + 1) (by simp; omega)
    rcases hr : reply i with ⟨n, _ | err⟩
    · simp [write, hr, ih later]
    · simp [hr] at first

/-- When the call at position `j` is the first to fail, `Write` calls the writers up to it and
returns its result. -/
theorem write_of_error (len : Nat) {reply : Nat → Written} {writers : List Nat} {i j : Nat} (hj : j < writers.length)
    (before : ∀ k < j, (reply (i + k)).2 = none) (failed : (reply (i + j)).2.isSome) :
    write len reply i writers = (writers.take (j + 1), reply (i + j)) := by
  induction writers generalizing i j with
  | nil => simp at hj
  | cons w rest ih =>
    rcases hr : reply i with ⟨n, err⟩
    cases j with
    | zero =>
      obtain ⟨e, rfl⟩ := Option.isSome_iff_exists.mp (by simpa [hr] using failed)
      simp [write, hr]
    | succ j =>
      have first : err = none := by simpa [hr] using before 0 (by omega)
      have rest_ok : ∀ k < j, (reply (i + 1 + k)).2 = none := fun k hk => by
        simpa [Nat.add_assoc, Nat.add_comm 1] using before (k + 1) (by omega)
      have rest_failed : (reply (i + 1 + j)).2.isSome := by simpa [Nat.add_assoc, Nat.add_comm 1] using failed
      subst first
      simp [write, hr, ih (by simpa using hj) rest_ok rest_failed, Nat.add_assoc, Nat.add_comm 1]

/-- Where one `Write` call is: not started; holding the read lock, with `len(p)`, the writers it
ranges over and what the writers it called so far returned; or returned, beside those, with the
writers it called and its result. -/
inductive CallPc
  | idle
  | writing (len : Nat) (writers : List Nat) (got : List Written)
  | returned (len : Nat) (writers : List Nat) (got : List Written) (out : List Nat × Written)
  deriving DecidableEq, Repr

def CallPc.isWriting : CallPc → Bool
  | .writing .. => true
  | _ => false

/-- The multi-writer: its writers, the number of read-lock holders, and the `Write` calls. -/
structure MultiWriter where
  writers : List Nat
  readers : Nat
  calls : List CallPc
  deriving DecidableEq, Repr

/-- `NewMultiWriter(writers...)`, beside `n` callers of `Write`. -/
def newMultiWriter (writers : List Nat) (n : Nat) : MultiWriter := ⟨writers, 0, List.replicate n .idle⟩

/-- What the writers called so far returned, by position; past them, nothing was called. -/
def replyOf (got : List Written) (i : Nat) : Written := got.getD i (0, none)

inductive Action
  | write (c : Nat) (len : Nat)
  | call (c : Nat) (result : Written)
  | finish (c : Nat)
  | addWriter (w : Nat)
  deriving DecidableEq, Repr

/-- `write` is `RLock` and the start of the range over `mw.writers`; `call` is the next writer's
`Write` returning; `finish` is the end of the range, with `RUnlock`. `AddWriter`'s locked section
is one step, as no `Write` can be inside its own meanwhile. -/
def next (mw : MultiWriter) : Action → Option MultiWriter
  | .write c len =>
    match mw.calls[c]? with
    | some .idle => some { mw with readers := mw.readers + 1, calls := mw.calls.set c (.writing len mw.writers []) }
    | _ => none
  | .call c r =>
    match mw.calls[c]? with
    | some (.writing len ws got) =>
      if got.length < ws.length then
        match r.2 with
        | some _ =>
          some { mw with readers := mw.readers - 1,
                         calls := mw.calls.set c (.returned len ws (got ++ [r]) (ws.take (got.length + 1), r)) }
        | none => some { mw with calls := mw.calls.set c (.writing len ws (got ++ [r])) }
      else none
    | _ => none
  | .finish c =>
    match mw.calls[c]? with
    | some (.writing len ws got) =>
      if got.length = ws.length then
        some { mw with readers := mw.readers - 1, calls := mw.calls.set c (.returned len ws got (ws, (len, none))) }
      else none
    | _ => none
  | .addWriter w => if mw.readers = 0 then some { mw with writers := mw.writers ++ [w] } else none

/-- What one call's state says, given the writers registered now: a call inside `Write` ranges
over exactly those writers, and every writer it called so far succeeded; a returned call
returned what the loop returns for the writers it ranged over and the results it got. -/
def CallPc.Sound (writers : List Nat) : CallPc → Prop
  | .idle => True
  | .writing _ ws got => ws = writers ∧ got.length ≤ ws.length ∧ ∀ r ∈ got, r.2 = none
  | .returned len ws got out => out = write len (replyOf got) 0 ws

/-- The read lock counts the calls inside `Write`, and every call is sound. -/
structure Registered (mw : MultiWriter) : Prop where
  readers : mw.readers = mw.calls.countP CallPc.isWriting
  sound : ∀ x ∈ mw.calls, x.Sound mw.writers

theorem replyOf_of_lt {got : List Written} {k : Nat} (r : Written) (hk : k < got.length) :
    replyOf (got ++ [r]) k = got[k] := by
  simp [replyOf, List.getD_eq_getElem?_getD, List.getElem?_append_left hk, List.getElem?_eq_getElem hk]

theorem replyOf_length (got : List Written) (r : Written) : replyOf (got ++ [r]) got.length = r := by
  simp [replyOf, List.getD_eq_getElem?_getD]

/-- Setting one call's state keeps the invariant when the new state is sound and moves the read
lock's count along. -/
theorem Registered.set {mw : MultiWriter} (inv : Registered mw) {c : Nat} {x y : CallPc} (hc : mw.calls[c]? = some x)
    (sound : y.Sound mw.writers) {readers : Nat}
    (count : readers + (if x.isWriting then 1 else 0) = mw.readers + if y.isWriting then 1 else 0) :
    Registered { mw with readers := readers, calls := mw.calls.set c y } := by
  have moved := countP_set_add y CallPc.isWriting hc
  have before := inv.readers
  refine ⟨by dsimp only; omega, fun z hz => ?_⟩
  rcases List.mem_or_eq_of_mem_set hz with old | rfl
  · exact inv.sound z old
  · exact sound

/-- A call inside `Write` ranges over the writers registered now, and the writers it called so far
succeeded. -/
theorem Registered.writing {mw : MultiWriter} (inv : Registered mw) {c len : Nat} {ws : List Nat}
    {got : List Written} (hc : mw.calls[c]? = some (.writing len ws got)) :
    ws = mw.writers ∧ got.length ≤ ws.length ∧ ∀ r ∈ got, r.2 = none :=
  inv.sound _ (List.getElem?_mem hc)

/-- A call inside `Write` holds the read lock. -/
theorem Registered.readers_pos {mw : MultiWriter} (inv : Registered mw) {c len : Nat} {ws : List Nat}
    {got : List Written} (hc : mw.calls[c]? = some (.writing len ws got)) : 0 < mw.readers :=
  inv.readers ▸ List.countP_pos_iff.mpr ⟨_, List.getElem?_mem hc, rfl⟩

theorem registered_next {mw mw' : MultiWriter} {a : Action} (inv : Registered mw) (step : next mw a = some mw') :
    Registered mw' := by
  cases a with
  | write c len =>
    simp only [next] at step
    split at step <;> cases step
    exact inv.set ‹_› (by simp [CallPc.Sound]) (by simp [CallPc.isWriting])
  | call c r =>
    simp only [next] at step
    split at step
    · rename_i len ws got hc
      obtain ⟨same, -, ok⟩ := inv.writing hc
      have held := inv.readers_pos hc
      split at step
      · rename_i lt
        split at step <;> cases step
        · rename_i err failed
          have before : ∀ k < got.length, (replyOf (got ++ [r]) (0 + k)).2 = none := fun k hk => by
            simpa [replyOf_of_lt r hk] using ok _ (List.getElem_mem hk)
          have loop := write_of_error len lt before (by simp [replyOf_length, failed])
          exact inv.set hc (by simp only [CallPc.Sound, loop, Nat.zero_add, replyOf_length])
            (by simp [CallPc.isWriting]; omega)
        · rename_i passed
          have all_ok : ∀ x ∈ got ++ [r], x.2 = none := fun x hx =>
            (List.mem_append.mp hx).elim (ok x) fun hx => List.mem_singleton.mp hx ▸ passed
          exact inv.set hc (by simp only [CallPc.Sound]; exact ⟨same, by simp; omega, all_ok⟩)
            (by simp [CallPc.isWriting])
      · cases step
    · cases step
  | finish c =>
    simp only [next] at step
    split at step
    · rename_i len ws got hc
      obtain ⟨-, -, ok⟩ := inv.writing hc
      have held := inv.readers_pos hc
      split at step <;> cases step
      rename_i all
      have loop : write len (replyOf got) 0 ws = (ws, (len, none)) := write_of_ok len fun k hk => by
        simpa [replyOf, List.getD_eq_getElem?_getD, List.getElem?_eq_getElem (all ▸ hk)] using
          ok _ (List.getElem_mem (all ▸ hk))
      exact inv.set hc (by simp only [CallPc.Sound, loop]) (by simp [CallPc.isWriting]; omega)
    · cases step
  | addWriter w =>
    simp only [next] at step
    split at step <;> cases step
    rename_i free
    refine ⟨inv.readers, fun x hx => ?_⟩
    have idle : x.isWriting = false := by
      simpa using List.countP_eq_zero.mp (inv.readers ▸ free) x hx
    have := inv.sound x hx
    cases x <;> simp_all [CallPc.Sound, CallPc.isWriting]

/-- However `Write` and `AddWriter` calls interleave, a `Write` that holds the read lock ranges
over the writers registered now, so no writer added meanwhile is written to, and every returned
`Write` called, in order, the writers registered when it began up to the first whose call failed,
returning that call's count and error, or all of them, returning `len(p), nil`. -/
theorem writes_see_registered_writers {writers : List Nat} {n : Nat} {mw : MultiWriter}
    (h : Reachable next (newMultiWriter writers n) mw) :
    (∀ len ws got, CallPc.writing len ws got ∈ mw.calls → ws = mw.writers) ∧
      ∀ len ws got out, CallPc.returned len ws got out ∈ mw.calls → out = writeSpec len (replyOf got) ws := by
  have inv : Registered mw :=
    h.induct_on Registered ⟨by simp [newMultiWriter, List.countP_replicate, CallPc.isWriting],
      fun x hx => by simp_all [newMultiWriter, List.mem_replicate, CallPc.Sound]⟩ fun _ _ _ inv step => registered_next inv step
  refine ⟨fun len ws got hx => (inv.sound _ hx).1, fun len ws got out hx => ?_⟩
  have sound : out = write len (replyOf got) 0 ws := inv.sound _ hx
  simpa [write_eq_writeSpec] using sound


/-- Writers 1 and 2: a first `Write` of 5 bytes fails at writer 2, which wrote 2 of them; then
writer 3 is added, and a second `Write` takes the read lock. -/
def failedThenAdded : MultiWriter :=
  (run next (newMultiWriter [1, 2] 2)
    [.write 0 5, .call 0 (5, none), .call 0 (2, some (.text "disk full")), .addWriter 3, .write 1 5]).getD
    (newMultiWriter [1, 2] 2)

theorem writes_see_registered_writers_failed_then_added :
    Reachable next (newMultiWriter [1, 2] 2) failedThenAdded ∧
      failedThenAdded.calls = [.returned 5 [1, 2] [(5, none), (2, some (.text "disk full"))]
        ([1, 2], (2, some (.text "disk full"))), .writing 5 [1, 2, 3] []] ∧
      (∀ len ws got, CallPc.writing len ws got ∈ failedThenAdded.calls → ws = failedThenAdded.writers) ∧
      ∀ len ws got out, CallPc.returned len ws got out ∈ failedThenAdded.calls → out = writeSpec len (replyOf got) ws :=
  have h : Reachable next (newMultiWriter [1, 2] 2) failedThenAdded :=
    reachable_of_run _ [.write 0 5, .call 0 (5, none), .call 0 (2, some (.text "disk full")), .addWriter 3, .write 1 5] rfl
  ⟨h, rfl, writes_see_registered_writers h⟩

end ToolKit.Log
