import ToolKit.Run

/-! `CachedGroup` of `singleflight/cached_singleflight.go` on one key, with the parts of
`golang.org/x/sync/singleflight.Group` and of `go-cache` it uses. Entries do not expire. -/

namespace ToolKit.Singleflight

/-- What a caller's `fn` returned. -/
inductive FnResult
  | ok (value : Nat)
  | err
  deriving DecidableEq, Repr

/-- `Result`; `value` is `none` where `fn` failed. -/
structure Result where
  value : Option Nat
  failed : Bool
  shared : Bool
  fromCache : Bool
  deriving DecidableEq, Repr

/-- A `singleflight` call: what its leader's `fn` returned, whether `doCall` released the
waiters, and how many callers joined it. -/
structure Flight where
  result : Option FnResult
  done : Bool
  dups : Nat
  deriving DecidableEq, Repr

/-- Where a caller is. A caller of `Do` runs the cache check, `sf.Do` (join the flight registered
for the key, or register a new one and lead it), the leader's second cache check and its `fn`,
`doCall`'s locked cleanup that releases the waiters and unregisters the flight, and finally the
`cache.Set` of a successful result. A caller of `Forget` runs `sf.Forget`, then `cache.Delete`. -/
inductive CallerPc
  | idle
  | entering
  | leading (flight : Nat)
  | calling (flight : Nat)
  | finishing (flight : Nat)
  | waiting (flight : Nat)
  | storing (r : FnResult) (shared : Bool)
  | returned (r : Result)
  | forgetting
  | forgotten
  deriving DecidableEq, Repr

/-- The group on one key. `inFlight` is the flight the key maps to in the `singleflight` map;
`calls` records, in order, what every `fn` invocation returned. -/
structure CachedGroup where
  cache : Option Nat
  inFlight : Option Nat
  flights : List Flight
  callers : List CallerPc
  calls : List FnResult
  deriving DecidableEq, Repr

inductive Action
  | checkCache (caller : Nat)
  | enterFlight (caller : Nat)
  | doubleCheck (caller : Nat)
  | fnReturn (caller : Nat) (r : FnResult)
  | finishCall (caller : Nat)
  | wake (caller : Nat)
  | store (caller : Nat)
  | forgetFlight (caller : Nat)
  | forgetCache (caller : Nat)
  deriving DecidableEq, Repr

def newCachedGroup (callers : Nat) : CachedGroup := ⟨none, none, [], List.replicate callers .idle, []⟩

def resultOf (r : FnResult) (shared : Bool) : Result :=
  match r with
  | .ok v => ⟨some v, false, shared, false⟩
  | .err => ⟨none, true, shared, false⟩

def next (g : CachedGroup) : Action → Option CachedGroup
  | .checkCache c =>
    match g.callers[c]?, g.cache with
    | some .idle, some v => some { g with callers := g.callers.set c (.returned ⟨some v, false, false, true⟩) }
    | some .idle, none => some { g with callers := g.callers.set c .entering }
    | _, _ => none
  | .enterFlight c =>
    match g.callers[c]?, g.inFlight with
    | some .entering, some f =>
      some { g with flights := g.flights.modify (fun fl => { fl with dups := fl.dups + 1 }) f,
                    callers := g.callers.set c (.waiting f) }
    | some .entering, none =>
      some { g with inFlight := some g.flights.length, flights := g.flights ++ [⟨none, false, 0⟩],
                    callers := g.callers.set c (.leading g.flights.length) }
    | _, _ => none
  | .doubleCheck c =>
    match g.callers[c]?, g.cache with
    | some (.leading f), some v =>
      some { g with flights := g.flights.modify (fun fl => { fl with result := some (.ok v) }) f,
                    callers := g.callers.set c (.finishing f) }
    | some (.leading f), none => some { g with callers := g.callers.set c (.calling f) }
    | _, _ => none
  | .fnReturn c r =>
    match g.callers[c]? with
    | some (.calling f) =>
      some { g with flights := g.flights.modify (fun fl => { fl with result := some r }) f,
                    callers := g.callers.set c (.finishing f), calls := g.calls ++ [r] }
    | _ => none
  | .finishCall c =>
    match g.callers[c]? with
    | some (.finishing f) =>
      match g.flights[f]? with
      | some fl =>
        some { g with flights := g.flights.set f { fl with done := true },
                      inFlight := if g.inFlight = some f then none else g.inFlight,
                      callers := g.callers.set c (.storing (fl.result.getD .err) (0 < fl.dups)) }
      | none => none
    | _ => none
  | .wake c =>
    match g.callers[c]? with
    | some (.waiting f) =>
      match g.flights[f]? with
      | some fl =>
        if fl.done then some { g with callers := g.callers.set c (.storing (fl.result.getD .err) true) }
        else none
      | none => none
    | _ => none
  | .store c =>
    match g.callers[c]? with
    | some (.storing r shared) =>
      some { g with cache := (match r with | .ok v => some v | .err => g.cache),
                    callers := g.callers.set c (.returned (resultOf r shared)) }
    | _ => none
  | .forgetFlight c =>
    match g.callers[c]? with
    | some .idle => some { g with inFlight := none, callers := g.callers.set c .forgetting }
    | _ => none
  | .forgetCache c =>
    match g.callers[c]? with
    | some .forgetting => some { g with cache := none, callers := g.callers.set c .forgotten }
    | _ => none

/-- How many `fn` invocations returned successfully. -/
def successfulCalls (g : CachedGroup) : Nat :=
  g.calls.countP fun
    | .ok _ => true
    | .err => false

/-- `next` for the runs with no `Forget` call. -/
def nextWithoutForget (g : CachedGroup) (a : Action) : Option CachedGroup :=
  match a with
  | .forgetFlight _ | .forgetCache _ => none
  | _ => next g a

/-- The flight a caller leads, from registering it until `doCall`'s cleanup. -/
def CallerPc.leads : CallerPc → Option Nat
  | .leading f | .calling f | .finishing f => some f
  | _ => none

def CallerPc.isLeader (x : CallerPc) : Bool := x.leads.isSome

def CallerPc.isCalling : CallerPc → Bool
  | .calling _ => true
  | _ => false

/-- While a flight is registered for the key its leader is the only leader, and no caller leads
an unregistered flight. -/
structure OneFlight (inFlight : Option Nat) (callers : List CallerPc) : Prop where
  leaders : callers.countP CallerPc.isLeader = if inFlight.isSome then 1 else 0
  registered : ∀ x ∈ callers, ∀ f, x.leads = some f → inFlight = some f

theorem OneFlight.set_same {inFlight : Option Nat} {callers : List CallerPc} {c : Nat}
    {x y : CallerPc} (h : OneFlight inFlight callers) (hc : callers[c]? = some x)
    (hy : y.leads = x.leads) : OneFlight inFlight (callers.set c y) := by
  have same : y.isLeader = x.isLeader := by simp [CallerPc.isLeader, hy]
  have count := countP_set_add y CallerPc.isLeader hc
  refine ⟨by rw [← h.leaders]; simp only [same] at count; omega, fun x' hx' f hf => ?_⟩
  rcases List.mem_or_eq_of_mem_set hx' with old | rfl
  · exact h.registered x' old f hf
  · exact h.registered x (List.getElem?_mem hc) f (hy ▸ hf)

theorem oneFlight_next {g g' : CachedGroup} {a : Action} (h : OneFlight g.inFlight g.callers)
    (step : nextWithoutForget g a = some g') : OneFlight g'.inFlight g'.callers := by
  cases a with
  | forgetFlight c | forgetCache c => cases step
  -- steps that change one caller's pc without changing which flight it leads
  | checkCache c | doubleCheck c | fnReturn c _ | wake c | store c =>
    simp only [nextWithoutForget, next] at step
    repeat' split at step
    all_goals cases step <;> exact h.set_same ‹_› (by simp [CallerPc.leads])
  | enterFlight c =>
    simp only [nextWithoutForget, next] at step
    split at step <;> cases step
    · exact h.set_same ‹_› (by simp [CallerPc.leads])
    · rename_i hc hf
      have count := countP_set_add (.leading g.flights.length) CallerPc.isLeader hc
      have zero := h.leaders
      simp only [hf, Option.isSome_none, Bool.false_eq_true, if_false] at zero
      simp only [CallerPc.isLeader, CallerPc.leads, Option.isSome_some, Option.isSome_none,
        Bool.false_eq_true, if_false, if_true] at count
      refine ⟨by simp only [Option.isSome_some, if_true]; omega, fun x' hx' f hf' => ?_⟩
      rcases List.mem_or_eq_of_mem_set hx' with old | rfl
      · exact absurd (hf ▸ h.registered x' old f hf') (by simp)
      · simpa [CallerPc.leads] using hf'
  | finishCall c =>
    simp only [nextWithoutForget, next] at step
    split at step
    · rename_i f hc
      split at step <;> cases step
      have reg := h.registered _ (List.getElem?_mem hc) f rfl
      have count := countP_set_add (.storing (‹Flight›.result.getD .err) (0 < ‹Flight›.dups))
        CallerPc.isLeader hc
      have none : (g.callers.set c (.storing (‹Flight›.result.getD .err) (0 < ‹Flight›.dups))).countP
          CallerPc.isLeader = 0 := by
        have := h.leaders
        simp_all [CallerPc.isLeader, CallerPc.leads]
      refine ⟨by simp [reg, none], fun x' hx' f' hf' => ?_⟩
      have := List.countP_eq_zero.mp none x' hx'
      simp [CallerPc.isLeader, hf'] at this
    · cases step

/-- Without `Forget`, no two callers of `Do` on one key are ever inside their `fn` at once. -/
theorem at_most_one_fn_running (n : Nat) {g : CachedGroup}
    (h : Reachable nextWithoutForget (newCachedGroup n) g) : g.callers.countP CallerPc.isCalling ≤ 1 := by
  have inv := h.induct_on (fun g => OneFlight g.inFlight g.callers)
    ⟨by simp [newCachedGroup, List.countP_replicate, CallerPc.isLeader, CallerPc.leads],
      by simp [newCachedGroup, CallerPc.leads]⟩ fun _ _ _ inv step => oneFlight_next inv step
  have le : g.callers.countP CallerPc.isCalling ≤ g.callers.countP CallerPc.isLeader :=
    List.countP_mono_left fun x _ hx => by
      cases x <;> simp_all [CallerPc.isCalling, CallerPc.isLeader, CallerPc.leads]
  have := inv.leaders
  split at this <;> omega

/-- Caller 0 leads and is inside `fn` while caller 1 has joined its flight and waits. -/
def joinedFlight : CachedGroup :=
  (run nextWithoutForget (newCachedGroup 2)
    [.checkCache 0, .enterFlight 0, .doubleCheck 0, .checkCache 1, .enterFlight 1]).getD (newCachedGroup 2)

theorem at_most_one_fn_running_joined :
    Reachable nextWithoutForget (newCachedGroup 2) joinedFlight ∧
      joinedFlight.callers = [.calling 0, .waiting 0] ∧ joinedFlight.callers.countP CallerPc.isCalling ≤ 1 :=
  have h : Reachable nextWithoutForget (newCachedGroup 2) joinedFlight :=
    reachable_of_run _ [.checkCache 0, .enterFlight 0, .doubleCheck 0, .checkCache 1, .enterFlight 1] rfl
  ⟨h, rfl, at_most_one_fn_running 2 h⟩

/-- Caller 0 computes 1 and its flight ends; before it stores 1 in the cache, caller 1 misses the
cache, finds no flight registered, leads a new one, misses the cache again and computes 2. -/
theorem caller_between_flight_and_store_recomputes :
    ∃ g, Reachable nextWithoutForget (newCachedGroup 2) g ∧ successfulCalls g = 2 := by
  obtain ⟨g, hg, h⟩ := exists_reachable_of_run nextWithoutForget (newCachedGroup 2)
    [.checkCache 0, .enterFlight 0, .doubleCheck 0, .fnReturn 0 (.ok 1), .finishCall 0,
     .checkCache 1, .enterFlight 1, .doubleCheck 1, .fnReturn 1 (.ok 2)]
    (fun g => successfulCalls g == 2) (by decide)
  exact ⟨g, hg, by simpa using h⟩

/-- Caller 0 leads a flight and calls `fn`; caller 1's `Forget` runs to its end, unregistering
the flight and deleting the cache entry; caller 0's `fn` returns 1 and `Do` stores it; then
caller 2 starts `Do`, hits the cache and returns 1, the value of the only `fn` call, which
started before the `Forget`. -/
theorem forget_leaves_inflight_value_cached :
    ∃ g₁ g₂ g₃, run next (newCachedGroup 3) [.checkCache 0, .enterFlight 0, .doubleCheck 0] = some g₁ ∧
      g₁.callers[0]? = some (.calling 0) ∧
      run next g₁ [.forgetFlight 1, .forgetCache 1] = some g₂ ∧ g₂.callers[1]? = some .forgotten ∧
      g₂.callers[2]? = some .idle ∧
      run next g₂ [.fnReturn 0 (.ok 1), .finishCall 0, .store 0, .checkCache 2] = some g₃ ∧
      g₃.callers[2]? = some (.returned ⟨some 1, false, false, true⟩) ∧ g₃.calls = [.ok 1] :=
  ⟨_, _, _, rfl, rfl, rfl, rfl, rfl, rfl, rfl, rfl⟩

end ToolKit.Singleflight
