import ToolKit.Run

/-! `RateLimiter` of `goroutine/examples/basic/basic_example.go`, with the `time.Ticker` it
drives and the refill goroutine `NewRateLimiter` starts, under Go 1.23 timer channels. Time is in
nanoseconds since `NewRateLimiter`. -/

namespace ToolKit.RateLimit

/-- A running `time.Ticker`: its period, the next time it fires, whether its channel holds a
tick, and whether it was stopped. The channel holds at most one tick, and a tick that finds it
full is dropped. -/
structure Ticker where
  period : Nat
  when : Nat
  buffered : Bool
  stopped : Bool
  deriving DecidableEq, Repr

/-- The ticker firing at `now ≥ when`: the runtime's `t.when += t.period * (1 + -delta/t.period)`
moves `when` to the first point `when + k * period` after `now`. -/
def Ticker.fire (t : Ticker) (now : Nat) : Ticker :=
  { t with buffered := true, when := t.when + t.period * (1 + (now - t.when) / t.period) }

/-- `Ticker.Stop`; with synchronous timer channels no tick prepared before it is received
after it. -/
def Ticker.stop (t : Ticker) : Ticker := { t with buffered := false, stopped := true }

/-- The limiter, its ticker and refill goroutine, and the clock. `tokens` is the length of the
buffered channel of capacity `limit`; `holding` says that the refill goroutine has received a
tick and not yet offered its token; `acquired` counts the calls of `Allow` that returned true and
of `Wait` that returned. -/
structure RateLimiter where
  limit : Nat
  tokens : Nat
  ticker : Ticker
  holding : Bool
  now : Nat
  acquired : Nat
  deriving DecidableEq, Repr

/-- `NewRateLimiter` at time 0. It panics (`none`) in `make` for a negative `limit`, in the
division `interval / time.Duration(limit)` for a zero one, and in `time.NewTicker` when the
truncated quotient is not positive. -/
def newRateLimiter (limit interval : Int) : Option RateLimiter :=
  if 0 < limit ∧ 0 < interval.tdiv limit then
    let period := (interval.tdiv limit).toNat
    some ⟨limit.toNat, limit.toNat, ⟨period, period, false, false⟩, false, 0, 0⟩
  else none

/-- A token taken from the channel. -/
def take (rl : RateLimiter) : RateLimiter :=
  { rl with tokens := rl.tokens - 1, acquired := rl.acquired + 1 }

/-- `Allow`: a receive in a `select` with a `default`. -/
def allow (rl : RateLimiter) : Bool × RateLimiter :=
  if 0 < rl.tokens then (true, take rl) else (false, rl)

def getAvailableTokens (rl : RateLimiter) : Nat := rl.tokens

inductive Action
  | elapse (d : Nat)
  | fire
  | receive
  | refill
  | allow
  | wait
  | stop
  deriving DecidableEq, Repr

/-- One step. The ticker fires at any moment it is due, which covers Go 1.23's lazy firing at a
receive as well as the timer heap's. The refill goroutine loops: it receives a tick from
`ticker.C`, then offers one token in a `select` with a `default`, which a full bucket drops. -/
def next (rl : RateLimiter) : Action → Option RateLimiter
  | .elapse d => some { rl with now := rl.now + d }
  | .fire =>
    if rl.ticker.stopped = false ∧ rl.ticker.when ≤ rl.now then
      some { rl with ticker := rl.ticker.fire rl.now }
    else none
  | .receive =>
    if rl.ticker.buffered ∧ rl.holding = false then
      some { rl with ticker := { rl.ticker with buffered := false }, holding := true }
    else none
  | .refill =>
    if rl.holding then
      some { rl with holding := false, tokens := if rl.tokens < rl.limit then rl.tokens + 1 else rl.tokens }
    else none
  | .allow => some (allow rl).2
  | .wait => if 0 < rl.tokens then some (take rl) else none
  | .stop => some { rl with ticker := rl.ticker.stop }

/-! ## One step -/

/-- Tokens that callers can take without another tick: those in the channel, the one the refill
goroutine is holding, and the tick in the ticker's channel. -/
def supply (rl : RateLimiter) : Nat :=
  rl.tokens + (if rl.holding then 1 else 0) + (if rl.ticker.buffered then 1 else 0)

/-- A firing lands strictly after `now`, at least one period after the previous `when`, and no
more than one period after `now`. -/
theorem fire_when {t : Ticker} {now : Nat} (hp : 0 < t.period) (due : t.when ≤ now) :
    now < (t.fire now).when ∧ t.when + t.period ≤ (t.fire now).when ∧
      (t.fire now).when ≤ now + t.period := by
  have above := Nat.lt_mul_div_succ (now - t.when) hp
  have below := Nat.mul_div_le (now - t.when) t.period
  simp only [Ticker.fire, Nat.mul_add, Nat.mul_one] at *
  omega

/-- What a reachable limiter keeps: the bucket's capacity, the ticker's period, and a `when` at
most one period ahead of the clock. -/
structure Healthy (limit period : Nat) (rl : RateLimiter) : Prop where
  limit_eq : rl.limit = limit
  period_eq : rl.ticker.period = period
  tokens_le : rl.tokens ≤ limit
  when_le : rl.ticker.when ≤ rl.now + period

theorem healthy_next {limit period : Nat} {rl rl' : RateLimiter} {a : Action} (hp : 0 < period)
    (h : Healthy limit period rl) (step : next rl a = some rl') : Healthy limit period rl' := by
  obtain ⟨hl, hper, htok, hwhen⟩ := h
  cases a with
  | elapse d => cases step; exact ⟨hl, hper, htok, by simp only; omega⟩
  | fire =>
    simp only [next] at step
    split at step
    · cases step
      rename_i due
      have := fire_when (hper ▸ hp) due.2
      exact ⟨hl, hper, htok, by rw [← hper]; exact this.2.2⟩
    · cases step
  | receive =>
    simp only [next] at step
    split at step <;> cases step
    exact ⟨hl, hper, htok, hwhen⟩
  | refill =>
    simp only [next] at step
    split at step <;> cases step
    refine ⟨hl, hper, ?_, hwhen⟩
    dsimp only
    split <;> omega
  | wait =>
    simp only [next] at step
    split at step <;> cases step
    exact ⟨hl, hper, by simp only [take]; omega, hwhen⟩
  | allow =>
    cases step
    unfold allow
    split
    · exact ⟨hl, hper, by simp only [take]; omega, hwhen⟩
    · exact ⟨hl, hper, htok, hwhen⟩
  | stop => cases step; exact ⟨hl, hper, htok, hwhen⟩

/-- Every call that takes a token spends one of the supply, and only a firing of the ticker
adds to it. -/
theorem supply_next {rl rl' : RateLimiter} {a : Action} (step : next rl a = some rl') :
    rl'.acquired + supply rl' ≤ rl.acquired + supply rl + (if a = .fire then 1 else 0) := by
  cases a with
  | elapse d => cases step; simp [supply]
  | fire =>
    simp only [next] at step
    split at step <;> cases step
    simp only [supply, Ticker.fire, if_true]
    split <;> omega
  | receive =>
    simp only [next] at step
    split at step <;> cases step
    rename_i ready
    simp [supply, ready.1, ready.2]
  | refill =>
    simp only [next] at step
    split at step <;> cases step
    simp only [supply, ‹rl.holding = true›]
    split <;> simp
  | allow =>
    cases step
    unfold allow
    split
    · simp [take, supply]
      omega
    · simp
  | wait =>
    simp only [next] at step
    split at step <;> cases step
    simp [take, supply]
    omega
  | stop =>
    cases step
    simp only [supply, Ticker.stop]
    split <;> simp

/-- A step never turns the clock back, keeps the period, and moves `when` only by firing. -/
theorem next_clock {rl rl' : RateLimiter} {a : Action} (step : next rl a = some rl') :
    rl.now ≤ rl'.now ∧ rl'.ticker.period = rl.ticker.period ∧
      (a ≠ .fire → rl'.ticker.when = rl.ticker.when) ∧
      (a = .fire → rl.ticker.when ≤ rl.now ∧ rl'.now = rl.now ∧ rl'.ticker = rl.ticker.fire rl.now) := by
  cases a with
  | fire =>
    simp only [next] at step
    split at step
    · cases step
      exact ⟨le_refl _, rfl, fun h => absurd rfl h, fun _ => ⟨‹_ ∧ _›.2, rfl, rfl⟩⟩
    · cases step
  | allow =>
    cases step
    unfold allow
    split <;> simp [take]
  | elapse d | stop => cases step; simp [Ticker.stop]
  | receive | refill | wait =>
    simp only [next] at step
    split at step <;> cases step
    simp [take]

/-! ## Runs -/

section Window

variable {limit period : Nat}

/-- Over a run, the calls that took a token are at most the supply at its start plus the
firings in it. -/
theorem acquired_le_supply_add_fires {rl rl' : RateLimiter} (l : List Action)
    (h : run next rl l = some rl') : rl'.acquired + supply rl' ≤ rl.acquired + supply rl + l.count .fire := by
  induction l generalizing rl with
  | nil => cases h; simp
  | cons a rest ih =>
    obtain ⟨rl₁, step, hrest⟩ := run_cons_some h
    have one := supply_next step
    have more := ih hrest
    simp only [List.count_cons, beq_iff_eq] at *
    omega

/-- After `k` firings since time `start`, the ticker's next time lies more than `k - 1` periods
after `start`. -/
def FiredSince (period start k : Nat) (rl : RateLimiter) : Prop :=
  start ≤ rl.now ∧ ∀ j, k = j + 1 → start + j * period < rl.ticker.when

theorem firedSince_run {start k : Nat} {rl rl' : RateLimiter} (l : List Action) (hp : 0 < period)
    (hper : rl.ticker.period = period) (h : run next rl l = some rl')
    (hf : FiredSince period start k rl) : FiredSince period start (k + l.count .fire) rl' := by
  induction l generalizing rl k with
  | nil => cases h; simpa using hf
  | cons a rest ih =>
    obtain ⟨rl₁, step, hrest⟩ := run_cons_some h
    obtain ⟨now_le, per, still, moved⟩ := next_clock step
    obtain ⟨started, after⟩ := hf
    have hf₁ : FiredSince period start (k + if a = .fire then 1 else 0) rl₁ := by
      by_cases ha : a = .fire
      · obtain ⟨due, same_now, fired⟩ := moved ha
        obtain ⟨past, gap, -⟩ := fire_when (hper ▸ hp) due
        rw [hper] at gap
        refine ⟨by omega, fun j hj => ?_⟩
        simp only [if_pos ha] at hj
        obtain rfl : j = k := by omega
        rw [fired]
        rcases j with _ | j
        · simp only [Nat.zero_mul, Nat.add_zero]
          omega
        · have := after j rfl
          rw [Nat.succ_mul]
          omega
      · simp only [if_neg ha, Nat.add_zero]
        exact ⟨by omega, fun j hj => still ha ▸ after j hj⟩
    have count : k + (a :: rest).count .fire = k + (if a = .fire then 1 else 0) + rest.count .fire := by
      simp only [List.count_cons, beq_iff_eq]
      omega
    exact count ▸ ih (per.trans hper) hrest hf₁

/-- A run from a healthy state fires the ticker at most once per period of elapsed time, plus
once: the firing that was due at the start. -/
theorem fires_le {rl rl' : RateLimiter} (l : List Action) (hp : 0 < period)
    (hper : rl.ticker.period = period) (h : run next rl l = some rl')
    (hw : Healthy limit period rl') :
    l.count .fire ≤ (rl'.now - rl.now + period - 1) / period + 1 := by
  obtain ⟨started, after⟩ :=
    firedSince_run l hp hper h (⟨le_refl _, fun j hj => by omega⟩ : FiredSince period rl.now 0 rl)
  cases hk : l.count .fire with
  | zero => exact Nat.zero_le _
  | succ j =>
    have late := after j (by simp [hk])
    have := hw.when_le
    have : j ≤ (rl'.now - rl.now + period - 1) / period :=
      (Nat.le_div_iff_mul_le hp).mpr (by omega)
    omega

theorem supply_le {rl : RateLimiter} (h : Healthy limit period rl) : supply rl ≤ limit + 2 := by
  have := h.tokens_le
  unfold supply
  split <;> split <;> omega

end Window

theorem newRateLimiter_some {limit interval : Int} (hlimit : 1 ≤ limit) (hinterval : limit ≤ interval) :
    newRateLimiter limit interval =
      some ⟨limit.toNat, limit.toNat, ⟨(interval.tdiv limit).toNat, (interval.tdiv limit).toNat, false, false⟩,
        false, 0, 0⟩ := by
  have : 1 ≤ interval.tdiv limit := by
    rw [Int.tdiv_eq_ediv (by omega) (by omega)]
    exact (Int.le_ediv_iff_mul_le (by omega)).mpr (by omega)
  simp [newRateLimiter, show 0 < limit by omega, show 0 < interval.tdiv limit by omega]

theorem healthy_reachable {limit interval : Int} {rl₀ rl : RateLimiter}
    (h₀ : newRateLimiter limit interval = some rl₀) (h : Reachable next rl₀ rl) :
    0 < (interval.tdiv limit).toNat ∧ Healthy limit.toNat (interval.tdiv limit).toNat rl := by
  unfold newRateLimiter at h₀
  split at h₀
  · cases h₀
    rename_i pos
    have hp : 0 < (interval.tdiv limit).toNat := by omega
    exact ⟨hp, h.induct_on _ ⟨rfl, rfl, le_refl _, by simp⟩ fun _ _ _ inv step => healthy_next hp inv step⟩
  · cases h₀

/-- For `1 ≤ limit ≤ interval`, `NewRateLimiter` returns, and in every run, whatever the
interleaving of callers, ticker and refill goroutine, the calls that take a token while the clock
advances by `W` are at most `limit + ⌈W / p⌉ + 3`, where `p = interval / limit` truncated. -/
theorem acquisitions_in_window_le (limit interval : Int) (hlimit : 1 ≤ limit) (hinterval : limit ≤ interval) :
    ∃ rl₀, newRateLimiter limit interval = some rl₀ ∧
      ∀ rl rl' l, Reachable next rl₀ rl → run next rl l = some rl' →
        rl'.acquired ≤ rl.acquired + limit.toNat +
          (rl'.now - rl.now + (interval.tdiv limit).toNat - 1) / (interval.tdiv limit).toNat + 3 := by
  have init := newRateLimiter_some hlimit hinterval
  refine ⟨_, init, fun rl rl' l hrl hl => ?_⟩
  obtain ⟨hp, start⟩ := healthy_reachable init hrl
  have finish := (healthy_reachable init (hrl.run hl)).2
  have spent := acquired_le_supply_add_fires l hl
  have fires := fires_le l hp start.period_eq hl finish
  have full := supply_le start
  omega

/-- With `limit = 1` and `interval = 10`: the refill goroutine receives the tick of time 10 and
stalls holding it, the tick of time 20 waits in the ticker's channel, and the clock reaches 35. -/
def stalledRefill : List Action := [.elapse 10, .fire, .receive, .elapse 10, .fire, .elapse 15]

/-- Then, within 5ns: an `Allow`, the stalled token, an `Allow`, the tick due since 30 (dropped,
the channel being full), the buffered tick, an `Allow`, and at 40 a fresh tick and a `Wait`. -/
def burst : List Action :=
  [.allow, .refill, .allow, .fire, .receive, .refill, .allow, .elapse 5, .fire, .receive, .refill, .wait]

theorem acquisitions_in_window_le_after_stalled_refill :
    Reachable next ⟨1, 1, ⟨10, 10, false, false⟩, false, 0, 0⟩ ⟨1, 1, ⟨10, 30, true, false⟩, true, 35, 0⟩ ∧
      run next ⟨1, 1, ⟨10, 30, true, false⟩, true, 35, 0⟩ burst = some ⟨1, 0, ⟨10, 50, false, false⟩, false, 40, 4⟩ ∧
      4 ≤ 0 + 1 + (40 - 35 + 10 - 1) / 10 + 3 := by
  obtain ⟨rl₀, h₀, bound⟩ := acquisitions_in_window_le 1 10 (by decide) (by decide)
  obtain rfl : rl₀ = ⟨1, 1, ⟨10, 10, false, false⟩, false, 0, 0⟩ := Option.some.inj (h₀.symm.trans (by decide))
  have reach : Reachable next ⟨1, 1, ⟨10, 10, false, false⟩, false, 0, 0⟩
      ⟨1, 1, ⟨10, 30, true, false⟩, true, 35, 0⟩ :=
    reachable_of_run next stalledRefill (by decide)
  have burst_run : run next ⟨1, 1, ⟨10, 30, true, false⟩, true, 35, 0⟩ burst =
      some ⟨1, 0, ⟨10, 50, false, false⟩, false, 40, 4⟩ := by decide
  exact ⟨reach, burst_run, bound _ _ _ reach burst_run⟩

/-- `NewRateLimiter(2, 1ns)` panics, as `interval / limit` truncates to 0. And with `limit = 1`
and `interval = 10ns`, four calls take a token while the clock advances by 5ns, above the
`1 + ⌊5 * 1 / 10⌋ + 2 = 3` of a bucket with one buffered and one boundary tick of slack. -/
theorem stalled_refill_exceeds_window_bound :
    newRateLimiter 2 1 = none ∧
      ∃ rl₀ rl rl', newRateLimiter 1 10 = some rl₀ ∧ Reachable next rl₀ rl ∧
        run next rl burst = some rl' ∧ rl'.now = rl.now + 5 ∧ rl.acquired + (1 + 5 * 1 / 10 + 2) < rl'.acquired :=
  ⟨by decide, ⟨1, 1, ⟨10, 10, false, false⟩, false, 0, 0⟩, ⟨1, 1, ⟨10, 30, true, false⟩, true, 35, 0⟩,
    ⟨1, 0, ⟨10, 50, false, false⟩, false, 40, 4⟩, by decide, reachable_of_run next stalledRefill (by decide),
    by decide, rfl, by decide⟩

end ToolKit.RateLimit
