import ToolKit.Run
import ToolKit.Go
import Mathlib.Data.Rat.Defs

/-! The alert rules of the script manager's `ScriptMonitor` (`redis/script_manager.go`). The
monitor keeps the `*AlertRule` pointers handed to `AddAlertRule`, so the rules live in `cells`;
`float64` values are rationals, and the clock only moves forward. -/

namespace ToolKit.Redis.Alerts

/-- The fields of `AlertRule` besides `LastTrigger`, which the rule's cell holds. -/
structure AlertRule where
  name : List UInt8
  scriptName : List UInt8
  condition : List UInt8
  threshold : ℚ
  duration : Int
  enabled : Bool

/-- The fields of `ScriptStats` that `evaluateCondition` reads. -/
structure StatsView where
  executions : Int
  averageTime : Int
  successRate : ℚ
  cacheHits : Int
  cacheMisses : Int

/-- `evaluateCondition`. -/
def evaluateCondition (rule : AlertRule) (stats : StatsView) : Bool :=
  if rule.condition = goString "error_rate" then stats.successRate < rule.threshold
  else if rule.condition = goString "execution_time" then rule.threshold < stats.averageTime
  else if rule.condition = goString "execution_count" then rule.threshold < stats.executions
  else if rule.condition = goString "cache_miss_rate" then
    let total := stats.cacheHits + stats.cacheMisses
    if total = 0 then false else rule.threshold < (stats.cacheMisses : ℚ) / total * 100
  else false

/-- A rule and its `LastTrigger`, `none` for the zero time, since which `time.Since` is longer
than any `Duration`. -/
structure RuleCell where
  rule : AlertRule
  lastTrigger : Option Int

/-- Where a goroutine started by `StartMonitor` is: in its `select`; going through its copy of the
rules at position `k`; past rule `k`'s cooldown check, about to write `LastTrigger`; or returned. -/
inductive LoopPc
  | waiting
  | checking (rules : List Nat) (k : Nat)
  | triggering (rules : List Nat) (k : Nat)
  | exited
  deriving DecidableEq, Repr

/-- The monitor: the rule cells, the monitor's list of pointers, `stopChan`, its loops, the clock,
the alerts printed, by cell and time, and the `StopMonitor` calls that closed the closed
`stopChan` and panicked. -/
structure ScriptMonitor where
  cells : List RuleCell
  alertRules : List Nat
  stopClosed : Bool
  loops : List LoopPc
  clock : Int
  fired : List (Nat × Int)
  callPanics : Nat

def newScriptMonitor : ScriptMonitor := ⟨[], [], false, [], 0, [], 0⟩

/-- `removeAlertRule`: the first rule of that name goes, and only it. -/
def removeAlertRule (cells : List RuleCell) (name : List UInt8) : List Nat → List Nat
  | [] => []
  | p :: rest => if (cells[p]?.map (·.rule.name)) = some name then rest else p :: removeAlertRule cells name rest

/-- `time.Since(rule.LastTrigger) < rule.Duration`: the rule is cooling down. -/
def RuleCell.cooling (cell : RuleCell) (now : Int) : Bool :=
  match cell.lastTrigger with
  | some t => now - t < cell.rule.duration
  | none => false

inductive Action
  | create (rule : AlertRule)
  | addAlertRule (p : Nat)
  | removeAlertRule (name : List UInt8)
  | startMonitor
  | stopMonitor
  | advance (d : Nat)
  | tick (l : Nat)
  | quit (l : Nat)
  | check (l : Nat) (stats : Option StatsView)
  | trigger (l : Nat)

/-- One step. On each tick a loop copies the list of rules and goes through it: it skips a
disabled rule, a rule whose script has no statistics and a rule whose condition does not hold,
and for the others compares `time.Since(rule.LastTrigger)` with the rule's `Duration`, then, in a
second step, writes `LastTrigger` and prints the alert. What `GetScriptStats` gives is given with
each check. -/
def next (m : ScriptMonitor) : Action → Option ScriptMonitor
  | .create rule => some { m with cells := m.cells ++ [⟨rule, none⟩] }
  | .addAlertRule p => if p < m.cells.length then some { m with alertRules := m.alertRules ++ [p] } else none
  | .removeAlertRule name => some { m with alertRules := removeAlertRule m.cells name m.alertRules }
  | .startMonitor => some { m with loops := m.loops ++ [.waiting] }
  | .stopMonitor =>
    some (if m.stopClosed then { m with callPanics := m.callPanics + 1 } else { m with stopClosed := true })
  | .advance d => some { m with clock := m.clock + d }
  | .tick l => if m.loops[l]? = some .waiting then some { m with loops := m.loops.set l (.checking m.alertRules 0) } else none
  | .quit l =>
    if m.loops[l]? = some .waiting ∧ m.stopClosed then some { m with loops := m.loops.set l .exited } else none
  | .check l stats =>
    match m.loops[l]? with
    | some (.checking rules k) =>
      match rules[k]? with
      | none => some { m with loops := m.loops.set l .waiting }
      | some p =>
        match m.cells[p]? with
        | none => none
        | some cell =>
          let passes := cell.rule.enabled && (stats.map (evaluateCondition cell.rule)).getD false &&
            !cell.cooling m.clock
          some { m with loops := m.loops.set l (if passes then .triggering rules k else .checking rules (k + 1)) }
    | _ => none
  | .trigger l =>
    match m.loops[l]? with
    | some (.triggering rules k) =>
      match rules[k]? with
      | some p =>
        some { m with cells := m.cells.modify (fun cell => { cell with lastTrigger := some m.clock }) p,
                      fired := m.fired ++ [(p, m.clock)], loops := m.loops.set l (.checking rules (k + 1)) }
      | none => none
    | _ => none

/-- The times at which the alert of cell `p` was printed, in order. -/
def firedAt (m : ScriptMonitor) (p : Nat) : List Int := (m.fired.filter fun e => e.1 == p).map Prod.snd

/-- Every loop past a cooldown check is past it still: its rule's last alert is at least its
`Duration` ago. -/
def Armed (m : ScriptMonitor) : Prop :=
  ∀ (l : Nat) (rules : List Nat) (k p : Nat), m.loops[l]? = some (LoopPc.triggering rules k) → rules[k]? = some p →
    ∃ c : RuleCell, m.cells[p]? = some c ∧ ∀ t₀, c.lastTrigger = some t₀ → t₀ + c.rule.duration ≤ m.clock

/-- What holds along a run with one monitor loop: each printed alert is no later than its rule's
`LastTrigger`, which is not in the future; the alerts of a rule are its `Duration` apart; and a
loop past a cooldown check is still past it. -/
structure Cooled (m : ScriptMonitor) : Prop where
  below : ∀ (p : Nat) (t : Int), (p, t) ∈ m.fired →
    ∃ (c : RuleCell) (t₀ : Int), m.cells[p]? = some c ∧ c.lastTrigger = some t₀ ∧ t ≤ t₀
  past : ∀ (p : Nat) (c : RuleCell) (t₀ : Int), m.cells[p]? = some c → c.lastTrigger = some t₀ → t₀ ≤ m.clock
  spaced : ∀ (p : Nat) (c : RuleCell), m.cells[p]? = some c →
    (firedAt m p).Pairwise fun t t' => t + c.rule.duration ≤ t'
  armed : Armed m

theorem cooled_start : Cooled newScriptMonitor :=
  ⟨by simp [newScriptMonitor], by simp [newScriptMonitor], by simp [newScriptMonitor, firedAt],
    fun _ _ _ _ h => by simp [newScriptMonitor] at h⟩

theorem firedAt_append (m : ScriptMonitor) (p q : Nat) (t : Int) :
    firedAt { m with fired := m.fired ++ [(q, t)] } p = firedAt m p ++ if q = p then [t] else [] := by
  by_cases same : q = p <;> simp [firedAt, List.filter_append, same]

/-- Moving a loop anywhere but past a cooldown check keeps every other loop armed. -/
theorem Armed.set {m : ScriptMonitor} (h : Armed m) (l : Nat) (pc : LoopPc)
    (calm : ∀ rules k, pc ≠ .triggering rules k) : Armed { m with loops := m.loops.set l pc } :=
  fun j rules k p hj hk => h j rules k p (getElem?_of_set_ne hj (calm rules k)) hk

/-- A step that changes neither the rules, nor the alerts, nor the clock keeps the invariant when
it keeps the loops armed. -/
theorem Cooled.frame {m m' : ScriptMonitor} (inv : Cooled m) (cells : m'.cells = m.cells) (fired : m'.fired = m.fired)
    (clock : m'.clock = m.clock) (armed : Armed m') : Cooled m' where
  below p t h := by rw [cells]; exact inv.below p t (fired ▸ h)
  past p c t₀ h := by rw [clock]; exact inv.past p c t₀ (cells ▸ h)
  spaced p c h := by unfold firedAt; rw [fired]; exact inv.spaced p c (cells ▸ h)
  armed := armed

/-- A new rule has never fired. -/
theorem Cooled.create {m : ScriptMonitor} (inv : Cooled m) (rule : AlertRule) :
    Cooled { m with cells := m.cells ++ [⟨rule, none⟩] } := by
  have old {p : Nat} {c : RuleCell} (h : m.cells[p]? = some c) : (m.cells ++ [⟨rule, none⟩])[p]? = some c :=
    (List.getElem?_append_left (List.getElem?_eq_some_iff.mp h).1).trans h
  refine ⟨fun p t mem => ?_, fun p c t₀ hc last => ?_, fun p c hc => ?_, fun l rules k p hl hk => ?_⟩
  · obtain ⟨c, t₀, hc, rest⟩ := inv.below p t mem
    exact ⟨c, t₀, old hc, rest⟩
  · rcases getElem?_append_singleton hc with hc | ⟨_, rfl⟩
    · exact inv.past p c t₀ hc last
    · cases last
  · rcases getElem?_append_singleton hc with hc | ⟨rfl, rfl⟩
    · exact inv.spaced p c hc
    · have unfired : firedAt m m.cells.length = [] := by
        simp only [firedAt, List.map_eq_nil_iff, List.filter_eq_nil_iff, beq_iff_eq]
        rintro ⟨q, t⟩ mem rfl
        obtain ⟨c, _, hc, _⟩ := inv.below _ t mem
        simp at hc
      rw [show firedAt { m with cells := m.cells ++ [⟨rule, none⟩] } m.cells.length = firedAt m m.cells.length from rfl,
        unfired]
      exact List.Pairwise.nil
  · obtain ⟨c, hc, cool⟩ := inv.armed l rules k p hl hk
    exact ⟨c, old hc, cool⟩

theorem mem_firedAt {m : ScriptMonitor} {p : Nat} {t : Int} : t ∈ firedAt m p ↔ (p, t) ∈ m.fired := by
  simp only [firedAt, List.mem_map, List.mem_filter, beq_iff_eq]
  exact ⟨fun ⟨⟨q, t'⟩, ⟨mem, same⟩, last⟩ => by subst same last; exact mem, fun mem => ⟨(p, t), ⟨mem, rfl⟩, rfl⟩⟩

theorem Cooled.advance {m : ScriptMonitor} (inv : Cooled m) (d : Nat) : Cooled { m with clock := m.clock + d } where
  below := inv.below
  past p c t₀ hc last := by have := inv.past p c t₀ hc last; simp only; omega
  spaced := inv.spaced
  armed l rules k p hl hk := by
    obtain ⟨c, hc, cool⟩ := inv.armed l rules k p hl hk
    exact ⟨c, hc, fun t₀ last => by have := cool t₀ last; simp only; omega⟩

theorem Armed.append {m : ScriptMonitor} (h : Armed m) : Armed { m with loops := m.loops ++ [.waiting] } :=
  fun l rules k p hl hk => by
    rcases getElem?_append_singleton hl with hl | ⟨_, same⟩
    · exact h l rules k p hl hk
    · cases same

/-- A loop passes the cooldown check of a rule whose last alert is at least its `Duration` ago. -/
theorem Cooled.check {m : ScriptMonitor} (inv : Cooled m) {l : Nat} {rules : List Nat} {k p : Nat} {cell : RuleCell}
    (hk : rules[k]? = some p) (hc : m.cells[p]? = some cell) (pass : cell.cooling m.clock = false) :
    Cooled { m with loops := m.loops.set l (.triggering rules k) } := by
  refine inv.frame rfl rfl rfl fun j rules' k' p' hj hk' => ?_
  rw [List.getElem?_set] at hj
  split_ifs at hj with same
  · cases hj
    rw [hk] at hk'
    cases hk'
    refine ⟨cell, hc, fun t₀ last => ?_⟩
    simp only [RuleCell.cooling, last, decide_eq_false_iff_not] at pass
    simp only
    omega
  · exact inv.armed j rules' k' p' hj hk'

/-- The alert of a rule is printed only at least its `Duration` after the last one, when the loop
that checked the cooldown is the only loop. -/
theorem Cooled.trigger {m : ScriptMonitor} (inv : Cooled m) {l : Nat} {rules : List Nat} {k p : Nat}
    (hl : m.loops[l]? = some (.triggering rules k)) (hk : rules[k]? = some p) (single : m.loops.length ≤ 1) :
    Cooled { m with cells := m.cells.modify (fun cell => { cell with lastTrigger := some m.clock }) p,
                    fired := m.fired ++ [(p, m.clock)], loops := m.loops.set l (.checking rules (k + 1)) } := by
  obtain ⟨c, hc, cool⟩ := inv.armed l rules k p hl hk
  have cells := getElem?_modify_of_getElem? (fun cell : RuleCell => { cell with lastTrigger := some m.clock }) hc
  have fired (q : Nat) :
      firedAt { m with cells := m.cells.modify (fun cell => { cell with lastTrigger := some m.clock }) p,
                       fired := m.fired ++ [(p, m.clock)], loops := m.loops.set l (.checking rules (k + 1)) } q =
        firedAt m q ++ if p = q then [m.clock] else [] :=
    firedAt_append m q p m.clock
  refine ⟨fun q t mem => ?_, fun q c' t₀ hc' last => ?_, fun q c' hc' => ?_, fun j rules' k' p' hj _ => ?_⟩
  · rcases List.mem_append.mp mem with old | new
    · obtain ⟨c₀, t₀, hc₀, last₀, le⟩ := inv.below q t old
      by_cases same : p = q
      · subst same
        rw [hc] at hc₀
        cases hc₀
        exact ⟨_, m.clock, by rw [cells, if_pos rfl], rfl, Int.le_trans le (inv.past p c t₀ hc last₀)⟩
      · exact ⟨c₀, t₀, by rw [cells, if_neg same]; exact hc₀, last₀, le⟩
    · obtain ⟨rfl, rfl⟩ := Prod.mk.inj (List.mem_singleton.mp new)
      exact ⟨_, m.clock, by rw [cells, if_pos rfl], rfl, Int.le_refl _⟩
  · rw [cells] at hc'
    split_ifs at hc' with same
    · cases hc'
      cases last
      exact Int.le_refl _
    · exact inv.past q c' t₀ hc' last
  · rw [fired]
    rw [cells] at hc'
    by_cases same : p = q
    · subst same
      rw [if_pos rfl] at hc' ⊢
      cases hc'
      refine List.pairwise_append.mpr ⟨inv.spaced p c hc, List.pairwise_singleton _ _, fun t mem t' new => ?_⟩
      obtain ⟨c₀, t₀, hc₀, last₀, le⟩ := inv.below p t (mem_firedAt.mp mem)
      rw [hc] at hc₀
      cases hc₀
      obtain rfl := List.mem_singleton.mp new
      have := cool t₀ last₀
      simp only
      omega
    · rw [if_neg same] at hc' ⊢
      simpa using inv.spaced q c' hc'
  · have bound := (List.getElem?_eq_some_iff.mp hl).1
    have jBound := (List.getElem?_eq_some_iff.mp hj).1
    simp only [List.length_set] at jBound
    rw [show j = l by omega, List.getElem?_set_self bound] at hj
    cases hj

/-- No step ends a loop's existence: `StartMonitor` adds one, every other step keeps their number. -/
theorem loops_length_next {m m' : ScriptMonitor} {a : Action} (h : next m a = some m') :
    m.loops.length ≤ m'.loops.length := by
  cases a <;> simp only [next] at h <;> (repeat' split at h) <;> cases h <;> simp

theorem cooled_next {m m' : ScriptMonitor} (inv : Cooled m) {a : Action} (h : next m a = some m')
    (single : m'.loops.length ≤ 1) : Cooled m' := by
  cases a with
  | create rule => cases h; exact inv.create rule
  | advance d => cases h; exact inv.advance d
  | startMonitor => cases h; exact inv.frame rfl rfl rfl inv.armed.append
  | check l stats =>
    simp only [next] at h
    split at h
    · rename_i rules k _
      split at h
      · cases h
        exact inv.frame rfl rfl rfl (inv.armed.set l _ (by simp))
      · rename_i p hk
        split at h
        · cases h
        · rename_i cell hc
          cases h
          split_ifs with pass
          · simp only [Bool.and_eq_true, Bool.not_eq_true'] at pass
            exact inv.check hk hc pass.2
          · exact inv.frame rfl rfl rfl (inv.armed.set l _ (by simp))
    · cases h
  | trigger l =>
    simp only [next] at h
    split at h
    · rename_i rules k hl
      split at h
      · rename_i p hk
        cases h
        exact inv.trigger hl hk (by simpa using single)
      · cases h
    · cases h
  | _ =>
    simp only [next] at h
    repeat' split at h
    all_goals cases h
    all_goals first
      | exact inv.frame rfl rfl rfl inv.armed
      | exact inv.frame rfl rfl rfl (inv.armed.set _ _ (by simp))

/-- With one monitor loop, the alerts of every rule are at least the rule's `Duration` apart: in
every run from a new monitor in which `StartMonitor` was called at most once, for every rule, each
alert printed for it comes at least `Duration` after every earlier one. -/
theorem alerts_spaced_by_duration {m : ScriptMonitor} (h : Reachable next newScriptMonitor m)
    (single : m.loops.length ≤ 1) {p : Nat} {c : RuleCell} (hc : m.cells[p]? = some c) :
    (firedAt m p).Pairwise fun t t' => t + c.rule.duration ≤ t' := by
  have run : m.loops.length ≤ 1 → Cooled m :=
    h.induct_on (fun m => m.loops.length ≤ 1 → Cooled m) (fun _ => cooled_start)
      fun _ _ _ inv step single' => cooled_next (inv ((loops_length_next step).trans single')) step single'
  exact (run single).spaced p c hc

/-- A rule on the number of runs of `incr`, with a cooldown of ten nanoseconds. -/
def countRule : AlertRule := ⟨goString "busy", goString "incr", goString "execution_count", 0, 10, true⟩

/-- One monitor loop printing the rule's alert, then, ten nanoseconds later, again. -/
def alertedTwice : ScriptMonitor :=
  let busy : StatsView := ⟨5, 0, 100, 0, 0⟩
  (run next newScriptMonitor
    [.create countRule, .addAlertRule 0, .startMonitor, .tick 0, .check 0 (some busy), .trigger 0, .check 0 none,
     .advance 10, .tick 0, .check 0 (some busy), .trigger 0]).getD newScriptMonitor

theorem alerts_spaced_by_duration_twice :
    Reachable next newScriptMonitor alertedTwice ∧ alertedTwice.loops.length ≤ 1 ∧
      alertedTwice.cells[0]? = some ⟨countRule, some 10⟩ ∧ firedAt alertedTwice 0 = [0, 10] ∧
      (firedAt alertedTwice 0).Pairwise fun t t' => t + (⟨countRule, some 10⟩ : RuleCell).rule.duration ≤ t' :=
  have h : Reachable next newScriptMonitor alertedTwice :=
    reachable_of_run next [.create countRule, .addAlertRule 0, .startMonitor, .tick 0, .check 0 (some ⟨5, 0, 100, 0, 0⟩),
      .trigger 0, .check 0 none, .advance 10, .tick 0, .check 0 (some ⟨5, 0, 100, 0, 0⟩), .trigger 0] rfl
  ⟨h, by decide, rfl, rfl, alerts_spaced_by_duration h (by decide) rfl⟩

end ToolKit.Redis.Alerts
