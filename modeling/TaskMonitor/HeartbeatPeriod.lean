import TaskMonitor.ClientLifecycle

/-! The interval of the client's heartbeats, and the interval that the daemon waits for them. -/

namespace TaskMonitor

open CText Cjson

namespace TaskClient

inductive PeriodEvent where
  | response (ret : Int) (rsp : Option RspData)
  | reconnect (env : ReconnectEnv)

def periods (codec : Codec) (pid : Int) : StepMachine TaskClient PeriodEvent TaskClientOut where
  step s
    | .response ret rsp => (s.heartbeatReqCb ret rsp, [])
    | .reconnect env => s.connectServerEventCb codec pid env

def succeeds : PeriodEvent → Bool
  | .response ret _ => ret = EventErrCode.succ.code
  | .reconnect _ => false

def Carries (h : ℚ) : PeriodEvent → Prop
  | .response ret rsp =>
      ret = EventErrCode.succ.code → ∃ pid, rsp = some (.heartbeat ⟨pid, h⟩)
  | .reconnect _ => True

def Announced (s : TaskClient) : Prop := s.s_heartbeat_timer.interval = s.s_heartbeat_timeout

def SamePeriod (s s' : TaskClient) : Prop :=
  s'.s_heartbeat_timer.interval = s.s_heartbeat_timer.interval ∧
    s'.s_heartbeat_timeout = s.s_heartbeat_timeout

theorem sendReqHearbeat_period (codec : Codec) (pid : Int) (s : TaskClient) (env : SendEnv) :
    SamePeriod s (s.sendReqHearbeat codec pid env).1 := by
  rw [sendReqHearbeat.eq_def]
  split <;> exact ⟨rfl, rfl⟩

theorem connectServerEventCb_period (codec : Codec) (pid : Int) (s : TaskClient)
    (env : ReconnectEnv) : SamePeriod s (s.connectServerEventCb codec pid env).1 := by
  have connection := connectServerEventCb_connection codec pid s env
  generalize s.connectServerEventCb codec pid env = ended at connection ⊢
  rcases ended with ⟨s', outs⟩
  dsimp only at connection ⊢
  cases connection with
  | unopened closed => exact ⟨rfl, rfl⟩
  | unconnected socket refused => exact ⟨rfl, rfl⟩
  | unmade socket connects throws => exact ⟨rfl, rfl⟩
  | unwatched uninit made => exact ⟨rfl, rfl⟩
  | watched uninit made socket sent sends =>
      have same := sendReqHearbeat_period codec pid
        (s.clearGlobalData.1.attached env.socket uninit) env.send
      rw [← sends] at same
      refine ⟨?_, same.2⟩
      dsimp only
      split
      · exact same.1
      · exact same.1

theorem heartbeatReqCb_timeout {h : ℚ} {ret : Int} {rsp : Option RspData}
    (carries : Carries h (.response ret rsp)) (s : TaskClient) :
    (s.heartbeatReqCb ret rsp).s_heartbeat_timeout =
      if ret = EventErrCode.succ.code ∧ 1 < h then h else s.s_heartbeat_timeout := by
  by_cases succ : ret = EventErrCode.succ.code
  · rcases carries succ with ⟨pid, rfl⟩
    by_cases above : 1 < h
    · by_cases same : h = s.s_heartbeat_timeout
      · simp [heartbeatReqCb, succ, same]
      · simp [heartbeatReqCb, succ, above, same]
    · simp [heartbeatReqCb, above]
  · rw [if_neg fun both => succ both.1, heartbeatReqCb.eq_def]
    split
    · rw [if_neg fun both => succ both.1]
    · rfl

theorem heartbeatReqCb_announced {s : TaskClient} (announced : Announced s) (ret : Int)
    (rsp : Option RspData) : Announced (s.heartbeatReqCb ret rsp) := by
  rw [heartbeatReqCb.eq_def]
  split
  · split
    · rfl
    · exact announced
  · exact announced

variable (codec : Codec) (pid : Int)

theorem announced_next {s : TaskClient} (announced : Announced s) (e : PeriodEvent) :
    Announced ((periods codec pid).next s e) := by
  cases e with
  | response ret rsp => exact heartbeatReqCb_announced announced ret rsp
  | reconnect env =>
      rcases connectServerEventCb_period codec pid s env with ⟨interval, timeout⟩
      exact interval.trans (announced.trans timeout.symm)

theorem timeout_next {h : ℚ} {e : PeriodEvent} (carries : Carries h e) (s : TaskClient) :
    ((periods codec pid).next s e).s_heartbeat_timeout =
      if succeeds e = true ∧ 1 < h then h else s.s_heartbeat_timeout := by
  cases e with
  | response ret rsp =>
      simp only [succeeds, decide_eq_true_eq]
      exact heartbeatReqCb_timeout carries s
  | reconnect env =>
      rw [if_neg fun both => absurd both.1 Bool.false_ne_true]
      exact (connectServerEventCb_period codec pid s env).2

theorem timeout_run {h : ℚ} {es : List PeriodEvent} (carrying : ∀ e ∈ es, Carries h e)
    (s : TaskClient) :
    ((periods codec pid).run s es).s_heartbeat_timeout =
      if es.any succeeds = true ∧ 1 < h then h else s.s_heartbeat_timeout := by
  induction es generalizing s with
  | nil => rw [if_neg fun both => absurd both.1 Bool.false_ne_true]; rfl
  | cons e es ih =>
      have first := timeout_next codec pid (carrying e List.mem_cons_self) s
      have later : ∀ e' ∈ es, Carries h e' :=
        fun e' member => carrying e' (List.mem_cons_of_mem e member)
      rw [StepMachine.run_cons, ih later, first, List.any_cons]
      cases succeeds e <;> by_cases above : 1 < h <;> simp [above]

theorem threadStartCb_period {instOk timerOk : Bool} {delay : UInt32} {start : TaskClient}
    (started : threadStartCb instOk delay timerOk = some start) :
    Announced start ∧ start.s_heartbeat_timeout = 5 := by
  rw [threadStartCb] at started
  split at started
  · cases started
  split at started
  · cases started
  · obtain rfl := Option.some.inj started
    exact ⟨rfl, rfl⟩

end TaskClient

theorem TaskObj.create_timer {memory t : TaskObj} {name path param : Text}
    {heartbeat random : UInt32} {timerOk : Bool} {calls : List SysCall}
    (created : TaskObj.create memory name path param heartbeat random timerOk = (some t, calls)) :
    ∃ timer, t.mTimer = some timer ∧ timer.interval = t.getTaskHeartbeat ∧
      t.getTaskHeartbeat = heartbeat.toNat := by
  rw [TaskObj.create] at created
  split at created
  · obtain rfl := Option.some.inj (congrArg Prod.fst created)
    exact ⟨_, rfl, rfl, rfl⟩
  · cases created

open TaskClient

/-- The period is the announced interval, and after a success the daemon waits at least as long
for the task. -/
structure PeriodsAgree (t : TaskObj) (met : List PeriodEvent) (s : TaskClient) : Prop where
  announced : Announced s
  bounded : met.any succeeds = true → ∃ timer, t.mTimer = some timer ∧
    timer.interval = t.getTaskHeartbeat ∧ s.s_heartbeat_timer.interval ≤ timer.interval

/-- For a task with a heartbeat, client and daemon agree along a sequence of responses and
reconnects exactly when it has no success or the heartbeat is not 1. -/
theorem periods_agree_iff (codec : Codec) (pid : Int) {memory t : TaskObj}
    {name path param : Text} {heartbeat random : UInt32} {timerOk : Bool} {calls : List SysCall}
    (positive : 1 ≤ heartbeat)
    (created : TaskObj.create memory name path param heartbeat random timerOk = (some t, calls))
    {instOk clientTimerOk : Bool} {delay : UInt32} {start : TaskClient}
    (started : threadStartCb instOk delay clientTimerOk = some start) {es : List PeriodEvent}
    (carrying : ∀ e ∈ es, Carries t.getTaskHeartbeat e) :
    (∀ front back, es = front ++ back →
      PeriodsAgree t front ((periods codec pid).run start front)) ↔
      (es.any succeeds = true → heartbeat ≠ 1) := by
  rcases TaskObj.create_timer created with ⟨timer, armed, interval, heartbeats⟩
  rcases threadStartCb_period started with ⟨announced, five⟩
  have always (front : List PeriodEvent) : Announced ((periods codec pid).run start front) :=
    (periods codec pid).run_invariant_all Announced
      (fun s e held => announced_next codec pid held e) front announced
  constructor
  · intro every success one
    have agrees := every es [] (List.append_nil es).symm
    rcases agrees.bounded success with ⟨timer', armed', same, bound⟩
    -- an interval of 1 is not adopted: the announced period is still 5
    have not_above : ¬ (1 : ℚ) < ((1 : UInt32).toNat : ℚ) := by decide
    rw [always es, timeout_run codec pid carrying, same, heartbeats, one, five,
      if_neg fun both => not_above both.2] at bound
    exact absurd bound (by decide)
  · intro above front back split
    refine ⟨always front, ?_⟩
    intro success
    refine ⟨timer, armed, interval, ?_⟩
    have carried : ∀ e ∈ front, Carries t.getTaskHeartbeat e := by
      intro e member
      apply carrying
      rw [split]
      exact List.mem_append_left back member
    have met : es.any succeeds = true := by
      rw [split, List.any_append, success]
      rfl
    have large : 1 < heartbeat.toNat := by
      have differs : heartbeat.toNat ≠ 1 :=
        fun same => above met (UInt32.toNat_inj.mp same)
      have bound : 1 ≤ heartbeat.toNat := UInt32.le_iff_toNat_le.mp positive
      omega
    have adopts : 1 < t.getTaskHeartbeat := by
      rw [heartbeats]
      exact_mod_cast large
    rw [always front, timeout_run codec pid carried, if_pos ⟨success, adopts⟩, interval]

def timedTask (heartbeat : UInt32) : TaskObj :=
  ⟨text "cat", text "/bin/cat", [], heartbeat, 0, some (.create 3 heartbeat.toNat), .U, none, none,
    0⟩

theorem created_timedTask (heartbeat : UInt32) :
    TaskObj.create ⟨[], [], [], 0, 0, none, .U, none, none, 0⟩ (text "cat") (text "/bin/cat") []
      heartbeat 3 true = (some (timedTask heartbeat), []) := rfl

def answeredOnce (h : ℚ) : List PeriodEvent :=
  [.response 0 (some (.heartbeat ⟨7, h⟩)), .reconnect connects,
    .response EventErrCode.timeout.code none]

theorem answeredOnce_carries (h : ℚ) : ∀ e ∈ answeredOnce h, Carries h e := by
  intro e member
  simp only [answeredOnce, List.mem_cons, List.not_mem_nil, or_false] at member
  rcases member with rfl | rfl | rfl
  · exact fun _ => ⟨7, rfl⟩
  · trivial
  · exact fun succ => absurd succ (by decide)

theorem periods_agree_iff_ten :
    (answeredOnce 10).any succeeds = true ∧
      ∀ front back, answeredOnce 10 = front ++ back →
        PeriodsAgree (timedTask 10) front ((periods textCodec 40).run startedClient front) := by
  have started : threadStartCb true 3 true = some startedClient := rfl
  constructor
  · rfl
  · exact (periods_agree_iff textCodec 40 (by decide) (created_timedTask 10) started
      (answeredOnce_carries 10)).mpr (fun _ => by decide)

/-- The daemon waits one second for a task that goes on sending every five. -/
theorem one_is_not_adopted :
    (∀ e ∈ answeredOnce 1, Carries (timedTask 1).getTaskHeartbeat e) ∧
      ¬ PeriodsAgree (timedTask 1) (answeredOnce 1)
        ((periods textCodec 40).run startedClient (answeredOnce 1)) := by
  constructor
  · exact answeredOnce_carries 1
  · intro agree
    have unadopted : ((periods textCodec 40).run startedClient
        (answeredOnce 1)).s_heartbeat_timer.interval = 5 := by decide +kernel
    rcases agree.bounded rfl with ⟨timer, armed, _, bound⟩
    obtain rfl := Option.some.inj armed
    rw [unadopted] at bound
    exact absurd bound (by decide)

end TaskMonitor
