import TaskMonitor.TargetResolution
import TaskMonitor.DaemonSteps

/-! What a request leaves of the registry, against the code it is answered with, whatever
allocations fail. -/

namespace TaskMonitor

open CText Cjson

def Changes (fork action : Int) (t : TaskObj) : Prop :=
  action = taskActionStart ∧ t.mStatus = .U ∨ action = taskActionStop ∧ t.mStatus ≠ .U ∨
    action = taskActionRestart ∧ ¬ (t.mStatus = .R ∧ t.mPid = fork ∧
      t.mTimer.map Timer.start = t.mTimer ∧ t.mReadIo = none)

namespace TaskObj

theorem startTask_changes (t : TaskObj) (pid : Int) :
    (t.startTask pid).task ≠ t ↔ t.mStatus = .U := by
  by_cases idle : t.mStatus = .U
  · rw [startTask_of_idle idle]
    refine iff_of_true ?_ idle
    intro same
    have running : TaskStatus.R = t.mStatus := congrArg TaskObj.mStatus same
    rw [idle] at running
    cases running
  · rw [startTask_of_active idle]
    exact iff_of_false (fun changed => changed rfl) idle

theorem stopTask_changes (t : TaskObj) : t.stopTask.task ≠ t ↔ t.mStatus ≠ .U := by
  by_cases idle : t.mStatus = .U
  · rw [stopTask_of_idle idle]
    exact iff_of_false (fun changed => changed rfl) (fun active => active idle)
  · refine iff_of_true ?_ idle
    intro same
    exact idle (same ▸ t.stopTask_idle)

theorem closeReadIo_mReadIo (t : TaskObj) : t.closeReadIo.1.mReadIo = none := by
  rw [closeReadIo]
  split
  · assumption
  · split <;> rfl

theorem restartTask_changes (t : TaskObj) (pid : Int) :
    (t.restartTask pid).task ≠ t ↔ ¬ (t.mStatus = .R ∧ t.mPid = pid ∧
      t.mTimer.map Timer.start = t.mTimer ∧ t.mReadIo = none) := by
  have started := startTask_of_idle t.stopTask_idle pid
  have timer := (Daemon.restartTask_started t pid).2.1
  rw [restartTask, started] at timer ⊢
  apply not_congr
  constructor
  · intro same
    have running : TaskStatus.R = t.mStatus := congrArg TaskObj.mStatus same
    have active : t.mStatus ≠ .U := by
      rw [← running]
      decide
    have unwatched : t.stopTask.task.mReadIo = none := by
      rw [stopTask, if_neg active]
      exact t.closeReadIo_mReadIo
    have fresh := congrArg TaskObj.mTimer same
    have watcher := congrArg TaskObj.mReadIo same
    have forked := congrArg TaskObj.mPid same
    exact ⟨running.symm, forked.symm, timer.symm.trans fresh, watcher.symm.trans unwatched⟩
  · intro kept
    rcases kept with ⟨running, forked, fresh, unwatched⟩
    have active : t.mStatus ≠ .U := by
      rw [running]
      decide
    have closed : t.closeReadIo.1 = t := by
      rw [closeReadIo, unwatched]
    have stopped : t.stopTask.task =
        { t with mTimer := t.mTimer.map Timer.stop, mStatus := .U } := by
      rw [stopTask, if_neg active]
      dsimp only
      rw [closed]
    dsimp only at timer ⊢
    rw [timer, fresh, stopped, ← running, ← forked]

end TaskObj

def actedOn (fork action : Int) (t : TaskObj) : TaskObj :=
  if action = taskActionStart then (t.startTask fork).task
  else if action = taskActionStop then t.stopTask.task
  else if action = taskActionRestart then (t.restartTask fork).task
  else t

theorem actedOn_changes (fork action : Int) (t : TaskObj) :
    actedOn fork action t ≠ t ↔ Changes fork action t := by
  rw [actedOn, Changes]
  split
  · rename_i start
    subst start
    rw [t.startTask_changes fork]
    simp [taskActionStart, taskActionStop, taskActionRestart]
  split
  · rename_i stop
    subst stop
    rw [t.stopTask_changes]
    simp [taskActionStart, taskActionStop, taskActionRestart]
  split
  · rename_i restart
    subst restart
    rw [t.restartTask_changes fork]
    simp [taskActionStart, taskActionStop, taskActionRestart]
  · simp_all

theorem actOn_taskList {w : CoreWorld} {i : Nat} {t : TaskObj}
    (found : w.registry.taskList[i]? = some t) (method : TaskObj → TaskResult) :
    (w.actOn i method).registry.taskList = w.registry.taskList.set i (method t).task ∧
      (w.actOn i method).registry.s_taskCount = w.registry.s_taskCount := by
  rw [CoreWorld.actOn, found]
  exact ⟨rfl, rfl⟩

theorem actedOn_eq (fork action : Int) (t : TaskObj) :
    actedOn fork action t =
      (demandedCall fork action).elim t (fun method => (method t).task) := by
  rw [actedOn, demandedCall]
  split
  · rfl
  split
  · rfl
  split
  · rfl
  · rfl

theorem processTaskAction_selected {env : CbEnv} {req : TaskActionReq} {w : CoreWorld} {i : Nat}
    {t : TaskObj} (selects : selectTask w.registry.taskList req.pid req.name = some i)
    (found : w.registry.taskList[i]? = some t) :
    (processTaskAction env req w).ret = .succ ∧
      (processTaskAction env req w).world.registry.taskList =
        w.registry.taskList.set i (actedOn env.fork req.action t) ∧
      (processTaskAction env req w).world.registry.s_taskCount = w.registry.s_taskCount := by
  rw [processTaskAction_makes selects, actedOn_eq]
  refine ⟨rfl, ?_⟩
  cases demandedCall env.fork req.action with
  | none =>
      have unchanged := (List.getElem?_eq_some_iff.mp found).2
      rw [← unchanged]
      exact ⟨(List.set_getElem_self _).symm, rfl⟩
  | some method => exact actOn_taskList found method

namespace MsgServer

def message (codec : Codec) (payload : List UInt8) : Option (Int × Option Json) := do
  let root ← codec.parse payload
  let type ← numberItem root (text "type")
  return (truncate type, getObjectItem root (text "data"))

variable {κ υ σ : Type*}

/-- What `parseServerData` hands to the socket. -/
def sentReply (codec : Codec) (call : CallbackSem κ υ σ) (alloc : AllocSite → Bool)
    (srv : MsgServer κ υ) (payload : List UInt8) (w : σ) : Option CString := do
  let request ← message codec payload
  replyFor codec alloc (dispatch codec call alloc srv request.1 request.2 w)

theorem parseServerData_message (codec : Codec) (call : CallbackSem κ υ σ)
    (alloc : AllocSite → Bool) (outcomes : List WriteOutcome) (srv : MsgServer κ υ)
    (reqId : UInt32) (payload : List UInt8) (w : σ) :
    (parseServerData codec call alloc outcomes srv reqId payload w).world =
        ((message codec payload).map fun request =>
          (dispatch codec call alloc srv request.1 request.2 w).world).getD w ∧
      (parseServerData codec call alloc outcomes srv reqId payload w).wire =
        ((sentReply codec call alloc srv payload w).map fun reply =>
          (writeFrame reqId (UInt32.ofNat (reply.strlen + 1)) reply.bytes outcomes).sent).getD
            [] := by
  rw [parseServerData, sentReply, message]
  cases codec.parse payload with
  | none => exact ⟨rfl, rfl⟩
  | some root =>
      cases typed : numberItem root (text "type") with
      | none => simp [typed]
      | some type =>
          simp only [typed, Option.bind_eq_bind, Option.bind_some, Option.pure_def,
            Option.map_some, Option.getD_some]
          split
          · rename_i silent
            rw [silent]
            exact ⟨rfl, rfl⟩
          · rename_i reply replied
            rw [replied]
            exact ⟨rfl, rfl⟩

/-- A handler leaves the world alone, or lets the callback of its type do what the request that
it has decoded asks for. -/
theorem processReq_world {type usrType : EventType} {decode : Option Json → Option (Req type)}
    {encode : Option (Rsp type) → Option Json} (codec : Codec) (call : CallbackSem κ υ σ)
    (alloc : AllocSite → Bool) {srv : MsgServer κ υ} {cb : κ}
    (registered : srv.mEventCb type = some cb) (data : Option Json) (w : σ) :
    (processReq type usrType decode encode codec call alloc srv data w).world =
      ((decode data).map fun req => (call cb type req (srv.mUserData usrType) w).world).getD w := by
  rw [processReq]
  cases decode data with
  | none => rfl
  | some req =>
      simp only [registered, Option.map_some, Option.getD_some]
      split
      · rfl
      · split
        · rfl
        · split <;> rfl

end MsgServer

theorem dispatch_reading (codec : Codec) (env : CbEnv) (alloc : AllocSite → Bool) (fd : Int)
    (uninit : EventType → Option Nat) (self : Nat) {type : Int}
    (reading : type ≠ EventType.taskAction.code) (value : Option Json) (w : CoreWorld) :
    (MsgServer.dispatch codec (coreCallbacks env) alloc (connectionServer fd uninit self) type value
      w).world = w := by
  have kept {α : Type} {decoded : Option α} {after : α → CoreWorld} (same : ∀ req, after req = w) :
      (decoded.map after).getD w = w := by
    cases decoded with
    | none => rfl
    | some req => exact same req
  have reads (usrData : Option Nat) (req : TaskSingleReq) := reading_callbacks env usrData req w
  have blank : TaskSingleReq := ⟨0, .zero 32 nameSize_pos⟩
  rw [MsgServer.dispatch]
  split
  · refine (MsgServer.processReq_world codec (coreCallbacks env) alloc rfl value w).trans (kept ?_)
    exact fun _ => (reads _ blank).1
  split
  · refine (MsgServer.processReq_world codec (coreCallbacks env) alloc rfl value w).trans (kept ?_)
    exact fun _ => (reads none blank).2.1
  split
  · refine (MsgServer.processReq_world codec (coreCallbacks env) alloc rfl value w).trans (kept ?_)
    exact fun req => (reads none req).2.2
  · rfl

def targetName (data : Json) : CString where
  text := content ((stringItem data (text "name")).getD [])
  noNul := nul_not_mem_content _

/-- The task that the pid or the name of a request selects. -/
def requestTarget (tasks : List TaskObj) (data : Json) : Option Nat :=
  documentedTarget tasks ((numberItem data (text "pid")).map truncate) (targetName data)

structure Commands (codec : Codec) (fork : Int) (payload : List UInt8) (tasks : List TaskObj)
    (data : Json) (req : TaskActionReq) (i : Nat) : Prop where
  arrived : MsgServer.message codec payload = some ((EventType.taskAction.code : Int), some data)
  decoded : MsgServer.decodeTaskActionReq (some data) = some req
  selects : selectTask tasks req.pid req.name = some i
  changes : ∀ t, tasks[i]? = some t → Changes fork req.action t

def retOf (codec : Codec) (reply : CString) : Option ℚ := do
  let root ← codec.parse reply.bytes
  numberItem root (text "ret")

def Refused (codec : Codec) (answer : Option CString) : Prop :=
  answer = none ∨ ∃ reply code, answer = some reply ∧ retOf codec reply = some code ∧ code ≠ 0

def Granted (codec : Codec) (answer : Option CString) : Prop :=
  ∃ reply, answer = some reply ∧ retOf codec reply = some 0

/-- A refused request leaves the registry as it was. A granted one changes no task but the one
that a TASK_ACTION selects. -/
structure Atomic (codec : Codec) (payload : List UInt8) (before after : Registry)
    (answer : Option CString) : Prop where
  refused : Refused codec answer → after = before
  granted : Granted codec answer → ∀ j, after.taskList[j]? ≠ before.taskList[j]? →
    ∃ data, MsgServer.message codec payload = some ((EventType.taskAction.code : Int), some data) ∧
      requestTarget before.taskList data = some j

def ReplyBuilt (alloc : AllocSite → Bool) : Prop := alloc .root = true ∧ alloc .print = true

def BareFailMsg (alloc : AllocSite → Bool) : Prop :=
  alloc .failRoot = true ∧ alloc .failPrint = true ∧ alloc .failMember = false

/-- The allocations under which a command is answered as it should be. -/
def Excused (alloc : AllocSite → Bool) (data : Json) (req : TaskActionReq) : Prop :=
  ReplyBuilt alloc ∧
      (alloc (.member (text "ret")) = true → req.pid ≠ 0 ∨ (targetName data).text = []) ∨
    ¬ ReplyBuilt alloc ∧ BareFailMsg alloc

theorem dispatch_action (codec : Codec) (env : CbEnv) (alloc : AllocSite → Bool) (fd : Int)
    (uninit : EventType → Option Nat) (self : Nat) (data : Json) (w : CoreWorld) :
    (MsgServer.dispatch codec (coreCallbacks env) alloc (connectionServer fd uninit self)
        EventType.taskAction.code (some data) w).world =
      ((MsgServer.decodeTaskActionReq (some data)).map fun req =>
        (processTaskAction env req w).world).getD w := by
  have handled : MsgServer.dispatch codec (coreCallbacks env) alloc
      (connectionServer fd uninit self) EventType.taskAction.code (some data) w =
      MsgServer.processTaskActionReq codec (coreCallbacks env) alloc
        (connectionServer fd uninit self) (some data) w := rfl
  have registered := (connectionServer_registered fd uninit self).2
  rw [handled]
  exact MsgServer.processReq_world codec (coreCallbacks env) alloc registered (some data) w

theorem dispatch_commandless {codec : Codec} {env : CbEnv} {payload : List UInt8} {w : CoreWorld}
    (commandless : ∀ data req i, ¬ Commands codec env.fork payload w.registry.taskList data req i)
    {type : Int} {value : Option Json}
    (arrived : MsgServer.message codec payload = some (type, value)) (alloc : AllocSite → Bool)
    (fd : Int) (uninit : EventType → Option Nat) (self : Nat) :
    (MsgServer.dispatch codec (coreCallbacks env) alloc (connectionServer fd uninit self) type value
      w).world.registry = w.registry := by
  by_cases action : type = EventType.taskAction.code
  · subst action
    cases value with
    | none => rfl
    | some data =>
        rw [dispatch_action]
        cases decoded : MsgServer.decodeTaskActionReq (some data) with
        | none => rfl
        | some req =>
            simp only [Option.map_some, Option.getD_some]
            cases selects : selectTask w.registry.taskList req.pid req.name with
            | none => rw [processTaskAction, selects]
            | some i =>
                rcases selectTask_found selects with ⟨t, found⟩
                have kept : actedOn env.fork req.action t = t := by
                  apply not_not.mp
                  rw [← ne_eq, actedOn_changes]
                  intro changes
                  apply commandless data req i
                  refine ⟨arrived, decoded, selects, ?_⟩
                  intro t' found'
                  rw [found] at found'
                  exact Option.some.inj found' ▸ changes
                rcases processTaskAction_selected selects found with ⟨_, list, count⟩
                rcases List.getElem?_eq_some_iff.mp found with ⟨bound, same⟩
                rw [kept, ← same, List.set_getElem_self] at list
                generalize (processTaskAction env req w).world.registry = r at list count
                cases r
                simp only at list count
                rw [list, count]
  · rw [dispatch_reading codec env alloc fd uninit self action]

def retTree (ok : Bool) (code : EventErrCode) : Json :=
  addNumberToObject ok (.object []) (text "ret") code.code

theorem retOf_print {codec : Codec} {ok : Bool} {code : EventErrCode}
    (trips : codec.RoundTrips (retTree ok code)) :
    retOf codec (codec.print (retTree ok code)) = if ok then some (code.code : ℚ) else none := by
  rw [retOf, trips]
  cases ok with
  | true => rfl
  | false => rfl

section Answers

variable {codec : Codec}

theorem refused_print_iff {ok : Bool} {code : EventErrCode}
    (trips : codec.RoundTrips (retTree ok code)) :
    (Refused codec (some (codec.print (retTree ok code))) ↔ ok = true ∧ code ≠ .succ) ∧
      (Granted codec (some (codec.print (retTree ok code))) ↔ ok = true ∧ code = .succ) := by
  have found := retOf_print trips
  have zero : (code.code : ℚ) = 0 ↔ code = .succ := by
    rw [Nat.cast_eq_zero, code.code_eq_zero_iff]
  cases ok with
  | true => simp [Refused, Granted, found, zero]
  | false => simp [Refused, Granted, found]

theorem refused_createFailMsg_iff (trips : ∀ ok code, codec.RoundTrips (retTree ok code))
    (alloc : AllocSite → Bool) :
    (Refused codec (MsgServer.createFailMsg codec alloc .mem) ↔ ¬ BareFailMsg alloc) ∧
      ¬ Granted codec (MsgServer.createFailMsg codec alloc .mem) := by
  have silent : Refused codec none ∧ ¬ Granted codec none := by simp [Refused, Granted]
  have sent := refused_print_iff (trips (alloc .failMember) .mem)
  have built : MsgServer.createFailMsg codec alloc .mem =
      if alloc .failRoot = true ∧ alloc .failPrint = true then
        some (codec.print (retTree (alloc .failMember) .mem)) else none := by
    rw [MsgServer.createFailMsg, createObject]
    cases alloc .failRoot with
    | false => rfl
    | true => simp [retTree]
  rw [built, BareFailMsg]
  split
  · rename_i allocated
    rw [sent.1, sent.2]
    simp [allocated]
  · rename_i starved
    constructor
    · exact iff_of_true silent.1 fun bare => starved ⟨bare.1, bare.2.1⟩
    · exact silent.2

theorem sentReply_command {env : CbEnv} {payload : List UInt8} {w : CoreWorld} {data : Json}
    {req : TaskActionReq} {i : Nat}
    (command : Commands codec env.fork payload w.registry.taskList data req i)
    (alloc : AllocSite → Bool) (fd : Int) (uninit : EventType → Option Nat) (self : Nat) :
    (ReplyBuilt alloc → MsgServer.sentReply codec (coreCallbacks env) alloc
        (connectionServer fd uninit self) payload w =
          some (codec.print (retTree (alloc (.member (text "ret"))) .succ))) ∧
      (¬ ReplyBuilt alloc → MsgServer.sentReply codec (coreCallbacks env) alloc
        (connectionServer fd uninit self) payload w =
          MsgServer.createFailMsg codec alloc .mem) := by
  rcases selectTask_found command.selects with ⟨t, found⟩
  have succ : (coreCallbacks env .processTaskAction .taskAction req
      ((connectionServer fd uninit self).mUserData .queryAll) w).ret = .succ :=
    (processTaskAction_selected command.selects found).1
  have registered := (connectionServer_registered fd uninit self).2
  have handled : MsgServer.sentReply codec (coreCallbacks env) alloc
      (connectionServer fd uninit self) payload w =
      MsgServer.replyFor codec alloc (MsgServer.processTaskActionReq codec (coreCallbacks env) alloc
        (connectionServer fd uninit self) (some data) w) := by
    rw [MsgServer.sentReply, command.arrived]
    rfl
  rw [handled, MsgServer.processTaskActionReq, MsgServer.processReq, command.decoded]
  simp only [registered, succ, MsgServer.encodeTaskActionRsp, createObject, ReplyBuilt]
  cases alloc .root with
  | false => simp [MsgServer.replyFor]
  | true =>
      cases alloc .print with
      | false => simp [MsgServer.replyFor]
      | true => simp [MsgServer.replyFor, retTree, EventErrCode.code]

theorem truncate_isPid (d : ℚ) : IsPid (truncate d) := by
  rw [IsPid, truncate]
  omega

theorem decodeTaskActionReq_some {data : Json} {req : TaskActionReq}
    (decoded : MsgServer.decodeTaskActionReq (some data) = some req) :
    ∃ pid, numberItem data (text "pid") = some pid ∧ req.pid = UInt32.ofInt (truncate pid) ∧
      req.name = .zero 32 nameSize_pos := by
  cases object : data.isObject with
  | false => simp [MsgServer.decodeTaskActionReq, MsgServer.objectData, object] at decoded
  | true =>
      cases pidItem : numberItem data (text "pid") with
      | none =>
          simp [MsgServer.decodeTaskActionReq, MsgServer.objectData, object, pidItem] at decoded
      | some pid =>
          simp only [MsgServer.decodeTaskActionReq, MsgServer.objectData, object, if_true, pidItem,
            Option.bind_eq_bind, Option.bind_some, Option.bind_eq_some_iff, Option.pure_def,
            Option.some.injEq] at decoded
          rcases decoded with ⟨action, _, rfl⟩
          exact ⟨pid, rfl, rfl, rfl⟩

/-- A command is about the task that the request selects, unless it looks up an empty name in
the place of another. -/
theorem requestTarget_command {fork : Int} {payload : List UInt8} {tasks : List TaskObj}
    (pids : ∀ t ∈ tasks, IsPid t.mPid) {data : Json} {req : TaskActionReq} {i : Nat}
    (command : Commands codec fork payload tasks data req i) :
    requestTarget tasks data = some i ↔ req.pid ≠ 0 ∨ (targetName data).text = [] := by
  have selects := command.selects
  rcases decodeTaskActionReq_some command.decoded with ⟨pid, item, word, name⟩
  have range := truncate_isPid pid
  have documented := selectTask_documented_iff pids range (targetName data)
  rw [word, name] at selects
  rw [selects] at documented
  have target : requestTarget tasks data =
      documentedTarget tasks (some (truncate pid)) (targetName data) := by
    rw [requestTarget, item]
    rfl
  rw [target, eq_comm, documented, word, ofInt_ne_zero_iff range]
  by_cases zero : truncate pid = 0
  · rw [zero] at selects
    rcases (FirstIndex.findIdx?_eq_some_iff.mp selects).1 with ⟨t, found, passes⟩
    have nameless : content t.mName = [] := of_decide_eq_true passes
    have blank : ¬ ∀ t ∈ tasks, content t.mName ≠ [] ∧ content t.mName ≠ (targetName data).text :=
      fun named => (named t (List.mem_of_getElem? found)).1 nameless
    simp only [blank, or_false]
  · simp [zero]

/-- With a change to task `i` behind it, a request must not be refused, and must have selected
that task if it is granted. -/
theorem atomic_changed_iff {payload : List UInt8} {before after : Registry} {i : Nat}
    {t t' : TaskObj} (found : before.taskList[i]? = some t) (changed : t' ≠ t)
    (list : after.taskList = before.taskList.set i t') {data : Json}
    (arrived : MsgServer.message codec payload =
      some ((EventType.taskAction.code : Int), some data)) (answer : Option CString) :
    Atomic codec payload before after answer ↔
      ¬ Refused codec answer ∧
        (Granted codec answer → requestTarget before.taskList data = some i) := by
  rcases List.getElem?_eq_some_iff.mp found with ⟨bound, _⟩
  have differs : after.taskList[i]? ≠ before.taskList[i]? := by
    rw [list, List.getElem?_set_self bound, found]
    exact fun same => changed (Option.some.inj same)
  constructor
  · intro whole
    constructor
    · intro refused
      rw [whole.refused refused] at differs
      exact differs rfl
    · intro granted
      rcases whole.granted granted i differs with ⟨data', arrived', target⟩
      rw [arrived] at arrived'
      simp only [Option.some.injEq, Prod.mk.injEq, true_and] at arrived'
      rw [arrived']
      exact target
  · intro answered
    constructor
    · exact fun refused => absurd refused answered.1
    · intro granted j changes
      have same : i = j := by
        apply not_not.mp
        intro elsewhere
        exact changes (by rw [list, List.getElem?_set_ne elsewhere])
      subst same
      exact ⟨data, arrived, answered.2 granted⟩

theorem excused_iff {fork : Int} {payload : List UInt8} {tasks : List TaskObj} {data : Json}
    {req : TaskActionReq} {i : Nat} (command : Commands codec fork payload tasks data req i)
    (alloc : AllocSite → Bool) :
    (∀ data req i, Commands codec fork payload tasks data req i → Excused alloc data req) ↔
      Excused alloc data req := by
  constructor
  · exact fun every => every data req i command
  · intro excused data' req' i' command'
    have arrived := command'.arrived
    have decoded := command'.decoded
    rw [command.arrived] at arrived
    simp only [Option.some.injEq, Prod.mk.injEq, true_and] at arrived
    subst arrived
    rw [command.decoded] at decoded
    exact Option.some.inj decoded ▸ excused

end Answers

variable {codec : Codec}

/-- A request is handled as a whole or not at all exactly when every command that changes its
task gets its reply built and, where the reply carries its `ret`, names the task by a pid or by
no name, or else gets a failure message without a `ret`. -/
theorem request_atomic_iff (trips : ∀ ok code, codec.RoundTrips (retTree ok code)) (env : CbEnv)
    (alloc : AllocSite → Bool) (outcomes : List WriteOutcome) (fd : Int)
    (uninit : EventType → Option Nat) (self : Nat) (reqId : UInt32) (payload : List UInt8)
    {w : CoreWorld} (pids : ∀ t ∈ w.registry.taskList, IsPid t.mPid) :
    Atomic codec payload w.registry
        (MsgServer.parseServerData codec (coreCallbacks env) alloc outcomes
          (connectionServer fd uninit self) reqId payload w).world.registry
        (MsgServer.sentReply codec (coreCallbacks env) alloc (connectionServer fd uninit self)
          payload w) ↔
      ∀ data req i, Commands codec env.fork payload w.registry.taskList data req i →
        Excused alloc data req := by
  rw [(MsgServer.parseServerData_message ..).1]
  -- a request that changes no task is handled atomically whatever is answered
  by_cases commandless : ∀ data req i,
      ¬ Commands codec env.fork payload w.registry.taskList data req i
  · refine iff_of_true ?_ (fun data req i command => absurd command (commandless data req i))
    have kept : (((MsgServer.message codec payload).map fun request =>
        (MsgServer.dispatch codec (coreCallbacks env) alloc (connectionServer fd uninit self)
          request.1 request.2 w).world).getD w).registry = w.registry := by
      cases arrived : MsgServer.message codec payload with
      | none => rfl
      | some request => exact dispatch_commandless commandless arrived alloc fd uninit self
    rw [kept]
    exact ⟨fun _ => rfl, fun _ j changes => absurd rfl changes⟩
  · simp only [not_forall, not_not] at commandless
    rcases commandless with ⟨data, req, i, command⟩
    have arrived := command.arrived
    rcases selectTask_found command.selects with ⟨t, found⟩
    have changed := (actedOn_changes env.fork req.action t).mpr (command.changes t found)
    have list : (processTaskAction env req w).world.registry.taskList =
        w.registry.taskList.set i (actedOn env.fork req.action t) :=
      (processTaskAction_selected command.selects found).2.1
    rcases sentReply_command command alloc fd uninit self with ⟨built, starved⟩
    rw [excused_iff command, arrived, Option.map_some, Option.getD_some, dispatch_action,
      command.decoded, Option.map_some, Option.getD_some,
      atomic_changed_iff found changed list arrived, requestTarget_command pids command, Excused]
    -- a reply that cannot be built gives way to a failure message, for a change that was made
    by_cases replied : ReplyBuilt alloc
    · have answers := refused_print_iff (trips (alloc (.member (text "ret"))) .succ)
      rw [built replied, answers.1, answers.2]
      simp [replied]
    · have answers := refused_createFailMsg_iff trips alloc
      rw [starved replied, answers.1]
      simp [replied, answers.2]

def stopData : Json := .object [(text "pid", .number 7), (text "hearbeat", .number 2)]

def stopRequest : List UInt8 :=
  (textCodec.print (.object [(text "type", .number 3), (text "data", stopData)])).bytes

theorem textCodec_retTree (ok : Bool) (code : EventErrCode) :
    textCodec.RoundTrips (retTree ok code) := by
  cases ok <;> cases code <;> rfl

theorem request_atomic_iff_stop :
    Atomic textCodec stopRequest oneTask.registry
      (MsgServer.parseServerData textCodec (coreCallbacks plainEnv) (fun _ => true) wholeWrites
        coreServer 1 stopRequest oneTask).world.registry
      (MsgServer.sentReply textCodec (coreCallbacks plainEnv) (fun _ => true) coreServer
        stopRequest oneTask) := by
  have pids : ∀ t ∈ oneTask.registry.taskList, IsPid t.mPid := by decide
  have arrived : MsgServer.message textCodec stopRequest = some (3, some stopData) := rfl
  have decoded : MsgServer.decodeTaskActionReq (some stopData) =
      some ⟨7, .zero 32 nameSize_pos, 2⟩ := rfl
  apply (request_atomic_iff textCodec_retTree plainEnv (fun _ => true) wholeWrites 5
    (fun _ => none) 0 1 stopRequest pids).mpr
  intro data req i command
  have found := command.arrived
  rw [arrived] at found
  simp only [Option.some.injEq, Prod.mk.injEq] at found
  have request := command.decoded
  rw [← found.2, decoded] at request
  obtain rfl := Option.some.inj request
  exact .inl ⟨⟨rfl, rfl⟩, fun _ => .inl (by decide)⟩

def rootless (site : AllocSite) : Bool := site ≠ .root

/-- The task is stopped, and the answer is EVENT_ERROR_MEM. -/
theorem stopped_and_refused :
    ¬ Atomic textCodec stopRequest oneTask.registry
      (MsgServer.parseServerData textCodec (coreCallbacks plainEnv) rootless wholeWrites coreServer
        1 stopRequest oneTask).world.registry
      (MsgServer.sentReply textCodec (coreCallbacks plainEnv) rootless coreServer stopRequest
        oneTask) := by
  have answer : MsgServer.sentReply textCodec (coreCallbacks plainEnv) rootless coreServer
      stopRequest oneTask = some (textCodec.print (retTree true .mem)) := by decide +kernel
  have code : retOf textCodec (textCodec.print (retTree true .mem)) = some 6 := rfl
  have changed : (MsgServer.parseServerData textCodec (coreCallbacks plainEnv) rootless wholeWrites
      coreServer 1 stopRequest oneTask).world.registry ≠ oneTask.registry := by decide +kernel
  intro whole
  exact changed (whole.refused (.inr ⟨_, 6, answer, code, by decide⟩))

end TaskMonitor
