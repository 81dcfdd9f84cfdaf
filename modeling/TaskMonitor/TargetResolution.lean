import TaskMonitor.RoundTrip

/-! Which task the target of a request is resolved to. -/

namespace TaskMonitor

open CText Cjson

/-- The rule that `task_msg.h` states: by the pid, or by the name where the pid is empty. -/
def documentedTarget (tasks : List TaskObj) (pid : Option Int) (name : CString) : Option Nat :=
  if pid.getD 0 ≠ 0 then tasks.findIdx? (·.getTaskPid = pid.getD 0)
  else tasks.findIdx? (content ·.getTaskName = name.text)

/-- The `data` item for a target, without a `pid` where there is none. -/
def targetData (pid : Option Int) (name : CString) : Json :=
  let data : Json :=
    match pid with
    | some p => addNumberToObject true (.object []) (text "pid") p
    | none => .object []
  addStringToObject true data (text "name") name.text

/-- The same with an action, under the key that the handler reads. -/
def actionData (pid : Option Int) (name : CString) (action : Int) : Json :=
  addNumberToObject true (targetData pid name) (text "hearbeat") action

def selected (tasks : List TaskObj) : Invocation CoreCb Nat → Option Nat
  | ⟨_, .queryTask, req, _, _⟩ => selectTask tasks req.pid req.name
  | ⟨_, .taskAction, req, _, _⟩ => selectTask tasks req.pid req.name
  | _ => none

def connectionServer (fd : Int) (uninit : EventType → Option Nat) (self : Nat) :
    MsgServer CoreCb Nat :=
  TaskObjClient.registerCallbacks (.new fd uninit) self

theorem connectionServer_registered (fd : Int) (uninit : EventType → Option Nat) (self : Nat) :
    (connectionServer fd uninit self).mEventCb .queryTask = some .processGetSingleTask ∧
      (connectionServer fd uninit self).mEventCb .taskAction = some .processTaskAction :=
  ⟨rfl, rfl⟩

theorem targetData_isObject (pid : Option Int) (name : CString) :
    (targetData pid name).isObject = true := by
  cases pid <;> rfl

theorem targetData_pid (pid : Option Int) (name : CString) :
    getObjectItem (targetData pid name) (text "pid") = pid.map fun p => .number p := by
  cases pid <;> rfl

namespace MsgServer

theorem decodeQuerySingleTaskReq_pid {p : Int} (range : IsPid p) (name : CString) :
    decodeQuerySingleTaskReq (some (targetData (some p) name)) =
      some ⟨UInt32.ofInt p, .zero 32 nameSize_pos⟩ := by
  have cut := truncate_intCast range.1 range.2
  simp [decodeQuerySingleTaskReq, objectData, targetData_isObject, targetData_pid, cut]

theorem actionData_items (pid : Option Int) (name : CString) (action : Int) :
    (actionData pid name action).isObject = true ∧
      numberItem (actionData pid name action) (text "pid") = pid.map (fun p => (p : ℚ)) ∧
      numberItem (actionData pid name action) (text "hearbeat") = some (action : ℚ) := by
  cases pid with
  | none => exact ⟨rfl, rfl, rfl⟩
  | some p => exact ⟨rfl, rfl, rfl⟩

theorem decodeTaskActionReq_pid {p : Int} (range : IsPid p) (name : CString) (action : Int) :
    decodeTaskActionReq (some (actionData (some p) name action)) =
      some ⟨UInt32.ofInt p, .zero 32 nameSize_pos, truncate action⟩ := by
  have cut := truncate_intCast range.1 range.2
  rcases actionData_items (some p) name action with ⟨object, pidItem, actionItem⟩
  simp [decodeTaskActionReq, objectData, object, pidItem, actionItem, cut]

theorem decodeTaskActionReq_name (name : CString) (action : Int) :
    decodeTaskActionReq (some (actionData none name action)) = none := by
  rcases actionData_items none name action with ⟨object, pidItem, _⟩
  simp [decodeTaskActionReq, objectData, object, pidItem]

variable {κ υ σ : Type*}

theorem processReq_invoked {type usrType : EventType} {decode : Option Json → Option (Req type)}
    {encode : Option (Rsp type) → Option Json} (codec : Codec) (call : CallbackSem κ υ σ)
    (alloc : AllocSite → Bool) {srv : MsgServer κ υ} {data : Option Json} (w : σ) {cb : κ}
    (registered : srv.mEventCb type = some cb) :
    (processReq type usrType decode encode codec call alloc srv data w).invoked =
      (decode data).map fun req =>
        ⟨cb, type, req, srv.mUserData usrType,
          (call cb type req (srv.mUserData usrType) w).ret⟩ := by
  rw [processReq]
  cases decode data with
  | none => rfl
  | some req =>
      simp only [registered, Option.map_some]
      split
      · rfl
      · split
        · rfl
        · split <;> rfl

end MsgServer

/-- A message of some type with some `data` item is printed, parsed and handled, and the
callback it gets to works on the task `target`. -/
def Resolves (codec : Codec) (env : CbEnv) (alloc : AllocSite → Bool) (srv : MsgServer CoreCb Nat)
    (w : CoreWorld) (type : EventType) (data : Json) (target : Option Nat) : Prop :=
  ∃ tree inv, MsgClient.requestTree (fun _ => true) type data = some tree ∧
    (MsgServer.dispatch codec (coreCallbacks env) alloc srv type.code
      (dataItem codec (codec.print tree)) w).invoked = some inv ∧
    selected w.registry.taskList inv = target

section Handlers

variable {codec : Codec} {env : CbEnv} {alloc : AllocSite → Bool} {srv : MsgServer CoreCb Nat}
  {w : CoreWorld} {data : Json} {target : Option Nat}

theorem resolves_iff {type usrType : EventType} {decode : Option Json → Option (Req type)}
    {encode : Option (Rsp type) → Option Json} {cb : CoreCb} {select : Req type → Option Nat}
    (handles : ∀ value, MsgServer.dispatch codec (coreCallbacks env) alloc srv type.code value w =
      MsgServer.processReq type usrType decode encode codec (coreCallbacks env) alloc srv value w)
    (registered : srv.mEventCb type = some cb)
    (selects : ∀ req usrData ret,
      selected w.registry.taskList ⟨cb, type, req, usrData, ret⟩ = select req)
    (roundTrips : ∀ tree, MsgClient.requestTree (fun _ => true) type data = some tree →
      codec.RoundTrips tree) :
    Resolves codec env alloc srv w type data target ↔
      ∃ req, decode (some data) = some req ∧ select req = target := by
  have built : ∃ tree, MsgClient.requestTree (fun _ => true) type data = some tree := ⟨_, rfl⟩
  rcases built with ⟨tree, built⟩
  have arrived := MsgServer.dataItem_print (roundTrips tree built)
  rw [MsgClient.requestTree_data built] at arrived
  have invoked : (MsgServer.dispatch codec (coreCallbacks env) alloc srv type.code
      (dataItem codec (codec.print tree)) w).invoked =
        (decode (some data)).map fun req =>
          ⟨cb, type, req, srv.mUserData usrType,
            (coreCallbacks env cb type req (srv.mUserData usrType) w).ret⟩ := by
    rw [arrived, handles]
    exact MsgServer.processReq_invoked codec (coreCallbacks env) alloc w registered
  constructor
  · rintro ⟨tree', inv, built', handled, chosen⟩
    rw [built] at built'
    obtain rfl := Option.some.inj built'
    rw [invoked] at handled
    rcases Option.map_eq_some_iff.mp handled with ⟨req, decoded, rfl⟩
    rw [selects] at chosen
    exact ⟨req, decoded, chosen⟩
  · rintro ⟨req, decoded, chosen⟩
    rw [decoded] at invoked
    exact ⟨tree, _, built, invoked, (selects req _ _).trans chosen⟩

theorem resolves_query_iff (registered : srv.mEventCb .queryTask = some .processGetSingleTask)
    (roundTrips : ∀ tree, MsgClient.requestTree (fun _ => true) .queryTask data = some tree →
      codec.RoundTrips tree) :
    Resolves codec env alloc srv w .queryTask data target ↔
      ∃ req, MsgServer.decodeQuerySingleTaskReq (some data) = some req ∧
        selectTask w.registry.taskList req.pid req.name = target :=
  resolves_iff (fun _ => rfl) registered (fun _ _ _ => rfl) roundTrips

theorem resolves_action_iff (registered : srv.mEventCb .taskAction = some .processTaskAction)
    (roundTrips : ∀ tree, MsgClient.requestTree (fun _ => true) .taskAction data = some tree →
      codec.RoundTrips tree) :
    Resolves codec env alloc srv w .taskAction data target ↔
      ∃ req, MsgServer.decodeTaskActionReq (some data) = some req ∧
        selectTask w.registry.taskList req.pid req.name = target :=
  resolves_iff (fun _ => rfl) registered (fun _ _ _ => rfl) roundTrips

end Handlers

/-- The pid that a decoder finds is looked up as documented, unless it is 0: then the name
that is looked up is empty. -/
theorem selectTask_documented_iff {tasks : List TaskObj} (pids : ∀ t ∈ tasks, IsPid t.mPid)
    {p : Int} (range : IsPid p) (name : CString) :
    selectTask tasks (UInt32.ofInt p) (.zero 32 nameSize_pos) =
        documentedTarget tasks (some p) name ↔
      p ≠ 0 ∨ name.text = [] ∨
        ∀ t ∈ tasks, content t.mName ≠ [] ∧ content t.mName ≠ name.text := by
  by_cases zero : p = 0
  · subst zero
    have searched : selectTask tasks (UInt32.ofInt 0) (.zero 32 nameSize_pos) =
        tasks.findIdx? (content ·.getTaskName = []) := selectTask_of_zero tasks _
    have documented : documentedTarget tasks (some 0) name =
        tasks.findIdx? (content ·.getTaskName = name.text) := rfl
    rw [searched, documented]
    by_cases empty : name.text = []
    · rw [empty]
      exact iff_of_true rfl (.inr (.inl rfl))
    · have exclusive : ∀ t ∈ tasks, decide (content t.getTaskName = []) = true →
          decide (content t.getTaskName = name.text) = false := by
        intro t _ blank
        have nameless : content t.getTaskName = [] := of_decide_eq_true blank
        rw [nameless]
        exact decide_eq_false fun same => empty same.symm
      have neither : ∀ t : TaskObj, decide (content t.getTaskName = []) = false ∧
          decide (content t.getTaskName = name.text) = false ↔
            content t.mName ≠ [] ∧ content t.mName ≠ name.text := fun _ =>
        and_congr decide_eq_false_iff_not decide_eq_false_iff_not
      rw [FirstIndex.findIdx?_eq_iff_of_disjoint exclusive]
      simp only [neither, ne_eq, not_true_eq_false, empty, false_or]
  · have documented : documentedTarget tasks (some p) name =
        tasks.findIdx? (·.getTaskPid = p) := if_pos zero
    rw [selectTask_of_pid pids range zero, documented]
    exact iff_of_true rfl (.inl zero)

/-- Queries and actions for a target both get to the task that the rule names, exactly when
there is a pid and the pid alone decides: it is not 0, or looking up the empty name in the
place of `name` makes no difference. -/
theorem target_resolved_iff {codec : Codec} {env : CbEnv} {alloc : AllocSite → Bool} {fd : Int}
    {uninit : EventType → Option Nat} {self : Nat} {w : CoreWorld} {pid : Option Int}
    {name : CString} {action : Int} (pids : ∀ t ∈ w.registry.taskList, IsPid t.mPid)
    (range : ∀ p ∈ pid, IsPid p)
    (queryTrips : ∀ tree,
      MsgClient.requestTree (fun _ => true) .queryTask (targetData pid name) = some tree →
        codec.RoundTrips tree)
    (actionTrips : ∀ tree,
      MsgClient.requestTree (fun _ => true) .taskAction (actionData pid name action) = some tree →
        codec.RoundTrips tree) :
    (Resolves codec env alloc (connectionServer fd uninit self) w .queryTask (targetData pid name)
        (documentedTarget w.registry.taskList pid name) ∧
      Resolves codec env alloc (connectionServer fd uninit self) w .taskAction
        (actionData pid name action) (documentedTarget w.registry.taskList pid name)) ↔
      ∃ p, pid = some p ∧ (p ≠ 0 ∨ name.text = [] ∨
        ∀ t ∈ w.registry.taskList, content t.mName ≠ [] ∧ content t.mName ≠ name.text) := by
  have registered := connectionServer_registered fd uninit self
  rw [resolves_query_iff registered.1 queryTrips, resolves_action_iff registered.2 actionTrips]
  cases pid with
  | none =>
      rw [MsgServer.decodeTaskActionReq_name]
      simp
  | some p =>
      have pidRange := range p rfl
      have selection := selectTask_documented_iff pids pidRange name
      rw [MsgServer.decodeQuerySingleTaskReq_pid pidRange,
        MsgServer.decodeTaskActionReq_pid pidRange]
      simp [selection]

theorem noNul_cat : 0 ∉ text "cat" := by decide

def catName : CString := ⟨text "cat", noNul_cat⟩

/-- A target by pid, in a registry with one task. -/
theorem target_resolved_iff_seven :
    (Resolves textCodec plainEnv (fun _ => true) (connectionServer 5 (fun _ => none) 0) oneTask
        .queryTask (targetData (some 7) catName)
        (documentedTarget oneTask.registry.taskList (some 7) catName) ∧
      Resolves textCodec plainEnv (fun _ => true) (connectionServer 5 (fun _ => none) 0) oneTask
        .taskAction (actionData (some 7) catName taskActionStop)
        (documentedTarget oneTask.registry.taskList (some 7) catName)) ↔
      ∃ p : Int, some 7 = some p ∧ (p ≠ 0 ∨ catName.text = [] ∨
        ∀ t ∈ oneTask.registry.taskList,
          content t.mName ≠ [] ∧ content t.mName ≠ catName.text) := by
  apply target_resolved_iff
  · decide
  · decide
  · intro tree built
    obtain rfl := Option.some.inj built
    rfl
  · intro tree built
    obtain rfl := Option.some.inj built
    rfl

/-- What the client's encoder builds for the name alone, with pid 0, does not get to the task
of that name. -/
theorem named_task_not_reached :
    MsgClient.querySingleTaskTree (fun _ => true) 0 (some catName.text) =
        MsgClient.requestTree (fun _ => true) .queryTask (targetData (some 0) catName) ∧
      (∀ tree, MsgClient.querySingleTaskTree (fun _ => true) 0 (some catName.text) = some tree →
        textCodec.RoundTrips tree) ∧
      documentedTarget oneTask.registry.taskList (some 0) catName = some 0 ∧
      ¬ Resolves textCodec plainEnv (fun _ => true) (connectionServer 5 (fun _ => none) 0) oneTask
        .queryTask (targetData (some 0) catName) (some 0) := by
  have trips : ∀ tree,
      MsgClient.querySingleTaskTree (fun _ => true) 0 (some catName.text) = some tree →
        textCodec.RoundTrips tree := by
    intro tree built
    obtain rfl := Option.some.inj built
    rfl
  refine ⟨rfl, trips, by decide, ?_⟩
  intro reached
  rcases (resolves_query_iff rfl trips).mp reached with ⟨req, decoded, chosen⟩
  have nameless : MsgServer.decodeQuerySingleTaskReq (some (targetData (some 0) catName)) =
      some req := decoded
  rw [MsgServer.decodeQuerySingleTaskReq_pid (by decide)] at nameless
  obtain rfl := Option.some.inj nameless
  revert chosen
  decide

end TaskMonitor
