import TaskMonitor.PendingRequests
import TaskMonitor.Library.CjsonText

/-! What the callbacks of a `MsgClient` are told, and what becomes of requests that are
answered by something their decoder does not take. -/

namespace TaskMonitor

open CText Cjson MsgClient

namespace MsgClient

variable {κ : Type*}

def RspShape : EventType → Option Json → Prop
  | .heartbeat, data => ∃ item pid heatbeat, data = some item ∧ item.isObject = true ∧
      getObjectItem item (text "pid") = some pid ∧
        getObjectItem item (text "heatbeat") = some heatbeat
  | .queryAll, data => ∃ raw, data = some (.raw raw)
  | .queryTask, data => ∃ item pid name param status heartBeat, data = some item ∧
      item.isObject = true ∧ numberItem item (text "pid") = some pid ∧
      stringItem item (text "name") = some name ∧ stringItem item (text "param") = some param ∧
      stringItem item (text "status") = some status ∧
      numberItem item (text "heartBeat") = some heartBeat
  | .taskAction, _ => True
  | .max, _ => False

theorem processRsp_isSome {α : Type*} (wrap : α → RspData) (decoded : Option α) (ret : Int) :
    (processRsp wrap decoded ret).2.isSome ↔ decoded.isSome := by
  cases decoded <;> simp [processRsp]

theorem decodeHeartbeatRsp_isSome (data : Option Json) :
    (decodeHeartbeatRsp data).isSome ↔ RspShape .heartbeat data := by
  cases data with
  | none => simp [decodeHeartbeatRsp, RspShape]
  | some item =>
      cases shape : item.isObject <;>
        simp [decodeHeartbeatRsp, RspShape, shape, Option.isSome_iff_exists,
          Option.bind_eq_some_iff]

theorem decodeQueryAllRsp_isSome (data : Option Json) :
    (decodeQueryAllRsp data).isSome ↔ RspShape .queryAll data := by
  cases data with
  | none => simp [decodeQueryAllRsp, RspShape]
  | some item => cases item <;> simp [decodeQueryAllRsp, RspShape, isRaw, Json.children]

theorem decodeQueryTaskRsp_isSome (data : Option Json) :
    (decodeQueryTaskRsp data).isSome ↔ RspShape .queryTask data := by
  cases data with
  | none => simp [decodeQueryTaskRsp, RspShape]
  | some item =>
      cases shape : item.isObject <;>
        simp [decodeQueryTaskRsp, RspShape, shape, Option.isSome_iff_exists,
          Option.bind_eq_some_iff]

/-- A request with a callback gets its call for every error code, and for `ret` 0 exactly
when its decoder takes the data. -/
theorem processRspData_isSome {req : MsgRequest κ} (registered : req.cb ≠ none) (ret : Int)
    (data : Option Json) :
    (processRspData req ret data).2.isSome ↔ ret ≠ 0 ∨ RspShape req.type data := by
  have present : req.cb.isNone = false := by
    cases cb : req.cb with
    | none => exact absurd cb registered
    | some _ => rfl
  by_cases zero : ret = 0
  · subst zero
    have decoder : (processRspData req 0 data).2.isSome ↔ RspShape req.type data := by
      simp only [processRspData, present, Bool.false_eq_true, if_false, ne_eq, not_true_eq_false]
      cases req.type with
      | heartbeat => exact (processRsp_isSome _ _ _).trans (decodeHeartbeatRsp_isSome data)
      | queryAll => exact (processRsp_isSome _ _ _).trans (decodeQueryAllRsp_isSome data)
      | queryTask => exact (processRsp_isSome _ _ _).trans (decodeQueryTaskRsp_isSome data)
      | taskAction => simp [processTaskActionRsp, RspShape]
      | max => simp [RspShape]
    simp [decoder]
  · simp [processRspData, present, zero]

/-- A frame that answers an outstanding request with a callback carries an error code, or data
that the decoder of the request's type takes. -/
def Answerable (codec : Codec) (w : ClientWorld κ) : Event κ → Prop
  | .frame reqId data _ => w.alive = true → ∀ root retval pos, codec.parse data = some root →
      getObjectItem root (text "ret") = some retval →
      w.client.mRequestList.find? (·.reqId = reqId) = some pos → pos.cb ≠ none →
      retval.valueint ≠ 0 ∨ RspShape pos.type (getObjectItem root (text "data"))
  | _ => True

theorem callOf_mem {req : MsgRequest κ} (registered : req.cb ≠ none) (args : Option CbArgs)
    (cause : Cause) : req.node ∈ (callOf req args cause).map Call.node ↔ args.isSome := by
  rcases Option.ne_none_iff_exists'.mp registered with ⟨cb, present⟩
  cases args <;> simp [callOf, present]

theorem Settled.only {w w' : ClientWorld κ} {outs : List (ClientOut κ)} {req r : MsgRequest κ}
    {args : Option CbArgs} {cause : Cause} (linked : Linked w)
    (settled : Settled w w' outs req args cause) (member : r ∈ w.client.mRequestList)
    (gone : r.node ∉ pendingNodes w') : r = req := by
  rcases settled.unlinked with ⟨mid, grown, _, filtered⟩
  rcases grown.linked with ⟨new, list, _, _⟩
  apply List.inj_on_of_nodup_map linked.nodup member settled.outstanding
  by_contra differs
  refine gone ⟨r, ?_, rfl⟩
  rw [filtered, list, List.mem_filter]
  exact ⟨List.mem_append_right new member, by simpa using differs⟩

/-- A step drops no request without a call exactly when it is answerable. -/
theorem answerable_iff (codec : Codec) {w : ClientWorld κ} (linked : Linked w) (e : Event κ) :
    Answerable codec w e ↔ (e ≠ .destroy → ∀ r ∈ w.client.mRequestList, r.cb ≠ none →
      r.node ∉ pendingNodes ((machine codec).next w e) →
      r.node ∈ ((machine codec).emit w e).filterMap calledNode) := by
  constructor
  · intro answerable notDestroy r member registered gone
    have alive : w.alive = true := by
      by_contra dead
      have still : (machine codec).next w e = w := by
        simp [StepMachine.next, machine, step, eq_false_of_ne_true dead]
      rw [still] at gone
      exact gone ⟨r, member, rfl⟩
    rw [calledNodes]
    -- a request that is gone has been settled, and it is the only one that this step settles
    cases step_effect codec w e with
    | grew grown _ =>
        rcases grown.linked with ⟨new, list, _, _⟩
        refine absurd ⟨r, ?_, rfl⟩ gone
        rw [list]
        exact List.mem_append_right new member
    | settled req args cause routed settled =>
        obtain rfl := settled.only linked member gone
        rw [settled.calls, callOf_mem registered]
        cases routed with
        | frame data during root retval parsed answer found =>
            rw [processRspData_isSome registered]
            exact answerable alive root retval r parsed answer found registered
        | expire timer during => rfl
    | destroyed asked _ _ => exact absurd asked notDestroy
  · intro called
    cases e with
    | frame reqId data during =>
        intro alive root retval pos parsed answer found registered
        have settled := parseClientData_settled during parsed answer found
        have stepped : (machine codec).step w (.frame reqId data during) =
            (parseClientData codec w reqId data during).2 := by
          simp [machine, step, alive]
        have kept : Event.frame reqId data during ≠ .destroy := by simp
        have member := called kept pos settled.outstanding registered
        rw [calledNodes, StepMachine.next, StepMachine.emit, stepped] at member
        have inside := member settled.gone
        rw [settled.calls, callOf_mem registered, processRspData_isSome registered] at inside
        exact inside
    | send a => trivial
    | expire timer during => trivial
    | destroy => trivial

def Delivered (w : ClientWorld κ) (e : Event κ) (call : Call κ) : Prop :=
  ∃ r ∈ w.client.mRequestList, r.node = call.node ∧ r.cb = some call.cb ∧
    ((∃ data during, e = .frame r.reqId data during ∧ call.cause = .frame r.reqId) ∨
      (∃ timer during, e = .expire timer during) ∧ call.cause = .timeout ∧
        call.ret = EventErrCode.timeout.code)

theorem mem_callOf {req : MsgRequest κ} {args : Option CbArgs} {cause : Cause} {call : Call κ}
    (member : call ∈ callOf req args cause) :
    req.node = call.node ∧ req.cb = some call.cb ∧ call.cause = cause ∧
      args = some (call.ret, call.data) := by
  simp only [callOf] at member
  split at member
  · rename_i registered
    obtain rfl := List.mem_singleton.mp member
    exact ⟨rfl, registered, rfl, rfl⟩
  · cases member

theorem emit_delivered (codec : Codec) (w : ClientWorld κ) (e : Event κ) :
    ∀ call ∈ calls ((machine codec).emit w e), Delivered w e call := by
  intro call member
  cases step_effect codec w e with
  | grew _ silent =>
      rw [silent] at member
      cases member
  | settled req args cause routed settled =>
      rw [settled.calls] at member
      rcases mem_callOf member with ⟨node, registered, reason, given⟩
      refine ⟨req, settled.outstanding, node, registered, ?_⟩
      cases routed with
      | frame data during root retval parsed answer found => exact .inl ⟨data, during, rfl, reason⟩
      | expire timer during =>
          have code : (EventErrCode.timeout.code : Int) = call.ret :=
            congrArg Prod.fst (Option.some.inj given)
          exact .inr ⟨⟨timer, during, rfl⟩, reason, code.symm⟩
  | destroyed _ _ silent =>
      rw [silent] at member
      cases member

end MsgClient

variable {κ : Type*}

/-- In every run in which fewer than 2^32 requests are issued while one is outstanding, the
outstanding ids are distinct. A callback runs at most once in the whole run, for an outstanding
request, on a frame with its id or on its timer. After a timeout nothing more is delivered. -/
theorem callbacks_at_most_once (codec : Codec) (fd : Int) (uninit : UInt32) {es : List (Event κ)}
    (recent : (machine codec).AllSteps (fun w e => Recent ((machine codec).next w e))
      (start fd uninit) es) :
    (machine codec).AllSteps
        (fun w e => (((machine codec).next w e).client.mRequestList.map MsgRequest.reqId).Nodup)
        (start fd uninit) es ∧
      ((calls ((machine codec).trace (start fd uninit) es)).map Call.node).Nodup ∧
      (machine codec).AllSteps
        (fun w e => ∀ call ∈ calls ((machine codec).emit w e), Delivered w e call)
        (start fd uninit) es ∧
      ∀ call ∈ calls ((machine codec).trace (start fd uninit) es), call.cause = .timeout →
        ∀ other ∈ calls ((machine codec).trace (start fd uninit) es),
          other.node = call.node → other = call := by
  have once : ((calls ((machine codec).trace (start fd uninit) es)).map Call.node).Nodup := by
    rw [← calledNodes]
    exact (callbacks_oneShot codec).spent_nodup
      (fun _ ⟨_, none_linked, _⟩ => nomatch none_linked) es
  refine ⟨?_, once, (machine codec).allSteps_true _ (emit_delivered codec) _ es, ?_⟩
  · rw [StepMachine.allSteps_iff] at recent ⊢
    intro front e back split
    have linked := linked_next codec e (linked_run codec fd uninit front)
    exact reqIds_nodup linked (recent front e back split)
  · intro call member _ other member' same
    exact List.inj_on_of_nodup_map once member' member same

def heartbeatSend (outcomes : List WriteOutcome) : SendArgs Unit :=
  ⟨.heartbeat, [123, 125, 0], 3, some (), 3, 0, true, true, outcomes⟩

def bareSuccess : List UInt8 := text "\x7b\"ret\":0\x7d" ++ [0]

def lateAnswer : List (Event Unit) :=
  [.send (heartbeatSend [.count 4, .count 4, .count 3]), .frame 9 bareSuccess [],
    .expire 1 [heartbeatSend [.count 4, .count 4, .count 3]], .frame 1 bareSuccess []]

theorem callbacks_at_most_once_late :
    (machine textCodec).AllSteps
        (fun w e => (((machine textCodec).next w e).client.mRequestList.map MsgRequest.reqId).Nodup)
        (start 5 0) lateAnswer ∧
      ((calls ((machine textCodec).trace (start 5 0) lateAnswer)).map Call.node).Nodup ∧
      (machine textCodec).AllSteps
        (fun w e => ∀ call ∈ calls ((machine textCodec).emit w e), Delivered w e call)
        (start 5 0) lateAnswer ∧
      ∀ call ∈ calls ((machine textCodec).trace (start 5 0) lateAnswer), call.cause = .timeout →
        ∀ other ∈ calls ((machine textCodec).trace (start 5 0) lateAnswer),
          other.node = call.node → other = call := by
  refine callbacks_at_most_once textCodec 5 0 ⟨?_, ?_, ?_, ?_, trivial⟩ <;>
    simp only [Recent] <;> decide +kernel

/-- Every request with a callback that leaves the list other than by destruction has had it
invoked exactly once in the run. -/
def NoneDropped (codec : Codec) (w : ClientWorld κ) (es : List (Event κ)) : Prop :=
  ∀ front e back r, es = front ++ e :: back → e ≠ .destroy →
    r ∈ ((machine codec).run w front).client.mRequestList → r.cb ≠ none →
    r.node ∉ pendingNodes ((machine codec).run w (front ++ [e])) →
    ((calls ((machine codec).trace w es)).map Call.node).count r.node = 1

/-- Requests are dropped silently by the frames that are not answerable, and only by those. -/
theorem none_dropped_iff (codec : Codec) (fd : Int) (uninit : UInt32) (es : List (Event κ)) :
    NoneDropped codec (start fd uninit) es ↔
      (machine codec).AllSteps (Answerable codec) (start fd uninit) es := by
  have bounded : OneShot.Issued pendingNodes ClientWorld.issued (start fd uninit : ClientWorld κ) :=
    fun _ ⟨_, none_linked, _⟩ => nomatch none_linked
  have once {front : List (Event κ)} {e : Event κ} {back : List (Event κ)} {node : ℕ}
      (split : es = front ++ e :: back)
      (before : node ∈ pendingNodes ((machine codec).run (start fd uninit) front))
      (after : node ∉ pendingNodes ((machine codec).run (start fd uninit) (front ++ [e]))) :
      ((calls ((machine codec).trace (start fd uninit) es)).map Call.node).count node = 1 ↔
        node ∈ ((machine codec).emit ((machine codec).run (start fd uninit) front) e).filterMap
          calledNode := by
    rw [← calledNodes, split]
    exact (callbacks_oneShot codec).count_eq_one_iff bounded front e back before after
  have last (front : List (Event κ)) (e : Event κ) :
      (machine codec).run (start fd uninit) (front ++ [e]) =
        (machine codec).next ((machine codec).run (start fd uninit) front) e :=
    (machine codec).run_append _ front [e]
  rw [StepMachine.allSteps_iff]
  constructor
  · intro kept front e back split
    rw [answerable_iff codec (linked_run codec fd uninit front)]
    intro notDestroy r member registered gone
    rw [← last] at gone
    exact (once split ⟨r, member, rfl⟩ gone).mp
      (kept front e back r split notDestroy member registered gone)
  · intro answerable front e back r split notDestroy member registered gone
    have step := answerable front e back split
    rw [answerable_iff codec (linked_run codec fd uninit front)] at step
    refine (once split ⟨r, member, rfl⟩ gone).mpr (step notDestroy r member registered ?_)
    rwa [last] at gone

/-- A heartbeat request is answered with `ret` 0 and no data: it is gone, and its callback
has not run. -/
theorem bare_success_drops :
    ¬ ∀ es : List (Event Unit), NoneDropped textCodec (start 5 0) es := by
  intro claimed
  let sent : Event Unit := .send (heartbeatSend [.count 4, .count 4, .count 3])
  let answer : Event Unit := .frame 1 bareSuccess []
  let request : MsgRequest Unit := ⟨1, 1, .heartbeat, some (), 0, 3, some 1⟩
  have kept := claimed [sent, answer] [sent] answer [] request rfl nofun (by decide +kernel) nofun
  have empty : ((machine textCodec).run (start 5 0) [sent, answer]).client.mRequestList = [] := by
    decide +kernel
  have uncalled : ((calls ((machine textCodec).trace (start 5 0) [sent, answer])).map
      Call.node).count 1 = 0 := by decide +kernel
  have one := kept (by
    intro pending
    rcases pending with ⟨r, member, _⟩
    rw [List.singleton_append, empty] at member
    cases member)
  rw [uncalled] at one
  cases one

end TaskMonitor
