import TaskMonitor.PendingRequests
import TaskMonitor.Library.CjsonText

/-! What the client has checked of a response when it reports a success. -/

namespace TaskMonitor

open CText Cjson

structure InfoOf (item : Json) (info : TaskSimpleInfo) : Prop where
  object : item.isObject = true
  name : ∃ name, stringItem item (text "name") = some name ∧
    info.name = strncpy 32 nameSize_pos name
  pid : ∃ pid, numberItem item (text "pid") = some pid ∧ info.pid = UInt32.ofInt (truncate pid)
  status : ∃ status, stringItem item (text "status") = some status ∧
    info.status = strncpy 32 nameSize_pos status

structure HeartbeatOf (data : Json) (rsp : HeartbeatRsp) : Prop where
  object : data.isObject = true
  pid : ∃ pid, numberItem data (text "pid") = some pid ∧ rsp.pid = UInt32.ofInt (truncate pid)
  heatbeat : numberItem data (text "heatbeat") = some rsp.heatbeat

structure DetailOf (data : Json) (rsp : TaskDetailInfo) : Prop where
  object : data.isObject = true
  pid : ∃ pid, numberItem data (text "pid") = some pid ∧ rsp.pid = UInt32.ofInt (truncate pid)
  name : ∃ name, stringItem data (text "name") = some name ∧
    rsp.name = strncpy 32 nameSize_pos name
  param : ∃ param, stringItem data (text "param") = some param ∧
    rsp.param = strncpy 128 paramSize_pos param
  status : ∃ status, stringItem data (text "status") = some status ∧
    rsp.status = strncpy 32 nameSize_pos status
  heartbeat : numberItem data (text "heartBeat") = some rsp.heartbeat

inductive BorneOut (data : Json) : EventType → Option RspData → Prop where
  | heartbeat (rsp : HeartbeatRsp) (fields : HeartbeatOf data rsp) :
      BorneOut data .heartbeat (some (.heartbeat rsp))
  | queryAll (rsp : TaskAllRsp) (items : List Json) (shape : data = .array items)
      (fields : List.Forall₂ InfoOf items rsp.taskList) :
      BorneOut data .queryAll (some (.queryAll rsp))
  | queryTask (rsp : TaskDetailInfo) (fields : DetailOf data rsp) :
      BorneOut data .queryTask (some (.queryTask rsp))

/-- A response that may be reported as a success with this result: its `ret` is the number 0, and
its `data` bears the result out. -/
def Validated (root : Json) (type : EventType) (result : Option RspData) : Prop :=
  numberItem root (text "ret") = some 0 ∧
    ∃ data, getObjectItem root (text "data") = some data ∧ BorneOut data type result

def EventType.CarriesData : EventType → Prop
  | .heartbeat | .queryAll | .queryTask => True
  | .taskAction | .max => False

def Passes : EventType → Json → Prop
  | .heartbeat, data =>
      (getObjectItem data (text "pid")).isSome = true ∧
        (getObjectItem data (text "heatbeat")).isSome = true
  | .queryAll, data => MsgClient.isRaw data = true
  | .queryTask, data =>
      (numberItem data (text "pid")).isSome = true ∧
        (stringItem data (text "name")).isSome = true ∧
        (stringItem data (text "param")).isSome = true ∧
        (stringItem data (text "status")).isSome = true ∧
        (numberItem data (text "heartBeat")).isSome = true
  | .taskAction, _ => False
  | .max, _ => False

/-- Checked data from which the right result is copied: for a heartbeat the two items are the same
number, and a raw item is no listing. -/
def CopiedRight : EventType → Json → Prop
  | .heartbeat, data =>
      ∃ d, getObjectItem data (text "pid") = some (.number d) ∧
        getObjectItem data (text "heatbeat") = some (.number d)
  | .queryAll, _ => False
  | .queryTask, _ => True
  | .taskAction, _ => False
  | .max, _ => False

namespace MsgClient

theorem decodeHeartbeatRsp_eq_some_iff (data : Json) (rsp : HeartbeatRsp) :
    decodeHeartbeatRsp (some data) = some rsp ↔
      ∃ pid heatbeat, getObjectItem data (text "pid") = some pid ∧
        getObjectItem data (text "heatbeat") = some heatbeat ∧
        rsp = ⟨UInt32.ofInt pid.valueint, valuedouble pid⟩ := by
  simp only [decodeHeartbeatRsp, Option.bind_eq_bind, Option.bind_some]
  constructor
  · intro decoded
    split at decoded
    · rcases Option.bind_eq_some_iff.mp decoded with ⟨pid, pidItem, rest⟩
      rcases Option.bind_eq_some_iff.mp rest with ⟨heatbeat, heatbeatItem, copied⟩
      exact ⟨pid, heatbeat, pidItem, heatbeatItem, (Option.some.inj copied).symm⟩
    · cases decoded
  · intro items
    rcases items with ⟨pid, heatbeat, pidItem, heatbeatItem, rfl⟩
    rw [if_pos (isObject_of_getObjectItem pidItem), pidItem, heatbeatItem]
    rfl

theorem decodeQueryTaskRsp_detailOf (data : Json) (rsp : TaskDetailInfo)
    (decoded : decodeQueryTaskRsp (some data) = some rsp) : DetailOf data rsp := by
  simp only [decodeQueryTaskRsp, Option.bind_eq_bind, Option.bind_some] at decoded
  split at decoded
  · rename_i object
    rcases Option.bind_eq_some_iff.mp decoded with ⟨pid, pidItem, decoded⟩
    rcases Option.bind_eq_some_iff.mp decoded with ⟨name, nameItem, decoded⟩
    rcases Option.bind_eq_some_iff.mp decoded with ⟨param, paramItem, decoded⟩
    rcases Option.bind_eq_some_iff.mp decoded with ⟨status, statusItem, decoded⟩
    rcases Option.bind_eq_some_iff.mp decoded with ⟨heartBeat, heartBeatItem, copied⟩
    obtain rfl := Option.some.inj copied
    exact ⟨object, ⟨pid, pidItem, rfl⟩, ⟨name, nameItem, rfl⟩, ⟨param, paramItem, rfl⟩,
      ⟨status, statusItem, rfl⟩, heartBeatItem⟩
  · cases decoded

theorem decodeQueryTaskRsp_isSome_iff (data : Json) :
    (∃ rsp, decodeQueryTaskRsp (some data) = some rsp) ↔ Passes .queryTask data := by
  constructor
  · intro decoded
    rcases decoded with ⟨rsp, decoded⟩
    have fields := decodeQueryTaskRsp_detailOf data rsp decoded
    rcases fields.pid with ⟨pid, pidItem, _⟩
    rcases fields.name with ⟨name, nameItem, _⟩
    rcases fields.param with ⟨param, paramItem, _⟩
    rcases fields.status with ⟨status, statusItem, _⟩
    simp [Passes, pidItem, nameItem, paramItem, statusItem, fields.heartbeat]
  · intro passes
    rcases passes with ⟨pidThere, nameThere, paramThere, statusThere, heartBeatThere⟩
    rcases Option.isSome_iff_exists.mp pidThere with ⟨pid, pidItem⟩
    rcases Option.isSome_iff_exists.mp nameThere with ⟨name, nameItem⟩
    rcases Option.isSome_iff_exists.mp paramThere with ⟨param, paramItem⟩
    rcases Option.isSome_iff_exists.mp statusThere with ⟨status, statusItem⟩
    rcases Option.isSome_iff_exists.mp heartBeatThere with ⟨heartBeat, heartBeatItem⟩
    have object := isObject_of_getObjectItem (numberItem_eq_some_iff.mp pidItem)
    simp [decodeQueryTaskRsp, object, pidItem, nameItem, paramItem, statusItem, heartBeatItem]

theorem decodeQueryAllRsp_raw {data : Json} (raw : isRaw data = true) :
    decodeQueryAllRsp (some data) = some ⟨0, [], rfl⟩ := by
  cases data with
  | raw t => rfl
  | _ => cases raw

def reported : EventType → Json → Option RspData
  | .heartbeat, data => (decodeHeartbeatRsp (some data)).map .heartbeat
  | .queryAll, data => (decodeQueryAllRsp (some data)).map .queryAll
  | .queryTask, data => (decodeQueryTaskRsp (some data)).map .queryTask
  | .taskAction, _ => none
  | .max, _ => none

variable {κ : Type*}

theorem processRsp_args {α : Type*} (wrap : α → RspData) (decoded : Option α) (ret : Int) :
    (processRsp wrap decoded ret).2 = (decoded.map wrap).map fun rsp => (ret, some rsp) := by
  cases decoded with
  | none => rfl
  | some rsp => rfl

theorem processRspData_zero {req : MsgRequest κ} {cb : κ} (called : req.cb = some cb)
    (carries : req.type.CarriesData) (data : Option Json) :
    (processRspData req 0 data).2 =
      (data.bind (reported req.type)).map fun rsp => (0, some rsp) := by
  rw [processRspData, called]
  simp only [Option.isNone_some, Bool.false_eq_true, ↓reduceIte, ne_eq, not_true_eq_false]
  cases data with
  | none =>
      cases type : req.type with
      | heartbeat => rfl
      | queryAll => rfl
      | queryTask => rfl
      | taskAction => rw [type] at carries; exact carries.elim
      | max => rw [type] at carries; exact carries.elim
  | some value =>
      cases type : req.type with
      | heartbeat => exact processRsp_args _ _ _
      | queryAll => exact processRsp_args _ _ _
      | queryTask => exact processRsp_args _ _ _
      | taskAction => rw [type] at carries; exact carries.elim
      | max => rw [type] at carries; exact carries.elim

theorem processRspData_success {req : MsgRequest κ} {cb : κ} (called : req.cb = some cb)
    (carries : req.type.CarriesData) (ret : Int) (data : Option Json) (result : Option RspData) :
    (processRspData req ret data).2 = some (0, result) ↔
      ret = 0 ∧ ∃ value rsp, data = some value ∧ reported req.type value = some rsp ∧
        result = some rsp := by
  by_cases zero : ret = 0
  · subst zero
    rw [processRspData_zero called carries, Option.map_eq_some_iff]
    simp only [Option.bind_eq_some_iff, Prod.mk.injEq, true_and]
    constructor
    · intro given
      rcases given with ⟨rsp, ⟨value, item, made⟩, copied⟩
      exact ⟨value, rsp, item, made, copied.symm⟩
    · intro made
      rcases made with ⟨value, rsp, item, made, copied⟩
      exact ⟨rsp, ⟨value, item, made⟩, copied.symm⟩
  · rw [processRspData, called]
    simp [zero]

theorem reported_isSome_iff (type : EventType) (data : Json) :
    (∃ rsp, reported type data = some rsp) ↔ Passes type data := by
  cases type with
  | heartbeat =>
      simp only [reported, Option.map_eq_some_iff, Passes, Option.isSome_iff_exists]
      constructor
      · intro found
        rcases found with ⟨_, rsp, decoded, _⟩
        rcases (decodeHeartbeatRsp_eq_some_iff data rsp).mp decoded with
          ⟨pid, heatbeat, pidItem, heatbeatItem, _⟩
        exact ⟨⟨pid, pidItem⟩, heatbeat, heatbeatItem⟩
      · intro there
        rcases there with ⟨⟨pid, pidItem⟩, heatbeat, heatbeatItem⟩
        have decoded := (decodeHeartbeatRsp_eq_some_iff data _).mpr
          ⟨pid, heatbeat, pidItem, heatbeatItem, rfl⟩
        exact ⟨_, _, decoded, rfl⟩
  | queryAll =>
      simp only [reported, Option.map_eq_some_iff, Passes]
      cases raw : isRaw data with
      | true => simp [decodeQueryAllRsp_raw raw]
      | false => simp [decodeQueryAllRsp, raw]
  | queryTask =>
      rw [← decodeQueryTaskRsp_isSome_iff]
      simp only [reported, Option.map_eq_some_iff]
      constructor
      · intro found
        rcases found with ⟨_, rsp, decoded, _⟩
        exact ⟨rsp, decoded⟩
      · intro found
        rcases found with ⟨rsp, decoded⟩
        exact ⟨_, rsp, decoded, rfl⟩
  | taskAction => simp [reported, Passes]
  | max => simp [reported, Passes]

/-- What is reported is borne out by the item that it was made of, or not, by the item alone. -/
theorem reported_borne_iff {type : EventType} {data : Json} {rsp : RspData}
    (made : reported type data = some rsp) :
    BorneOut data type (some rsp) ↔ CopiedRight type data := by
  cases type with
  | heartbeat =>
      rcases Option.map_eq_some_iff.mp made with ⟨heard, decoded, rfl⟩
      rcases (decodeHeartbeatRsp_eq_some_iff data heard).mp decoded with
        ⟨pid, heatbeat, pidItem, heatbeatItem, rfl⟩
      constructor
      · intro borne
        cases borne with
        | heartbeat rsp fields =>
            rcases fields.pid with ⟨d, number, _⟩
            have first := numberItem_eq_some_iff.mp number
            have second := numberItem_eq_some_iff.mp fields.heatbeat
            have same : pid = .number d := Option.some.inj (pidItem.symm.trans first)
            rw [same] at second
            exact ⟨d, first, second⟩
      · intro numbers
        rcases numbers with ⟨d, first, second⟩
        have same : pid = .number d := Option.some.inj (pidItem.symm.trans first)
        subst same
        exact .heartbeat _ ⟨isObject_of_getObjectItem first,
          ⟨d, numberItem_eq_some_iff.mpr first, rfl⟩, numberItem_eq_some_iff.mpr second⟩
  | queryAll =>
      rcases Option.map_eq_some_iff.mp made with ⟨all, decoded, rfl⟩
      refine iff_of_false ?_ not_false
      intro borne
      cases borne with
      | queryAll rsp items shape fields =>
          rw [shape] at decoded
          cases decoded
  | queryTask =>
      rcases Option.map_eq_some_iff.mp made with ⟨detail, decoded, rfl⟩
      have fields := decodeQueryTaskRsp_detailOf data detail decoded
      exact iff_of_true (.queryTask detail fields) trivial
  | taskAction => cases made
  | max => cases made

theorem mem_callOf_iff {req : MsgRequest κ} {args : Option CbArgs} {cause : Cause} {c : Call κ} :
    c ∈ callOf req args cause ↔
      ∃ cb ret data, req.cb = some cb ∧ args = some (ret, data) ∧
        c = ⟨req.node, cb, ret, data, cause⟩ := by
  rw [callOf.eq_def]
  cases req.cb with
  | none => simp
  | some cb =>
      cases args with
      | none => simp
      | some args => simp [Prod.ext_iff]

theorem success_called_iff {codec : Codec} {w : ClientWorld κ} {reqId : UInt32}
    {data : List UInt8} (during : List (SendArgs κ)) {root retval : Json} {pos : MsgRequest κ}
    (parsed : codec.parse data = some root)
    (answer : getObjectItem root (text "ret") = some retval)
    (found : w.client.mRequestList.find? (·.reqId = reqId) = some pos)
    (carries : pos.type.CarriesData) (result : Option RspData) :
    (∃ c ∈ calls (parseClientData codec w reqId data during).2.2,
        c.ret = 0 ∧ c.data = result) ↔
      pos.cb.isSome = true ∧ retval.valueint = 0 ∧
        ∃ value rsp, getObjectItem root (text "data") = some value ∧
          reported pos.type value = some rsp ∧ result = some rsp := by
  rw [(parseClientData_settled during parsed answer found).calls]
  simp only [mem_callOf_iff]
  constructor
  · intro success
    rcases success with ⟨c, ⟨cb, ret, given, called, args, rfl⟩, zero, rfl⟩
    obtain rfl : ret = 0 := zero
    exact ⟨Option.isSome_of_eq_some called, (processRspData_success called carries _ _ _).mp args⟩
  · intro made
    rcases Option.isSome_iff_exists.mp made.1 with ⟨cb, called⟩
    have args := (processRspData_success called carries _ _ _).mpr made.2
    exact ⟨⟨pos.node, cb, 0, result, .frame reqId⟩, ⟨cb, 0, result, called, args, rfl⟩, rfl, rfl⟩

end MsgClient

open MsgClient

variable {κ : Type*}

/-- For any response and any outstanding request of the three types, every success that the
callback is told of is validated, if and only if, where the request has a callback, `ret` reads as 0
and `data` passes the checks, `ret` is the number 0 and the items checked are of the right type. -/
theorem successes_validated_iff {codec : Codec} {w : ClientWorld κ} {reqId : UInt32}
    {data : List UInt8} (during : List (SendArgs κ)) {root : Json} {pos : MsgRequest κ}
    (parsed : codec.parse data = some root)
    (found : w.client.mRequestList.find? (·.reqId = reqId) = some pos)
    (carries : pos.type.CarriesData) :
    (∀ c ∈ calls (parseClientData codec w reqId data during).2.2, c.ret = 0 →
        Validated root pos.type c.data) ↔
      (pos.cb.isSome = true → ∀ retval value, getObjectItem root (text "ret") = some retval →
        getObjectItem root (text "data") = some value → retval.valueint = 0 →
        Passes pos.type value → retval = .number 0 ∧ CopiedRight pos.type value) := by
  cases answer : getObjectItem root (text "ret") with
  | none =>
      have silent : calls (parseClientData codec w reqId data during).2.2 = [] := by
        simp only [parseClientData, parsed, answer]
        rfl
      simp [silent]
  | some retval =>
      have ret_zero : numberItem root (text "ret") = some 0 ↔ retval = .number 0 := by
        rw [numberItem_eq_some_iff, answer, Option.some.injEq]
      have called_iff := success_called_iff during parsed answer found carries
      constructor
      · intro validated registered other value same item zero passes
        obtain rfl := Option.some.inj same
        rcases (reported_isSome_iff pos.type value).mpr passes with ⟨rsp, made⟩
        rcases (called_iff (some rsp)).mpr ⟨registered, zero, value, rsp, item, made, rfl⟩ with
          ⟨c, called, success, result⟩
        rcases validated c called success with ⟨number, data', there, borne⟩
        obtain rfl := Option.some.inj (item.symm.trans there)
        rw [result] at borne
        exact ⟨ret_zero.mp number, (reported_borne_iff made).mp borne⟩
      · intro typed c called success
        rcases (called_iff c.data).mp ⟨c, called, success, rfl⟩ with
          ⟨registered, zero, value, rsp, item, made, result⟩
        have passes := (reported_isSome_iff pos.type value).mp ⟨rsp, made⟩
        have right := typed registered retval value rfl item zero passes
        rw [result]
        exact ⟨ret_zero.mpr right.1, value, item, (reported_borne_iff made).mpr right.2⟩

def heartbeatWaiting : ClientWorld Unit :=
  (sendReqHearbeat textCodec ⟨fun _ => true, 0, true, true, [.count 4, .count 4, .count 999]⟩
    (MsgClient.start 5 0) 7 60 (some ())).world

def heartbeatResponse (heatbeat : ℚ) : Json :=
  .object [(text "ret", .number 0),
    (text "data", .object [(text "pid", .number 7), (text "heatbeat", .number heatbeat)])]

/-- A heartbeat that is the pid is reported right. -/
theorem successes_validated_seven :
    (textCodec.print (heartbeatResponse 7)).text ≠ [] ∧
      ∀ c ∈ calls (parseClientData textCodec heartbeatWaiting 1
        (textCodec.print (heartbeatResponse 7)).bytes []).2.2, c.ret = 0 →
        Validated (heartbeatResponse 7) .heartbeat c.data := by
  have parsed : textCodec.parse (textCodec.print (heartbeatResponse 7)).bytes =
      some (heartbeatResponse 7) := rfl
  have found : heartbeatWaiting.client.mRequestList.find? (·.reqId = 1) =
      some ⟨1, 1, .heartbeat, some (), 0, 3, some 1⟩ := by decide +kernel
  refine ⟨by decide +kernel, (successes_validated_iff [] parsed found trivial).mpr ?_⟩
  intro _ retval value answer item _ _
  obtain rfl := Option.some.inj answer
  obtain rfl := Option.some.inj item
  exact ⟨rfl, 7, rfl, rfl⟩

/-- With another heartbeat the callback is told of the pid again. -/
theorem heartbeat_is_the_pid :
    calls (parseClientData textCodec heartbeatWaiting 1
        (textCodec.print (heartbeatResponse 60)).bytes []).2.2 =
        [⟨1, (), 0, some (.heartbeat ⟨7, 7⟩), .frame 1⟩] ∧
      ¬ Validated (heartbeatResponse 60) .heartbeat (some (.heartbeat ⟨7, 7⟩)) := by
  constructor
  · decide +kernel
  · intro validated
    rcases validated with ⟨_, data, there, borne⟩
    cases borne with
    | heartbeat rsp fields =>
        obtain rfl := Option.some.inj there
        have sixty : (60 : ℚ) = 7 := Option.some.inj fields.heatbeat
        exact absurd sixty (by decide +kernel)

end TaskMonitor
