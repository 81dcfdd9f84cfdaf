import TaskMonitor.FrameCapacity
import TaskMonitor.StartUp
import TaskMonitor.DaemonSteps
import TaskMonitor.TargetResolution
import TaskMonitor.Library.CjsonLength

/-! The frame of a listing: how long it is, and what becomes of it at the client that asked. -/

namespace TaskMonitor

open CText Cjson

/-- A registry that the daemon can have after it was started from a configuration. -/
def Configured (codec : Codec) (r : Registry) : Prop :=
  ∃ tasks d es, (taskCoreInit true tasks).ret = some 0 ∧
    d.registry = (taskCoreInit true tasks).world.registry ∧
    r = ((Daemon.machine codec).run d es).registry

theorem configured_counted {codec : Codec} {r : Registry} (configured : Configured codec r) :
    r.s_taskCount = UInt32.ofNat r.taskList.length := by
  rcases configured with ⟨tasks, d, es, started, initial, rfl⟩
  have world := taskCoreInit_world ((taskCoreInit_returns_iff tasks).mp started)
  have registered : d.registry =
      ⟨tasks.map fun task => (startedTask task).task, UInt32.ofNat tasks.length⟩ := by
    rw [initial, world]
  have size := Daemon.size_run codec d es
  rw [size.count, size.length, registered, List.length_map]

/-- The entries that a listing has room for: those of all tasks, below 2^32. -/
def listedInfos (r : Registry) : List TaskSimpleInfo :=
  (r.taskList.map simpleInfo).take r.s_taskCount.toNat

theorem listing_configured {codec : Codec} {r : Registry} (configured : Configured codec r) :
    listing r.s_taskCount.toNat r.taskList = listedInfos r := by
  have counted := configured_counted configured
  have room : r.s_taskCount.toNat ≤ r.taskList.length := by
    rw [counted, UInt32.toNat_ofNat']
    exact Nat.mod_le _ _
  exact listing_eq_take room

def entryTree (info : TaskSimpleInfo) : Json :=
  .object [(text "name", .string info.name.text), (text "pid", .number info.pid.toNat),
    (text "status", .string info.status.text)]

def listingTree (infos : List TaskSimpleInfo) : Json :=
  .object [(text "ret", .number 0), (text "data", .array (infos.map entryTree))]

namespace MsgServer

theorem encodeSimpleInfo_entryTree (i : Nat) (info : TaskSimpleInfo) :
    encodeSimpleInfo (fun _ => true) i info = some (entryTree info) := by
  have name := content_of_noNul info.name.noNul
  have status := content_of_noNul info.status.noNul
  simp [encodeSimpleInfo, createObject, addNumberToObject, addStringToObject, addItemToObject,
    name, status, entryTree]

theorem encodeTaskList_entries (items : List Json) (i : Nat) (infos : List TaskSimpleInfo) :
    encodeTaskList (fun _ => true) (.array items) i infos =
      some (.array (items ++ infos.map entryTree)) := by
  induction infos generalizing items i with
  | nil => simp [encodeTaskList]
  | cons info infos ih =>
      have later := ih (items ++ [entryTree info]) (i + 1)
      simp [encodeTaskList, encodeSimpleInfo_entryTree, addItemToArray, later]

theorem encodeQueryAllRsp_listingTree (rsp : TaskAllRsp) :
    encodeQueryAllRsp (fun _ => true) (some rsp) = some (listingTree rsp.taskList) := by
  have entries := encodeTaskList_entries [] 0 rsp.taskList
  simp [encodeQueryAllRsp, entries, replyTree, createObject, addNumberToObject, addItemToObject,
    listingTree]

end MsgServer

def entrySize (info : TaskSimpleInfo) : Nat :=
  30 + textSize info.name.text + digitCount info.pid.toNat + textSize info.status.text

theorem entryTree_plain {info : TaskSimpleInfo} (name : PlainText info.name.text)
    (status : PlainText info.status.text) : Plain (entryTree info) := by
  have small : info.pid.toNat < 10 ^ 20 := by
    have word := info.pid.toNat_lt
    omega
  have keys : PlainText (text "name") ∧ PlainText (text "pid") ∧ PlainText (text "status") := by
    decide
  simp only [entryTree, Plain, PlainMembers, Rat.num_natCast, Int.natAbs_natCast]
  exact ⟨keys.1, name, keys.2.1, small, keys.2.2, status, trivial⟩

/-- The bytes of a listing's frame: header, punctuation and NUL, the entries and the commas. -/
def listingSize (infos : List TaskSimpleInfo) : Nat :=
  28 + (infos.map entrySize).sum + (infos.length - 1)

theorem compactSize_entryTree (info : TaskSimpleInfo) :
    compactSize (entryTree info) = entrySize info := by
  have name : textSize (text "name") = 4 := by decide
  have pid : textSize (text "pid") = 3 := by decide
  have status : textSize (text "status") = 6 := by decide
  simp only [entryTree, compactSize, membersSize, numberSize_natCast, name, pid, status,
    List.isEmpty_cons, List.isEmpty_nil, Bool.false_eq_true, if_false, if_true, entrySize]
  omega

theorem compactSize_listingTree (infos : List TaskSimpleInfo) :
    8 + (compactSize (listingTree infos) + 1) = listingSize infos := by
  have zero : numberSize 0 = 1 := by decide
  have ret : textSize (text "ret") = 3 := by decide
  have data : textSize (text "data") = 4 := by decide
  have entries : (infos.map entryTree).map compactSize = infos.map entrySize := by
    rw [List.map_map]
    exact List.map_congr_left fun info _ => compactSize_entryTree info
  simp only [listingTree, compactSize, membersSize, itemsSize_eq, entries, zero, ret, data,
    List.length_map, List.isEmpty_cons, List.isEmpty_nil, Bool.false_eq_true, if_false, if_true,
    listingSize]
  omega

theorem listing_encoded {codec : Codec} {env : CbEnv} (memory : env.mallocOk = true)
    {w : CoreWorld} (configured : Configured codec w.registry) :
    MsgServer.encodeQueryAllRsp (fun _ => true) (processGetAllTask env w).reply =
      some (listingTree (listedInfos w.registry)) := by
  rw [processGetAllTask, if_pos memory, ← listing_configured configured]
  exact MsgServer.encodeQueryAllRsp_listingTree _

theorem listing_sent (codec : Codec) {env : CbEnv} (memory : env.mallocOk = true) {w : CoreWorld}
    (configured : Configured codec w.registry) {type : Int}
    (queryAll : type = EventType.queryAll.code) (value : Option Json) (fd : Int)
    (uninit : EventType → Option Nat) (self : Nat) :
    MsgServer.replyFor codec (fun _ => true)
        (MsgServer.dispatch codec (coreCallbacks env) (fun _ => true)
          (connectionServer fd uninit self) type value w) =
      some (codec.print (listingTree (listedInfos w.registry))) := by
  have handled : MsgServer.dispatch codec (coreCallbacks env) (fun _ => true)
      (connectionServer fd uninit self) type value w =
    MsgServer.processQueryAllReq codec (coreCallbacks env) (fun _ => true)
      (connectionServer fd uninit self) value w := by
    subst queryAll
    rfl
  have registered : (connectionServer fd uninit self).mEventCb .queryAll =
      some .processGetAllTask := rfl
  have answers : coreCallbacks env .processGetAllTask .queryAll ()
      ((connectionServer fd uninit self).mUserData .queryAll) w = processGetAllTask env w := rfl
  have succ : (processGetAllTask env w).ret = .succ := by
    rw [processGetAllTask, if_pos memory]
  have encoded := listing_encoded memory configured
  rw [handled, MsgServer.processQueryAllReq, MsgServer.processReq]
  simp [registered, answers, succ, encoded, MsgServer.replyFor]

theorem listing_wire {codec : Codec} {env : CbEnv} (memory : env.mallocOk = true) {w : CoreWorld}
    (configured : Configured codec w.registry) {payload : List UInt8} {root : Json} {type : ℚ}
    (parsed : codec.parse payload = some root) (typed : numberItem root (text "type") = some type)
    (queryAll : truncate type = EventType.queryAll.code) {outcomes : List WriteOutcome}
    (clean : .error ∉ outcomes) (fd : Int) (uninit : EventType → Option Nat) (self : Nat)
    {reqId : UInt32}
    (compact : codec.Compact (listingTree (listedInfos w.registry)))
    (short : (codec.print (listingTree (listedInfos w.registry))).strlen < 2 ^ 31)
    (returned : (MsgServer.parseServerData codec (coreCallbacks env) (fun _ => true) outcomes
      (connectionServer fd uninit self) reqId payload w).ret ≠ none) :
    ∃ f : Frame, (MsgServer.parseServerData codec (coreCallbacks env) (fun _ => true) outcomes
        (connectionServer fd uninit self) reqId payload w).wire = f.encode ∧ f.reqId = reqId ∧
      f.payload = (codec.print (listingTree (listedInfos w.registry))).bytes ∧
      f.encode.length = listingSize (listedInfos w.registry) := by
  have sent := listing_sent codec memory configured queryAll (getObjectItem root (text "data")) fd
    uninit self
  have wire := MsgServer.parseServerData_wire parsed typed sent short clean returned
  refine ⟨_, wire, rfl, rfl, ?_⟩
  have size := compactSize_listingTree (listedInfos w.registry)
  have bytes : (MsgServer.replyFrame reqId _ short).payload.length =
      (codec.print (listingTree (listedInfos w.registry))).strlen + 1 :=
    List.length_append
  rw [Frame.encode_length, bytes, compact]
  omega

namespace MsgClient

variable {κ : Type*}

theorem parsePackage_listing {codec : Codec} {infos : List TaskSimpleInfo}
    (roundTrips : codec.RoundTrips (listingTree infos)) {f : Frame}
    (payload : f.payload = (codec.print (listingTree infos)).bytes) {w : ClientWorld κ}
    {pos : MsgRequest κ}
    (found : w.client.mRequestList.find? (·.reqId = f.reqId) = some pos)
    (typed : pos.type = .queryAll) (b : List UInt8) :
    calls (parsePackage codec [] (withRing w b) f.package).2.2 = [] := by
  have front : f.package.data.drop dataHeadLen.toNat = f.payload := rfl
  have answer : getObjectItem (listingTree infos) (text "ret") = some (.number 0) := rfl
  have data : getObjectItem (listingTree infos) (text "data") =
      some (.array (infos.map entryTree)) := rfl
  have zero : (Json.number 0).valueint = 0 := rfl
  have parsed : codec.parse f.payload = some (listingTree infos) := by
    rw [payload]
    exact roundTrips
  have refused : (processRspData pos (Json.number 0).valueint
      (some (.array (infos.map entryTree)))).2 = none := by
    rw [processRspData, zero, typed]
    split <;> rfl
  have settled := parseClientData_settled (w := withRing w b) [] parsed answer found
  rw [data, refused] at settled
  have silent : callOf pos none (.frame f.reqId) = [] := by
    cases cb : pos.cb <;> simp [callOf, cb]
  rw [parsePackage, front]
  exact settled.calls.trans silent

end MsgClient

/-- What the server wrote is one frame that fits the ring buffer, and however it is cut into
reads the client takes it out and calls the callback of the request `node`. -/
def ListingReceived {κ : Type*} (codec : Codec) (client : ClientWorld κ) (node : Nat)
    (wire : List UInt8) : Prop :=
  ∃ f : Frame, wire = f.encode ∧ f.encode.length ≤ socketBufSize ∧
    ∀ pieces, Segments f pieces →
      .taken f.package ∈ (MsgClient.feeding codec).trace client pieces ∧
        ∃ call : Call κ, .called call ∈ (MsgClient.feeding codec).trace client pieces ∧
          call.node = node

variable {κ : Type*}

/-- The listing's frame gets through the client's ring buffer exactly if it is at most
`socketBufSize` bytes long, and no listing calls the callback of the request for it. -/
theorem listing_never_received {codec : Codec} {env : CbEnv} (memory : env.mallocOk = true)
    {w : CoreWorld} (configured : Configured codec w.registry) {payload : List UInt8}
    {root : Json} {type : ℚ} (parsed : codec.parse payload = some root)
    (typed : numberItem root (text "type") = some type)
    (queryAll : truncate type = EventType.queryAll.code) {outcomes : List WriteOutcome}
    (clean : .error ∉ outcomes) (fd : Int) (uninit : EventType → Option Nat) (self : Nat)
    {reqId : UInt32}
    (returned : (MsgServer.parseServerData codec (coreCallbacks env) (fun _ => true) outcomes
      (connectionServer fd uninit self) reqId payload w).ret ≠ none)
    (printed : ∀ tree, MsgServer.encodeQueryAllRsp (fun _ => true) (processGetAllTask env w).reply =
      some tree → codec.RoundTrips tree ∧ codec.Compact tree ∧ (codec.print tree).strlen < 2 ^ 31)
    {client : ClientWorld κ} (empty : client.client.mRb = .create) {pos : MsgRequest κ}
    (found : client.client.mRequestList.find? (·.reqId = reqId) = some pos)
    (asked : pos.type = .queryAll) :
    (∃ f : Frame, (MsgServer.parseServerData codec (coreCallbacks env) (fun _ => true) outcomes
        (connectionServer fd uninit self) reqId payload w).wire = f.encode ∧
      f.encode.length = listingSize (listedInfos w.registry) ∧
      (MsgClient.Extracted codec client f ↔
        listingSize (listedInfos w.registry) ≤ socketBufSize)) ∧
    ¬ ListingReceived codec client pos.node
      (MsgServer.parseServerData codec (coreCallbacks env) (fun _ => true) outcomes
        (connectionServer fd uninit self) reqId payload w).wire := by
  rcases printed _ (listing_encoded memory configured) with ⟨roundTrips, compact, short⟩
  rcases listing_wire memory configured parsed typed queryAll clean fd uninit self compact short
    returned with ⟨f, wire, id, bytes, length⟩
  constructor
  · refine ⟨f, wire, length, ?_⟩
    rw [← length]
    exact MsgClient.extracted_iff codec empty f
  · intro received
    rcases received with ⟨f', same, _, received⟩
    rw [wire] at same
    have frame := (frameCode.encode_cancel (congrArg (· ++ []) same)).1
    subst frame
    have segments := segments_bytes f
    rcases (received _ segments).2 with ⟨call, called, _⟩
    rw [← id] at found
    -- a listing that gets through is an array, which the client turns away
    have silent := MsgClient.parsePackage_listing roundTrips bytes found asked
    exact MsgClient.feeding_silent codec empty segments silent call called

def listingWrites : List WriteOutcome := [.count 4, .count 4, .count 65536]

def listingWaiting : ClientWorld Unit :=
  (MsgClient.sendReqQueryAllTask textCodec ⟨fun _ => true, 0, true, true, listingWrites⟩
    (MsgClient.start 5 0) (some ())).world

def listingRequest : Json := .object [(text "type", .number 1)]

theorem listingRequest_type : truncate 1 = EventType.queryAll.code := by decide

def catTaskOf (i : Nat) : ConfiguredTask := (catTask.1, { catTask.2 with fork := 1000 + i })

def catsStarted (n : Nat) : CoreWorld := (taskCoreInit true ((List.range n).map catTaskOf)).world

theorem catTaskOf_works (n : Nat) :
    ∀ task ∈ (List.range n).map catTaskOf, task.2.timerOk = true := by
  intro task member
  rcases List.mem_map.mp member with ⟨i, _, rfl⟩
  rfl

theorem catsStarted_configured (n : Nat) : Configured textCodec (catsStarted n).registry :=
  ⟨(List.range n).map catTaskOf, ⟨(catsStarted n).registry, [], [], 0, true⟩, [],
    (taskCoreInit_returns_iff _).mpr (catTaskOf_works n), rfl, rfl⟩

def catInfo (i : Nat) : TaskSimpleInfo :=
  ⟨strncpy 32 nameSize_pos (text "cat"), UInt32.ofInt (1000 + i),
    strncpy 32 nameSize_pos (text "running")⟩

theorem catsStarted_listed {n : Nat} (counted : n < 2 ^ 32) :
    listedInfos (catsStarted n).registry = (List.range n).map catInfo := by
  have world := taskCoreInit_world (catTaskOf_works n)
  rw [List.length_map, List.length_range] at world
  rw [listedInfos, catsStarted, world]
  dsimp only
  rw [UInt32.toNat_ofNat_of_lt' counted, List.map_map, List.map_map]
  have infos : (List.range n).map ((simpleInfo ∘ fun task => (startedTask task).task) ∘ catTaskOf) =
      (List.range n).map catInfo := List.map_congr_left fun i _ => rfl
  rw [infos]
  exact List.take_of_length_le (by simp)

theorem listingTree_cats_plain (n : Nat) :
    Plain (listingTree ((List.range n).map catInfo)) := by
  have keys : PlainText (text "ret") ∧ PlainText (text "data") := by decide
  have entries : ∀ item ∈ ((List.range n).map catInfo).map entryTree, Plain item := by
    intro item member
    rcases List.mem_map.mp member with ⟨info, inside, rfl⟩
    rcases List.mem_map.mp inside with ⟨i, _, rfl⟩
    have name : PlainText (strncpy 32 nameSize_pos (text "cat")).text := by decide
    have status : PlainText (strncpy 32 nameSize_pos (text "running")).text := by decide
    exact entryTree_plain name status
  simp only [listingTree, Plain, PlainMembers, plainItems_iff]
  exact ⟨keys.1, by decide, keys.2, entries, trivial⟩

theorem entrySize_catInfo {i : Nat} (small : i < 9000) : entrySize (catInfo i) = 44 := by
  have name : textSize (catInfo i).name.text = 3 := by
    change textSize (strncpy 32 nameSize_pos (text "cat")).text = 3
    decide
  have status : textSize (catInfo i).status.text = 7 := by
    change textSize (strncpy 32 nameSize_pos (text "running")).text = 7
    decide
  have pid : (catInfo i).pid.toNat = 1000 + i := by
    change (UInt32.ofInt (1000 + i)).toNat = 1000 + i
    simp only [UInt32.ofInt, UInt32.toNat_ofNat']
    omega
  have digits : digitCount (1000 + i) = 4 := by
    have log := Nat.log_eq_of_pow_le_of_lt_pow (b := 10) (m := 3) (n := 1000 + i) (by omega)
      (by omega)
    rw [digitCount, log]
  rw [entrySize, name, status, pid, digits]

theorem listingSize_cats {n : Nat} (small : n < 9000) :
    listingSize ((List.range n).map catInfo) = 28 + 44 * n + (n - 1) := by
  have entries : ((List.range n).map catInfo).map entrySize = (List.range n).map fun _ => 44 := by
    rw [List.map_map]
    apply List.map_congr_left
    intro i member
    exact entrySize_catInfo ((List.mem_range.mp member).trans small)
  rw [listingSize, entries, List.map_const', List.sum_replicate_nat]
  simp only [List.length_map, List.length_range]
  omega

theorem writeSocket_whole {data : List UInt8} {n : Nat} (offered : data.length ≤ n)
    (outcomes : List WriteOutcome) :
    writeSocket data (.count n :: outcomes) = ⟨some 0, data, outcomes⟩ := by
  have all : min n data.length = data.length := Nat.min_eq_right offered
  simp [writeSocket, writeLoop, all]

theorem writeFrame_whole {data : List UInt8} {n : Nat} (offered : data.length ≤ n)
    (reqId len : UInt32) :
    (writeFrame reqId len data [.count 4, .count 4, .count n]).ret = some 0 := by
  have head (word : UInt32) : (htonl word).length ≤ 4 := le_of_eq (BigEndian.encode32_length word)
  have part : (data.take len.toNat).length ≤ n := (List.length_take_le' _ _).trans offered
  simp only [writeFrame, writeSocket_whole (head _), writeSocket_whole part]
  rfl

theorem cats_strlen {n : Nat} (small : n < 9000) :
    (textCodec.print (listingTree (listedInfos (catsStarted n).registry))).strlen =
      19 + 44 * n + (n - 1) := by
  have compact := textCodec_compact (listingTree_cats_plain n)
  have size := compactSize_listingTree ((List.range n).map catInfo)
  rw [listingSize_cats small] at size
  rw [catsStarted_listed (by omega), compact]
  omega

theorem cats_answered {n : Nat} (small : n < 1400) :
    (MsgServer.parseServerData textCodec (coreCallbacks plainEnv) (fun _ => true) listingWrites
      (connectionServer 5 (fun _ => none) 0) 1 (textCodec.print listingRequest).bytes
      (catsStarted n)).ret ≠ none := by
  have memory : plainEnv.mallocOk = true := rfl
  have parsed : textCodec.parse (textCodec.print listingRequest).bytes = some listingRequest := rfl
  have typed : numberItem listingRequest (text "type") = some 1 := rfl
  have sent := listing_sent textCodec memory (catsStarted_configured n) listingRequest_type
    (getObjectItem listingRequest (text "data")) 5 (fun _ => none) 0
  have offered : (textCodec.print
      (listingTree (listedInfos (catsStarted n).registry))).bytes.length ≤ 65536 := by
    have strlen := cats_strlen (n := n) (by omega)
    rw [CString.strlen] at strlen
    rw [CString.bytes, List.length_append, strlen, List.length_singleton]
    omega
  have wrote := writeFrame_whole offered
  simp [MsgServer.parseServerData, parsed, typed, sent, listingWrites, wrote]

/-- Even the listing of one cat calls no callback. -/
theorem listing_never_received_one :
    (∃ f : Frame, (MsgServer.parseServerData textCodec (coreCallbacks plainEnv) (fun _ => true)
        listingWrites coreServer 1 (textCodec.print listingRequest).bytes (catsStarted 1)).wire =
        f.encode ∧
      f.encode.length = listingSize (listedInfos (catsStarted 1).registry) ∧
      (MsgClient.Extracted textCodec listingWaiting f ↔
        listingSize (listedInfos (catsStarted 1).registry) ≤ socketBufSize)) ∧
    ¬ ListingReceived textCodec listingWaiting 1
      (MsgServer.parseServerData textCodec (coreCallbacks plainEnv) (fun _ => true)
        listingWrites coreServer 1 (textCodec.print listingRequest).bytes
        (catsStarted 1)).wire := by
  have clean : WriteOutcome.error ∉ listingWrites := by decide
  have parsed : textCodec.parse (textCodec.print listingRequest).bytes = some listingRequest := rfl
  have found : listingWaiting.client.mRequestList.find? (·.reqId = 1) =
      some ⟨1, 1, .queryAll, some (), 0, 3, some 1⟩ := by decide +kernel
  have printed : ∀ tree, MsgServer.encodeQueryAllRsp (fun _ => true)
      (processGetAllTask plainEnv (catsStarted 1)).reply = some tree →
        textCodec.RoundTrips tree ∧ textCodec.Compact tree ∧
          (textCodec.print tree).strlen < 2 ^ 31 := by
    intro tree built
    rw [listing_encoded rfl (catsStarted_configured 1), catsStarted_listed (by decide)] at built
    obtain rfl := Option.some.inj built
    exact ⟨rfl, textCodec_compact (listingTree_cats_plain 1), by decide +kernel⟩
  exact listing_never_received rfl (catsStarted_configured 1) parsed rfl listingRequest_type clean 5
    (fun _ => none) 0 (cats_answered (by decide)) printed rfl found rfl

/-- The listing of a thousand cats is more than four times as long as a ring buffer. -/
theorem thousand_cats_too_long :
    Configured textCodec (catsStarted 1000).registry ∧
    (∃ f : Frame, (MsgServer.parseServerData textCodec (coreCallbacks plainEnv) (fun _ => true)
        listingWrites coreServer 1 (textCodec.print listingRequest).bytes (catsStarted 1000)).wire =
        f.encode ∧ f.encode.length = 45027 ∧
      ¬ MsgClient.Extracted textCodec listingWaiting f) ∧
    ¬ ListingReceived textCodec listingWaiting 1
      (MsgServer.parseServerData textCodec (coreCallbacks plainEnv) (fun _ => true)
        listingWrites coreServer 1 (textCodec.print listingRequest).bytes
        (catsStarted 1000)).wire := by
  have memory : plainEnv.mallocOk = true := rfl
  have configured := catsStarted_configured 1000
  have clean : WriteOutcome.error ∉ listingWrites := by decide
  have parsed : textCodec.parse (textCodec.print listingRequest).bytes = some listingRequest := rfl
  have typed : numberItem listingRequest (text "type") = some 1 := rfl
  have listed := catsStarted_listed (n := 1000) (by decide)
  have compact := textCodec_compact (listingTree_cats_plain 1000)
  rw [← listed] at compact
  have short : (textCodec.print
      (listingTree (listedInfos (catsStarted 1000).registry))).strlen < 2 ^ 31 := by
    rw [cats_strlen (by decide)]
    decide
  rcases listing_wire memory configured parsed typed listingRequest_type clean 5 (fun _ => none) 0
    compact short (cats_answered (by decide)) with ⟨f, wire, _, _, length⟩
  rw [listed, listingSize_cats (by decide)] at length
  have limit : socketBufSize = 10240 := rfl
  refine ⟨configured, ⟨f, wire, length, ?_⟩, ?_⟩
  · intro extracted
    have fits := (MsgClient.extracted_iff textCodec rfl f).mp extracted
    omega
  · intro received
    rcases received with ⟨f', same, fits, _⟩
    have framed : f.encode = f'.encode := wire.symm.trans same
    rw [← framed] at fits
    omega

end TaskMonitor
