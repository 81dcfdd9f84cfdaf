import TaskMonitor.DaemonSteps
import TaskMonitor.TargetResolution
import Mathlib.Data.List.Induction

/-! The callbacks and the user data that registrations leave in a `MsgServer`, and what a request
finds of them. -/

namespace TaskMonitor

open CText Cjson

structure Registration (κ υ : Type*) where
  type : EventType
  cb : κ
  usrData : υ

namespace MsgServer

variable {κ υ σ : Type*}

def registerAll (srv : MsgServer κ υ) (regs : List (Registration κ υ)) : MsgServer κ υ :=
  regs.foldl (fun srv r => (srv.registerEventCb r.type r.cb r.usrData).1) srv

def firstFor (regs : List (Registration κ υ)) (t : EventType) : Option (Registration κ υ) :=
  regs.find? (·.type = t)

def storedData (uninit : EventType → Option υ) (regs : List (Registration κ υ)) (t : EventType) :
    Option υ := ((firstFor regs t).map (·.usrData)).or (uninit t)

theorem firstFor_append (regs : List (Registration κ υ)) (r : Registration κ υ) (t : EventType) :
    firstFor (regs ++ [r]) t = (firstFor regs t).or (if r.type = t then some r else none) := by
  rw [firstFor, List.find?_append, List.find?_singleton]
  by_cases same : r.type = t
  · rw [if_pos same, decide_eq_true same]
    rfl
  · rw [if_neg same, decide_eq_false same]
    rfl

theorem storedData_of_first {uninit : EventType → Option υ} {regs : List (Registration κ υ)}
    {t : EventType} {r : Registration κ υ} (first : firstFor regs t = some r) :
    storedData uninit regs t = some r.usrData := by
  rw [storedData, first]
  rfl

theorem code_ge_max_iff (t : EventType) : t.code ≥ EventType.max.code ↔ t = .max := by
  cases t <;> decide

theorem registerEventCb_new {srv : MsgServer κ υ} {type : EventType} (valid : type ≠ .max)
    (unset : srv.mEventCb type = none) (cb : κ) (usrData : υ) :
    (srv.registerEventCb type cb usrData).1 =
      { srv with
        mEventCb := Function.update srv.mEventCb type (some cb)
        mUserData := Function.update srv.mUserData type (some usrData) } := by
  rw [registerEventCb, if_neg fun large => valid ((code_ge_max_iff type).mp large), unset]
  rfl

theorem registerEventCb_refused {srv : MsgServer κ υ} {type : EventType}
    (refused : type = .max ∨ srv.mEventCb type ≠ none) (cb : κ) (usrData : υ) :
    (srv.registerEventCb type cb usrData).1 = srv := by
  rw [registerEventCb]
  by_cases large : type.code ≥ EventType.max.code
  · rw [if_pos large]
  · have valid : type ≠ .max := fun same => large ((code_ge_max_iff type).mpr same)
    rw [if_neg large, if_pos (Option.isSome_iff_ne_none.mpr (refused.resolve_left valid))]

theorem registerAll_append (srv : MsgServer κ υ) (regs : List (Registration κ υ))
    (r : Registration κ υ) :
    srv.registerAll (regs ++ [r]) =
      ((srv.registerAll regs).registerEventCb r.type r.cb r.usrData).1 := by
  rw [registerAll, List.foldl_append]
  rfl

theorem registerAll_tables (fd : Int) (uninit : EventType → Option υ)
    (regs : List (Registration κ υ)) {t : EventType} (valid : t ≠ .max) :
    ((new fd uninit).registerAll regs).mEventCb t = (firstFor regs t).map (·.cb) ∧
      ((new fd uninit).registerAll regs).mUserData t = storedData uninit regs t := by
  induction regs using List.reverseRecOn with
  | nil => exact ⟨rfl, rfl⟩
  | append_singleton regs r ih =>
      rcases ih with ⟨callbacks, data⟩
      rw [registerAll_append, storedData, firstFor_append]
      generalize (new fd uninit).registerAll regs = srv at callbacks data
      by_cases own : r.type = t
      · subst own
        rw [if_pos rfl]
        cases first : firstFor regs r.type with
        | none =>
            rw [first] at callbacks
            rw [registerEventCb_new valid callbacks]
            exact ⟨Function.update_self .., Function.update_self ..⟩
        | some r' =>
            rw [first] at callbacks
            have set : srv.mEventCb r.type ≠ none := by
              rw [callbacks]
              exact Option.some_ne_none _
            rw [registerEventCb_refused (.inr set), callbacks, data, storedData, first]
            exact ⟨rfl, rfl⟩
      · rw [if_neg own, Option.or_none]
        by_cases refused : r.type = .max ∨ srv.mEventCb r.type ≠ none
        · rw [registerEventCb_refused refused]
          exact ⟨callbacks, data⟩
        · rcases not_or.mp refused with ⟨valid', unset⟩
          rw [registerEventCb_new valid' (not_not.mp unset)]
          have other : t ≠ r.type := fun same => own same.symm
          exact ⟨(Function.update_of_ne other ..).trans callbacks,
            (Function.update_of_ne other ..).trans data⟩

theorem registerAll_max (fd : Int) (uninit : EventType → Option υ)
    (regs : List (Registration κ υ)) : ((new fd uninit).registerAll regs).mEventCb .max = none := by
  induction regs using List.reverseRecOn with
  | nil => rfl
  | append_singleton regs r ih =>
      rw [registerAll_append]
      by_cases refused : r.type = .max ∨
          ((new fd uninit).registerAll regs).mEventCb r.type ≠ none
      · rw [registerEventCb_refused refused]
        exact ih
      · rcases not_or.mp refused with ⟨valid, unset⟩
        rw [registerEventCb_new valid (not_not.mp unset)]
        exact (Function.update_of_ne (fun same => valid same.symm) ..).trans ih

def Paired (regs : List (Registration κ υ)) (inv : Invocation κ υ) : Prop :=
  ∃ r, firstFor regs inv.type = some r ∧ inv.cb = r.cb ∧ inv.usrData = some r.usrData

def SharesQueryAll (uninit : EventType → Option υ) (regs : List (Registration κ υ)) : Prop :=
  ∀ t, t = .queryTask ∨ t = .taskAction → ∀ r, firstFor regs t = some r →
    storedData uninit regs .queryAll = some r.usrData

theorem userDataType_valid (t : EventType) : userDataType t ≠ .max := by cases t <;> decide

theorem storedData_shared {uninit : EventType → Option υ} {regs : List (Registration κ υ)}
    (shares : SharesQueryAll uninit regs) {t : EventType} (valid : t ≠ .max)
    {r : Registration κ υ} (first : firstFor regs t = some r) :
    storedData uninit regs (userDataType t) = some r.usrData := by
  cases t with
  | heartbeat => exact storedData_of_first first
  | queryAll => exact storedData_of_first first
  | queryTask => exact shares _ (.inl rfl) r first
  | taskAction => exact shares _ (.inr rfl) r first
  | max => exact absurd rfl valid

def probe (t : EventType) : Json :=
  .object [(text "type", .number t.code),
    (text "data", .object [(text "pid", .number 1), (text "hearbeat", .number 1)])]

theorem probe_decoded (t : EventType) :
    numberItem (probe t) (text "type") = some (t.code : ℚ) ∧
      (decodeQuerySingleTaskReq (getObjectItem (probe t) (text "data"))).isSome = true ∧
      (decodeTaskActionReq (getObjectItem (probe t) (text "data"))).isSome = true :=
  ⟨rfl, rfl, rfl⟩

theorem parseServerData_invoked {codec : Codec} {data : List UInt8} {root : Json} {type : ℚ}
    (parsed : codec.parse data = some root) (typed : numberItem root (text "type") = some type)
    (call : CallbackSem κ υ σ) (alloc : AllocSite → Bool) (outcomes : List WriteOutcome)
    (srv : MsgServer κ υ) (reqId : UInt32) (w : σ) :
    (parseServerData codec call alloc outcomes srv reqId data w).invoked =
      (dispatch codec call alloc srv (truncate type) (getObjectItem root (text "data"))
        w).invoked := by
  simp only [parseServerData, parsed, typed]
  split <;> rfl

theorem processQuerySingleTaskReq_invoked (codec : Codec) (call : CallbackSem κ υ σ)
    (alloc : AllocSite → Bool) {srv : MsgServer κ υ} (data : Option Json) (w : σ) {cb : κ}
    (registered : srv.mEventCb .queryTask = some cb) :
    (processQuerySingleTaskReq codec call alloc srv data w).invoked =
      (decodeQuerySingleTaskReq data).map fun req =>
        ⟨cb, .queryTask, req, srv.mUserData .queryAll,
          (call cb .queryTask req (srv.mUserData .queryAll) w).ret⟩ :=
  processReq_invoked codec call alloc w registered

theorem processTaskActionReq_invoked (codec : Codec) (call : CallbackSem κ υ σ)
    (alloc : AllocSite → Bool) {srv : MsgServer κ υ} (data : Option Json) (w : σ) {cb : κ}
    (registered : srv.mEventCb .taskAction = some cb) :
    (processTaskActionReq codec call alloc srv data w).invoked =
      (decodeTaskActionReq data).map fun req =>
        ⟨cb, .taskAction, req, srv.mUserData .queryAll,
          (call cb .taskAction req (srv.mUserData .queryAll) w).ret⟩ :=
  processReq_invoked codec call alloc w registered

theorem probe_invokes {codec : Codec} {t : EventType} (looked : t = .queryTask ∨ t = .taskAction)
    (received : codec.RoundTrips (probe t)) (call : CallbackSem κ υ σ) (alloc : AllocSite → Bool)
    (outcomes : List WriteOutcome) {srv : MsgServer κ υ} {cb : κ}
    (registered : srv.mEventCb t = some cb) (reqId : UInt32) (w : σ) :
    ∃ inv, (parseServerData codec call alloc outcomes srv reqId (codec.print (probe t)).bytes
        w).invoked = some inv ∧ inv.type = t ∧ inv.usrData = srv.mUserData .queryAll := by
  rcases probe_decoded t with ⟨typed, query, action⟩
  rw [parseServerData_invoked received typed]
  rcases looked with rfl | rfl
  · rcases Option.isSome_iff_exists.mp query with ⟨req, decoded⟩
    have invoked := processQuerySingleTaskReq_invoked codec call alloc
      (getObjectItem (probe .queryTask) (text "data")) w registered
    rw [decoded] at invoked
    exact ⟨_, invoked, rfl, rfl⟩
  · rcases Option.isSome_iff_exists.mp action with ⟨req, decoded⟩
    have invoked := processTaskActionReq_invoked codec call alloc
      (getObjectItem (probe .taskAction) (text "data")) w registered
    rw [decoded] at invoked
    exact ⟨_, invoked, rfl, rfl⟩

end MsgServer

open MsgServer

variable {κ υ σ : Type*}

/-- Every invocation is of the first callback registered for its type and has the user data
registered with it exactly when the two types that are looked up under QUERY_ALL share its user
data. -/
theorem pairs_kept_iff {codec : Codec}
    (received : ∀ t, t = .queryTask ∨ t = .taskAction → codec.RoundTrips (probe t))
    (call : CallbackSem κ υ σ) (alloc : AllocSite → Bool) (outcomes : List WriteOutcome) (fd : Int)
    (uninit : EventType → Option υ) (regs : List (Registration κ υ)) (w : σ) :
    (∀ reqId data inv, (parseServerData codec call alloc outcomes
        ((MsgServer.new fd uninit).registerAll regs) reqId data w).invoked = some inv →
      Paired regs inv) ↔ SharesQueryAll uninit regs := by
  constructor
  · intro every t looked r first
    have valid : t ≠ .max := by rcases looked with rfl | rfl <;> decide
    rcases registerAll_tables fd uninit regs valid with ⟨callbacks, _⟩
    rw [first] at callbacks
    rcases probe_invokes looked (received t looked) call alloc outcomes callbacks 0 w with
      ⟨inv, invoked, type, data⟩
    rcases every 0 _ inv invoked with ⟨r', first', _, own⟩
    rw [type, first] at first'
    obtain rfl := Option.some.inj first'
    rw [← own, data]
    exact (registerAll_tables fd uninit regs (by decide)).2.symm
  · intro shares reqId data inv invoked
    have reported := parseServerData_reported codec call alloc outcomes
      ((MsgServer.new fd uninit).registerAll regs) reqId data w
    rw [invoked] at reported
    rcases reported with ⟨registered, data, _⟩
    have valid : inv.type ≠ .max := by
      intro same
      rw [same, registerAll_max] at registered
      cases registered
    rw [(registerAll_tables fd uninit regs valid).1] at registered
    rcases Option.map_eq_some_iff.mp registered with ⟨r, first, same⟩
    refine ⟨r, first, same.symm, ?_⟩
    rw [data, (registerAll_tables fd uninit regs (userDataType_valid inv.type)).2]
    exact storedData_shared shares valid first

def registrations (queryAll queryTask : Nat) : List (Registration CoreCb Nat) :=
  [⟨.queryAll, .processGetAllTask, queryAll⟩, ⟨.queryTask, .processGetSingleTask, queryTask⟩,
    ⟨.queryTask, .processTaskAction, 9⟩]

theorem probe_received : ∀ t, t = .queryTask ∨ t = .taskAction →
    textCodec.RoundTrips (probe t) := by
  intro t looked
  rcases looked with rfl | rfl
  · rfl
  · rfl

theorem pairs_kept_iff_shared :
    SharesQueryAll (fun _ => none) (registrations 1 1) ∧
      ∀ reqId data inv, (parseServerData textCodec (coreCallbacks plainEnv) (fun _ => true) []
        ((MsgServer.new 5 fun _ => none).registerAll (registrations 1 1)) reqId data
        oneTask).invoked = some inv → Paired (registrations 1 1) inv := by
  have shares : SharesQueryAll (fun _ => none) (registrations 1 1) := by
    intro t looked r first
    rcases looked with rfl | rfl
    · obtain rfl := Option.some.inj first
      rfl
    · cases first
  constructor
  · exact shares
  · exact (pairs_kept_iff probe_received (coreCallbacks plainEnv) (fun _ => true) [] 5
      (fun _ => none) (registrations 1 1) oneTask).mpr shares

/-- The query for one task is answered with the user data of QUERY_ALL. -/
theorem query_gets_other_data : ¬ ∀ reqId data inv,
    (parseServerData textCodec (coreCallbacks plainEnv) (fun _ => true) []
      ((MsgServer.new 5 fun _ => none).registerAll (registrations 1 2)) reqId data
      oneTask).invoked = some inv → Paired (registrations 1 2) inv := by
  intro every
  have invoked : (parseServerData textCodec (coreCallbacks plainEnv) (fun _ => true) []
      ((MsgServer.new 5 fun _ => none).registerAll (registrations 1 2)) 0
      (textCodec.print (probe .queryTask)).bytes oneTask).invoked =
        some ⟨.processGetSingleTask, .queryTask, (⟨1, .zero 32 nameSize_pos⟩ : TaskSingleReq),
          some 1, .notFound⟩ := rfl
  rcases every 0 _ _ invoked with ⟨r, first, _, data⟩
  obtain rfl := Option.some.inj first
  cases data

end TaskMonitor
