import TaskMonitor.MsgClient
import TaskMonitor.Library.OneShot

/-! The requests a `MsgClient` waits for, over whole runs: their ids and their callbacks. -/

namespace TaskMonitor

open CText Cjson

namespace MsgClient

variable {κ : Type*}

def call? : ClientOut κ → Option (Call κ)
  | .called call => some call
  | _ => none

def calls (outs : List (ClientOut κ)) : List (Call κ) := outs.filterMap call?

theorem calls_append (front back : List (ClientOut κ)) :
    calls (front ++ back) = calls front ++ calls back := List.filterMap_append

/-- The id a request numbered 0 would have had. Every other id follows from it. -/
def baseId (w : ClientWorld κ) : UInt32 := w.client.mCurReqId - UInt32.ofNat w.issued

structure Grown (w w' : ClientWorld κ) : Prop where
  linked : ∃ new, w'.client.mRequestList = new ++ w.client.mRequestList ∧
    (new.map MsgRequest.node).Nodup ∧
    ∀ r ∈ new, w.issued < r.node ∧ r.node ≤ w'.issued ∧ r.reqId = baseId w + UInt32.ofNat r.node
  issued : w.issued ≤ w'.issued
  base : baseId w' = baseId w
  alive : w'.alive = w.alive

theorem Grown.refl (w : ClientWorld κ) : Grown w w :=
  ⟨⟨[], rfl, by simp, by simp⟩, le_rfl, rfl, rfl⟩

theorem Grown.trans {w₁ w₂ w₃ : ClientWorld κ} (first : Grown w₁ w₂) (second : Grown w₂ w₃) :
    Grown w₁ w₃ := by
  rcases first.linked with ⟨new₁, list₁, nodup₁, fresh₁⟩
  rcases second.linked with ⟨new₂, list₂, nodup₂, fresh₂⟩
  have issued₁ := first.issued
  have issued₂ := second.issued
  refine ⟨⟨new₂ ++ new₁, ?_, ?_, ?_⟩, by omega, second.base.trans first.base,
    second.alive.trans first.alive⟩
  · rw [list₂, list₁, List.append_assoc]
  · rw [List.map_append, List.nodup_append']
    refine ⟨nodup₂, nodup₁, ?_⟩
    intro node inNew inOld
    rcases List.mem_map.mp inNew with ⟨r, member, rfl⟩
    rcases List.mem_map.mp inOld with ⟨r', member', same⟩
    have later := (fresh₂ r member).1
    have earlier := (fresh₁ r' member').2.1
    omega
  · intro r member
    rcases List.mem_append.mp member with later | earlier
    · rcases fresh₂ r later with ⟨above, below, id⟩
      exact ⟨by omega, below, by rw [id, first.base]⟩
    · rcases fresh₁ r earlier with ⟨above, below, id⟩
      exact ⟨above, by omega, id⟩

theorem baseId_next (current : UInt32) (issued : Nat) :
    current + 1 - UInt32.ofNat (issued + 1) = current - UInt32.ofNat issued := by
  rw [UInt32.ofNat_add]
  grind

theorem getNextReqId_grown (w : ClientWorld κ) : Grown w (getNextReqId w).2 :=
  ⟨⟨[], rfl, by simp, by simp⟩, Nat.le_succ _, baseId_next _ _, rfl⟩

theorem sendRequest_grown (w : ClientWorld κ) (a : SendArgs κ) :
    Grown w (sendRequest w a).world ∧ calls (sendRequest w a).outs = [] := by
  have unlinked := getNextReqId_grown w
  rw [sendRequest]
  dsimp only
  split
  · exact ⟨unlinked, rfl⟩
  split
  · exact ⟨unlinked, rfl⟩
  split
  · exact ⟨unlinked, rfl⟩
  unfold reqNodeCreate
  dsimp only
  cases a.mallocOk with
  | false => exact ⟨unlinked, rfl⟩
  | true =>
      cases a.timerOk with
      | false => exact ⟨unlinked, rfl⟩
      | true =>
          refine ⟨⟨⟨[⟨w.issued + 1, w.client.mCurReqId + 1, a.reqType, a.cb, a.now, a.timeout,
            some (w.issued + 1)⟩], rfl, by simp, ?_⟩, Nat.le_succ _, baseId_next _ _, rfl⟩, rfl⟩
          intro r member
          obtain rfl := List.mem_singleton.mp member
          refine ⟨Nat.lt_succ_self _, le_rfl, ?_⟩
          calc
            _ = w.client.mCurReqId + 1 := rfl
            _ = w.client.mCurReqId - UInt32.ofNat w.issued +
                  (UInt32.ofNat w.issued + UInt32.ofNat 1) := by grind
            _ = baseId w + UInt32.ofNat (w.issued + 1) := by rw [baseId, UInt32.ofNat_add]

theorem sendAll_grown (w : ClientWorld κ) (sends : List (SendArgs κ)) :
    Grown w (sendAll w sends).1 ∧ calls (sendAll w sends).2 = [] := by
  induction sends generalizing w with
  | nil => exact ⟨.refl w, rfl⟩
  | cons a sends ih =>
      rcases sendRequest_grown w a with ⟨first, silent⟩
      rcases ih (sendRequest w a).world with ⟨rest, silent'⟩
      refine ⟨first.trans rest, ?_⟩
      rw [sendAll, calls_append, silent, silent']
      rfl

structure Shrunk (w w' : ClientWorld κ) : Prop where
  linked : w'.client.mRequestList.Sublist w.client.mRequestList
  issued : w'.issued = w.issued
  base : baseId w' = baseId w

theorem retire_shrunk (w : ClientWorld κ) (req : MsgRequest κ) :
    (retire w req).1.client.mRequestList = w.client.mRequestList.filter (·.node ≠ req.node) ∧
      Shrunk w (retire w req).1 ∧ calls (retire w req).2 = [] := by
  rw [retire, destroyReqNode]
  cases req.timer <;> exact ⟨rfl, ⟨List.filter_sublist, rfl, rfl⟩, rfl⟩

theorem destroyAll_shrunk (w : ClientWorld κ) (reqs : List (MsgRequest κ)) :
    Shrunk w (destroyAll w reqs).1 ∧ calls (destroyAll w reqs).2 = [] := by
  induction reqs generalizing w with
  | nil => exact ⟨⟨List.Sublist.refl _, rfl, rfl⟩, rfl⟩
  | cons pos next ih =>
      rcases retire_shrunk w pos with ⟨_, first, silent⟩
      rcases ih (retire w pos).1 with ⟨rest, silent'⟩
      refine ⟨⟨rest.linked.trans first.linked, rest.issued.trans first.issued,
        rest.base.trans first.base⟩, ?_⟩
      rw [destroyAll, calls_append, silent, silent']
      rfl

def callOf (req : MsgRequest κ) (args : Option CbArgs) (cause : Cause) : List (Call κ) :=
  match req.cb, args with
  | some cb, some (ret, data) => [⟨req.node, cb, ret, data, cause⟩]
  | _, _ => []

structure Settled (w w' : ClientWorld κ) (outs : List (ClientOut κ)) (req : MsgRequest κ)
    (args : Option CbArgs) (cause : Cause) : Prop where
  outstanding : req ∈ w.client.mRequestList
  unlinked : ∃ mid, Grown w mid ∧ Shrunk mid w' ∧
    w'.client.mRequestList = mid.client.mRequestList.filter (·.node ≠ req.node)
  calls : calls outs = callOf req args cause

theorem invoke_retire_settled {w : ClientWorld κ} {req : MsgRequest κ} (args : Option CbArgs)
    (cause : Cause) (during : List (SendArgs κ)) (outstanding : req ∈ w.client.mRequestList) :
    Settled w (retire (invoke w req args cause during).1 req).1
      ((invoke w req args cause during).2 ++ (retire (invoke w req args cause during).1 req).2)
      req args cause := by
  have invoked : Grown w (invoke w req args cause during).1 ∧
      calls (invoke w req args cause during).2 = callOf req args cause := by
    simp only [invoke, callOf]
    cases req.cb with
    | none => exact ⟨.refl w, rfl⟩
    | some cb =>
        cases args with
        | none => exact ⟨.refl w, rfl⟩
        | some args =>
            rcases sendAll_grown w during with ⟨grown, silent⟩
            exact ⟨grown, congrArg (List.cons _) silent⟩
  rcases invoked with ⟨grown, called⟩
  rcases retire_shrunk (invoke w req args cause during).1 req with ⟨filtered, shrunk, silent⟩
  refine ⟨outstanding, ⟨_, grown, shrunk, filtered⟩, ?_⟩
  rw [calls_append, called, silent, List.append_nil]

/-- The event that settles a request, and what its callback is given: a frame with the
request's id whose payload has a `ret`, or a timer. -/
inductive Routed (codec : Codec) (w : ClientWorld κ) (req : MsgRequest κ) :
    Event κ → Option CbArgs → Cause → Prop where
  | frame (data : List UInt8) (during : List (SendArgs κ)) (root retval : Json)
      (parsed : codec.parse data = some root)
      (answer : getObjectItem root (text "ret") = some retval)
      (found : w.client.mRequestList.find? (·.reqId = req.reqId) = some req) :
      Routed codec w req (.frame req.reqId data during)
        (processRspData req retval.valueint (getObjectItem root (text "data"))).2 (.frame req.reqId)
  | expire (timer : Nat) (during : List (SendArgs κ)) :
      Routed codec w req (.expire timer during)
        (some ((EventErrCode.timeout.code : Int), none)) .timeout

inductive Effect (codec : Codec) (w : ClientWorld κ) (e : Event κ) (w' : ClientWorld κ)
    (outs : List (ClientOut κ)) : Prop where
  | grew (grown : Grown w w') (silent : calls outs = [])
  | settled (req : MsgRequest κ) (args : Option CbArgs) (cause : Cause)
      (routed : Routed codec w req e args cause) (settled : Settled w w' outs req args cause)
  | destroyed (asked : e = .destroy) (shrunk : Shrunk w w') (silent : calls outs = [])

theorem parseClientData_settled {codec : Codec} {w : ClientWorld κ} {reqId : UInt32}
    {data : List UInt8} (during : List (SendArgs κ)) {root retval : Json} {pos : MsgRequest κ}
    (parsed : codec.parse data = some root)
    (answer : getObjectItem root (text "ret") = some retval)
    (found : w.client.mRequestList.find? (·.reqId = reqId) = some pos) :
    Settled w (parseClientData codec w reqId data during).2.1
      (parseClientData codec w reqId data during).2.2 pos
      (processRspData pos retval.valueint (getObjectItem root (text "data"))).2 (.frame reqId) := by
  simp only [parseClientData, parsed, answer, found]
  exact invoke_retire_settled _ _ during (List.mem_of_find?_eq_some found)

theorem step_effect (codec : Codec) (w : ClientWorld κ) (e : Event κ) :
    Effect codec w e ((machine codec).next w e) ((machine codec).emit w e) := by
  unfold StepMachine.next StepMachine.emit machine step
  dsimp only
  split
  -- a client that has been destroyed does not move
  · exact .grew (.refl w) rfl
  cases e with
  | send a => exact .grew (sendRequest_grown w a).1 (sendRequest_grown w a).2
  | frame reqId data during =>
      dsimp only
      cases parsed : codec.parse data with
      | none =>
          simp only [parseClientData, parsed]
          exact .grew (.refl w) rfl
      | some root =>
          cases answer : getObjectItem root (text "ret") with
          | none =>
              simp only [parseClientData, parsed, answer]
              exact .grew (.refl w) rfl
          | some retval =>
              cases found : w.client.mRequestList.find? (·.reqId = reqId) with
              | none =>
                  simp only [parseClientData, parsed, answer, found]
                  exact .grew (.refl w) rfl
              | some pos =>
                  have same : pos.reqId = reqId := by simpa using List.find?_some found
                  subst same
                  exact .settled pos _ _ (.frame data during root retval parsed answer found)
                    (parseClientData_settled during parsed answer found)
  | expire timer during =>
      dsimp only
      split
      · exact .grew (.refl w) rfl
      · rename_i node live
        rw [msgClientReqTimerCb]
        cases found : w.client.mRequestList.find? (·.node = node) with
        | none => exact .grew (.refl w) rfl
        | some req =>
            exact .settled req _ _ (.expire timer during)
              (invoke_retire_settled _ _ during (List.mem_of_find?_eq_some found))
  | destroy =>
      rcases destroyAll_shrunk w w.client.mRequestList with ⟨shrunk, silent⟩
      exact .destroyed rfl ⟨shrunk.linked, shrunk.issued, shrunk.base⟩ silent

def pendingNodes (w : ClientWorld κ) : Set ℕ :=
  { node | ∃ r ∈ w.client.mRequestList, r.node = node }

def calledNode (out : ClientOut κ) : Option ℕ := (call? out).map Call.node

theorem calledNodes (outs : List (ClientOut κ)) :
    outs.filterMap calledNode = (calls outs).map Call.node := (List.map_filterMap).symm

theorem pendingNodes_mono {w w' : ClientWorld κ}
    (sub : w'.client.mRequestList ⊆ w.client.mRequestList) {node : ℕ}
    (member : node ∈ pendingNodes w') : node ∈ pendingNodes w := by
  rcases member with ⟨r, inside, same⟩
  exact ⟨r, sub inside, same⟩

theorem Grown.born {w w' : ClientWorld κ} (grown : Grown w w') {node : ℕ}
    (member : node ∈ pendingNodes w') :
    node ∈ pendingNodes w ∨ w.issued < node ∧ node ≤ w'.issued := by
  rcases grown.linked with ⟨new, list, _, fresh⟩
  rcases member with ⟨r, inside, rfl⟩
  rw [list] at inside
  rcases List.mem_append.mp inside with later | earlier
  · exact .inr ⟨(fresh r later).1, (fresh r later).2.1⟩
  · exact .inl ⟨r, earlier, rfl⟩

theorem callOf_nodes (req : MsgRequest κ) (args : Option CbArgs) (cause : Cause) :
    (callOf req args cause).map Call.node = [] ∨
      (callOf req args cause).map Call.node = [req.node] := by
  simp only [callOf]
  split
  · exact .inr rfl
  · exact .inl rfl

theorem Settled.gone {w w' : ClientWorld κ} {outs : List (ClientOut κ)} {req : MsgRequest κ}
    {args : Option CbArgs} {cause : Cause} (settled : Settled w w' outs req args cause) :
    req.node ∉ pendingNodes w' := by
  rcases settled.unlinked with ⟨mid, _, _, filtered⟩
  intro pending
  rcases pending with ⟨r, inside, same⟩
  rw [filtered, List.mem_filter] at inside
  simp [same] at inside

/-- A request's number is a token that its callback spends. -/
theorem callbacks_oneShot (codec : Codec) :
    OneShot (machine (κ := κ) codec) pendingNodes ClientWorld.issued calledNode where
  grows w e := by
    cases step_effect codec w e with
    | grew grown _ => exact grown.issued
    | settled req args cause routed settled =>
        rcases settled.unlinked with ⟨mid, grown, shrunk, _⟩
        rw [shrunk.issued]
        exact grown.issued
    | destroyed _ shrunk _ => exact shrunk.issued.ge
  born w e node member := by
    cases step_effect codec w e with
    | grew grown _ => exact grown.born member
    | settled req args cause routed settled =>
        rcases settled.unlinked with ⟨mid, grown, shrunk, _⟩
        rw [shrunk.issued]
        exact grown.born (pendingNodes_mono shrunk.linked.subset member)
    | destroyed _ shrunk _ => exact .inl (pendingNodes_mono shrunk.linked.subset member)
  spent w e node member := by
    rw [calledNodes] at member
    cases step_effect codec w e with
    | grew _ silent =>
        rw [silent] at member
        cases member
    | settled req args cause routed settled =>
        rw [settled.calls] at member
        rcases callOf_nodes req args cause with none_called | one
        · rw [none_called] at member
          cases member
        · rw [one, List.mem_singleton] at member
          -- the call is that of the settled request, whose node goes in the same step
          subst member
          exact ⟨⟨req, settled.outstanding, rfl⟩, settled.gone⟩
    | destroyed _ _ silent =>
        rw [silent] at member
        cases member
  once w e := by
    rw [calledNodes]
    cases step_effect codec w e with
    | grew _ silent => simp [silent]
    | settled req args cause routed settled =>
        rw [settled.calls]
        rcases callOf_nodes req args cause with same | same <;> simp [same]
    | destroyed _ _ silent => simp [silent]

/-- The outstanding requests have numbers of their own, already handed out, and their ids
follow from the numbers. -/
structure Linked (w : ClientWorld κ) : Prop where
  issued : ∀ r ∈ w.client.mRequestList, r.node ≤ w.issued
  nodup : (w.client.mRequestList.map MsgRequest.node).Nodup
  ids : ∀ r ∈ w.client.mRequestList, r.reqId = baseId w + UInt32.ofNat r.node

theorem Linked.grown {w w' : ClientWorld κ} (linked : Linked w) (grown : Grown w w') :
    Linked w' := by
  rcases grown.linked with ⟨new, list, nodup, fresh⟩
  have issued := grown.issued
  refine ⟨?_, ?_, ?_⟩
  · intro r member
    rw [list] at member
    rcases List.mem_append.mp member with later | earlier
    · exact (fresh r later).2.1
    · have bound := linked.issued r earlier
      omega
  · rw [list, List.map_append, List.nodup_append']
    refine ⟨nodup, linked.nodup, ?_⟩
    intro node inNew inOld
    rcases List.mem_map.mp inNew with ⟨r, member, rfl⟩
    rcases List.mem_map.mp inOld with ⟨r', member', same⟩
    have above := (fresh r member).1
    have below := linked.issued r' member'
    omega
  · intro r member
    rw [list] at member
    rw [grown.base]
    rcases List.mem_append.mp member with later | earlier
    · exact (fresh r later).2.2
    · exact linked.ids r earlier

theorem Linked.shrunk {w w' : ClientWorld κ} (linked : Linked w) (shrunk : Shrunk w w') :
    Linked w' := by
  refine ⟨?_, (shrunk.linked.map MsgRequest.node).nodup linked.nodup, ?_⟩
  · intro r member
    rw [shrunk.issued]
    exact linked.issued r (shrunk.linked.subset member)
  · intro r member
    rw [shrunk.base]
    exact linked.ids r (shrunk.linked.subset member)

theorem linked_next (codec : Codec) {w : ClientWorld κ} (e : Event κ) (linked : Linked w) :
    Linked ((machine codec).next w e) := by
  cases step_effect codec w e with
  | grew grown _ => exact linked.grown grown
  | settled req args cause routed settled =>
      rcases settled.unlinked with ⟨mid, grown, shrunk, _⟩
      exact (linked.grown grown).shrunk shrunk
  | destroyed _ shrunk _ => exact linked.shrunk shrunk

theorem linked_start (fd : Int) (uninit : UInt32) : Linked (start fd uninit : ClientWorld κ) :=
  ⟨nofun, List.nodup_nil, nofun⟩

theorem linked_run (codec : Codec) (fd : Int) (uninit : UInt32) (es : List (Event κ)) :
    Linked ((machine codec).run (start fd uninit) es) :=
  (machine codec).run_invariant_all Linked (fun _ e held => linked_next codec e held) es
    (linked_start fd uninit)

/-- Fewer than 2^32 requests have been issued since any outstanding one. -/
def Recent (w : ClientWorld κ) : Prop :=
  ∀ r ∈ w.client.mRequestList, w.issued < r.node + 2 ^ 32

theorem reqIds_nodup {w : ClientWorld κ} (linked : Linked w) (recent : Recent w) :
    (w.client.mRequestList.map MsgRequest.reqId).Nodup := by
  refine List.Nodup.map_on ?_ (List.Nodup.of_map _ linked.nodup)
  intro r member r' member' same
  have numbers : UInt32.ofNat r.node = UInt32.ofNat r'.node := by
    have id := linked.ids r member
    have id' := linked.ids r' member'
    grind
  have residues := congrArg UInt32.toNat numbers
  rw [UInt32.toNat_ofNat', UInt32.toNat_ofNat'] at residues
  have bound := linked.issued r member
  have bound' := linked.issued r' member'
  have young := recent r member
  have young' := recent r' member'
  exact List.inj_on_of_nodup_map linked.nodup member member' (by omega)

end MsgClient

end TaskMonitor
