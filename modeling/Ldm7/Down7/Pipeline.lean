import Ldm7.Down7.Memory

/-! The missed-product pipeline of a downstream LDM-7: the multicast receiver adds
missed FMTP product-indices (`down7_missedProduct`), the request task moves them to
the requested queue and asks the upstream LDM-7 for them (`makeRequest`), and the
upstream answers (`deliver_missed_product_7_svc`, `no_such_product_7_svc`). Every
interleaving of these calls is a list of `Event`s. -/
namespace Ldm7
namespace Pipeline

open Memory

/-- What `pq_insert` returns, as `deliver_product` tells the cases apart: 0, `EINVAL`,
`PQUEUE_DUP`, and any other code, which it logs as "Product too big for queue". -/
inductive PqInsertStatus
  | ok | inval | dup | big
  deriving DecidableEq

/-- `deliver_product`: `LDM7_SYSTEM` on `EINVAL`; 0 on success, a duplicate or a
product too big for the queue. -/
def deliverProduct : PqInsertStatus → Ldm7Status
  | .inval => .system
  | _ => .ok

/-- What a call from the upstream LDM-7 leaves behind: a delivered product, a
`deliveryFailure` with its message, or one of the two log messages of
`no_such_product_7_svc`. -/
inductive SvcOutcome
  | delivered (i : FmtpProdIndex)
  | deliveryFailure (msg : String) (i : FmtpProdIndex)
  | notWaiting (i : FmtpProdIndex)
  | noSuchProduct (i : FmtpProdIndex)
  deriving DecidableEq

def deliverMissedProduct7Svc (m : Mrm) (i : FmtpProdIndex) (st : PqInsertStatus) :
    Mrm × SvcOutcome :=
  if peekRequestedFileNoWait m ≠ some i then (m,.deliveryFailure "Unexpected product received" i)
  else
    let m := (removeRequestedFileNoWait m).2
    if deliverProduct st ≠ .ok then (m,.deliveryFailure "Couldn't insert missed product" i)
    else (m,.delivered i)

def noSuchProduct7Svc (m : Mrm) (i : FmtpProdIndex) : Mrm × SvcOutcome :=
  if peekRequestedFileNoWait m ≠ some i then (m,.notWaiting i)
  else ((removeRequestedFileNoWait m).2,.noSuchProduct i)

@[simp] theorem deliverMissedProduct7Svc_missed (m : Mrm) (i : FmtpProdIndex) (st : PqInsertStatus) :
    (deliverMissedProduct7Svc m i st).1.missed = m.missed := by
  unfold deliverMissedProduct7Svc; split_ifs <;> rfl
@[simp] theorem noSuchProduct7Svc_missed (m : Mrm) (i : FmtpProdIndex) :
    (noSuchProduct7Svc m i).1.missed = m.missed := by
  unfold noSuchProduct7Svc; split_ifs <;> rfl

theorem deliverMissedProduct7Svc_requested (m : Mrm) (i : FmtpProdIndex) (st : PqInsertStatus) :
    (deliverMissedProduct7Svc m i st).1.requested =
      if m.requested.head? = some i then m.requested.tail else m.requested := by
  unfold deliverMissedProduct7Svc peekRequestedFileNoWait; split_ifs <;> simp_all

theorem noSuchProduct7Svc_requested (m : Mrm) (i : FmtpProdIndex) :
    (noSuchProduct7Svc m i).1.requested =
      if m.requested.head? = some i then m.requested.tail else m.requested := by
  unfold noSuchProduct7Svc peekRequestedFileNoWait; split_ifs <;> simp_all

@[simp] theorem deliverProduct_eq_ok (st : PqInsertStatus) : deliverProduct st = .ok ↔ st ≠ .inval := by
  cases st <;> simp [deliverProduct]

theorem deliverMissedProduct7Svc_outcome (m : Mrm) (i : FmtpProdIndex) (st : PqInsertStatus) :
    (deliverMissedProduct7Svc m i st).2 =
      if m.requested.head? ≠ some i then .deliveryFailure "Unexpected product received" i
      else if st = .inval then .deliveryFailure "Couldn't insert missed product" i
      else .delivered i := by
  unfold deliverMissedProduct7Svc peekRequestedFileNoWait
  simp only [deliverProduct_eq_ok,ne_eq,not_not]
  split_ifs <;> rfl

theorem noSuchProduct7Svc_outcome (m : Mrm) (i : FmtpProdIndex) :
    (noSuchProduct7Svc m i).2 =
      if m.requested.head? ≠ some i then .notWaiting i else .noSuchProduct i := by
  unfold noSuchProduct7Svc peekRequestedFileNoWait; split_ifs <;> rfl

/-- Where the request task (`startRequestTask`, looping on `makeRequest`) is: before
each of the calls of `makeRequest`, or returned with a status. -/
inductive RequestPc
  | peek
  | add (i : FmtpProdIndex)
  | remove (i : FmtpProdIndex)
  | send (i : FmtpProdIndex)
  | done (st : Ldm7Status)
  deriving DecidableEq

/-- The memory, the request task, the requests the upstream LDM-7 has received in
this session and not yet answered, and the outcomes of its calls. -/
structure State where
  mrm : Mrm
  task : RequestPc
  pending : List FmtpProdIndex
  log : List SvcOutcome

def State.init : State := ⟨Mrm.empty,.peek,[],[]⟩

/-- One call of `makeRequest`'s body. `ok` is the outcome of the call made:
`mrm_addRequestedFile`, or `request_product_7` (`clnt_stat == RPC_TIMEDOUT`). -/
def makeRequest (p : State) (ok : Bool) : State :=
  match p.task with
  | .peek =>
    match peekMissedFileWait p.mrm with
    | .blocks => p
    | .shutDown => { p with task := .done .shutdown }
    | .got i => { p with task := .add i }
  | .add i =>
    let r := addRequestedFile p.mrm i ok
    if r.1 then { p with mrm := r.2, task := .remove i } else { p with task := .done .system }
  | .remove i =>
    let r := removeMissedFileNoWait p.mrm
    { p with mrm := r.2, task := .send (r.1.getD i) }
  | .send i =>
    if ok then { p with task := .peek, pending := p.pending ++ [i] }
    else { p with task := .done .rpc }
  | .done _ => p

/-- A call in the pipeline. `stopRequestTask` is the request task's stop function,
run by the executor's shutdown; `newSession` starts the request task of a later
session. -/
inductive Event
  | missedProduct (i : FmtpProdIndex)
  | request (ok : Bool)
  | deliverMissed (i : FmtpProdIndex) (st : PqInsertStatus)
  | noSuch (i : FmtpProdIndex)
  | stopRequestTask
  | newSession
  deriving DecidableEq

def step (p : State) : Event → State
  | .missedProduct i => { p with mrm := (addMissedFile p.mrm i).2 }
  | .request ok => makeRequest p ok
  | .deliverMissed i st =>
    let r := deliverMissedProduct7Svc p.mrm i st
    { p with mrm := r.1, pending := p.pending.tail, log := p.log ++ [r.2] }
  | .noSuch i =>
    let r := noSuchProduct7Svc p.mrm i
    { p with mrm := r.1, pending := p.pending.tail, log := p.log ++ [r.2] }
  | .stopRequestTask => { p with mrm := shutDownMissedFiles p.mrm }
  | .newSession => { p with task := .peek, pending := [] }

/-- The index has left the missed queue for good: it is requested, its product was
delivered, or the upstream LDM-7 declared it missing. -/
def Settled (p : State) (i : FmtpProdIndex) : Prop :=
  i ∈ p.mrm.requested ∨ SvcOutcome.delivered i ∈ p.log ∨ SvcOutcome.noSuchProduct i ∈ p.log

/-- The four states of a missed product-index: missed, requested, delivered (inserted,
or rejected as a duplicate or as too big), or declared non-existent. -/
def Accounted (p : State) (i : FmtpProdIndex) : Prop := i ∈ p.mrm.missed ∨ Settled p i

instance (p : State) (i : FmtpProdIndex) : Decidable (Settled p i) :=
  inferInstanceAs (Decidable (_ ∨ _ ∨ _))
instance (p : State) (i : FmtpProdIndex) : Decidable (Accounted p i) :=
  inferInstanceAs (Decidable (_ ∨ Settled p i))

/-- Between its calls the request task holds the head of the missed queue, and once
it has added that index to the requested queue, the index is settled. -/
def TaskInv (p : State) : Prop :=
  match p.task with
  | .add j => p.mrm.missed.head? = some j
  | .remove j => p.mrm.missed.head? = some j ∧ Settled p j
  | _ => True

/-- Every call but an `EINVAL` from `pq_insert` after `deliver_missed_product_7_svc`
has removed the requested index. -/
def Event.Safe : Event → Prop
  | .deliverMissed _ st => st ≠ .inval
  | _ => True

instance : DecidablePred Event.Safe
  | .deliverMissed _ st => inferInstanceAs (Decidable (st ≠ .inval))
  | .missedProduct _ | .request _ | .noSuch _ | .stopRequestTask | .newSession => isTrue trivial

theorem settled_of_sub {p q : State} {j : FmtpProdIndex}
    (hr : p.mrm.requested ⊆ q.mrm.requested) (hl : p.log ⊆ q.log) (h : Settled p j) :
    Settled q j := by
  rcases h with h | h | h
  exacts [.inl (hr h),.inr (.inl (hl h)),.inr (.inr (hl h))]

theorem settled_of_answer {p q : State} {i j : FmtpProdIndex}
    (hr : q.mrm.requested =
      if p.mrm.requested.head? = some i then p.mrm.requested.tail else p.mrm.requested)
    (hl : p.log ⊆ q.log)
    (hi : p.mrm.requested.head? = some i →
      SvcOutcome.delivered i ∈ q.log ∨ SvcOutcome.noSuchProduct i ∈ q.log)
    (h : Settled p j) : Settled q j := by
  split_ifs at hr with hh
  · obtain ⟨t,ht⟩ := List.head?_eq_some_iff.mp hh
    rcases h with h | h | h
    · rw [ht,List.mem_cons] at h
      rcases h with rfl | h
      · exact .inr (hi hh)
      · exact .inl (by rw [hr,ht]; exact h)
    exacts [.inr (.inl (hl h)),.inr (.inr (hl h))]
  · exact settled_of_sub (by rw [hr]; exact fun _ h => h) hl h

theorem makeRequest_requested_sub (p : State) (ok : Bool) :
    p.mrm.requested ⊆ (makeRequest p ok).mrm.requested := by
  rcases p with ⟨m,_|_|_|_|_,_,_⟩ <;> simp only [makeRequest]
  · split <;> simp
  · cases ok <;> simp [addRequestedFile]
  · simp
  · split <;> simp
  · simp

@[simp] theorem makeRequest_log (p : State) (ok : Bool) : (makeRequest p ok).log = p.log := by
  rcases p with ⟨m,_|_|_|_|_,_,_⟩ <;> simp only [makeRequest]
  · split <;> rfl
  · split <;> rfl
  all_goals (try split) <;> rfl

theorem settled_step {p : State} {e : Event} {j : FmtpProdIndex} (he : e.Safe)
    (h : Settled p j) : Settled (step p e) j := by
  cases e with
  | missedProduct i => exact settled_of_sub (by simp [step]) (by simp [step]) h
  | request ok => exact settled_of_sub (makeRequest_requested_sub p ok) (by simp [step]) h
  | deliverMissed i st =>
    refine settled_of_answer (deliverMissedProduct7Svc_requested ..) (by simp [step]) ?_ h
    intro hh
    simp [step,deliverMissedProduct7Svc_outcome,hh,show st ≠ .inval from he]
  | noSuch i =>
    refine settled_of_answer (noSuchProduct7Svc_requested ..) (by simp [step]) ?_ h
    intro hh
    simp [step,noSuchProduct7Svc_outcome,hh]
  | stopRequestTask => exact settled_of_sub (by simp [step]) (by simp [step]) h
  | newSession => exact h

theorem taskInv_of {p q : State} (ht : q.task = p.task)
    (hm : ∀ j, p.mrm.missed.head? = some j → q.mrm.missed.head? = some j)
    (hs : ∀ j, Settled p j → Settled q j) : TaskInv p → TaskInv q := by
  unfold TaskInv; rw [ht]
  cases p.task
  case add j => exact hm j
  case remove j => exact fun h => ⟨hm j h.1,hs j h.2⟩
  all_goals exact id

theorem taskInv_makeRequest {p : State} (ok : Bool) (h : TaskInv p) :
    TaskInv (makeRequest p ok) := by
  rcases p with ⟨m,_|i|i|i|st,pd,lg⟩ <;> simp only [makeRequest]
  · split
    · exact h
    · trivial
    · exact peekMissedFileWait_got ‹_›
  · cases ok
    · trivial
    · exact ⟨h,.inl (by simp [addRequestedFile])⟩
  · trivial
  · split <;> trivial
  · exact h

theorem taskInv_step {p : State} {e : Event} (he : e.Safe) (h : TaskInv p) :
    TaskInv (step p e) := by
  cases e with
  | missedProduct i =>
    exact taskInv_of (p := p) rfl (addMissedFile_head? p.mrm i) (fun _ => settled_step he) h
  | request ok => exact taskInv_makeRequest ok h
  | newSession => trivial
  | _ => exact taskInv_of (p := p) rfl (by simp [step]) (fun _ => settled_step he) h

theorem accounted_makeRequest {p : State} {j : FmtpProdIndex} (ok : Bool) (hinv : TaskInv p)
    (h : Accounted p j) : Accounted (makeRequest p ok) j := by
  have hs : ∀ x, Settled p x → Settled (makeRequest p ok) x := fun _ =>
    settled_of_sub (makeRequest_requested_sub p ok) (by simp)
  rcases h with h | h
  · rcases p with ⟨m,_|i|i|i|st,pd,lg⟩
    case remove =>
      obtain ⟨t,ht⟩ := List.head?_eq_some_iff.mp hinv.1
      dsimp only at ht
      rw [ht,List.mem_cons] at h
      rcases h with rfl | h
      · exact .inr (hs _ hinv.2)
      · exact .inl (by simp [makeRequest,ht,h])
    all_goals
      refine .inl ?_
      simp only [makeRequest]
      first | (split <;> exact h) | (cases ok <;> exact h)
  · exact .inr (hs _ h)

theorem accounted_step {p : State} {e : Event} {j : FmtpProdIndex} (he : e.Safe)
    (hinv : TaskInv p) (h : Accounted p j) : Accounted (step p e) j := by
  cases e with
  | request ok => exact accounted_makeRequest ok hinv h
  | missedProduct i =>
    refine h.imp (fun h => ?_) (settled_step he)
    simp only [step,addMissedFile_missed]; split_ifs <;> simp [h]
  | _ => exact h.imp (by simp [step]) (settled_step he)

def run (p : State) (es : List Event) : State := es.foldl step p

@[simp] theorem run_nil (p : State) : run p [] = p := rfl
@[simp] theorem run_cons (p : State) (e : Event) (es : List Event) :
    run p (e :: es) = run (step p e) es := rfl
theorem run_append (p : State) (es es' : List Event) :
    run p (es ++ es') = run (run p es) es' := List.foldl_append _ _ _ _

theorem taskInv_run {p : State} {es : List Event} (hes : ∀ e ∈ es, e.Safe) (h : TaskInv p) :
    TaskInv (run p es) := by
  induction es generalizing p with
  | nil => exact h
  | cons e es ih =>
    exact ih (fun e' he' => hes e' (.tail _ he')) (taskInv_step (hes e (.head _)) h)

theorem accounted_run {p : State} {es : List Event} {j : FmtpProdIndex} (hes : ∀ e ∈ es, e.Safe)
    (hinv : TaskInv p) (h : Accounted p j) : Accounted (run p es) j := by
  induction es generalizing p with
  | nil => exact h
  | cons e es ih =>
    have he := hes e (.head _)
    exact ih (fun e' he' => hes e' (.tail _ he')) (taskInv_step he hinv) (accounted_step he hinv h)

/-- The design of `makeRequest` and the two upstream calls keeps every missed index
accounted for, from any state the request task can be in: an index handed to
`down7_missedProduct` while the missed queue is open is, at every later point,
missed, requested, delivered or declared non-existent, unless `pq_insert` fails
with `EINVAL` on a requested product. -/
theorem missedProduct_accounted (p : State) (es es' : List Event) (i : FmtpProdIndex)
    (hp : TaskInv p) (hsafe : ∀ e ∈ es ++ es', e.Safe)
    (hopen : (run p es).mrm.missedShutDown = false) :
    Accounted (run p (es ++ .missedProduct i :: es')) i := by
  have hes := fun e he => hsafe e (List.mem_append_left es' he)
  have hes' := fun e he => hsafe e (List.mem_append_right es he)
  rw [run_append,run_cons]
  refine accounted_run hes' (taskInv_step trivial (taskInv_run hes hp)) (.inl ?_)
  simp [step,addMissedFile_missed,hopen]

theorem missedProduct_accounted_example :
    TaskInv State.init ∧ (∀ e ∈ ([] : List Event) ++ [.request true], e.Safe) ∧
      (run State.init []).mrm.missedShutDown = false ∧
      Accounted (run State.init ([] ++ [.missedProduct 7,.request true])) 7 :=
  ⟨trivial,by decide,rfl,missedProduct_accounted _ _ _ _ trivial (by decide) rfl⟩

/-- Two runs that lose index 7: `down7_missedProduct` after `stopRequestTask` has shut
the missed queue down, and an `EINVAL` from `pq_insert` after
`deliver_missed_product_7_svc` has removed the requested index. -/
theorem down7MissedProduct_index_lost :
    ¬ Accounted (run State.init [.stopRequestTask,.missedProduct 7]) 7 ∧
    ¬ Accounted (run State.init [.missedProduct 7,.request true,.request true,.request true,
      .request true,.deliverMissed 7 .inval]) 7 := by
  decide

/-- The upstream LDM-7 answers the requests it received in this session, each once, in
the order it received them, and all of them before the session ends. -/
def inStep (p : State) : Event → Bool
  | .deliverMissed i _ | .noSuch i => p.pending.head? == some i
  | .newSession => p.pending.isEmpty
  | _ => true

def answersInStep : State → List Event → Bool
  | _, [] => true
  | p, e :: es => inStep p e && answersInStep (step p e) es

/-- A request whose `request_product_7` failed in the first session stays at the head
of the persistent requested queue; the second session's request for index 2 is
answered in step, and `deliver_missed_product_7_svc` rejects the answer. -/
theorem stale_request_rejects_answer :
    let es : List Event := [.missedProduct 1,.request true,.request true,.request true,.request false,
      .newSession,.missedProduct 2,.request true,.request true,.request true,.request true,
      .deliverMissed 2 .ok]
    answersInStep State.init es = true ∧
      SvcOutcome.deliveryFailure "Unexpected product received" 2 ∈ (run State.init es).log := by
  decide

/-- The index the request task has added to the requested queue and not yet sent. -/
def RequestPc.inFlight : RequestPc → List FmtpProdIndex
  | .remove j | .send j => [j]
  | _ => []

/-- The index the request task has peeked at and not yet removed from the missed queue. -/
def RequestPc.holding : RequestPc → Option FmtpProdIndex
  | .add j | .remove j => some j
  | _ => none

/-- Between two calls of `makeRequest`, or returned. -/
def RequestPc.idle : RequestPc → Bool
  | .peek | .done _ => true
  | _ => false

/-- What the requested queue needs of the rest of the system to stay in step: answers
in step, every call of `makeRequest` succeeds, and a session ends only while its
request task is idle. -/
def cooperates (p : State) : Event → Bool
  | .request ok => ok
  | .newSession => inStep p .newSession && p.task.idle
  | e => inStep p e

def cooperative : State → List Event → Bool
  | _, [] => true
  | p, e :: es => cooperates p e && cooperative (step p e) es

/-- The requested queue holds the requests the upstream LDM-7 has received and not
answered, then the index the request task is sending; no answer has been rejected. -/
structure InStepInv (p : State) : Prop where
  requested_eq : p.mrm.requested = p.pending ++ p.task.inFlight
  holding_head : ∀ j, p.task.holding = some j → p.mrm.missed.head? = some j
  accepted : ∀ i, SvcOutcome.deliveryFailure "Unexpected product received" i ∉ p.log ∧
    SvcOutcome.notWaiting i ∉ p.log

theorem inStepInv_init : InStepInv State.init :=
  ⟨rfl,(fun _ h => nomatch h),by simp [State.init]⟩

theorem inStepInv_makeRequest {p : State} (h : InStepInv p) : InStepInv (makeRequest p true) := by
  rcases p with ⟨m,_|i|i|i|st,pd,lg⟩ <;> obtain ⟨hr,hh,ha⟩ := h <;> dsimp only at hr hh ha <;>
    simp only [makeRequest]
  · split
    · exact ⟨hr,hh,ha⟩
    · exact ⟨hr,(fun _ h => nomatch h),ha⟩
    · exact ⟨hr,by rintro j ⟨⟩; exact peekMissedFileWait_got ‹_›,ha⟩
  · simp only [addRequestedFile_fst,if_true]
    exact ⟨by simp [addRequestedFile_requested,hr,RequestPc.inFlight],
      by simpa [RequestPc.holding] using hh,ha⟩
  · exact ⟨by simp [hr,hh i rfl,removeMissedFileNoWait,RequestPc.inFlight],(fun _ h => nomatch h),ha⟩
  · exact ⟨by simp [hr,RequestPc.inFlight],(fun _ h => nomatch h),ha⟩
  · exact ⟨hr,hh,ha⟩

theorem requested_of_answer {p : State} {i : FmtpProdIndex} (h : InStepInv p)
    (hi : p.pending.head? = some i) :
    p.mrm.requested.head? = some i ∧ p.mrm.requested.tail = p.pending.tail ++ p.task.inFlight := by
  obtain ⟨t,ht⟩ := List.head?_eq_some_iff.mp hi
  simp [h.requested_eq,ht]

theorem inStepInv_step {p : State} {e : Event} (h : InStepInv p) (he : cooperates p e = true) :
    InStepInv (step p e) := by
  cases e with
  | missedProduct i =>
    exact ⟨by simp [step,h.requested_eq],fun j hj => addMissedFile_head? _ _ _ (h.holding_head j hj),
      h.accepted⟩
  | request ok =>
    obtain rfl : ok = true := he
    exact inStepInv_makeRequest h
  | deliverMissed i st =>
    obtain ⟨hh,ht⟩ := requested_of_answer h (by simpa [cooperates,inStep] using he)
    refine ⟨by simp [step,deliverMissedProduct7Svc_requested,hh,ht],
      by simpa [step] using h.holding_head,fun j => ?_⟩
    have := h.accepted j
    cases st <;> simp_all [step,deliverMissedProduct7Svc_outcome]
  | noSuch i =>
    obtain ⟨hh,ht⟩ := requested_of_answer h (by simpa [cooperates,inStep] using he)
    refine ⟨by simp [step,noSuchProduct7Svc_requested,hh,ht],
      by simpa [step] using h.holding_head,fun j => ?_⟩
    have := h.accepted j
    simp_all [step,noSuchProduct7Svc_outcome]
  | stopRequestTask => exact ⟨by simp [step,h.requested_eq],h.holding_head,h.accepted⟩
  | newSession =>
    simp only [cooperates,inStep,Bool.and_eq_true,List.isEmpty_iff] at he
    obtain ⟨hp,hi⟩ := he
    have hr := h.requested_eq
    rcases ht : p.task <;> simp_all [RequestPc.idle,RequestPc.inFlight]
    all_goals exact ⟨by simp [step,hr,RequestPc.inFlight],(fun _ h => nomatch h),h.accepted⟩

theorem inStepInv_run {p : State} {es : List Event} (h : InStepInv p)
    (hc : cooperative p es = true) : InStepInv (run p es) := by
  induction es generalizing p with
  | nil => exact h
  | cons e es ih =>
    simp only [cooperative,Bool.and_eq_true] at hc
    exact ih (inStepInv_step h hc.1) hc.2

/-- When the upstream LDM-7 answers in step, every call of `makeRequest` succeeds and a
session ends only while its request task is idle, no answer of the upstream is rejected
as unexpected or found not waited for. -/
theorem answers_accepted_of_cooperative (es : List Event) (h : cooperative State.init es = true)
    (i : FmtpProdIndex) :
    SvcOutcome.deliveryFailure "Unexpected product received" i ∉ (run State.init es).log ∧
    SvcOutcome.notWaiting i ∉ (run State.init es).log :=
  (inStepInv_run inStepInv_init h).accepted i

theorem answers_accepted_of_cooperative_example :
    cooperative State.init [.missedProduct 1,.request true,.request true,.request true,
      .request true,.deliverMissed 1 .ok,.newSession,.missedProduct 2,.request true,
      .request true,.request true,.request true,.noSuch 2] = true ∧
    SvcOutcome.notWaiting 2 ∉ (run State.init [.missedProduct 1,.request true,.request true,
      .request true,.request true,.deliverMissed 1 .ok,.newSession,.missedProduct 2,
      .request true,.request true,.request true,.request true,.noSuch 2]).log :=
  ⟨by decide,(answers_accepted_of_cooperative _ (by decide) 2).2⟩

end Pipeline
end Ldm7
