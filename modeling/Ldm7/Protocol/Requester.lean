import Ldm7.Protocol.Feedme
import Ldm7.Protocol.Sender

/-! The requester of LDM-6 (`requester6.c`). `req6_new` adjusts the requested class by the
last product received, connects, asks with `make_request` and serves the upstream LDM with
`run_service` until the connection ends. `run_service` waits on a silent upstream as long as
`is_upstream_alive` says it is alive. What the calls the requester makes return is input,
one record for each pass of a loop; a loop whose records run out gives `none`. -/
namespace Ldm7
namespace Requester

open Feedme (Timestamp ProdClass ProdSpec FeedPar Req6Code ErrorObj Pass makeRequest)

/-- What `is_upstream_alive` learns: whether `hostHasIpAddress` fails, whether the host
still has the address, whether `clnttcp_create` returns a client, and what `is_alive_6`
returns (`none` is `NULL`). -/
structure AliveCheck where
  hostErr : Bool
  hasAddress : Bool
  clntOk : Bool
  isAlive : Option Bool

def isUpstreamAlive (c : AliveCheck) : Bool :=
  if c.hostErr then false
  else if !c.hasAddress then false
  else if !c.clntOk then true
  else c.isAlive.getD true

theorem isUpstreamAlive_eq_false_iff (c : AliveCheck) :
    isUpstreamAlive c = false ↔
      c.hostErr = true ∨ c.hasAddress = false ∨ (c.clntOk = true ∧ c.isAlive = some false) := by
  unfold isUpstreamAlive
  rcases c with ⟨_ | _,_ | _,_ | _,_ | _ | _⟩ <;> simp

/-- What `one_svc_run` returns: 0 when `as_shouldSwitch()`, or an error. -/
inductive SvcRunStatus
  | ok | etimedout | econnreset | ebadf | einval
  deriving DecidableEq

/-- The status of `req6_new`: an error code of `make_request` passed on, or one of the
codes of the connection. -/
inductive Req6Status
  | code (c : Req6Code)
  | timedOut | unknownHost | badVersion | noConnect
  deriving DecidableEq

inductive Run (α : Type)
  | exit
  | ret (a : α)

/-- One pass of the service loop: what `one_svc_run` returns, whether `exitIfDone(0)`
returns instead of exiting, and what `is_upstream_alive` learns if it is called. -/
structure SvcPass where
  err : SvcRunStatus
  notDone : Bool
  check : AliveCheck

/-- The `for (;;)` loop of `run_service`: the error and `destroyTransport`. -/
def serviceLoop : List SvcPass → Option (Run (Option Req6Status × Bool))
  | [] => none
  | p :: ps =>
    if !p.notDone then some .exit
    else if p.err = .etimedout then
      if isUpstreamAlive p.check then serviceLoop ps else some (.ret (some .timedOut,true))
    else if p.err ≠ .ok then some (.ret (some (.code .disconnect),false))
    else some (.ret (none,true))

/-- The outcomes of what `run_service` calls before its loop, and the loop's passes. -/
structure ServiceEnv where
  xprtOk : Bool
  registerOk : Bool
  down6InitOk : Bool
  setClassOk : Bool
  passes : List SvcPass

structure Service where
  error : Option Req6Status
  down6Destroyed : Bool
  transportDestroyed : Bool

def runService (e : ServiceEnv) : Option (Run Service) :=
  if !e.xprtOk then some (.ret ⟨some (.code .systemError),false,false⟩)
  else if !e.registerOk then some (.ret ⟨some (.code .systemError),false,true⟩)
  else if !e.down6InitOk then some (.ret ⟨some (.code .systemError),false,true⟩)
  else if !e.setClassOk then some (.ret ⟨some (.code .systemError),true,true⟩)
  else (serviceLoop e.passes).map fun
    | .exit => .exit
    | .ret (err,destroy) => .ret ⟨err,true,destroy⟩

def Waits (p : SvcPass) : Prop :=
  p.notDone = true ∧ p.err = .etimedout ∧ isUpstreamAlive p.check = true

def GivesUp (p : SvcPass) : Prop :=
  p.notDone = true ∧ p.err = .etimedout ∧ isUpstreamAlive p.check = false

theorem exists_split_cons {α : Type} (W L : α → Prop) (a : α) (l : List α) :
    (∃ pre b rest, a :: l = pre ++ b :: rest ∧ (∀ x ∈ pre, W x) ∧ L b) ↔
      L a ∨ (W a ∧ ∃ pre b rest, l = pre ++ b :: rest ∧ (∀ x ∈ pre, W x) ∧ L b) := by
  constructor
  · rintro ⟨_ | ⟨x,pre⟩,b,rest,h,hw,hl⟩
    · obtain ⟨rfl,-⟩ := List.cons.inj h; exact .inl hl
    · obtain ⟨rfl,rfl⟩ := List.cons.inj h
      exact .inr ⟨hw _ (List.mem_cons_self _ _),pre,b,rest,rfl,
        fun y hy => hw y (List.mem_cons_of_mem _ hy),hl⟩
  · rintro (hl | ⟨hw,pre,b,rest,rfl,hws,hl⟩)
    · exact ⟨[],a,l,rfl,nofun,hl⟩
    · exact ⟨a :: pre,b,rest,rfl,List.forall_mem_cons.mpr ⟨hw,hws⟩,hl⟩

/-- The loop times out exactly when, after passes that wait on, a pass gives up. -/
theorem serviceLoop_timedOut_iff (ps : List SvcPass) :
    serviceLoop ps = some (.ret (some .timedOut,true)) ↔
      ∃ pre p rest, ps = pre ++ p :: rest ∧ (∀ q ∈ pre, Waits q) ∧ GivesUp p := by
  induction ps with
  | nil => simp [serviceLoop]
  | cons p ps ih =>
    rw [exists_split_cons,← ih]
    simp only [serviceLoop,Waits,GivesUp]
    rcases p with ⟨err,_ | _,check⟩
    · simp
    · by_cases he : err = .etimedout
      · cases h : isUpstreamAlive check <;> simp [he,h]
      · by_cases hk : err = .ok <;> simp [he,hk]

theorem serviceLoop_destroy {ps : List SvcPass} {err : Option Req6Status} {d : Bool}
    (h : serviceLoop ps = some (.ret (err,d))) : d = false ↔ err = some (.code .disconnect) := by
  induction ps with
  | nil => simp [serviceLoop] at h
  | cons p ps ih =>
    simp only [serviceLoop] at h
    split_ifs at h with h1 h2 h3 h4
    · cases h
    · exact ih h
    · cases h; simp
    · cases h; simp
    · cases h; simp

theorem serviceLoop_timedOut {ps : List SvcPass} {d : Bool}
    (h : serviceLoop ps = some (.ret (some .timedOut,d))) : d = true := by
  have := serviceLoop_destroy h
  cases d
  · simp at this
  · rfl

/-- `run_service` returns `REQ6_TIMED_OUT` exactly when it set up the service and, after
silent intervals in which `is_upstream_alive` said the upstream is alive, a silent interval
came in which its host could not be looked up, its host lost the address, or it answered
IS_ALIVE with false. -/
theorem runService_timedOut_iff (e : ServiceEnv) :
    (∃ s, runService e = some (.ret s) ∧ s.error = some .timedOut) ↔
      e.xprtOk = true ∧ e.registerOk = true ∧ e.down6InitOk = true ∧ e.setClassOk = true ∧
        ∃ pre p rest, e.passes = pre ++ p :: rest ∧ (∀ q ∈ pre, Waits q) ∧
          p.notDone = true ∧ p.err = .etimedout ∧ (p.check.hostErr = true ∨
            p.check.hasAddress = false ∨ (p.check.clntOk = true ∧ p.check.isAlive = some false)) := by
  simp only [← isUpstreamAlive_eq_false_iff]
  change _ ↔ _ ∧ _ ∧ _ ∧ _ ∧ ∃ pre p rest, e.passes = pre ++ p :: rest ∧ (∀ q ∈ pre, Waits q) ∧
    GivesUp p
  rw [← serviceLoop_timedOut_iff]
  rcases e with ⟨_ | _,_ | _,_ | _,_ | _,ps⟩ <;> simp [runService]
  constructor
  · rintro ⟨s,⟨r,hr,hs⟩,he⟩
    rcases r with _ | ⟨err,d⟩
    · cases hs
    · cases hs; cases he
      rw [hr,serviceLoop_timedOut hr]
  · intro h
    exact ⟨_,⟨_,h,rfl⟩,rfl⟩

/-- The last product received, as `savedInfo_get` returns it: its arrival time, and what
`s_signaturet` prints for its signature. -/
structure LastInfo where
  arrival : Timestamp
  sig : String

/-- Whether the allocations of `adjustByLastInfo` succeed: `dup_prod_class`, and
`new_prod_class`, `cp_prod_class` and `malloc` of `newSigClass`. -/
structure AdjustEnv where
  dupOk : Bool
  newOk : Bool
  copyOk : Bool
  bufOk : Bool

/-- `newSigClass`: the class with one more specification, of feedtype `NONE`, whose
pattern is `SIG=` and the signature. -/
def newSigClass (protoClass : ProdClass) (sig : String) (newOk copyOk bufOk : Bool) :
    Option ProdClass :=
  if !newOk then none
  else if !copyOk then none
  else if !bufOk then none
  else some { protoClass with psa := protoClass.psa ++ [⟨0,"SIG=" ++ sig⟩] }

/-- `adjustByLastInfo` of `requester6.c`: `none` is an error. -/
def adjustByLastInfo (tsNone : Timestamp) (protoClass : ProdClass) (info : Option LastInfo)
    (a : AdjustEnv) : Option ProdClass :=
  match info with
  | none => if a.dupOk then some protoClass else none
  | some i => if i.arrival = tsNone then none else newSigClass protoClass i.sig a.newOk a.copyOk a.bufOk

/-- The `REQ6_*` code for an error of `ldm_clnttcp_create_vers`. -/
def connectStatus : LdmProxy.ClntErr → Req6Status
  | .unknownHost => .unknownHost
  | .timedOut => .timedOut
  | .badVersion => .badVersion
  | .noConnect => .noConnect
  | .system => .code .systemError

/-- What the calls of `req6_new` return: the last product received, the allocations of
`adjustByLastInfo`, the error of `ldm_clnttcp_create_vers` (`none` for success), the copy
`make_request` makes and its passes, and what `run_service` meets. -/
structure Req6Env where
  info : Option LastInfo
  adjust : AdjustEnv
  connect : Option LdmProxy.ClntErr
  dupOk : Bool
  passes : List Pass
  service : ServiceEnv

structure Req6 where
  error : Option Req6Status
  sent : List FeedPar
  service : Option Service

def req6New (tsNone : Timestamp) (request : ProdClass) (isPrimary : Bool) (e : Req6Env) :
    Option (Run Req6) :=
  match adjustByLastInfo tsNone request e.info e.adjust with
  | none => some (.ret ⟨some (.code .systemError),[],none⟩)
  | some prodClass =>
    match e.connect with
    | some err => some (.ret ⟨some (connectStatus err),[],none⟩)
    | none =>
      (makeRequest tsNone prodClass isPrimary e.dupOk e.passes).bind fun (errObj,_,sent) =>
        match errObj with
        | some eo => some (.ret ⟨some (.code eo.code),sent,none⟩)
        | none => (runService e.service).map fun
          | .exit => .exit
          | .ret s => .ret ⟨s.error,sent,some s⟩

theorem handleReply_sent (tsNone : Timestamp) (r : Feedme.Request) (cloneOk : Bool)
    (reply : Option Feedme.FornmeReply) : (Feedme.handleReply tsNone r cloneOk reply).sent = r.sent := by
  rcases reply with _ | ⟨id⟩ | ⟨allow⟩ | ⟨code,h⟩ <;> simp only [Feedme.handleReply] <;>
    split_ifs <;> rfl

theorem requestLoop_sent (tsNone : Timestamp) {r r' : Feedme.Request} {ps : List Pass}
    (h : Feedme.requestLoop tsNone r ps = some r') :
    r'.sent = r.sent ∨ (r.sent ++ [r.feedpar]) <+: r'.sent := by
  induction ps generalizing r with
  | nil =>
    simp only [Feedme.requestLoop] at h
    split_ifs at h; cases h; exact .inl rfl
  | cons p ps ih =>
    simp only [Feedme.requestLoop] at h
    split_ifs at h
    · cases h; exact .inl rfl
    · refine .inr ?_
      have h1 := handleReply_sent tsNone { r with sent := r.sent ++ [r.feedpar] } p.cloneOk p.reply
      rcases ih h with he | hp
      · exact ⟨[],by rw [List.append_nil,he,h1]⟩
      · rw [h1] at hp; exact (List.prefix_append _ _).trans hp

theorem makeRequest_sent {tsNone : Timestamp} {c : ProdClass} {isPrimary dupOk : Bool}
    {ps : List Pass} {err : Option ErrorObj} {id : Option UInt32} {sent : List FeedPar}
    (h : makeRequest tsNone c isPrimary dupOk ps = some (err,id,sent)) :
    sent = [] ∨ sent.head? = some ⟨Feedme.maxHereis isPrimary,c⟩ := by
  unfold makeRequest at h
  split_ifs at h
  · cases h; exact .inl rfl
  · obtain ⟨r',hr,he⟩ := Option.map_eq_some'.mp h
    cases he
    rcases requestLoop_sent tsNone hr with h0 | ⟨t,ht⟩
    · exact .inl h0
    · exact .inr (by rw [← ht]; rfl)

/-- The class to ask for so that the upstream resumes after the last product received:
the class given, with a specification of feedtype `NONE` matching `SIG=` and that
product's signature. -/
def resumeClass (request : ProdClass) : Option LastInfo → ProdClass
  | none => request
  | some i => { request with psa := request.psa ++ [⟨0,"SIG=" ++ i.sig⟩] }

theorem adjustByLastInfo_eq {tsNone : Timestamp} {request : ProdClass} {info : Option LastInfo}
    {a : AdjustEnv} {c : ProdClass} (h : adjustByLastInfo tsNone request info a = some c) :
    c = resumeClass request info := by
  rcases info with _ | i <;> simp only [adjustByLastInfo,newSigClass,resumeClass] at h ⊢ <;>
    split_ifs at h <;> cases h <;> rfl

/-- The first FEEDME request of `req6_new` asks for the class that resumes after the last
product received, with the `max_hereis` of the transmission mode. -/
theorem req6New_first_request (tsNone : Timestamp) (request : ProdClass) (isPrimary : Bool)
    (e : Req6Env) {r : Req6} (h : req6New tsNone request isPrimary e = some (.ret r)) :
    r.sent = [] ∨
      r.sent.head? = some ⟨Feedme.maxHereis isPrimary,resumeClass request e.info⟩ := by
  unfold req6New at h
  rcases ha : adjustByLastInfo tsNone request e.info e.adjust with _ | c <;> rw [ha] at h
  · cases h; exact .inl rfl
  · rw [← adjustByLastInfo_eq ha]
    rcases hcon : e.connect with _ | err <;> simp only [hcon] at h
    · obtain ⟨⟨errObj,id,sent⟩,hm,h2⟩ := Option.bind_eq_some.mp h
      have hs : r.sent = sent := by
        rcases errObj with _ | eo
        · obtain ⟨_ | s,-,hr⟩ := Option.map_eq_some'.mp h2 <;> cases hr; rfl
        · cases h2; rfl
      exact hs ▸ makeRequest_sent hm
    · cases h; exact .inl rfl

/-- A request that resumes after a product, is answered with OK, and is served until a
switch. -/
theorem req6New_first_request_resumes :
    req6New ⟨-1,0⟩ ⟨⟨0,0⟩,⟨0,0⟩,[]⟩ true
        ⟨some ⟨⟨5,0⟩,"ab"⟩,⟨true,true,true,true⟩,none,true,[⟨true,some (.ok 7),true⟩],
          ⟨true,true,true,true,[⟨.ok,true,⟨false,true,true,none⟩⟩]⟩⟩ =
      some (.ret ⟨none,[⟨Feedme.maxHereis true,⟨⟨0,0⟩,⟨0,0⟩,[⟨0,"SIG=ab"⟩]⟩⟩],
        some ⟨none,true,true⟩⟩) ∧
    (([⟨Feedme.maxHereis true,⟨⟨0,0⟩,⟨0,0⟩,[⟨0,"SIG=ab"⟩]⟩⟩] : List FeedPar) = [] ∨
      ([⟨Feedme.maxHereis true,⟨⟨0,0⟩,⟨0,0⟩,[⟨0,"SIG=ab"⟩]⟩⟩] : List FeedPar).head? =
        some ⟨Feedme.maxHereis true,resumeClass ⟨⟨0,0⟩,⟨0,0⟩,[]⟩ (some ⟨⟨5,0⟩,"ab"⟩)⟩) :=
  have h : req6New ⟨-1,0⟩ ⟨⟨0,0⟩,⟨0,0⟩,[]⟩ true
      ⟨some ⟨⟨5,0⟩,"ab"⟩,⟨true,true,true,true⟩,none,true,[⟨true,some (.ok 7),true⟩],
        ⟨true,true,true,true,[⟨.ok,true,⟨false,true,true,none⟩⟩]⟩⟩ =
      some (.ret ⟨none,[⟨Feedme.maxHereis true,⟨⟨0,0⟩,⟨0,0⟩,[⟨0,"SIG=ab"⟩]⟩⟩],
        some ⟨none,true,true⟩⟩) := rfl
  ⟨h,req6New_first_request _ _ _ _ h⟩

end Requester
end Ldm7
