import Ldm7.Down7.Memory

/-! Sessions of a downstream LDM-7: `down7_start` runs `runDown7Once` until a severe
status or `down7_stop`; each session subscribes, starts the unicast, request and
multicast tasks, and reaps them (`reapRecvTasks`) while the multicast receiver calls
`down7_lastReceived`. What the network, the upstream LDM-7 and the other threads do
is the environment of a session, `SessionEnv`. -/
namespace Ldm7
namespace Session

open Memory

inductive Down7State
  | initialized | executing | stopping | stopped
  deriving DecidableEq

/-- `BacklogSpec` as `requestSessionBacklog` fills it (its time-offset aside). -/
structure BacklogSpec where
  after : Signature
  afterIsSet : Bool
  before : Signature
  deriving DecidableEq

/-- The fields of `struct Down7` that sessions change. The executor is reduced to
whether it is shut down: `exe_submit` then fails with `EINVAL`, which `down7.c` reads
as "`down7_stop()` was called"; `exe_clear`, which `runDown7Once` calls after every
session so that the next one can submit its jobs, accepts jobs again. `backlogs` lists
the `requestSessionBacklog` jobs submitted and `stopCalled` whether `down7_stop` ran. -/
structure Down7 where
  state : Down7State
  exeShutDown : Bool
  mrm : Mrm
  mcastWorking : Bool
  firstMcast : Signature
  prevLastMcast : Signature
  prevLastMcastSet : Bool
  backlogs : List BacklogSpec
  stopCalled : Bool
  deriving DecidableEq

/-- `down7_new` on the multicast receiver memory `mrm_open` returns. -/
def down7New (mrm : Mrm) : Down7 :=
  ⟨.initialized,false,mrm,false,.zero,.zero,false,[],false⟩

/-- The spec `requestSessionBacklog` sends; the fields it reads are not written again
before the next session begins. -/
def requestSessionBacklog (d : Down7) : BacklogSpec :=
  ⟨if d.prevLastMcastSet then d.prevLastMcast else .zero,d.prevLastMcastSet,d.firstMcast⟩

/-- `down7_lastReceived`; the flag says whether a backlog job was submitted. -/
def down7LastReceived (d : Down7) (sig : Signature) : Down7 × Bool :=
  let d := { d with mrm := setLastMcastProd d.mrm sig }
  if d.mcastWorking then (d,false)
  else
    let d := { d with mcastWorking := true, firstMcast := sig }
    if d.exeShutDown then (d,false)
    else ({ d with backlogs := d.backlogs ++ [requestSessionBacklog d] },true)

inductive Job
  | ucast | request | mcast | backlog
  deriving DecidableEq

/-- Modelled from the spec: `exe_shutdown`, absent from the sources. The stop function
of every active job runs (`stopRequestTask` shuts the missed queue down) and no job is
accepted until `exe_clear`. -/
def exeShutdown (d : Down7) (active : List Job) : Down7 :=
  { d with
    mrm := if Job.request ∈ active then shutDownMissedFiles d.mrm else d.mrm
    exeShutDown := true }

/-- `down7_stop`'s first two critical sections. -/
def down7Stop (d : Down7) (active : List Job) : Down7 :=
  exeShutdown { d with state := .stopping, stopCalled := true } active

/-- What happens while `reapRecvTasks` waits: a product handed to
`down7_lastReceived`, a job returning by itself, or `down7_stop`. The request task
returns `LDM7_SHUTDOWN` once its queue is shut down, and otherwise the status of the
call that failed (`rpc`: `request_product_7`, else `mrm_addRequestedFile`). -/
inductive RecvEvent
  | lastReceived (sig : Signature)
  | ucastEnds (result : Ldm7Status)
  | mcastEnds
  | requestEnds (rpc : Bool)
  | backlogEnds (ok : Bool)
  | stop
  deriving DecidableEq

/-- How the subscription job ends: with `subscribe`'s status, or stopped by
`down7_stop`. -/
inductive Subscription
  | done (result : Ldm7Status)
  | stopped
  deriving DecidableEq

/-- A session's environment. `tasksStart` is whether `mlr_new` and the job submissions
of `startRecvTasks` succeed; `napStop` whether `down7_stop` ends the nap that follows. -/
structure SessionEnv where
  subscription : Subscription
  tasksStart : Bool
  recv : List RecvEvent
  napStop : Bool
  deriving DecidableEq

/-- The state of `reapRecvTasks`: the Down7, the jobs not yet reaped, and the status
once the loop has ended. -/
structure Reap where
  d : Down7
  active : List Job
  status : Option Ldm7Status

/-- A job returns with `result`: a failure shuts the executor down and clears it and
ends the loop with that status; the loop also ends, with 0, when no job is left. -/
def jobEnds (r : Reap) (job : Job) (result : Ldm7Status) : Reap :=
  let active := r.active.erase job
  if result ≠ .ok then
    ⟨{ exeShutdown r.d active with exeShutDown := false },[],some result⟩
  else if active = [] then ⟨r.d,[],some .ok⟩
  else { r with active := active }

def reapStep (r : Reap) : RecvEvent → Reap
  | .lastReceived sig =>
    if Job.mcast ∈ r.active then
      let s := down7LastReceived r.d sig
      ⟨s.1,if s.2 then r.active ++ [.backlog] else r.active,none⟩
    else r
  | .ucastEnds result => if Job.ucast ∈ r.active then jobEnds r .ucast result else r
  | .mcastEnds => if Job.mcast ∈ r.active then jobEnds r .mcast .mcast else r
  | .requestEnds rpc =>
    if Job.request ∈ r.active then
      jobEnds r .request
        (if r.d.mrm.missedShutDown then .shutdown else if rpc then .rpc else .system)
    else r
  | .backlogEnds ok =>
    if Job.backlog ∈ r.active then jobEnds r .backlog (if ok then .ok else .rpc) else r
  | .stop =>
    match r.active with
    | [] => r
    | _ => ⟨{ down7Stop r.d r.active with exeShutDown := false },[],some .shutdown⟩

def reapRecvTasks (r : Reap) : List RecvEvent → Reap
  | [] => r
  | e :: es => if r.status.isSome then r else reapRecvTasks (reapStep r e) es

/-- `receive`: `startRecvTasks`, then `reapRecvTasks`. `none` while the session runs. -/
def receive (d : Down7) (env : SessionEnv) : Down7 × Option Ldm7Status :=
  if d.exeShutDown then (d,some .shutdown)
  else if env.tasksStart then
    let r := reapRecvTasks ⟨d,[.ucast,.request,.mcast],none⟩ env.recv
    (r.d,r.status)
  else (exeShutdown d [.ucast,.request],some .system)

def execSubscriptionTask (d : Down7) : Subscription → Down7 × Ldm7Status
  | .done result => if d.exeShutDown then (d,.shutdown) else (d,result)
  | .stopped => if d.exeShutDown then (d,.shutdown) else (down7Stop d [],.shutdown)

def subscribeAndReceive (d : Down7) (env : SessionEnv) : Down7 × Option Ldm7Status :=
  let s := execSubscriptionTask d env.subscription
  if s.2 = .ok then receive s.1 env else (s.1,some s.2)

/-- `runDown7Once`: reads the last multicast product of the previous session, runs the
session, then shuts the executor down and clears it. -/
def runDown7Once (d : Down7) (env : SessionEnv) : Down7 × Option Ldm7Status :=
  let d := match getLastMcastProd d.mrm with
    | some sig => { d with prevLastMcast := sig, prevLastMcastSet := true }
    | none => { d with prevLastMcastSet := false }
  let s := subscribeAndReceive d env
  match s.2 with
  | none => s
  | some _ => ({ s.1 with exeShutDown := false },s.2)

def severe (st : Ldm7Status) : Bool :=
  st == .system || st == .inval || st == .mcast || st == .shutdown

/-- `nap`, which `down7_stop` may end. -/
def nap (d : Down7) (stop : Bool) : Down7 := if stop then down7Stop d [] else d

/-- The `do ... while` loop of `down7_start` over the environments of its sessions;
`none` while a session or the loop is still running. -/
def startLoop (d : Down7) : List SessionEnv → Down7 × Option Ldm7Status
  | [] => (d,none)
  | env :: envs =>
    let s := runDown7Once d env
    match s.2 with
    | none => (s.1,none)
    | some st =>
      let d := if severe st || st == .timedout then s.1 else nap s.1 env.napStop
      if !severe st && d.state == .executing then startLoop d envs
      else ({ d with state := .stopped },some (if d.state ≠ .executing then .shutdown else st))

def down7Start (d : Down7) (envs : List SessionEnv) : Down7 × Option Ldm7Status :=
  if d.state ≠ .initialized then (d,some .inval)
  else startLoop { d with state := .executing } envs

/-- The first session ends on a recoverable `LDM7_RPC` of the unicast task while the
request task waits on its queue, so `exe_shutdown` runs `stopRequestTask`; the second
session's request task then returns `LDM7_SHUTDOWN`, and so does `down7_start`, with no
`down7_stop`. -/
theorem down7Start_shutdown_without_stop :
    let envs : List SessionEnv :=
      [⟨.done .ok,true,[.ucastEnds .rpc],false⟩,⟨.done .ok,true,[.requestEnds true],false⟩]
    (down7Start (down7New Mrm.empty) envs).2 = some .shutdown ∧
      (down7Start (down7New Mrm.empty) envs).1.stopCalled = false := by
  decide

/-- Two sessions, each receiving a multicast product: only the first session's
`down7_lastReceived` submits a backlog request; the second session's backlog, from
product `fill 1` to product `fill 2`, is never requested. -/
theorem down7LastReceived_second_session_no_backlog :
    let envs : List SessionEnv :=
      [⟨.done .ok,true,[.lastReceived (.fill 1),.ucastEnds .rpc],false⟩,
        ⟨.done .ok,true,[.lastReceived (.fill 2)],false⟩]
    (down7Start (down7New Mrm.empty) envs).1.backlogs = [⟨.zero,false,.fill 1⟩] := by
  decide

/-- At most one backlog request, and none before `mcastWorking` is set. -/
def BacklogInv (d : Down7) : Prop := d.backlogs.length ≤ if d.mcastWorking then 1 else 0

/-- What no part of a session undoes: a call of `down7_stop`, a shut-down missed queue,
the state unless `down7_stop` ran, and `BacklogInv`. -/
structure Keeps (d d' : Down7) : Prop where
  stopCalled : d.stopCalled = true → d'.stopCalled = true
  missedShutDown : d.mrm.missedShutDown = true → d'.mrm.missedShutDown = true
  state : d'.state = d.state ∨ d'.stopCalled = true
  backlog : BacklogInv d → BacklogInv d'

theorem keeps_refl (d : Down7) : Keeps d d := ⟨id,id,.inl rfl,id⟩

theorem Keeps.trans {d d' d'' : Down7} (h : Keeps d d') (h' : Keeps d' d'') : Keeps d d'' where
  stopCalled := h'.stopCalled ∘ h.stopCalled
  missedShutDown := h'.missedShutDown ∘ h.missedShutDown
  state := by
    rcases h'.state with e | e
    · rw [e]; exact h.state.imp_right h'.stopCalled
    · exact .inr e
  backlog := h'.backlog ∘ h.backlog

theorem keeps_of {d d' : Down7} (h1 : d'.stopCalled = d.stopCalled)
    (h2 : d.mrm.missedShutDown = true → d'.mrm.missedShutDown = true) (h3 : d'.state = d.state)
    (h4 : d'.mcastWorking = d.mcastWorking) (h5 : d'.backlogs = d.backlogs) : Keeps d d' :=
  ⟨fun h => h1 ▸ h,h2,.inl h3,fun h => by rwa [BacklogInv,h4,h5]⟩

theorem keeps_exeShutdown (d : Down7) (active : List Job) : Keeps d (exeShutdown d active) :=
  keeps_of rfl (fun h => by unfold exeShutdown; split_ifs <;> simp [h]) rfl rfl rfl

theorem keeps_down7Stop (d : Down7) (active : List Job) : Keeps d (down7Stop d active) :=
  (show Keeps d { d with state := .stopping, stopCalled := true } from
    ⟨fun _ => rfl,id,.inr rfl,id⟩).trans (keeps_exeShutdown _ active)

theorem keeps_down7LastReceived (d : Down7) (sig : Signature) :
    Keeps d (down7LastReceived d sig).1 := by
  have hm : d.mrm.missedShutDown = true → (setLastMcastProd d.mrm sig).missedShutDown = true :=
    fun h => (setLastMcastProd_missedShutDown d.mrm sig).trans h
  unfold down7LastReceived; dsimp only; split_ifs
  · exact keeps_of rfl hm rfl rfl rfl
  all_goals exact ⟨id,hm,.inl rfl,fun h => by simp_all [BacklogInv]⟩

theorem keeps_jobEnds (r : Reap) (job : Job) (result : Ldm7Status) :
    Keeps r.d (jobEnds r job result).d := by
  dsimp only [jobEnds]; split_ifs
  · exact (keeps_exeShutdown r.d _).trans (keeps_of rfl id rfl rfl rfl)
  all_goals exact keeps_refl _

theorem keeps_reapStep (r : Reap) (e : RecvEvent) : Keeps r.d (reapStep r e).d := by
  cases e with
  | lastReceived sig =>
    dsimp only [reapStep]
    split_ifs <;> first | exact keeps_refl _ | exact keeps_down7LastReceived r.d sig
  | stop =>
    dsimp only [reapStep]; split
    exacts [keeps_refl _,(keeps_down7Stop r.d _).trans (keeps_of rfl id rfl rfl rfl)]
  | _ => dsimp only [reapStep]; split_ifs <;> first | exact keeps_refl _ | exact keeps_jobEnds ..

theorem keeps_reapRecvTasks (r : Reap) (es : List RecvEvent) :
    Keeps r.d (reapRecvTasks r es).d := by
  induction es generalizing r with
  | nil => exact keeps_refl _
  | cons e es ih =>
    unfold reapRecvTasks; split_ifs
    exacts [keeps_refl _,(keeps_reapStep r e).trans (ih _)]

theorem keeps_receive (d : Down7) (env : SessionEnv) : Keeps d (receive d env).1 := by
  unfold receive; split_ifs
  exacts [keeps_refl _,keeps_reapRecvTasks ⟨d,_,none⟩ env.recv,keeps_exeShutdown d _]

theorem keeps_execSubscriptionTask (d : Down7) (s : Subscription) :
    Keeps d (execSubscriptionTask d s).1 := by
  cases s <;> unfold execSubscriptionTask <;> split_ifs
  exacts [keeps_refl _,keeps_refl _,keeps_refl _,keeps_down7Stop d []]

theorem keeps_subscribeAndReceive (d : Down7) (env : SessionEnv) :
    Keeps d (subscribeAndReceive d env).1 := by
  dsimp only [subscribeAndReceive]; split_ifs
  exacts [(keeps_execSubscriptionTask d _).trans (keeps_receive _ env),
    keeps_execSubscriptionTask d _]

theorem keeps_runDown7Once (d : Down7) (env : SessionEnv) : Keeps d (runDown7Once d env).1 := by
  have key : ∀ d0 : Down7, Keeps d d0 → Keeps d (subscribeAndReceive d0 env).1 :=
    fun d0 h => h.trans (keeps_subscribeAndReceive d0 env)
  have key' : ∀ d0 : Down7, Keeps d d0 →
      Keeps d { (subscribeAndReceive d0 env).1 with exeShutDown := false } :=
    fun d0 h => (key d0 h).trans (keeps_of rfl id rfl rfl rfl)
  unfold runDown7Once
  split <;> dsimp only <;> split
  all_goals first
    | exact key _ (keeps_of rfl id rfl rfl rfl)
    | exact key' _ (keeps_of rfl id rfl rfl rfl)

theorem keeps_nap (d : Down7) (stop : Bool) : Keeps d (nap d stop) := by
  unfold nap; split_ifs; exacts [keeps_down7Stop d [],keeps_refl d]

theorem runDown7Once_exeShutDown {d : Down7} {env : SessionEnv} {st : Ldm7Status}
    (h : (runDown7Once d env).2 = some st) : (runDown7Once d env).1.exeShutDown = false := by
  revert h; unfold runDown7Once
  split <;> dsimp only <;> split <;> intro h
  all_goals first | rfl | simp_all

theorem startLoop_cons (d : Down7) (env : SessionEnv) (envs : List SessionEnv) :
    startLoop d (env :: envs) = ((runDown7Once d env).1,none) ∨
    ∃ st d1, (runDown7Once d env).2 = some st ∧ Keeps (runDown7Once d env).1 d1 ∧
      (d1.exeShutDown = true → d1.stopCalled = true) ∧
      (d1.state = .executing ∧ startLoop d (env :: envs) = startLoop d1 envs ∨
        startLoop d (env :: envs) =
          ({ d1 with state := .stopped },some (if d1.state ≠ .executing then .shutdown else st))) := by
  cases hs : (runDown7Once d env).2 with
  | none => exact .inl (by simp only [startLoop,hs])
  | some st =>
    refine .inr ⟨st,if severe st || st == .timedout then (runDown7Once d env).1
      else nap (runDown7Once d env).1 env.napStop,rfl,?_,?_,?_⟩
    · split_ifs; exacts [keeps_refl _,keeps_nap _ _]
    · have := runDown7Once_exeShutDown hs
      unfold nap; split_ifs <;> simp_all [down7Stop,exeShutdown]
    · simp only [startLoop,hs]
      generalize (if severe st || st == .timedout then (runDown7Once d env).1
        else nap (runDown7Once d env).1 env.napStop) = d1
      by_cases hc : (!severe st && d1.state == .executing) = true
      · rw [if_pos hc]
        simp only [Bool.and_eq_true,Bool.not_eq_true',beq_iff_eq] at hc
        exact .inl ⟨hc.2,rfl⟩
      · rw [if_neg hc]; exact .inr rfl

theorem backlogInv_startLoop (d : Down7) (envs : List SessionEnv) (h : BacklogInv d) :
    BacklogInv (startLoop d envs).1 := by
  induction envs generalizing d with
  | nil => exact h
  | cons env envs ih =>
    have h1 := (keeps_runDown7Once d env).backlog h
    rcases startLoop_cons d env envs with e | ⟨st,d1,-,hk,-,⟨-,e⟩ | e⟩ <;> rw [e]
    exacts [h1,ih d1 (hk.backlog h1),hk.backlog h1]

/-- `mcastWorking` is set by the first `down7_lastReceived` and never cleared, so over
all its sessions a Down7 submits at most one backlog request. -/
theorem down7Start_backlogs_le_one (mrm : Mrm) (envs : List SessionEnv) :
    (down7Start (down7New mrm) envs).1.backlogs.length ≤ 1 := by
  have h := backlogInv_startLoop { down7New mrm with state := .executing } envs
    (by simp [BacklogInv,down7New])
  simp only [down7Start,down7New,ne_eq,not_true_eq_false,if_false] at h ⊢
  unfold BacklogInv at h; split_ifs at h <;> omega

/-- `down7_stop` ran, or the missed-but-not-requested queue was shut down. -/
def Cause (d : Down7) : Prop := d.stopCalled = true ∨ d.mrm.missedShutDown = true

theorem Keeps.cause {d d' : Down7} (h : Keeps d d') : Cause d → Cause d' :=
  Or.imp h.stopCalled h.missedShutDown

/-- The statuses `subscribe` and the unicast task document: neither returns
`LDM7_SHUTDOWN` itself. -/
def SessionEnv.Documented (env : SessionEnv) : Prop :=
  env.subscription ≠ .done .shutdown ∧ RecvEvent.ucastEnds .shutdown ∉ env.recv

instance : DecidablePred SessionEnv.Documented := fun _ =>
  inferInstanceAs (Decidable (_ ∧ _))

theorem jobEnds_shutdown {r : Reap} {job : Job} {result : Ldm7Status} (hr : r.status = none)
    (h : (jobEnds r job result).status = some .shutdown) : result = .shutdown := by
  dsimp only [jobEnds] at h; split_ifs at h <;> simp_all

theorem reapStep_cause {r : Reap} {e : RecvEvent} (hr : r.status = none)
    (he : e ≠ .ucastEnds .shutdown) (h : (reapStep r e).status = some .shutdown) :
    Cause (reapStep r e).d := by
  have hne : ∀ {job result}, (jobEnds r job result).status = some .shutdown →
      result = .shutdown := jobEnds_shutdown hr
  have hr' : r.status ≠ some .shutdown := by simp [hr]
  cases e with
  | lastReceived sig => dsimp only [reapStep] at h; split_ifs at h; exact absurd h hr'
  | ucastEnds result =>
    dsimp only [reapStep] at h; split_ifs at h
    exacts [absurd (hne h) fun e => he (e ▸ rfl),absurd h hr']
  | mcastEnds => dsimp only [reapStep] at h; split_ifs at h; exacts [(nomatch hne h),absurd h hr']
  | requestEnds rpc =>
    dsimp only [reapStep] at h ⊢
    split_ifs at h ⊢ with ha hm
    · exact .inr ((keeps_jobEnds ..).missedShutDown hm)
    exacts [(nomatch hne h),(nomatch hne h),absurd h hr']
  | backlogEnds ok =>
    dsimp only [reapStep] at h; split_ifs at h; exacts [(nomatch hne h),(nomatch hne h),absurd h hr']
  | stop => dsimp only [reapStep] at h ⊢; split at h; exacts [absurd h hr',.inl rfl]

theorem reapRecvTasks_of_isSome {r : Reap} (h : r.status.isSome) (es : List RecvEvent) :
    reapRecvTasks r es = r := by
  cases es <;> simp [reapRecvTasks,h]

theorem reapRecvTasks_cause {r : Reap} {es : List RecvEvent} (hr : r.status = none)
    (hes : RecvEvent.ucastEnds .shutdown ∉ es) (h : (reapRecvTasks r es).status = some .shutdown) :
    Cause (reapRecvTasks r es).d := by
  induction es generalizing r with
  | nil => simp_all [reapRecvTasks]
  | cons e es ih =>
    simp only [reapRecvTasks,hr,Option.isSome_none,Bool.false_eq_true,if_false] at h ⊢
    have he : e ≠ .ucastEnds .shutdown := fun h' => hes (h' ▸ List.mem_cons_self _ _)
    cases hs : (reapStep r e).status with
    | none => exact ih hs (fun h' => hes (.tail _ h')) h
    | some _ =>
      rw [reapRecvTasks_of_isSome (by simp [hs])] at h ⊢
      exact reapStep_cause hr he h

theorem receive_cause {d : Down7} {env : SessionEnv} (hd : d.exeShutDown = true → Cause d)
    (he : RecvEvent.ucastEnds .shutdown ∉ env.recv) (h : (receive d env).2 = some .shutdown) :
    Cause (receive d env).1 := by
  unfold receive at h ⊢; split_ifs at h ⊢ with h1
  · exact hd h1
  · exact reapRecvTasks_cause rfl he h
  · cases h

theorem execSubscriptionTask_cause {d : Down7} {s : Subscription}
    (hd : d.exeShutDown = true → Cause d) (hs : s ≠ .done .shutdown)
    (h : (execSubscriptionTask d s).2 = .shutdown) : Cause (execSubscriptionTask d s).1 := by
  cases s <;> unfold execSubscriptionTask at h ⊢ <;> split_ifs at h ⊢ with h1
  · exact hd h1
  · exact absurd (h ▸ rfl) hs
  · exact hd h1
  · exact .inl rfl

theorem execSubscriptionTask_ok {d : Down7} {s : Subscription}
    (h : (execSubscriptionTask d s).2 = .ok) : (execSubscriptionTask d s).1 = d := by
  cases s <;> unfold execSubscriptionTask at h ⊢ <;> split_ifs at h ⊢
  all_goals rfl

theorem subscribeAndReceive_cause {d : Down7} {env : SessionEnv}
    (hd : d.exeShutDown = true → Cause d) (he : env.Documented)
    (h : (subscribeAndReceive d env).2 = some .shutdown) : Cause (subscribeAndReceive d env).1 := by
  dsimp only [subscribeAndReceive] at h ⊢; split_ifs at h ⊢ with hok
  · rw [execSubscriptionTask_ok hok] at h ⊢
    exact receive_cause hd he.2 h
  · exact execSubscriptionTask_cause hd he.1 (Option.some.inj h)

theorem runDown7Once_cause {d : Down7} {env : SessionEnv} (hd : d.exeShutDown = true → Cause d)
    (he : env.Documented) (h : (runDown7Once d env).2 = some .shutdown) :
    Cause (runDown7Once d env).1 := by
  revert h; unfold runDown7Once
  split <;> dsimp only <;> split <;> intro h
  all_goals exact subscribeAndReceive_cause hd he h

theorem startLoop_cause {d : Down7} {envs : List SessionEnv} (hst : d.state = .executing)
    (hd : d.exeShutDown = true → Cause d) (he : ∀ env ∈ envs, env.Documented)
    (h : (startLoop d envs).2 = some .shutdown) : Cause (startLoop d envs).1 := by
  induction envs generalizing d with
  | nil => cases h
  | cons env envs ih =>
    rcases startLoop_cons d env envs with e | ⟨st,d1,hs,hk,hex,⟨hst1,e⟩ | e⟩ <;> rw [e] at h ⊢
    · cases h
    · exact ih hst1 (fun h => .inl (hex h)) (fun e he' => he e (.tail _ he')) h
    · have hstate := ((keeps_runDown7Once d env).trans hk).state.imp_left (·.trans hst)
      split_ifs at h with hx
      · exact .inl (hstate.resolve_left hx)
      · exact hk.cause (runDown7Once_cause hd (he env (.head _)) (hs.trans h))

/-- `down7_start` returns `LDM7_SHUTDOWN` only once `down7_stop` has been called or a
session's executor shutdown has shut the missed-but-not-requested queue down, when the
subscription and the unicast task return only the statuses they document. -/
theorem down7Start_shutdown_cause (mrm : Mrm) (envs : List SessionEnv)
    (he : ∀ env ∈ envs, env.Documented) (h : (down7Start (down7New mrm) envs).2 = some .shutdown) :
    (down7Start (down7New mrm) envs).1.stopCalled = true ∨
      (down7Start (down7New mrm) envs).1.mrm.missedShutDown = true := by
  simp only [down7Start,down7New,ne_eq,not_true_eq_false,if_false] at h ⊢
  exact startLoop_cause rfl (fun h => nomatch h) he h

/-- The run of the first two sessions that end in a recoverable `LDM7_RPC` and then
`LDM7_SHUTDOWN`, with no `down7_stop`: the missed queue was shut down. -/
theorem down7Start_shutdown_cause_example :
    let envs : List SessionEnv :=
      [⟨.done .ok,true,[.ucastEnds .rpc],false⟩,⟨.done .ok,true,[.requestEnds true],false⟩]
    (down7Start (down7New Mrm.empty) envs).1.stopCalled = true ∨
      (down7Start (down7New Mrm.empty) envs).1.mrm.missedShutDown = true :=
  down7Start_shutdown_cause Mrm.empty _ (by decide) (by decide)

end Session
end Ldm7
