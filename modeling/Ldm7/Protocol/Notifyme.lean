import Ldm7.Protocol.Requester

/-! Asking an LDM-5 for notifications (`notifyme.c`, and `forn5` of `ldm5_clnt.c`): `forn5`
signs on, turns the connection around and serves the upstream with `notifymeprog_5`, which
moves the class's `from` past each notification; `main` calls `forn5` again and again. What
the calls return is input, one record for each session. -/
namespace Ldm7
namespace Notifyme

open Feedme (Timestamp ProdClass Call5 SignonStatus)
open Requester (Run SvcRunStatus)

inductive Forn5Status
  | ok | econnaborted | econnreset | etimedout | econnrefused | einval | ebadf | errno
  deriving DecidableEq

def ofSignon : SignonStatus → Forn5Status
  | .ok => .ok
  | .etimedout => .etimedout
  | .econnaborted => .econnaborted
  | .econnrefused => .econnrefused
  | .errno => .errno

def ofSvcRun : SvcRunStatus → Forn5Status
  | .ok => .ok
  | .etimedout => .etimedout
  | .econnreset => .econnreset
  | .ebadf => .ebadf
  | .einval => .einval

/-- `tvCmp(a, b, <)` of `timestamp.h`, which is not among the sources: the order of
`(tv_sec, tv_usec)`. -/
def tvLt (a b : Timestamp) : Bool := a.tvSec < b.tvSec || (a.tvSec == b.tvSec && a.tvUsec < b.tvUsec)

/-- `adjustByLastInfo` of `ldm5_clnt.c`, with the arrival of the last product received
(`none` when `savedInfo_get` returns `NULL`) and whether `dup_prod_class` succeeds: the
class's `from` is raised to that arrival less `2 * interval` seconds. -/
def adjustByLastInfo5 (interval : Int) (tsNone : Timestamp) (prodClass : ProdClass)
    (info : Option Timestamp) (dupOk : Bool) : Except Forn5Status ProdClass :=
  match info with
  | none => .ok prodClass
  | some arrival =>
    if arrival = tsNone then .error .einval
    else if !dupOk then .error .errno
    else
      let newFrom : Timestamp := { arrival with tvSec := arrival.tvSec - 2 * interval }
      .ok (if tvLt prodClass.fromTime newFrom then { prodClass with fromTime := newFrom }
        else prodClass)

/-- What the calls of `forn5` return: the last product's arrival and `dup_prod_class` of
`adjustByLastInfo`, `dup` and the calls of `forn_signon`, `exitIfDone(0)` (`false`: the
process exits), `svcfd_create`, `svc_register`, and `one_svc_run`. -/
structure Forn5Env where
  info : Option Timestamp
  dupOk : Bool
  signonDupOk : Bool
  calls : List Call5
  notDone : Bool
  xprtOk : Bool
  registerOk : Bool
  run : SvcRunStatus

structure Forn5 where
  status : Forn5Status
  request : ProdClass
  sent : List ProdClass
  served : Bool

def forn5 (interval : Int) (tsNone : Timestamp) (request : ProdClass) (e : Forn5Env) :
    Option (Run Forn5) :=
  match adjustByLastInfo5 interval tsNone request e.info e.dupOk with
  | .error st => some (.ret ⟨st,request,[],false⟩)
  | .ok c =>
    (Feedme.fornSignon c e.signonDupOk e.calls).map fun (st,req,sent) =>
      if !e.notDone then .exit
      else if st ≠ .ok then .ret ⟨ofSignon st,req,sent,false⟩
      else if !e.xprtOk then .ret ⟨.ok,req,sent,false⟩
      else if !e.registerOk then .ret ⟨.ok,req,sent,false⟩
      else .ret ⟨ofSvcRun e.run,req,sent,true⟩

/-- A call `one_svc_run` dispatches: NULLPROC, NOTIFICATION of a product that arrived at
`arrival`, or another procedure. -/
inductive Proc
  | nullproc
  | notification (arrival : Timestamp)
  | other

/-- What a reply sends: `xdr_void`, the `ldm_replyt` `OK`, or the error of `svcerr_decode`,
`svcerr_systemerr` or `svcerr_noproc`. -/
inductive Reply
  | void | ok | decode | systemErr | noProc
  deriving DecidableEq

/-- What the calls of `notifymeprog_5` return: `svc_getargs`, the first `exitIfDone(0)`,
`svc_sendreply`, the second `exitIfDone(0)`, and `svc_freeargs`. -/
structure NotifEnv where
  getargsOk : Bool
  notDone : Bool
  sendOk : Bool
  notDone' : Bool
  freeOk : Bool

/-- `notifymeprog_5` with the class's `from`: the replies it sends, `from` afterwards, and the
status the process exits with, if it does. -/
def notifymeprog5 (incr : Timestamp → Timestamp) (fromTime : Timestamp) (proc : Proc)
    (e : NotifEnv) : List Reply × Timestamp × Option Nat :=
  match proc with
  | .nullproc => ([.void],fromTime,none)
  | .notification arrival =>
    if !e.getargsOk then ([.decode],fromTime,none)
    else if !e.notDone then ([],fromTime,some 0)
    else
      let sent := if e.sendOk then [Reply.ok] else [Reply.ok,Reply.systemErr]
      if !e.notDone' then (sent,incr arrival,some 0)
      else if !e.freeOk then (sent,incr arrival,some 1)
      else (sent ++ [.noProc],incr arrival,none)
  | .other => ([.noProc],fromTime,none)

/-- The calls one session dispatches, from `from`: `from` afterwards, and the exit status
if a call ends the process. -/
def dispatchAll (incr : Timestamp → Timestamp) :
    Timestamp → List (Proc × NotifEnv) → Timestamp × Option Nat
  | fromTime,[] => (fromTime,none)
  | fromTime,(proc,e) :: calls =>
    match notifymeprog5 incr fromTime proc e with
    | (_,fromTime',none) => dispatchAll incr fromTime' calls
    | (_,fromTime',some code) => (fromTime',some code)

/-- One pass of `main`'s loop: `exitIfDone(0)` of its test, what `forn5` meets, the calls
its service dispatches, and `exitIfDone(0)` after it. -/
structure Session where
  notDone : Bool
  forn : Forn5Env
  calls : List (Proc × NotifEnv)
  notDone' : Bool

def transient (st : Forn5Status) : Bool :=
  st = .econnaborted || st = .econnreset || st = .etimedout || st = .econnrefused

/-- `main`'s loop from the class `clss`: for each session the class `forn5` was given and
whether `main` slept after it, and the status the process exits with, `none` while it
runs. -/
def mainLoop (interval : Int) (tsNone : Timestamp) (incr : Timestamp → Timestamp) :
    ProdClass → List Session → List (ProdClass × Bool) × Option Nat
  | _,[] => ([],none)
  | clss,s :: ss =>
    if !s.notDone then ([],some 0)
    else match forn5 interval tsNone clss s.forn with
      | none => ([],none)
      | some .exit => ([],some 0)
      | some (.ret f) =>
        let d := if f.served then dispatchAll incr clss.fromTime s.calls else (clss.fromTime,none)
        match d.2 with
        | some code => ([(clss,false)],some code)
        | none =>
          if !s.notDone' then ([(clss,false)],some 0)
          else if transient f.status || f.status = .ok then
            let rest := mainLoop interval tsNone incr { clss with fromTime := d.1 } ss
            ((clss,transient f.status) :: rest.1,rest.2)
          else ([(clss,false)],some 1)

/-- A sign-on that the first call answers with OK, and whose socket `dup` succeeds. -/
def SignsOn (e : Forn5Env) : Prop :=
  e.signonDupOk = true ∧ ∃ c cs h, e.calls = c :: cs ∧ c.rpcStat = .success ∧ c.reply = .code .ok h

theorem fornSignon_of_signsOn {e : Forn5Env} (h : SignsOn e) (c : ProdClass) :
    Feedme.fornSignon c e.signonDupOk e.calls = some (.ok,c,[c]) := by
  obtain ⟨hd,c0,cs,h0,hc,hs,hr⟩ := h
  simp [Feedme.fornSignon,Feedme.signonLoop,hc,hs,hr,hd]

/-- When `svcfd_create` or `svc_register` fails after every sign-on, `main` reconnects at
once after each session, never sleeping and never exiting, and asks for the same class each
time. -/
theorem mainLoop_reconnects_at_once (interval : Int) (tsNone : Timestamp)
    (incr : Timestamp → Timestamp) (clss : ProdClass) (ss : List Session)
    (h : ∀ s ∈ ss, s.notDone = true ∧ s.notDone' = true ∧ s.forn.info = none ∧
      SignsOn s.forn ∧ s.forn.notDone = true ∧
      (s.forn.xprtOk = false ∨ s.forn.registerOk = false)) :
    mainLoop interval tsNone incr clss ss = (ss.map fun _ => (clss,false),none) := by
  induction ss with
  | nil => rfl
  | cons s ss ih =>
    obtain ⟨h1,h2,h3,h4,h5,h6⟩ := h s (List.mem_cons_self _ _)
    have hf : forn5 interval tsNone clss s.forn = some (.ret ⟨.ok,clss,[clss],false⟩) := by
      rcases h6 with h6 | h6 <;> simp [forn5,adjustByLastInfo5,h3,fornSignon_of_signsOn h4,h5,h6]
    have he : ({ fromTime := clss.fromTime, toTime := clss.toTime, psa := clss.psa } : ProdClass)
      = clss := rfl
    simp [mainLoop,h1,hf,h2,transient,he,ih fun s hs => h s (List.mem_cons_of_mem _ hs)]

/-- A session whose `svcfd_create` fails: `forn5` returns 0 and `main` goes on without
sleeping, with the same class. -/
theorem mainLoop_reconnects_at_once_svcfd :
    let s : Session :=
      ⟨true,⟨none,true,true,[⟨.success,false,.code .ok (by decide)⟩],true,false,true,.ok⟩,[],true⟩
    let clss : ProdClass := ⟨⟨0,0⟩,⟨0,0⟩,[]⟩
    (∀ x ∈ [s], x.notDone = true ∧ x.notDone' = true ∧ x.forn.info = none ∧
      SignsOn x.forn ∧ x.forn.notDone = true ∧
      (x.forn.xprtOk = false ∨ x.forn.registerOk = false)) ∧
    mainLoop 3600 ⟨0,0⟩ id clss [s] = ([(clss,false)],none) := by
  intro s clss
  have h : ∀ x ∈ [s], x.notDone = true ∧ x.notDone' = true ∧ x.forn.info = none ∧
      SignsOn x.forn ∧ x.forn.notDone = true ∧
      (x.forn.xprtOk = false ∨ x.forn.registerOk = false) := by
    intro x hx
    obtain rfl := List.mem_singleton.mp hx
    exact ⟨rfl,rfl,rfl,⟨rfl,_,[],_,rfl,rfl,rfl⟩,rfl,.inl rfl⟩
  exact ⟨h,mainLoop_reconnects_at_once 3600 ⟨0,0⟩ id clss _ h⟩

/-- The arrivals of the NOTIFICATION calls that `notifymeprog_5` decodes and goes on with. -/
def accepted : List (Proc × NotifEnv) → List Timestamp
  | [] => []
  | (.notification a,e) :: calls =>
    if e.getargsOk && e.notDone then a :: accepted calls else accepted calls
  | _ :: calls => accepted calls

theorem elim_getLast?_cons {α β : Type} (a : α) (l : List α) (t : β) (f : α → β) :
    ((a :: l).getLast?).elim t f = (l.getLast?).elim (f a) f := by
  rw [List.getLast?_cons]; cases l.getLast? <;> rfl

/-- Over every sequence of calls a session dispatches without the process exiting, the
class's `from` ends just after the arrival of the last notification decoded, whatever the
order of the arrivals, or stays as it was when there is none. -/
theorem dispatchAll_from (incr : Timestamp → Timestamp) (t : Timestamp)
    (calls : List (Proc × NotifEnv)) {t' : Timestamp} (h : dispatchAll incr t calls = (t',none)) :
    t' = ((accepted calls).getLast?).elim t incr := by
  induction calls generalizing t with
  | nil => cases h; rfl
  | cons c calls ih =>
    obtain ⟨proc,e⟩ := c
    cases proc with
    | notification a =>
      simp only [dispatchAll,notifymeprog5,accepted] at h ⊢
      by_cases hg : e.getargsOk <;> by_cases hn : e.notDone <;> simp only [hg,hn] at h ⊢
      · by_cases hd : e.notDone' <;> by_cases hf : e.freeOk <;> simp [hd,hf] at h
        rw [if_pos (by rfl),elim_getLast?_cons]; exact ih _ h
      all_goals simp at h ⊢
      all_goals exact ih _ h
    | _ => exact ih t h

/-- Notifications of 5 s and then of 3 s: the class's `from` moves back to just after 3 s. -/
theorem dispatchAll_from_older :
    dispatchAll (fun t => ⟨t.tvSec,t.tvUsec + 1⟩) ⟨0,0⟩
        [(.notification ⟨5,0⟩,⟨true,true,true,true,true⟩),
          (.notification ⟨3,0⟩,⟨true,true,true,true,true⟩)] = (⟨3,1⟩,none) ∧
      (⟨3,1⟩ : Timestamp) = ((accepted [(.notification ⟨5,0⟩,⟨true,true,true,true,true⟩),
          (.notification ⟨3,0⟩,⟨true,true,true,true,true⟩)]).getLast?).elim ⟨0,0⟩
        (fun t => ⟨t.tvSec,t.tvUsec + 1⟩) := by
  have h : dispatchAll (fun t => ⟨t.tvSec,t.tvUsec + 1⟩) ⟨0,0⟩
      [(.notification ⟨5,0⟩,⟨true,true,true,true,true⟩),
        (.notification ⟨3,0⟩,⟨true,true,true,true,true⟩)] = (⟨3,1⟩,none) := by decide
  exact ⟨h,dispatchAll_from _ _ _ h⟩

end Notifyme
end Ldm7
