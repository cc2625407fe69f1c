import Mathlib.Data.List.Basic

/-! The future of an asynchronous task (`Future.c`). A call is a sequence of steps: a
section between `future_lock` and `future_unlock` is one step, and so is each access made
without the lock: `future_assertValid`, and `future_destroy` and `free` after `future_free`
unlocked. Threads that call the functions in any interleaving make up the system. -/
namespace Ldm7
namespace Async

def MAGIC : UInt64 := 0x2acf8f2d19b89ded

/-- `struct future` without its mutex, condition-variable, thread and `state`, which only
`future_cas` reads, and nothing calls that. `job` and `result` are pointers, `none` and `0`
being `NULL`. -/
structure Future where
  job : Option Nat
  result : Nat
  magic : UInt64
  runStatus : Int
  haveResults : Bool
  wasCanceled : Bool
  deriving DecidableEq

/-- What aborts: `future_assertValid` on a wrong magic number, `future_lock` on the mutex
that `future_destroy` destroyed, `future_setJob` on a future with a job, and an access to
freed memory. -/
inductive Fault
  | invalid | destroyed | jobSet | freed
  deriving DecidableEq

/-- The statuses the functions return; `wait e` is the code of a failed
`pthread_cond_wait`. -/
inductive Status
  | ok | einval | ecanceled | eperm | wait (e : Nat)
  deriving DecidableEq

def futureInit : Future := ⟨none,0,MAGIC,0,false,false⟩

/-- `future_new`: `NULL` when `log_malloc` fails or `mutex_init` or `pthread_cond_init`
returns nonzero. -/
def futureNew (mallocOk : Bool) (mutexInit condInit : Int) : Option Future :=
  if !mallocOk then none
  else if mutexInit ≠ 0 then none
  else if condInit ≠ 0 then none
  else some futureInit

def futureDestroy (f : Future) : Future := { f with magic := ~~~MAGIC }

def futureAssertValid : Option Future → Except Fault Unit
  | none => .error .freed
  | some f => if f.magic ≠ MAGIC then .error .invalid else .ok ()

/-- A section between `future_lock` and `future_unlock`; the mutex of a future that
`future_destroy` destroyed does not lock. -/
def withLock {α : Type} (fut : Option Future) (body : Future → Except Fault α) :
    Except Fault α :=
  match fut with
  | none => .error .freed
  | some f => if f.magic ≠ MAGIC then .error .destroyed else body f

def futureSetJob (f : Future) (job : Nat) : Except Fault Future :=
  if f.magic ≠ MAGIC then .error .invalid
  else if f.job ≠ none then .error .jobSet
  else .ok { f with job := some job }

def futureSetResult (f : Future) (runStatus : Int) (result : Nat) (wasCanceled : Bool) :
    Future :=
  { f with
    runStatus := runStatus, result := result, wasCanceled := wasCanceled, haveResults := true }

/-- The status and `*result` that `future_getResult` returns once the results are there. -/
def outcome (runStatus : Int) (result : Nat) (wasCanceled resultp : Bool) : Status × Option Nat :=
  if wasCanceled then (.ecanceled,none)
  else if runStatus ≠ 0 then (.eperm,none)
  else (.ok,if resultp then some result else none)

/-- The locked section of `future_getResult`, with whether `result` is not `NULL` and how
`pthread_cond_wait` fails while the results are not there: `none` while it waits. -/
def futureGetResult (f : Future) (resultp : Bool) (waitErr : Option Nat) :
    Option (Status × Option Nat) :=
  if !f.haveResults then waitErr.map fun e => (.wait e,none)
  else some (outcome f.runStatus f.result f.wasCanceled resultp)

/-- The locked section of `future_free`. -/
def futureFree (f : Future) : Status := if f.haveResults then .ok else .einval

inductive Op
  | setJob (job : Nat)
  | cancel
  | setResult (runStatus : Int) (result : Nat) (wasCanceled : Bool)
  | getResult (resultp : Bool)
  | free
  | getAndFree (resultp : Bool)
  | getRunStatus

inductive Ret
  | done
  | job (job : Option Nat)
  | status (s : Status) (result : Option Nat)
  | runStatus (r : Int)
  deriving DecidableEq

/-- How a step of a call ends: on to the call's next step, waiting on the
condition-variable, returning, or, in `future_getAndFree`, on to its `future_free` with
what its `future_getResult` returned. -/
inductive Next
  | next | wait | ret (r : Ret) | free (q : Status × Option Nat)

/-- What `future_free` returns, or in `future_getAndFree` what its `future_getResult`
returned. -/
def freeRet (pending : Option (Status × Option Nat)) (s : Status) : Ret :=
  match pending with
  | some q => .status q.1 q.2
  | none => .status s none

/-- Step `pc` of a call on the future, `none` once freed: step 0 is `future_assertValid`
but in `future_setJob`, which checks inside its lock, and `future_free` goes on after its
locked section with `future_destroy` and `free`. -/
def Op.step (pending : Option (Status × Option Nat)) (fut : Option Future) (w : Option Nat) :
    Op → Nat → Except Fault (Option Future × Next)
  | .setJob job,0 => withLock fut fun f => (futureSetJob f job).map fun f' => (some f',.ret .done)
  | .cancel,1 => match fut with
    | none => .error .freed
    | some f => .ok (fut,.ret (.job f.job))
  | .setResult rs r c,1 => withLock fut fun f => .ok (some (futureSetResult f rs r c),.ret .done)
  | .getResult p,1 => withLock fut fun f => .ok (fut,match futureGetResult f p w with
    | none => .wait
    | some (s,out) => .ret (.status s out))
  | .getAndFree p,1 => withLock fut fun f => .ok (fut,match futureGetResult f p w with
    | none => .wait
    | some q => .free q)
  | .free,1 => withLock fut fun f =>
    .ok (fut,if futureFree f = .ok then .next else .ret (freeRet pending (futureFree f)))
  | .free,2 => match fut with
    | none => .error .freed
    | some f => .ok (some (futureDestroy f),.next)
  | .free,3 => match fut with
    | none => .error .freed
    | some _ => .ok (none,.ret (freeRet pending .ok))
  | .getRunStatus,1 => withLock fut fun f => .ok (fut,.ret (.runStatus f.runStatus))
  | .setJob _,_ + 1 => .ok (fut,.wait)
  | _,0 => (futureAssertValid fut).map fun _ => (fut,.next)
  | _,_ => .ok (fut,.wait)

/-- A thread: the calls it has still to make, the step it is at in the first, what the
`future_getResult` of a `future_getAndFree` returned, and what its calls returned. -/
structure Thread where
  prog : List Op
  pc : Nat
  pending : Option (Status × Option Nat)
  rets : List Ret

def Thread.act (t : Thread) (fut : Option Future) (w : Option Nat) :
    Except Fault (Option Future × Thread) :=
  match t.prog with
  | [] => .ok (fut,t)
  | op :: ops => (op.step t.pending fut w t.pc).map fun
    | (fut',.next) => (fut',{ t with pc := t.pc + 1 })
    | (fut',.wait) => (fut',t)
    | (fut',.ret r) => (fut',⟨ops,0,none,t.rets ++ [r]⟩)
    | (fut',.free q) => (fut',⟨.free :: ops,0,some q,t.rets⟩)

/-- The future, `none` once freed, the threads, and the fault that stopped the program. -/
structure Sys where
  future : Option Future
  threads : List Thread
  fault : Option Fault

/-- Thread `i` takes a step; `pthread_cond_wait` fails with `waitErr` if it has to wait. -/
def Sys.step (s : Sys) (i : Nat) (waitErr : Option Nat) : Sys :=
  match s.fault, s.threads[i]? with
  | none, some t =>
    match t.act s.future waitErr with
    | .ok (fut,t') => { s with future := fut, threads := s.threads.set i t' }
    | .error e => { s with fault := some e }
  | _, _ => s

def Sys.run (s : Sys) : List (Nat × Option Nat) → Sys
  | [] => s
  | (i,w) :: sch => (s.step i w).run sch

def Sys.start (ts : List Thread) : Sys := ⟨some futureInit,ts,none⟩

theorem withLock_ok {α : Type} {fut : Option Future} {body : Future → Except Fault α} {a : α}
    (h : withLock fut body = .ok a) : ∃ f, fut = some f ∧ f.magic = MAGIC ∧ body f = .ok a := by
  rcases fut with _ | f
  · cases h
  · by_cases hm : f.magic = MAGIC
    · exact ⟨f,rfl,hm,by simpa [withLock,hm] using h⟩
    · simp [withLock,hm] at h

theorem withLock_error {α : Type} {fut : Option Future} {body : Future → Except Fault α}
    {e : Fault} (h : withLock fut body = .error e) :
    e = .freed ∨ ∃ f, fut = some f ∧ (f.magic ≠ MAGIC ∨ body f = .error e) := by
  rcases fut with _ | f
  · cases h; exact .inl rfl
  · by_cases hm : f.magic = MAGIC
    · exact .inr ⟨f,rfl,.inr (by simpa [withLock,hm] using h)⟩
    · exact .inr ⟨f,rfl,.inl hm⟩

theorem futureAssertValid_error {fut : Option Future} {e : Fault}
    (h : futureAssertValid fut = .error e) : e = .freed ∨ ∃ f, fut = some f ∧ f.magic ≠ MAGIC := by
  rcases fut with _ | f
  · cases h; exact .inl rfl
  · by_cases hm : f.magic = MAGIC
    · simp [futureAssertValid,hm] at h
    · exact .inr ⟨f,rfl,hm⟩

/-- What a step does to the future: nothing, frees it, destroys it in `future_free`, or
writes a valid future in a locked section. -/
theorem Op.step_future {pending : Option (Status × Option Nat)} {fut fut' : Option Future}
    {w : Option Nat} {op : Op} {pc : Nat} {n : Next}
    (h : op.step pending fut w pc = .ok (fut',n)) :
    fut' = fut ∨ fut' = none ∨ ∃ f, fut = some f ∧
      ((op = .free ∧ pc = 2 ∧ n = .next ∧ fut' = some (futureDestroy f)) ∨
        ∃ f', fut' = some f' ∧ f'.magic = MAGIC) := by
  unfold Op.step at h
  split at h
  · obtain ⟨f,rfl,hm,hb⟩ := withLock_ok h
    unfold futureSetJob at hb
    split_ifs at hb <;> simp only [Except.map,Except.ok.injEq,Prod.mk.injEq,reduceCtorEq] at hb
    obtain ⟨rfl,-⟩ := hb
    exact .inr (.inr ⟨f,rfl,.inr ⟨_,rfl,hm⟩⟩)
  · split at h
    · cases h
    · cases h; exact .inl rfl
  · obtain ⟨f,rfl,hm,hb⟩ := withLock_ok h
    cases hb; exact .inr (.inr ⟨f,rfl,.inr ⟨_,rfl,hm⟩⟩)
  all_goals first
    | (obtain ⟨f,rfl,-,hb⟩ := withLock_ok h; cases hb; exact .inl rfl)
    | (split at h <;> cases h; first | exact .inr (.inl rfl) | exact .inr (.inr ⟨_,rfl,.inl
        ⟨rfl,rfl,rfl,rfl⟩⟩))
    | (cases h; exact .inl rfl)
    | (revert h; cases futureAssertValid fut <;> intro h <;> cases h; exact .inl rfl)

theorem Op.step_fault {pending : Option (Status × Option Nat)} {fut : Option Future}
    {w : Option Nat} {op : Op} {pc : Nat} {e : Fault}
    (h : op.step pending fut w pc = .error e) :
    e = .freed ∨ e = .jobSet ∨ ∃ f, fut = some f ∧ f.magic ≠ MAGIC := by
  unfold Op.step at h
  split at h
  · rcases withLock_error h with h | ⟨f,rfl,hm | hb⟩
    · exact .inl h
    · exact .inr (.inr ⟨f,rfl,hm⟩)
    · unfold futureSetJob at hb
      split_ifs at hb with h1 <;> simp only [Except.map,Except.error.injEq,reduceCtorEq] at hb
      · exact .inr (.inr ⟨f,rfl,h1⟩)
      · exact .inr (.inl hb.symm)
  all_goals first
    | (rcases withLock_error h with h | ⟨f,rfl,hm | hb⟩
       · exact .inl h
       · exact .inr (.inr ⟨f,rfl,hm⟩)
       · cases hb)
    | (split at h <;> cases h; exact .inl rfl)
    | cases h
    | (revert h; cases hv : futureAssertValid fut <;> intro h <;> cases h
       exact (futureAssertValid_error hv).imp_right .inr)

/-- A thread in `future_free` after its `future_destroy`, before its `free`. -/
def Thread.Destroying (t : Thread) : Prop := t.prog.head? = some .free ∧ t.pc = 3

theorem Thread.act_map {t : Thread} {op : Op} {ops : List Op} (hp : t.prog = op :: ops)
    {fut fut' : Option Future} {w : Option Nat} {t' : Thread}
    (h : t.act fut w = .ok (fut',t')) : ∃ n, op.step t.pending fut w t.pc = .ok (fut',n) ∧
      (n = .next → t' = { t with pc := t.pc + 1 }) := by
  obtain ⟨prog,pc,pending,rets⟩ := t
  subst hp
  simp only [Thread.act] at h
  rcases hs : op.step pending fut w pc with e | ⟨fut'',n⟩ <;> rw [hs] at h
  · cases h
  · cases n <;> simp only [Except.map,Except.ok.injEq,Prod.mk.injEq] at h <;>
      obtain ⟨rfl,rfl⟩ := h <;> exact ⟨_,rfl,by simp⟩

theorem Thread.act_destroyed {t t' : Thread} {fut fut' : Option Future} {w : Option Nat}
    (h : t.act fut w = .ok (fut',t')) :
    ∀ f' ∈ fut', f'.magic ≠ MAGIC → t'.Destroying ∨ (fut' = fut ∧ ¬t.Destroying) := by
  intro f' hf' hm
  rcases hp : t.prog with _ | ⟨op,ops⟩
  · simp only [Thread.act,hp,Except.ok.injEq,Prod.mk.injEq] at h
    obtain ⟨rfl,rfl⟩ := h
    exact .inr ⟨rfl,by simp [Thread.Destroying,hp]⟩
  obtain ⟨n,hs,ht⟩ := Thread.act_map hp h
  rcases Op.step_future hs with rfl | rfl | ⟨f,rfl,⟨rfl,hpc,rfl,-⟩ | ⟨f'',rfl,hm''⟩⟩
  · refine .inr ⟨rfl,fun ⟨hh,hpc⟩ => ?_⟩
    simp only [hp,List.head?_cons,Option.some.injEq] at hh
    subst hh
    cases hf'
    rw [hpc] at hs
    simp [Op.step] at hs
  · cases hf'
  · exact .inl (by simp [ht rfl,Thread.Destroying,hp,hpc])
  · cases hf'; exact absurd hm'' hm

theorem Thread.act_fault {t : Thread} {fut : Option Future} {w : Option Nat} {e : Fault}
    (h : t.act fut w = .error e) : e = .freed ∨ e = .jobSet ∨ ∃ f, fut = some f ∧ f.magic ≠ MAGIC := by
  obtain ⟨_ | ⟨op,ops⟩,pc,pending,rets⟩ := t
  · cases h
  · simp only [Thread.act] at h
    rcases hs : op.step pending fut w pc with e' | x <;> rw [hs] at h
    · cases h; exact Op.step_fault hs
    · cases h

theorem mem_set_of_ne {α : Type} {l : List α} {i : Nat} {t u : α} (hi : l[i]? = some t)
    (hu : u ∈ l) (hne : u ≠ t) (a : α) : u ∈ l.set i a := by
  obtain ⟨j,hj⟩ := List.mem_iff_getElem?.mp hu
  have hij : i ≠ j := by rintro rfl; exact hne (Option.some.inj (hj.symm.trans hi))
  exact List.mem_iff_getElem?.mpr ⟨j,by rw [List.getElem?_set_ne hij,hj]⟩

/-- A future whose magic number is not `MAGIC`, or a fault on it, has a thread between
`future_destroy` and `free`. -/
def Sys.MagicInv (s : Sys) : Prop :=
  (∀ f ∈ s.future, f.magic ≠ MAGIC → ∃ t ∈ s.threads, t.Destroying) ∧
    (s.fault = some .invalid ∨ s.fault = some .destroyed → ∃ t ∈ s.threads, t.Destroying)

theorem Sys.step_magicInv {s : Sys} (hs : s.MagicInv) (i : Nat) (w : Option Nat) :
    (s.step i w).MagicInv := by
  unfold Sys.step
  rcases hf : s.fault with _ | e
  · rcases ht : s.threads[i]? with _ | t
    · exact hs
    · dsimp only
      rcases ha : t.act s.future w with e | ⟨fut',t'⟩
      · refine ⟨hs.1,fun he => ?_⟩
        rcases Thread.act_fault ha with rfl | rfl | ⟨f,hf',hm⟩
        · simp at he
        · simp at he
        · exact hs.1 f hf' hm
      · refine ⟨fun f' hf' hm => ?_,nofun⟩
        rcases Thread.act_destroyed ha f' hf' hm with hd | ⟨rfl,hnd⟩
        · have hi : i < s.threads.length := (List.getElem?_eq_some_iff.mp ht).1
          exact ⟨t',List.mem_set _ _ hi _,hd⟩
        · obtain ⟨u,hu,hdu⟩ := hs.1 f' hf' hm
          exact ⟨u,mem_set_of_ne ht hu (fun e => hnd (e ▸ hdu)) _,hdu⟩
  · exact hs

/-- Whatever the threads call and however they interleave, the future that `future_new`
made holds `MAGIC` while it is allocated but between the `future_destroy` and the `free`
of a `future_free`, and `future_assertValid` or `future_lock` fail only then; and they can
fail, as `future_free` destroys the future after it unlocked it, and `future_assertValid`
runs without the lock. -/
theorem future_magic_invalid_in_free (ts : List Thread) (sch : List (Nat × Option Nat)) :
    (∀ f ∈ ((Sys.start ts).run sch).future, f.magic ≠ MAGIC →
        ∃ t ∈ ((Sys.start ts).run sch).threads, t.Destroying) ∧
      (((Sys.start ts).run sch).fault = some .invalid ∨
          ((Sys.start ts).run sch).fault = some .destroyed →
        ∃ t ∈ ((Sys.start ts).run sch).threads, t.Destroying) ∧
      ((Sys.start [⟨[.setResult 0 0 false,.free],0,none,[]⟩,⟨[.getRunStatus],0,none,[]⟩]).run
        [(0,none),(0,none),(0,none),(0,none),(0,none),(1,none)]).fault = some .invalid := by
  have h0 : (Sys.start ts).MagicInv :=
    ⟨fun f hf hm => absurd (by cases hf; rfl) hm,by rintro (h | h) <;> cases h⟩
  suffices h : ∀ s : Sys, s.MagicInv → (s.run sch).MagicInv from
    ⟨(h _ h0).1,(h _ h0).2,by decide⟩
  induction sch with
  | nil => exact fun s hs => hs
  | cons iw sch ih => exact fun s hs => ih _ (Sys.step_magicInv hs iw.1 iw.2)

/-- The getting thread: before `future_getAndFree`, at the locked section of its
`future_getResult`, at step `k` of its `future_free` with what `future_getResult` returned,
and after it returned. -/
def getter0 (p : Bool) : Thread := ⟨[.getAndFree p],0,none,[]⟩
def getterWaits (p : Bool) : Thread := ⟨[.getAndFree p],1,none,[]⟩
def getter1 (k : Nat) (q : Status × Option Nat) : Thread := ⟨[.free],k,some q,[]⟩
def getter2 (q : Status × Option Nat) : Thread := ⟨[],0,none,[.status q.1 q.2]⟩

/-- The setting thread: before `future_setResult`, at its locked section, and after it. -/
def setter0 (rs : Int) (r : Nat) (c : Bool) : Thread := ⟨[.setResult rs r c],0,none,[]⟩
def setterLocks (rs : Int) (r : Nat) (c : Bool) : Thread := ⟨[.setResult rs r c],1,none,[]⟩
def setter1 : Thread := ⟨[],0,none,[.done]⟩

theorem Thread.act_done {t : Thread} (hp : t.prog = []) (fut : Option Future) (w : Option Nat) :
    t.act fut w = .ok (fut,t) := by
  obtain ⟨prog,pc,pending,rets⟩ := t
  cases hp; rfl

section
variable {f : Future} (hf : f.magic = MAGIC)
include hf

theorem getter0_act (p : Bool) (w : Option Nat) :
    (getter0 p).act (some f) w = .ok (some f,getterWaits p) := by
  simp [getter0,getterWaits,Thread.act,Op.step,futureAssertValid,hf,Except.map]

theorem getterWaits_act_unset (hr : f.haveResults = false) (p : Bool) (w : Option Nat) :
    (getterWaits p).act (some f) w = .ok (some f,match w with
      | none => getterWaits p
      | some e => getter1 0 (.wait e,none)) := by
  cases w <;> simp [getterWaits,getter1,Thread.act,Op.step,withLock,futureGetResult,hf,hr,
    Except.map]

theorem getterWaits_act_set (hr : f.haveResults = true) (p : Bool) (w : Option Nat) :
    (getterWaits p).act (some f) w =
      .ok (some f,getter1 0 (outcome f.runStatus f.result f.wasCanceled p)) := by
  simp [getterWaits,getter1,Thread.act,Op.step,withLock,futureGetResult,hf,hr,Except.map]

theorem getter1_act0 (q : Status × Option Nat) (w : Option Nat) :
    (getter1 0 q).act (some f) w = .ok (some f,getter1 1 q) := by
  simp [getter1,Thread.act,Op.step,futureAssertValid,hf,Except.map]

theorem getter1_act1 (q : Status × Option Nat) (w : Option Nat) :
    (getter1 1 q).act (some f) w =
      .ok (some f,if f.haveResults then getter1 2 q else getter2 q) := by
  cases hr : f.haveResults <;>
    simp [getter1,getter2,Thread.act,Op.step,withLock,futureFree,freeRet,hf,hr,Except.map]

theorem setter0_act (rs : Int) (r : Nat) (c : Bool) (w : Option Nat) :
    (setter0 rs r c).act (some f) w = .ok (some f,setterLocks rs r c) := by
  simp [setter0,setterLocks,Thread.act,Op.step,futureAssertValid,hf,Except.map]

theorem setterLocks_act (rs : Int) (r : Nat) (c : Bool) (w : Option Nat) :
    (setterLocks rs r c).act (some f) w = .ok (some (futureSetResult f rs r c),setter1) := by
  simp [setterLocks,setter1,Thread.act,Op.step,withLock,hf,Except.map]

end

theorem getter1_act2 (f : Future) (q : Status × Option Nat) (w : Option Nat) :
    (getter1 2 q).act (some f) w = .ok (some (futureDestroy f),getter1 3 q) := by
  simp [getter1,Thread.act,Op.step,Except.map]

theorem getter1_act3 (f : Future) (q : Status × Option Nat) (w : Option Nat) :
    (getter1 3 q).act (some f) w = .ok (none,getter2 q) := by
  simp [getter1,getter2,Thread.act,Op.step,freeRet,Except.map]

section
variable (rs : Int) (r : Nat) (c p : Bool)

/-- A valid future whose results have not been set, or that holds `rs`, `r` and `c`. -/
def Unset (f : Future) : Prop := f.magic = MAGIC ∧ f.haveResults = false
def Holds (f : Future) : Prop :=
  f.magic = MAGIC ∧ f.haveResults = true ∧ f.runStatus = rs ∧ f.result = r ∧ f.wasCanceled = c

def Setting (t : Thread) : Prop := t = setter0 rs r c ∨ t = setterLocks rs r c

/-- What the getting thread can end up with: the results, or a failed wait. -/
def Gets (q : Status × Option Nat) : Prop := q = outcome rs r c p ∨ ∃ e, q = (.wait e,none)

/-- Where the two threads can be, and the future then. The getter destroys and frees the
future only after the setter set its results and left it. -/
inductive Handoff : Option Future → Thread → Thread → Prop
  | start {f : Future} (hf : Unset f) {t : Thread} (ht : Setting rs r c t) :
      Handoff (some f) (getter0 p) t
  | waits {f : Future} (hf : Unset f) {t : Thread} (ht : Setting rs r c t) :
      Handoff (some f) (getterWaits p) t
  | waitFailed {f : Future} (hf : Unset f) (e : Nat) {k : Nat} (hk : k < 2) {t : Thread}
      (ht : Setting rs r c t) : Handoff (some f) (getter1 k (.wait e,none)) t
  | leaked {f : Future} (hf : Unset f) (e : Nat) {t : Thread} (ht : Setting rs r c t) :
      Handoff (some f) (getter2 (.wait e,none)) t
  | set {f : Future} (hf : Holds rs r c f) : Handoff (some f) (getter0 p) setter1
  | setWaits {f : Future} (hf : Holds rs r c f) : Handoff (some f) (getterWaits p) setter1
  | got {f : Future} (hf : Holds rs r c f) {q : Status × Option Nat} (hq : Gets rs r c p q)
      {k : Nat} (hk : k < 3) : Handoff (some f) (getter1 k q) setter1
  | leakedSet {f : Future} (hf : Holds rs r c f) (e : Nat) :
      Handoff (some f) (getter2 (.wait e,none)) setter1
  | destroyed {f : Future} (hf : Holds rs r c f) {q : Status × Option Nat}
      (hq : Gets rs r c p q) : Handoff (some (futureDestroy f)) (getter1 3 q) setter1
  | freed {q : Status × Option Nat} (hq : Gets rs r c p q) : Handoff none (getter2 q) setter1

/-- The system of the two threads, getter first, with no fault. -/
def Sys.Handoff (s : Sys) : Prop :=
  s.fault = none ∧ ∃ g t, s.threads = [g,t] ∧ Async.Handoff rs r c p s.future g t

variable {rs r c p}

theorem holds_set {f : Future} (hf : f.magic = MAGIC) : Holds rs r c (futureSetResult f rs r c) :=
  ⟨hf,rfl,rfl,rfl,rfl⟩

theorem Handoff.getter_act {fut : Option Future} {g t : Thread} (h : Handoff rs r c p fut g t)
    (w : Option Nat) : ∃ fut' g', g.act fut w = .ok (fut',g') ∧ Handoff rs r c p fut' g' t := by
  cases h with
  | start hf ht => exact ⟨_,_,getter0_act hf.1 p w,.waits hf ht⟩
  | waits hf ht =>
    rw [getterWaits_act_unset hf.1 hf.2]
    cases w with
    | none => exact ⟨_,_,rfl,.waits hf ht⟩
    | some e => exact ⟨_,_,rfl,.waitFailed hf e (by decide) ht⟩
  | @waitFailed f hf e k hk t ht =>
    obtain rfl | rfl : k = 0 ∨ k = 1 := by omega
    · exact ⟨_,_,getter1_act0 hf.1 _ w,.waitFailed hf e (by decide) ht⟩
    · rw [getter1_act1 hf.1,if_neg (by simp [hf.2])]; exact ⟨_,_,rfl,.leaked hf e ht⟩
  | leaked hf e ht => exact ⟨_,_,Thread.act_done rfl _ w,.leaked hf e ht⟩
  | set hf => exact ⟨_,_,getter0_act hf.1 p w,.setWaits hf⟩
  | setWaits hf =>
    obtain ⟨hm,hr,rfl,rfl,rfl⟩ := hf
    rw [getterWaits_act_set hm hr]
    exact ⟨_,_,rfl,.got ⟨hm,hr,rfl,rfl,rfl⟩ (.inl rfl) (by decide)⟩
  | @got f hf q hq k hk =>
    obtain rfl | rfl | rfl : k = 0 ∨ k = 1 ∨ k = 2 := by omega
    · exact ⟨_,_,getter1_act0 hf.1 _ w,.got hf hq (by decide)⟩
    · rw [getter1_act1 hf.1,if_pos hf.2.1]; exact ⟨_,_,rfl,.got hf hq (by decide)⟩
    · exact ⟨_,_,getter1_act2 _ _ w,.destroyed hf hq⟩
  | leakedSet hf e => exact ⟨_,_,Thread.act_done rfl _ w,.leakedSet hf e⟩
  | destroyed hf hq => exact ⟨_,_,getter1_act3 _ _ w,.freed hq⟩
  | freed hq => exact ⟨_,_,Thread.act_done rfl _ w,.freed hq⟩

theorem Handoff.setter_act {fut : Option Future} {g t : Thread} (h : Handoff rs r c p fut g t)
    (w : Option Nat) : ∃ fut' t', t.act fut w = .ok (fut',t') ∧ Handoff rs r c p fut' g t' := by
  cases h with
  | start hf ht =>
    rcases ht with rfl | rfl
    · exact ⟨_,_,setter0_act hf.1 rs r c w,.start hf (.inr rfl)⟩
    · exact ⟨_,_,setterLocks_act hf.1 rs r c w,.set (holds_set hf.1)⟩
  | waits hf ht =>
    rcases ht with rfl | rfl
    · exact ⟨_,_,setter0_act hf.1 rs r c w,.waits hf (.inr rfl)⟩
    · exact ⟨_,_,setterLocks_act hf.1 rs r c w,.setWaits (holds_set hf.1)⟩
  | waitFailed hf e hk ht =>
    rcases ht with rfl | rfl
    · exact ⟨_,_,setter0_act hf.1 rs r c w,.waitFailed hf e hk (.inr rfl)⟩
    · exact ⟨_,_,setterLocks_act hf.1 rs r c w,
        .got (holds_set hf.1) (.inr ⟨e,rfl⟩) (by omega)⟩
  | leaked hf e ht =>
    rcases ht with rfl | rfl
    · exact ⟨_,_,setter0_act hf.1 rs r c w,.leaked hf e (.inr rfl)⟩
    · exact ⟨_,_,setterLocks_act hf.1 rs r c w,.leakedSet (holds_set hf.1) e⟩
  | set hf => exact ⟨_,_,Thread.act_done rfl _ w,.set hf⟩
  | setWaits hf => exact ⟨_,_,Thread.act_done rfl _ w,.setWaits hf⟩
  | got hf hq hk => exact ⟨_,_,Thread.act_done rfl _ w,.got hf hq hk⟩
  | leakedSet hf e => exact ⟨_,_,Thread.act_done rfl _ w,.leakedSet hf e⟩
  | destroyed hf hq => exact ⟨_,_,Thread.act_done rfl _ w,.destroyed hf hq⟩
  | freed hq => exact ⟨_,_,Thread.act_done rfl _ w,.freed hq⟩

theorem Sys.step_handoff {s : Sys} (hs : s.Handoff rs r c p) (i : Nat) (w : Option Nat) :
    (s.step i w).Handoff rs r c p := by
  obtain ⟨hf,g,t,ht,h⟩ := hs
  rcases i with _ | _ | i
  · obtain ⟨fut',g',ha,h'⟩ := h.getter_act w
    simp only [Sys.step,hf,ht,List.getElem?_cons_zero,ha]
    exact ⟨rfl,g',t,rfl,h'⟩
  · obtain ⟨fut',t',ha,h'⟩ := h.setter_act w
    simp only [Sys.step,hf,ht,List.getElem?_cons_succ,List.getElem?_cons_zero,ha]
    exact ⟨rfl,g,t',rfl,h'⟩
  · simp only [Sys.step,hf,ht,List.getElem?_cons_succ,List.getElem?_nil]
    exact ⟨hf,g,t,ht,h⟩

theorem Sys.run_handoff {s : Sys} (hs : s.Handoff rs r c p) (sch : List (Nat × Option Nat)) :
    (s.run sch).Handoff rs r c p := by
  induction sch generalizing s with
  | nil => exact hs
  | cons iw sch ih => exact ih (Sys.step_handoff hs iw.1 iw.2)

end

/-- One thread calls `future_getAndFree`, another `future_setResult` with `rs`, `r` and
`c`, on a future from `future_new`. Under every schedule nothing uses freed memory or
fails an assertion, and once both calls returned, `future_getAndFree` returned the
results set, and freed the future, unless its wait failed. -/
theorem getAndFree_handoff (rs : Int) (r : Nat) (c p : Bool) (sch : List (Nat × Option Nat)) :
    ((Sys.start [getter0 p,setter0 rs r c]).run sch).fault = none ∧
      ∀ q, ((Sys.start [getter0 p,setter0 rs r c]).run sch).threads = [getter2 q,setter1] →
        (q = outcome rs r c p ∧ ((Sys.start [getter0 p,setter0 rs r c]).run sch).future = none) ∨
          ∃ e, q = (.wait e,none) := by
  have hs := Sys.run_handoff (s := Sys.start [getter0 p,setter0 rs r c])
    ⟨rfl,_,_,rfl,.start ⟨rfl,rfl⟩ (.inl rfl)⟩ sch
  generalize (Sys.start [getter0 p,setter0 rs r c]).run sch = s at hs ⊢
  obtain ⟨hf,g,t,ht,h⟩ := hs
  refine ⟨hf,fun q hq => ?_⟩
  rw [ht] at hq
  obtain ⟨rfl,rfl⟩ : g = getter2 q ∧ t = setter1 := by simpa using hq
  generalize s.future = fut at h ⊢
  obtain ⟨st,out⟩ := q
  cases h with
  | leaked _ _ ht => rcases ht with h | h <;> cases h
  | @leakedSet _ _ e => exact .inr ⟨e,rfl⟩
  | @freed _ hg => exact hg.imp (fun h => ⟨h,rfl⟩) id

def Op.work : Op → Nat
  | .free => 4
  | .getAndFree _ => 6
  | .setJob _ => 1
  | _ => 2

def Thread.work (t : Thread) : Nat := (t.prog.map Op.work).foldr (· + ·) 0 - t.pc

def Sys.work (s : Sys) : Nat := (s.threads.map Thread.work).foldr (· + ·) 0

@[simp] theorem getter0_work (p : Bool) : (getter0 p).work = 6 := rfl
@[simp] theorem getterWaits_work (p : Bool) : (getterWaits p).work = 5 := rfl
@[simp] theorem getter1_work (k : Nat) (q : Status × Option Nat) : (getter1 k q).work = 4 - k := rfl
@[simp] theorem getter2_work (q : Status × Option Nat) : (getter2 q).work = 0 := rfl
@[simp] theorem setter0_work (rs : Int) (r : Nat) (c : Bool) : (setter0 rs r c).work = 2 := rfl
@[simp] theorem setterLocks_work (rs : Int) (r : Nat) (c : Bool) :
    (setterLocks rs r c).work = 1 := rfl
@[simp] theorem setter1_work : setter1.work = 0 := rfl

/-- Until both calls returned, one of the two threads can take a step that does not wait. -/
theorem Handoff.progress {rs : Int} {r : Nat} {c p : Bool} {fut : Option Future} {g t : Thread}
    (h : Handoff rs r c p fut g t) (hfin : ∀ q, ¬(g = getter2 q ∧ t = setter1)) :
    (∃ fut' g', g.act fut none = .ok (fut',g') ∧ g'.work < g.work) ∨
      ∃ fut' t', t.act fut none = .ok (fut',t') ∧ t'.work < t.work := by
  cases h with
  | start hf ht | waits hf ht | waitFailed hf _ _ ht | leaked hf _ ht =>
    rcases ht with rfl | rfl
    · exact .inr ⟨_,_,setter0_act hf.1 rs r c none,by simp⟩
    · exact .inr ⟨_,_,setterLocks_act hf.1 rs r c none,by simp⟩
  | set hf => exact .inl ⟨_,_,getter0_act hf.1 p none,by simp⟩
  | setWaits hf => exact .inl ⟨_,_,getterWaits_act_set hf.1 hf.2.1 p none,by simp⟩
  | @got f hf q hq k hk =>
    obtain rfl | rfl | rfl : k = 0 ∨ k = 1 ∨ k = 2 := by omega
    · exact .inl ⟨_,_,getter1_act0 hf.1 _ none,by simp⟩
    · exact .inl ⟨_,_,getter1_act1 hf.1 _ none,by rw [if_pos hf.2.1]; simp⟩
    · exact .inl ⟨_,_,getter1_act2 _ _ none,by simp⟩
  | destroyed hf hq => exact .inl ⟨_,_,getter1_act3 _ _ none,by simp⟩
  | leakedSet _ e => exact absurd ⟨rfl,rfl⟩ (hfin _)
  | freed _ => exact absurd ⟨rfl,rfl⟩ (hfin _)

/-- Under every schedule, until both calls returned, one of the two threads can take a
step that does not wait: the handoff cannot deadlock. -/
theorem getAndFree_progress (rs : Int) (r : Nat) (c p : Bool) (sch : List (Nat × Option Nat))
    (hfin : ∀ q, ((Sys.start [getter0 p,setter0 rs r c]).run sch).threads ≠ [getter2 q,setter1]) :
    ∃ i < 2, (((Sys.start [getter0 p,setter0 rs r c]).run sch).step i none).work <
      ((Sys.start [getter0 p,setter0 rs r c]).run sch).work := by
  have hs := Sys.run_handoff (s := Sys.start [getter0 p,setter0 rs r c])
    ⟨rfl,_,_,rfl,.start ⟨rfl,rfl⟩ (.inl rfl)⟩ sch
  generalize (Sys.start [getter0 p,setter0 rs r c]).run sch = s at hs hfin ⊢
  obtain ⟨hf,g,t,ht,h⟩ := hs
  rcases h.progress (fun q ⟨hg,htq⟩ => hfin q (by rw [ht,hg,htq])) with
    ⟨fut',g',ha,hw⟩ | ⟨fut',t',ha,hw⟩
  · refine ⟨0,by omega,?_⟩
    simp only [Sys.step,Sys.work,hf,ht,List.getElem?_cons_zero,ha,List.set_cons_zero,
      List.map_cons,List.foldr_cons]
    omega
  · refine ⟨1,by omega,?_⟩
    simp only [Sys.step,Sys.work,hf,ht,List.getElem?_cons_succ,List.getElem?_cons_zero,ha,
      List.set_cons_succ,List.set_cons_zero,List.map_cons,List.foldr_cons]
    omega

/-- Before either thread ran, one of them can go on. -/
theorem getAndFree_progress_start :
    (∀ q, ((Sys.start [getter0 true,setter0 0 5 false]).run []).threads ≠ [getter2 q,setter1]) ∧
      ∃ i < 2, (((Sys.start [getter0 true,setter0 0 5 false]).run []).step i none).work <
        ((Sys.start [getter0 true,setter0 0 5 false]).run []).work :=
  have hfin : ∀ q, ((Sys.start [getter0 true,setter0 0 5 false]).run []).threads ≠
      [getter2 q,setter1] :=
    fun _ h => List.cons_ne_nil _ _ (congrArg Thread.prog (List.cons.inj h).1)
  ⟨hfin,getAndFree_progress 0 5 false true [] hfin⟩

end Async
end Ldm7
