import Mathlib.Data.Finset.Basic

/-! The table of active transports of the RPC server (`svc.c`, `FD_SETSIZE` build):
`xports`, allocated by the first `xprt_register` with `mem_alloc` and never zeroed, and
`svc_fdset`. A slot remembers whether it was written since the allocation. -/
namespace Ldm7
namespace Xprt

structure SvcXprt where
  id : Nat
  xpSock : Nat
  deriving DecidableEq

/-- A slot of `xports`: what `mem_alloc` left there, or what was written since. -/
inductive Slot
  | garbage (w : Option SvcXprt)
  | set (x : Option SvcXprt)
  deriving DecidableEq

def Slot.read : Slot → Option SvcXprt
  | .garbage w => w
  | .set x => x

/-- `xports` (`none` while it is `NULL`) and `svc_fdset`. -/
structure Table where
  xports : Option (Nat → Slot)
  svcFdset : Finset Nat

def Table.empty : Table := ⟨none,∅⟩

/-- `xprt_register`; `dtablesize` is `_rpc_dtablesize()`, `alloc` what `mem_alloc`
returns if `xports` is still `NULL` (`none` is a null pointer). `none` is a write
through a null pointer. -/
def xprtRegister (dtablesize : Nat) (t : Table) (xprt : SvcXprt) (alloc : Option (Nat → Option SvcXprt)) :
    Option Table :=
  let xports := t.xports.orElse fun _ => alloc.map fun g i => .garbage (g i)
  if xprt.xpSock < dtablesize then
    xports.map fun a =>
      ⟨some (Function.update a xprt.xpSock (.set (some xprt))),insert xprt.xpSock t.svcFdset⟩
  else some { t with xports := xports }

/-- `xprt_unregister`; `none` is a read through a null `xports`. -/
def xprtUnregister (dtablesize : Nat) (t : Table) (xprt : SvcXprt) : Option Table :=
  if xprt.xpSock < dtablesize then
    t.xports.map fun a =>
      if (a xprt.xpSock).read = some xprt then
        ⟨some (Function.update a xprt.xpSock (.set none)),t.svcFdset.erase xprt.xpSock⟩
      else t
  else some t

inductive Op
  | register (xprt : SvcXprt) (alloc : Option (Nat → Option SvcXprt))
  | unregister (xprt : SvcXprt)

def Op.apply (dtablesize : Nat) (t : Table) : Op → Option Table
  | .register x a => xprtRegister dtablesize t x a
  | .unregister x => xprtUnregister dtablesize t x

def run (dtablesize : Nat) (t : Table) : List Op → Option Table
  | [] => some t
  | op :: ops => (op.apply dtablesize t).bind fun t => run dtablesize t ops

/-- The transport most recently registered on socket `s` by a sequence of calls. -/
def lastRegistered (ops : List Op) (s : Nat) : Option SvcXprt :=
  (ops.filterMap fun | .register x _ => if x.xpSock = s then some x else none
                     | .unregister _ => none).getLast?

theorem run_append (d : Nat) (t : Table) (ops : List Op) (op : Op) :
    run d t (ops ++ [op]) = (run d t ops).bind fun t => op.apply d t := by
  induction ops generalizing t with
  | nil => simp [run]
  | cons o ops ih => simp only [List.cons_append,run]; cases o.apply d t <;> simp [ih]

theorem lastRegistered_register (ops : List Op) (x : SvcXprt) (a : Option (Nat → Option SvcXprt))
    (s : Nat) : lastRegistered (ops ++ [.register x a]) s =
      if x.xpSock = s then some x else lastRegistered ops s := by
  unfold lastRegistered; split_ifs with h <;> simp [h]

theorem lastRegistered_unregister (ops : List Op) (x : SvcXprt) (s : Nat) :
    lastRegistered (ops ++ [.unregister x]) s = lastRegistered ops s := by
  simp [lastRegistered]

/-- Every socket of `svc_fdset` is inside `xports`, and its slot was written with the
transport most recently registered on it, whose socket it is. -/
def Inv (d : Nat) (ops : List Op) (t : Table) : Prop :=
  ∀ s ∈ t.svcFdset, s < d ∧ ∃ a x, t.xports = some a ∧ a s = .set (some x) ∧
    lastRegistered ops s = some x ∧ x.xpSock = s

theorem inv_register {d : Nat} {ops : List Op} {t t' : Table} {x : SvcXprt}
    {al : Option (Nat → Option SvcXprt)} (hi : Inv d ops t) (h : xprtRegister d t x al = some t') :
    Inv d (ops ++ [.register x al]) t' := by
  unfold xprtRegister at h
  intro s hs
  simp only [lastRegistered_register]
  split_ifs at h with hd
  · obtain ⟨a,ha,rfl⟩ := Option.map_eq_some'.mp h
    by_cases hne : s = x.xpSock
    · subst hne; exact ⟨hd,_,x,rfl,by simp,by simp,rfl⟩
    · obtain ⟨hsd,a0,y,h0,hy,hl,hys⟩ := hi s ((Finset.mem_insert.mp hs).resolve_left hne)
      rw [h0] at ha; obtain rfl := Option.some.inj ha
      exact ⟨hsd,_,y,rfl,by simp [Function.update_noteq hne,hy],by simp [Ne.symm hne,hl],hys⟩
  · cases h
    obtain ⟨hsd,a0,y,h0,hy,hl,hys⟩ := hi s hs
    have hne : x.xpSock ≠ s := by omega
    exact ⟨hsd,a0,y,by simp [h0],hy,by simp [hne,hl],hys⟩

theorem inv_unregister {d : Nat} {ops : List Op} {t t' : Table} {x : SvcXprt}
    (hi : Inv d ops t) (h : xprtUnregister d t x = some t') : Inv d (ops ++ [.unregister x]) t' := by
  unfold xprtUnregister at h
  intro s hs
  rw [lastRegistered_unregister]
  split_ifs at h with hd
  · obtain ⟨a,ha,he⟩ := Option.map_eq_some'.mp h
    split_ifs at he
    · subst he
      obtain ⟨hne,hs⟩ := Finset.mem_erase.mp hs
      obtain ⟨hsd,a0,y,h0,hy,hl,hys⟩ := hi s hs
      rw [h0] at ha; cases ha
      exact ⟨hsd,_,y,rfl,by simp [Function.update_noteq hne,hy],hl,hys⟩
    · subst he; exact hi s hs
  · cases h; exact hi s hs

/-- `xprt_unregister(x)` changes nothing unless `xports[x->xp_sock] == x`. -/
theorem xprtUnregister_frame {d : Nat} {t t' : Table} {x : SvcXprt}
    (h : xprtUnregister d t x = some t') :
    t' = t ∨ x.xpSock < d ∧ ∃ a, t.xports = some a ∧ (a x.xpSock).read = some x := by
  unfold xprtUnregister at h
  split_ifs at h with hd
  · obtain ⟨a,ha,he⟩ := Option.map_eq_some'.mp h
    split_ifs at he with hx
    exacts [.inr ⟨hd,a,ha,hx⟩,.inl he.symm]
  · exact .inl (Option.some.inj h).symm

theorem inv_run (d : Nat) (ops : List Op) {t : Table} (h : run d Table.empty ops = some t) :
    Inv d ops t := by
  induction ops using List.reverseRecOn generalizing t with
  | nil => cases h; simp [Inv,Table.empty]
  | append_singleton ops op ih =>
    rw [run_append] at h
    obtain ⟨t0,h0,h⟩ := Option.bind_eq_some.mp h
    cases op with
    | register x al => exact inv_register (ih h0) h
    | unregister x => exact inv_unregister (ih h0) h

/-- In every table reachable from the empty one, each socket of `svc_fdset` is below
`_rpc_dtablesize()` and indexes a slot of `xports` written with the transport most
recently registered on it, whose `xp_sock` it is; and `xprt_unregister(x)` changes
nothing unless `xports[x->xp_sock] == x`. So the dispatch loops, reading `xports[s]`
for `s` in `svc_fdset`, read initialised slots inside the array. -/
theorem xports_invariant (d : Nat) (ops : List Op) (t : Table)
    (h : run d Table.empty ops = some t) :
    (∀ s ∈ t.svcFdset, s < d ∧ ∃ a x, t.xports = some a ∧ a s = .set (some x) ∧
      lastRegistered ops s = some x ∧ x.xpSock = s) ∧
    (∀ x t', xprtUnregister d t x = some t' →
      t' = t ∨ x.xpSock < d ∧ ∃ a, t.xports = some a ∧ (a x.xpSock).read = some x) :=
  ⟨inv_run d ops h,fun _ _ => xprtUnregister_frame⟩

/-- After one registration on socket 3, that socket is in bounds and its slot holds
the transport. -/
theorem xports_invariant_example :
    ∃ t, run 8 Table.empty [.register ⟨1,3⟩ (some fun _ => none)] = some t ∧ 3 < 8 ∧
      ∃ a x, t.xports = some a ∧ a 3 = .set (some x) ∧ x.xpSock = 3 :=
  let h := (xports_invariant 8 [.register ⟨1,3⟩ (some fun _ => none)] _ rfl).1 3
    (Finset.mem_insert_self _ _)
  ⟨_,rfl,h.1,h.2.imp fun _ ⟨x,h1,h2,_,h4⟩ => ⟨x,h1,h2,h4⟩⟩

end Xprt
end Ldm7
