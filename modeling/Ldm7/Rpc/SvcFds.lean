import Ldm7.Basic
import Ldm7.Rpc.Xprt

/-! The table of active transports of the RPC server built without `FD_SETSIZE` (`svc.c`):
`xports` of `NOFILE` entries and `svc_fds`, an `int` with a bit for each socket. Shifts act
on the 32-bit two's-complement word as the compilers do, so bit 31 is the sign bit and a
scan that may not end runs for a number of iterations. -/
namespace Ldm7
namespace SvcFds

open Xprt (SvcXprt)

def noFile : Nat := 32

/-- `xports` (static, so every entry starts `NULL`) and `svc_fds`. -/
structure Table where
  xports : Nat → Option SvcXprt
  svcFds : CInt

def Table.init : Table := ⟨fun _ => none,0⟩

def xprtRegister (t : Table) (xprt : SvcXprt) : Table :=
  if xprt.xpSock < noFile then
    ⟨Function.update t.xports xprt.xpSock (some xprt),t.svcFds ||| (1 : CInt) <<< xprt.xpSock⟩
  else t

def xprtUnregister (t : Table) (xprt : SvcXprt) : Table :=
  if xprt.xpSock < noFile ∧ t.xports xprt.xpSock = some xprt then
    ⟨Function.update t.xports xprt.xpSock none,t.svcFds &&& ~~~((1 : CInt) <<< xprt.xpSock)⟩
  else t

/-- The scan loop of `svc_getreqset`,
`for (sock = 0; readfds_local != 0; sock++, readfds_local >>= 1)`, for at most `fuel`
iterations from `sock`: the sockets whose `xports` entry it reads, and whether the loop
has ended. -/
def scan : Nat → Nat → CInt → List Nat × Bool
  | 0,_,readfdsLocal => ([],readfdsLocal = 0)
  | fuel + 1,sock,readfdsLocal =>
    if readfdsLocal = 0 then ([],true)
    else
      let rest := scan fuel (sock + 1) (readfdsLocal.sshiftRight 1)
      ((if readfdsLocal &&& 1 ≠ 0 then [sock] else []) ++ rest.1,rest.2)

/-- `svc_getreq`: `svc_getreqset` on `rdfds & svc_fds`, for at most `fuel` iterations. -/
def svcGetreq (t : Table) (rdfds : CInt) (fuel : Nat) : List Nat × Bool :=
  scan fuel 0 (rdfds &&& t.svcFds)

inductive Op
  | register (xprt : SvcXprt)
  | unregister (xprt : SvcXprt)

def Op.apply (t : Table) : Op → Table
  | .register x => xprtRegister t x
  | .unregister x => xprtUnregister t x

def run (ops : List Op) : Table := ops.foldl Op.apply Table.init

/-- Bit `i` of `svc_fds`, for `i < NOFILE`, says whether `xports[i]` holds a transport. -/
def Inv (t : Table) : Prop := ∀ i < noFile, t.svcFds.getLsbD i = (t.xports i).isSome

theorem inv_init : Inv Table.init := fun _ _ => by simp [Table.init]

theorem getLsbD_one_shiftLeft {s i : Nat} (hs : s < noFile) (hi : i < noFile) :
    ((1 : CInt) <<< s).getLsbD i = decide (i = s) := by
  simp only [noFile] at hs hi
  simp only [BitVec.getLsbD_shiftLeft,BitVec.ofNat_eq_ofNat,BitVec.getLsbD_one]
  by_cases h : i = s <;> simp [h,hi] <;> omega

theorem inv_xprtRegister {t : Table} (h : Inv t) (x : SvcXprt) : Inv (xprtRegister t x) := by
  unfold xprtRegister
  split_ifs with hs
  · intro i hi
    simp only [BitVec.getLsbD_or,getLsbD_one_shiftLeft hs hi,h i hi,Function.update_apply]
    by_cases e : i = x.xpSock <;> simp [e]
  · exact h

theorem inv_xprtUnregister {t : Table} (h : Inv t) (x : SvcXprt) : Inv (xprtUnregister t x) := by
  unfold xprtUnregister
  split_ifs with hs
  · intro i hi
    simp only [BitVec.getLsbD_and,BitVec.getLsbD_not,getLsbD_one_shiftLeft hs.1 hi,h i hi,
      Function.update_apply]
    have : i < 32 := hi
    by_cases e : i = x.xpSock <;> simp [e,this]
  · exact h

/-- Every sequence of `xprt_register` and `xprt_unregister` calls keeps `svc_fds` in step
with `xports`. -/
theorem inv_run (ops : List Op) : Inv (run ops) := by
  suffices ∀ t, Inv t → Inv (ops.foldl Op.apply t) from this _ inv_init
  induction ops with
  | nil => exact fun _ h => h
  | cons op ops ih =>
    intro t h
    cases op with
    | register x => exact ih _ (inv_xprtRegister h x)
    | unregister x => exact ih _ (inv_xprtUnregister h x)

/-- Without the sign bit the scan ends within `fuel + 1` iterations when the word is below
`2 ^ fuel`, and reads only sockets from `sock` to `sock + fuel`. -/
theorem scan_ends (fuel sock : Nat) (r : CInt) (hm : r.msb = false) (hr : r.toNat < 2 ^ fuel) :
    (scan (fuel + 1) sock r).2 = true ∧ ∀ s ∈ (scan (fuel + 1) sock r).1, sock ≤ s ∧ s < sock + fuel + 1 := by
  induction fuel generalizing sock r with
  | zero =>
    rw [BitVec.eq_of_toNat_eq (show r.toNat = (0 : CInt).toNat by simp at hr ⊢; omega)]
    simp [scan]
  | succ fuel ih =>
    by_cases h0 : r = 0
    · simp [h0,scan]
    · have hm' : (r.sshiftRight 1).msb = false := by rw [BitVec.msb_sshiftRight,hm]
      have hr' : (r.sshiftRight 1).toNat < 2 ^ fuel := by
        rw [BitVec.sshiftRight_eq_of_msb_false hm,BitVec.toNat_ushiftRight,Nat.shiftRight_eq_div_pow]
        rw [Nat.pow_succ] at hr
        omega
      obtain ⟨h1,h2⟩ := ih (sock + 1) _ hm' hr'
      rw [scan,if_neg h0]
      refine ⟨h1,fun s hs => ?_⟩
      rcases List.mem_append.mp hs with hs | hs
      · split_ifs at hs <;> simp at hs; omega
      · have := h2 s hs; omega

/-- With the sign bit the word never becomes 0: the scan does not end, whatever the
number of iterations. -/
theorem scan_never_ends (fuel sock : Nat) (r : CInt) (hm : r.msb = true) :
    (scan fuel sock r).2 = false := by
  have h0 : ∀ r : CInt, r.msb = true → r ≠ 0 := fun r hm h => by simp [h] at hm
  induction fuel generalizing sock r with
  | zero => simpa [scan] using h0 r hm
  | succ fuel ih =>
    rw [scan,if_neg (h0 r hm)]
    exact ih (sock + 1) _ (by rw [BitVec.msb_sshiftRight,hm])

/-- Every sequence of `xprt_register` and `xprt_unregister` calls keeps `svc_fds` in step
with `xports`; when it leaves no transport on socket 31, `svc_getreq` ends for every
`rdfds` within `NOFILE` iterations and reads `xports[sock]` only for `sock < NOFILE`. -/
theorem svcGetreq_ends_of_no_socket31 (ops : List Op) (h31 : (run ops).xports 31 = none)
    (rdfds : CInt) :
    Inv (run ops) ∧ (svcGetreq (run ops) rdfds noFile).2 = true ∧
      ∀ s ∈ (svcGetreq (run ops) rdfds noFile).1, s < noFile := by
  have hm : (run ops).svcFds.msb = false := by
    rw [BitVec.msb_eq_getLsbD_last,inv_run ops 31 (by decide),h31]; rfl
  have hm' : (rdfds &&& (run ops).svcFds).msb = false := by simp [hm]
  have hr : (rdfds &&& (run ops).svcFds).toNat < 2 ^ 31 := by
    have := BitVec.msb_eq_false_iff_two_mul_lt.mp hm'; omega
  obtain ⟨h1,h2⟩ := scan_ends 31 0 _ hm' hr
  exact ⟨inv_run ops,h1,fun s hs => by have := h2 s hs; simp only [noFile]; omega⟩

theorem svcGetreq_ends_of_no_socket31_init :
    let ops : List Op := [.register ⟨1,3⟩]
    (run ops).xports 31 = none ∧ Inv (run ops) ∧ (svcGetreq (run ops) 8 noFile).2 = true ∧
      ∀ s ∈ (svcGetreq (run ops) 8 noFile).1, s < noFile :=
  ⟨rfl,svcGetreq_ends_of_no_socket31 [.register ⟨1,3⟩] rfl 8⟩

/-- A transport registered on socket 31 sets the sign bit of `svc_fds`. `svc_getreq` for
that socket then never leaves its scan: after any number of iterations the loop has not
ended, and its 33rd iteration reads `xports[32]`, past the end of the array. -/
theorem svcGetreq_socket31_never_ends (id : Nat) :
    (∀ fuel, (svcGetreq (xprtRegister Table.init ⟨id,31⟩) ((1 : CInt) <<< 31) fuel).2 = false) ∧
      32 ∈ (svcGetreq (xprtRegister Table.init ⟨id,31⟩) ((1 : CInt) <<< 31) 33).1 := by
  have hw : (1 : CInt) <<< 31 &&& (xprtRegister Table.init ⟨id,31⟩).svcFds = (1 : CInt) <<< 31 := by
    rw [xprtRegister,if_pos (show 31 < noFile by decide)]; dsimp only [Table.init]; decide
  refine ⟨fun fuel => ?_,?_⟩
  · rw [svcGetreq,hw]; exact scan_never_ends fuel 0 _ (by decide)
  · rw [svcGetreq,hw]; decide

end SvcFds
end Ldm7
