import Mathlib.Data.List.Basic

/-! Sending a data-product to an LDM-5 (`LdmProxy.c`): `my_send_5` uses HEREIS for a
product of at most `DBUFMAX` bytes and otherwise `my_csbd_5`, a COMINGSOON followed by
BLKDATA packets of at most `DBUFMAX` bytes each. `DBUFMAX` comes from `ldm.h`, which is
not among the sources, so it is a parameter. What each RPC returns is the environment:
`blkdata k` is the outcome of the `k`-th BLKDATA. -/
namespace Ldm7
namespace LdmProxy

inductive LdmProxyStatus
  | ok | timedout | rpcError | ldmError | unwanted
  deriving DecidableEq

inductive LdmErrt
  | ok | shuttingDown | dontSend | restart | redirect | reclass
  deriving DecidableEq

/-- The `re_status` of the client after a call. -/
inductive ClntStat
  | success | timedout | other
  deriving DecidableEq

def getStatus : ClntStat → LdmProxyStatus
  | .success => .ok
  | .timedout => .timedout
  | .other => .rpcError

@[simp] theorem getStatus_eq_ok {s : ClntStat} : getStatus s = .ok ↔ s = .success := by
  cases s <;> simp [getStatus]

@[ext] structure RpcOutcome where
  stat : ClntStat
  code : LdmErrt
  deriving DecidableEq

def RpcOutcome.okay : RpcOutcome := ⟨.success,.ok⟩

structure Product where
  sz : UInt32
  data : List UInt8
  length_data : data.length = sz.toNat

structure DataPkt where
  pktnum : UInt32
  dbufLen : UInt32
  dbufVal : List UInt8
  deriving DecidableEq

section

variable (DBUFMAX : Nat) (hD : 0 < DBUFMAX)

/-- The `while (unsent > 0)` loop of `my_csbd_5`, from the packet `pktnum` with `data`
pointing at the unsent bytes: its status and the packets it sent. -/
def blkdataLoop (DBUFMAX : Nat) (hD : 0 < DBUFMAX) (blkdata : Nat → RpcOutcome)
    (data : List UInt8) (pktnum : UInt32) (unsent : Nat) : LdmProxyStatus × List DataPkt :=
  if unsent > 0 then
    let nsend := if DBUFMAX < unsent then DBUFMAX else unsent
    let pkt : DataPkt := ⟨pktnum,UInt32.ofNat nsend,data.take nsend⟩
    if getStatus (blkdata 0).stat ≠ .ok then (getStatus (blkdata 0).stat,[pkt])
    else if (blkdata 0).code ≠ .ok then (.ldmError,[pkt])
    else
      let rest := blkdataLoop DBUFMAX hD (fun k => blkdata (k + 1)) (data.drop nsend) (pktnum + 1)
        (unsent - nsend)
      (rest.1,pkt :: rest.2)
  else (.ok,[])
termination_by unsent
decreasing_by simp_wf; split <;> omega

def myCsbd5 (comingsoon : RpcOutcome) (blkdata : Nat → RpcOutcome) (p : Product) :
    LdmProxyStatus × List DataPkt :=
  if getStatus comingsoon.stat ≠ .ok then (getStatus comingsoon.stat,[])
  else if comingsoon.code ≠ .ok then
    (if comingsoon.code = .dontSend then .unwanted else .ldmError,[])
  else blkdataLoop DBUFMAX hD blkdata p.data 0 p.sz.toNat

/-- `my_hereis_5`: the whole product in one HEREIS; no data packet. -/
def myHereis5 (hereis : RpcOutcome) : LdmProxyStatus × List DataPkt :=
  if hereis.stat ≠ .success then (getStatus hereis.stat,[])
  else if hereis.code ≠ .ok then (if hereis.code = .dontSend then .unwanted else .ldmError,[])
  else (.ok,[])

def mySend5 (comingsoon : RpcOutcome) (blkdata : Nat → RpcOutcome) (hereis : RpcOutcome)
    (p : Product) : LdmProxyStatus × List DataPkt :=
  if DBUFMAX < p.sz.toNat then myCsbd5 DBUFMAX hD comingsoon blkdata p else myHereis5 hereis

/-- Bytes `[j*DBUFMAX, (j+1)*DBUFMAX)` of `data`, as far as they go. -/
def chunk (data : List UInt8) (j : Nat) : List UInt8 := (data.drop (j * DBUFMAX)).take DBUFMAX

/-- Packet `j` of a loop that starts at packet number `k0` on `data`. -/
def loopPkt (k0 : Nat) (data : List UInt8) (j : Nat) : DataPkt :=
  ⟨UInt32.ofNat (k0 + j),UInt32.ofNat (chunk DBUFMAX data j).length,chunk DBUFMAX data j⟩

theorem chunk_drop (data : List UInt8) (j : Nat) :
    chunk DBUFMAX (data.drop DBUFMAX) j = chunk DBUFMAX data (j + 1) := by
  simp [chunk,List.drop_drop,Nat.succ_mul,Nat.add_comm]

theorem loopPkt_drop (k0 : Nat) (data : List UInt8) (j : Nat) :
    loopPkt DBUFMAX (k0 + 1) (data.drop DBUFMAX) j = loopPkt DBUFMAX k0 data (j + 1) := by
  simp only [loopPkt,chunk_drop,Nat.add_right_comm,Nat.add_assoc]

theorem ofNat_add_one (k : Nat) : UInt32.ofNat k + 1 = UInt32.ofNat (k + 1) := by
  show UInt32.mk _ = UInt32.mk _; congr 1; exact BitVec.ofNat_add_ofNat ..

theorem firstPkt_eq (k0 : Nat) (data : List UInt8) :
    (⟨UInt32.ofNat k0,UInt32.ofNat (if DBUFMAX < data.length then DBUFMAX else data.length),
      data.take (if DBUFMAX < data.length then DBUFMAX else data.length)⟩ : DataPkt) =
      loopPkt DBUFMAX k0 data 0 := by
  split_ifs with h
  · simp [loopPkt,chunk,Nat.min_eq_left h.le]
  · have hl := Nat.le_of_not_lt h
    simp [loopPkt,chunk,hl,List.take_of_length_le hl]

theorem blkdataLoop_nil (b : Nat → RpcOutcome) (pktnum : UInt32) :
    blkdataLoop DBUFMAX hD b [] pktnum 0 = (.ok,[]) := by
  rw [blkdataLoop]; simp

theorem blkdataLoop_okay (b : Nat → RpcOutcome) (data : List UInt8) (k0 : Nat) (h : data ≠ [])
    (hb : b 0 = .okay) :
    blkdataLoop DBUFMAX hD b data (UInt32.ofNat k0) data.length =
      ((blkdataLoop DBUFMAX hD (fun j => b (j + 1)) (data.drop DBUFMAX) (UInt32.ofNat (k0 + 1))
        (data.drop DBUFMAX).length).1,
       loopPkt DBUFMAX k0 data 0 :: (blkdataLoop DBUFMAX hD (fun j => b (j + 1))
        (data.drop DBUFMAX) (UInt32.ofNat (k0 + 1)) (data.drop DBUFMAX).length).2) := by
  have hpos := List.length_pos.mpr h
  have hdrop : data.drop (if DBUFMAX < data.length then DBUFMAX else data.length) =
      data.drop DBUFMAX := by
    split_ifs with hl
    · rfl
    · simp [List.drop_eq_nil_of_le (Nat.le_of_not_lt hl)]
  have hunsent : data.length - (if DBUFMAX < data.length then DBUFMAX else data.length) =
      data.length - DBUFMAX := by split_ifs <;> omega
  rw [blkdataLoop,if_pos hpos]
  simp only [hb,RpcOutcome.okay,getStatus,ne_eq,not_true_eq_false,if_false,hdrop,hunsent,
    firstPkt_eq,ofNat_add_one,List.length_drop]

theorem blkdataLoop_fail (b : Nat → RpcOutcome) (data : List UInt8) (k0 : Nat) (h : data ≠ [])
    (hb : b 0 ≠ .okay) :
    (blkdataLoop DBUFMAX hD b data (UInt32.ofNat k0) data.length).1 ≠ .ok ∧
    (blkdataLoop DBUFMAX hD b data (UInt32.ofNat k0) data.length).2 = [loopPkt DBUFMAX k0 data 0] := by
  have hcode : getStatus (b 0).stat = .ok → (b 0).code ≠ .ok := fun hs hc =>
    hb (RpcOutcome.ext (getStatus_eq_ok.mp hs) hc)
  rw [blkdataLoop,if_pos (List.length_pos.mpr h)]
  simp only [firstPkt_eq]
  by_cases hs : getStatus (b 0).stat = .ok
  · rw [if_neg (not_not.mpr hs),if_pos (hcode hs)]; exact ⟨nofun,rfl⟩
  · rw [if_pos hs]; exact ⟨hs,rfl⟩

/-- `⌈sz/DBUFMAX⌉`, the number of BLKDATA packets for `sz` bytes. -/
def npkts (sz : Nat) : Nat := (sz + DBUFMAX - 1) / DBUFMAX

theorem npkts_zero (hD : 0 < DBUFMAX) : npkts DBUFMAX 0 = 0 := Nat.div_eq_of_lt (by omega)

theorem npkts_sub (hD : 0 < DBUFMAX) {u : Nat} (hu : 0 < u) :
    npkts DBUFMAX u = npkts DBUFMAX (u - DBUFMAX) + 1 := by
  unfold npkts
  rcases Nat.lt_or_ge DBUFMAX u with h | h
  · rw [show u + DBUFMAX - 1 = u - DBUFMAX + DBUFMAX - 1 + DBUFMAX by omega,
      Nat.add_div_right _ hD]
  · rw [Nat.sub_eq_zero_of_le h,Nat.div_eq_of_lt (by omega : 0 + DBUFMAX - 1 < DBUFMAX)]
    exact Nat.div_eq_of_lt_le (by omega) (by omega)

theorem npkts_le (hD : 0 < DBUFMAX) (u : Nat) : npkts DBUFMAX u ≤ u := by
  rcases u with _ | u
  · rw [npkts_zero DBUFMAX hD]
  · exact Nat.div_le_of_le_mul (by
      rw [Nat.mul_add_one]; have := Nat.le_mul_of_pos_left u hD; omega)

theorem npkts_drop (hD : 0 < DBUFMAX) {data : List UInt8} (h : data ≠ []) :
    npkts DBUFMAX data.length = npkts DBUFMAX (data.drop DBUFMAX).length + 1 := by
  rw [List.length_drop]; exact npkts_sub DBUFMAX hD (List.length_pos.mpr h)

theorem ne_nil_of_lt_npkts (hD : 0 < DBUFMAX) {data : List UInt8} {k : Nat}
    (h : k < npkts DBUFMAX data.length) : data ≠ [] := by
  rintro rfl; simp [npkts_zero DBUFMAX hD] at h

theorem eq_nil_of_npkts_eq_zero (hD : 0 < DBUFMAX) {data : List UInt8}
    (h : npkts DBUFMAX data.length = 0) : data = [] :=
  by_contra fun hne => by rw [npkts_drop DBUFMAX hD hne] at h; omega

/-- The loop sends a prefix of the chunks of its data, numbered from `k0`. -/
theorem blkdataLoop_prefix (b : Nat → RpcOutcome) (data : List UInt8) (k0 : Nat) :
    ∃ m ≤ npkts DBUFMAX data.length,
      (blkdataLoop DBUFMAX hD b data (UInt32.ofNat k0) data.length).2 =
        (List.range m).map (loopPkt DBUFMAX k0 data) := by
  obtain ⟨N,hN⟩ : ∃ N, npkts DBUFMAX data.length = N := ⟨_,rfl⟩
  induction N generalizing b data k0 with
  | zero =>
    obtain rfl := eq_nil_of_npkts_eq_zero DBUFMAX hD hN
    exact ⟨0,by omega,by simp [blkdataLoop_nil]⟩
  | succ N ih =>
    have h := ne_nil_of_lt_npkts DBUFMAX hD (show 0 < npkts DBUFMAX data.length by omega)
    have hdrop := npkts_drop DBUFMAX hD h
    by_cases hb : b 0 = .okay
    · obtain ⟨m,hm,he⟩ := ih (fun j => b (j + 1)) (data.drop DBUFMAX) (k0 + 1) (by omega)
      refine ⟨m + 1,by omega,?_⟩
      rw [blkdataLoop_okay DBUFMAX hD b data k0 h hb,he,List.range_succ_eq_map]
      simp [loopPkt_drop]
    · exact ⟨1,by omega,by rw [(blkdataLoop_fail DBUFMAX hD b data k0 h hb).2]; rfl⟩

theorem blkdataLoop_all_okay (b : Nat → RpcOutcome) (data : List UInt8) (k0 : Nat)
    (hb : ∀ j < npkts DBUFMAX data.length, b j = .okay) :
    (blkdataLoop DBUFMAX hD b data (UInt32.ofNat k0) data.length).1 = .ok ∧
    (blkdataLoop DBUFMAX hD b data (UInt32.ofNat k0) data.length).2.length =
      npkts DBUFMAX data.length ∧
    ((blkdataLoop DBUFMAX hD b data (UInt32.ofNat k0) data.length).2.map
      DataPkt.dbufVal).flatten = data := by
  obtain ⟨N,hN⟩ : ∃ N, npkts DBUFMAX data.length = N := ⟨_,rfl⟩
  induction N generalizing b data k0 with
  | zero =>
    obtain rfl := eq_nil_of_npkts_eq_zero DBUFMAX hD hN
    simp [blkdataLoop_nil,npkts_zero DBUFMAX hD]
  | succ N ih =>
    have h := ne_nil_of_lt_npkts DBUFMAX hD (show 0 < npkts DBUFMAX data.length by omega)
    have hdrop := npkts_drop DBUFMAX hD h
    obtain ⟨h1,h2,h3⟩ := ih (fun j => b (j + 1)) (data.drop DBUFMAX) (k0 + 1)
      (fun j hj => hb (j + 1) (by omega)) (by omega)
    rw [blkdataLoop_okay DBUFMAX hD b data k0 h (hb 0 (by omega))]
    refine ⟨h1,by rw [List.length_cons,h2]; omega,?_⟩
    rw [List.map_cons,List.flatten_cons,h3]; simp [loopPkt,chunk]

theorem blkdataLoop_first_fail (k : Nat) (b : Nat → RpcOutcome) (data : List UInt8) (k0 : Nat)
    (hk : k < npkts DBUFMAX data.length) (hok : ∀ j < k, b j = .okay) (hb : b k ≠ .okay) :
    (blkdataLoop DBUFMAX hD b data (UInt32.ofNat k0) data.length).1 ≠ .ok ∧
    (blkdataLoop DBUFMAX hD b data (UInt32.ofNat k0) data.length).2.length = k + 1 := by
  have h := ne_nil_of_lt_npkts DBUFMAX hD hk
  induction k generalizing b data k0 with
  | zero =>
    obtain ⟨h1,h2⟩ := blkdataLoop_fail DBUFMAX hD b data k0 h hb
    exact ⟨h1,by simp [h2]⟩
  | succ k ih =>
    have hdrop := npkts_drop DBUFMAX hD h
    rw [blkdataLoop_okay DBUFMAX hD b data k0 h (hok 0 (by omega))]
    obtain ⟨h1,h2⟩ := ih (fun j => b (j + 1)) (data.drop DBUFMAX) (k0 + 1) (by omega)
      (fun j hj => hok (j + 1) (by omega)) hb (ne_nil_of_lt_npkts DBUFMAX hD (k := k) (by omega))
    exact ⟨h1,by rw [List.length_cons,h2]⟩

/-- Packet `k` of product `p` as the protocol lays it out: number `k`, and the bytes
`[k*DBUFMAX, min((k+1)*DBUFMAX, sz))` of its data. -/
def csbdPkt (p : Product) (k : Nat) : DataPkt :=
  let stop := min ((k + 1) * DBUFMAX) p.sz.toNat
  ⟨UInt32.ofNat k,UInt32.ofNat (stop - k * DBUFMAX),(p.data.take stop).drop (k * DBUFMAX)⟩

theorem loopPkt_eq_csbdPkt (p : Product) (k : Nat) :
    loopPkt DBUFMAX 0 p.data k = csbdPkt DBUFMAX p k := by
  have hlen := p.length_data
  have hmin : min ((k + 1) * DBUFMAX) p.sz.toNat - k * DBUFMAX =
      min DBUFMAX (p.data.length - k * DBUFMAX) := by rw [Nat.succ_mul]; omega
  simp only [loopPkt,csbdPkt,chunk,Nat.zero_add,List.drop_take,hmin,List.length_take,
    List.length_drop,DataPkt.mk.injEq,true_and]
  exact List.take_eq_take.mpr (by simp)

theorem csbdPkt_pktnum (p : Product) {k : Nat} (hk : k < UInt32.size) :
    (csbdPkt DBUFMAX p k).pktnum.toNat = k := UInt32.toNat_ofNat_of_lt hk

theorem csbdPkt_dbufLen (p : Product) (k : Nat) :
    (csbdPkt DBUFMAX p k).dbufLen.toNat = (csbdPkt DBUFMAX p k).dbufVal.length := by
  have hlen := p.length_data
  have hsz := UInt32.toNat_lt_size p.sz
  simp only [csbdPkt,List.length_drop,List.length_take]
  rw [UInt32.toNat_ofNat_of_lt (by omega)]; omega

theorem mySend5_eq_blkdataLoop (comingsoon hereis : RpcOutcome) (blkdata : Nat → RpcOutcome)
    (p : Product) (hcs : comingsoon = .okay) (hsz : DBUFMAX < p.sz.toNat) :
    mySend5 DBUFMAX hD comingsoon blkdata hereis p =
      blkdataLoop DBUFMAX hD blkdata p.data (UInt32.ofNat 0) p.data.length := by
  simp only [mySend5,myCsbd5,hsz,hcs,RpcOutcome.okay,getStatus,p.length_data]
  rfl

/-- For a product larger than `DBUFMAX` whose COMINGSOON is answered with `OK`,
`my_send_5` sends BLKDATA packets numbered `0, 1, 2, …`, packet `k` carrying the bytes
`[k*DBUFMAX, min((k+1)*DBUFMAX, sz))` of the product, and at most `⌈sz/DBUFMAX⌉` of them.
If every BLKDATA is answered with `OK` it sends them all, which make up the product, and
returns 0; otherwise it stops after the first that is not, with a nonzero status. -/
theorem mySend5_blkdata_packets (comingsoon hereis : RpcOutcome) (blkdata : Nat → RpcOutcome)
    (p : Product) (hcs : comingsoon = .okay) (hsz : DBUFMAX < p.sz.toNat) :
    let r : LdmProxyStatus × List DataPkt := mySend5 DBUFMAX hD comingsoon blkdata hereis p
    r.2 = (List.range r.2.length).map (csbdPkt DBUFMAX p) ∧
    r.2.map (fun q => q.pktnum.toNat) = List.range r.2.length ∧
    (∀ q ∈ r.2, q.dbufLen.toNat = q.dbufVal.length) ∧
    r.2.length ≤ npkts DBUFMAX p.sz.toNat ∧
    ((∀ k < npkts DBUFMAX p.sz.toNat, blkdata k = .okay) →
      r.1 = .ok ∧ r.2.length = npkts DBUFMAX p.sz.toNat ∧
        (r.2.map DataPkt.dbufVal).flatten = p.data) ∧
    (∀ k < npkts DBUFMAX p.sz.toNat, (∀ j < k, blkdata j = .okay) → blkdata k ≠ .okay →
      r.1 ≠ .ok ∧ r.2.length = k + 1) := by
  intro r
  have hr : blkdataLoop DBUFMAX hD blkdata p.data (UInt32.ofNat 0) p.data.length = r :=
    (mySend5_eq_blkdataLoop DBUFMAX hD comingsoon hereis blkdata p hcs hsz).symm
  have hbound : npkts DBUFMAX p.sz.toNat < UInt32.size :=
    (npkts_le DBUFMAX hD _).trans_lt (UInt32.toNat_lt_size p.sz)
  rw [← p.length_data] at hbound ⊢
  obtain ⟨m,hm,he⟩ := blkdataLoop_prefix DBUFMAX hD blkdata p.data 0
  rw [hr,funext (loopPkt_eq_csbdPkt DBUFMAX p)] at he
  refine ⟨by simp [he],?_,?_,by simpa [he] using hm,fun hall => ?_,fun k hk hok hb => ?_⟩
  · rw [he,List.map_map,List.length_map,List.length_range]
    conv_rhs => rw [← List.map_id (List.range m)]
    exact List.map_congr_left fun k hk =>
      csbdPkt_pktnum DBUFMAX p (by have := List.mem_range.mp hk; omega)
  · rw [he]; rintro q hq
    obtain ⟨k,-,rfl⟩ := List.mem_map.mp hq
    exact csbdPkt_dbufLen DBUFMAX p k
  · rw [← hr]; exact blkdataLoop_all_okay DBUFMAX hD blkdata p.data 0 hall
  · rw [← hr]; exact blkdataLoop_first_fail DBUFMAX hD k blkdata p.data 0 hk hok hb

/-- Five bytes in packets of two, every BLKDATA answered with `OK`: three packets, which
make up the product. -/
theorem mySend5_blkdata_packets_five :
    let r : LdmProxyStatus × List DataPkt :=
      mySend5 2 (by decide) .okay (fun _ => .okay) .okay ⟨5,[1,2,3,4,5],rfl⟩
    r.1 = .ok ∧ r.2.length = 3 ∧ (r.2.map DataPkt.dbufVal).flatten = [1,2,3,4,5] :=
  (mySend5_blkdata_packets 2 (by decide) .okay .okay (fun _ => .okay) ⟨5,[1,2,3,4,5],rfl⟩ rfl
    (by decide)).2.2.2.2.1 fun _ _ => rfl

end

end LdmProxy
end Ldm7
