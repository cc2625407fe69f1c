import Ldm7.Protocol.Feedme

/-! The peer of the LDM (`remote.c`): one static `peer_info` that the `setremote` functions
point at a host, `ensureRemoteName` names, and the class functions give a product-class.
`name` and `astr` are `char` arrays whose sizes, like `MAX_RPC_BUF_NEEDED`, are parameters;
what the system calls return is input. -/
namespace Ldm7
namespace Remote

open Feedme (ProdClass)

/-- `strncpy(dst, src, n)`: the first `n` bytes of `dst` become the string at `src` (its
bytes before the first NUL), padded with NULs. -/
def strncpy (dst src : List UInt8) (n : Nat) : List UInt8 :=
  let s := src.takeWhile (· ≠ 0)
  (s.take n ++ List.replicate (n - s.length) 0) ++ dst.drop n

/-- The string a `char*` into `buf` names: its bytes before the first NUL. -/
def cstr (buf : List UInt8) : List UInt8 := buf.takeWhile (· ≠ 0)

theorem strncpy_prefix_length (src : List UInt8) (n : Nat) :
    ((src.takeWhile (· ≠ 0)).take n ++ List.replicate (n - (src.takeWhile (· ≠ 0)).length) 0).length
      = n := by
  simp only [List.length_append,List.length_take,List.length_replicate]; omega

theorem strncpy_length {dst : List UInt8} {n : Nat} (h : n ≤ dst.length) (src : List UInt8) :
    (strncpy dst src n).length = dst.length := by
  rw [strncpy,List.length_append,strncpy_prefix_length,List.length_drop]; omega

theorem strncpy_getElem?_of_le (dst src : List UInt8) {n i : Nat} (hi : n ≤ i) :
    (strncpy dst src n)[i]? = dst[i]? := by
  rw [strncpy,List.getElem?_append_right (by rw [strncpy_prefix_length]; exact hi),
    strncpy_prefix_length,List.getElem?_drop]
  congr 1; omega

/-- A buffer of `n` bytes whose last byte is a NUL. -/
def Terminated (buf : List UInt8) (n : Nat) : Prop := buf.length = n ∧ buf[n - 1]? = some 0

theorem Terminated.cstr_length_lt {buf : List UInt8} {n : Nat} (h : Terminated buf n) :
    (cstr buf).length < n := by
  have hmem : (0 : UInt8) ∈ buf := List.mem_iff_getElem?.mpr ⟨_,h.2⟩
  have hp := List.takeWhile_prefix (l := buf) (fun b => decide (b ≠ 0))
  have hne : cstr buf ≠ buf := fun he => by
    simpa using List.takeWhile_eq_self_iff.mp he 0 hmem
  exact h.1 ▸ lt_of_le_of_ne hp.length_le fun hl => hne (hp.eq_of_length hl)

section
variable (HOSTNAMELEN DOTTEDQUADLEN : Nat) (MAX_RPC_BUF_NEEDED : BitVec 32)

inductive PrintName
  | null | name | astr
  deriving DecidableEq

/-- `peer_info` as `remote.c` uses it, with the bytes of the arrays `name` and `astr`.
`int` and `u_int` are 32 bits, and `(u_int)` keeps the bits. -/
structure PeerInfo where
  name : List UInt8
  astr : List UInt8
  printname : PrintName
  addr : UInt32
  clssp : Option ProdClass
  sendsz : BitVec 32
  recvsz : BitVec 32

/-- `memset(&remote, 0, sizeof(remote))`, which is also the static `remote` at start. -/
def zeroed : PeerInfo :=
  ⟨List.replicate HOSTNAMELEN 0,List.replicate DOTTEDQUADLEN 0,.null,0,none,0,0⟩

/-- What `getsockopt` writes to `optval` (`none` when it fails) and whether `setsockopt`
succeeds. -/
structure SockOpt where
  get : Option (BitVec 32)
  setOk : Bool

def soBuf (o : SockOpt) : BitVec 32 :=
  match o.get with
  | none => 0
  | some optval =>
    if optval.slt 4096 then (if o.setOk then MAX_RPC_BUF_NEEDED else 0) else optval

def freeRemoteClss (r : PeerInfo) : PeerInfo := { r with clssp := none }

/-- `ensureRemoteName`, with what `hostbyaddr` returns. -/
def ensureRemoteName (r : PeerInfo) (host : List UInt8) : PeerInfo :=
  if r.name.getD 0 0 = 0 then
    { r with name := strncpy r.name host (HOSTNAMELEN - 1), printname := .name }
  else r

/-- `remote_name`: `NULL`, or the string `printname` points to. -/
def remoteName (r : PeerInfo) : Option (List UInt8) :=
  match r.printname with
  | .null => none
  | .name => some (cstr r.name)
  | .astr => some (cstr r.astr)

/-- The buffer size `setremote` keeps: `MAX_RPC_BUF_NEEDED` for one above it or zero. -/
def clampBuf (sz : BitVec 32) : BitVec 32 :=
  if MAX_RPC_BUF_NEEDED.ult sz ∨ sz = 0 then MAX_RPC_BUF_NEEDED else sz

/-- `setremote`, with the address, what `inet_ntoa` returns, and the socket options of
`SO_SNDBUF` and `SO_RCVBUF`. -/
def setremote (r : PeerInfo) (addr : UInt32) (ntoa : List UInt8) (snd rcv : SockOpt) :
    PeerInfo :=
  if addr ≠ 0 ∧ addr = r.addr then r
  else { zeroed HOSTNAMELEN DOTTEDQUADLEN with
    addr := addr
    astr := (strncpy (List.replicate DOTTEDQUADLEN 0) ntoa DOTTEDQUADLEN).set (DOTTEDQUADLEN - 1) 0
    printname := .astr
    sendsz := clampBuf MAX_RPC_BUF_NEEDED (soBuf MAX_RPC_BUF_NEEDED snd)
    recvsz := clampBuf MAX_RPC_BUF_NEEDED (soBuf MAX_RPC_BUF_NEEDED rcv) }

/-- `svc_setremote`, with the caller's address. -/
def svcSetremote (r : PeerInfo) (addr : UInt32) (ntoa : List UInt8) (snd rcv : SockOpt)
    (host : List UInt8) : PeerInfo :=
  ensureRemoteName HOSTNAMELEN (setremote HOSTNAMELEN DOTTEDQUADLEN MAX_RPC_BUF_NEEDED r addr ntoa snd rcv)
    host

/-- `str_setremote`, with whether `inet_addr(id)` is not `(in_addr_t)(-1)`. -/
def strSetremote (r : PeerInfo) (id : List UInt8) (isAddr : Bool) : PeerInfo :=
  if (remoteName r).any fun s => !s.isEmpty && s == cstr id then r
  else if !isAddr then { zeroed HOSTNAMELEN DOTTEDQUADLEN with
    name := (strncpy (List.replicate HOSTNAMELEN 0) id (HOSTNAMELEN - 1)).set (HOSTNAMELEN - 1) 0
    printname := .name }
  else { zeroed HOSTNAMELEN DOTTEDQUADLEN with
    astr := (strncpy (List.replicate DOTTEDQUADLEN 0) id (DOTTEDQUADLEN - 1)).set
      (DOTTEDQUADLEN - 1) 0
    name := (List.replicate HOSTNAMELEN 0).set 0 0
    printname := .astr }

/-- `update_remote_clss`, with what `clsspsa_eq` and `lcf_okToFeedOrNotify` (not among the
sources) return; the latter is given the peer and may set its class. `none` is the write
through a `NULL` class. -/
def updateRemoteClss (r : PeerInfo) (want : ProdClass) (eq : Bool)
    (lcf : Int × Option ProdClass) : Option (Int × PeerInfo) :=
  if !eq then some (lcf.1,{ r with clssp := lcf.2 })
  else r.clssp.map fun c =>
    (0,{ r with clssp := some { c with fromTime := want.fromTime, toTime := want.toTime } })

/-- `set_remote_class` of a class or `NULL`, with whether `dup_prod_class` succeeds:
`none` is `ENOMEM`, returned before anything changes. -/
def setRemoteClass (r : PeerInfo) (prodClass : Option ProdClass) (dupOk : Bool) :
    Option PeerInfo :=
  match prodClass with
  | none => some { r with clssp := none }
  | some c => if dupOk then some { r with clssp := some c } else none

/-- A call on the peer with what the system calls it makes return. -/
inductive Op
  | setremote (addr : UInt32) (ntoa : List UInt8) (snd rcv : SockOpt)
  | svcSetremote (addr : UInt32) (ntoa : List UInt8) (snd rcv : SockOpt) (host : List UInt8)
  | ensureRemoteName (host : List UInt8)
  | strSetremote (id : List UInt8) (isAddr : Bool)
  | updateRemoteClss (want : ProdClass) (eq : Bool) (lcf : Int × Option ProdClass)
  | setRemoteClass (prodClass : Option ProdClass) (dupOk : Bool)
  | freeRemoteClss

/-- The peer after a call; `none` when it writes through a `NULL` class. -/
def PeerInfo.apply (r : PeerInfo) : Op → Option PeerInfo
  | .setremote addr ntoa snd rcv =>
    some (setremote HOSTNAMELEN DOTTEDQUADLEN MAX_RPC_BUF_NEEDED r addr ntoa snd rcv)
  | .svcSetremote addr ntoa snd rcv host =>
    some (svcSetremote HOSTNAMELEN DOTTEDQUADLEN MAX_RPC_BUF_NEEDED r addr ntoa snd rcv host)
  | .ensureRemoteName host => some (ensureRemoteName HOSTNAMELEN r host)
  | .strSetremote id isAddr => some (strSetremote HOSTNAMELEN DOTTEDQUADLEN r id isAddr)
  | .updateRemoteClss want eq lcf => (updateRemoteClss r want eq lcf).map Prod.snd
  | .setRemoteClass prodClass dupOk => some ((setRemoteClass r prodClass dupOk).getD r)
  | .freeRemoteClss => some (freeRemoteClss r)

def PeerInfo.run (r : PeerInfo) : List Op → Option PeerInfo
  | [] => some r
  | op :: ops => (r.apply HOSTNAMELEN DOTTEDQUADLEN MAX_RPC_BUF_NEEDED op).bind fun r' =>
    r'.run ops

/-- Both arrays are terminated, the buffer sizes are at most `MAX_RPC_BUF_NEEDED`, and a
peer with an address has both. -/
structure Inv (r : PeerInfo) : Prop where
  name : Terminated r.name HOSTNAMELEN
  astr : Terminated r.astr DOTTEDQUADLEN
  sendsz : r.sendsz ≤ MAX_RPC_BUF_NEEDED
  recvsz : r.recvsz ≤ MAX_RPC_BUF_NEEDED
  sizes : r.addr ≠ 0 → r.sendsz ≠ 0 ∧ r.recvsz ≠ 0

end

theorem terminated_replicate {n : Nat} (hn : 0 < n) : Terminated (List.replicate n 0) n :=
  ⟨List.length_replicate _ _,by rw [List.getElem?_replicate,if_pos (by omega)]⟩

theorem terminated_set {buf : List UInt8} {n : Nat} (hl : buf.length = n) (hn : 0 < n) :
    Terminated (buf.set (n - 1) 0) n :=
  ⟨by rw [List.length_set,hl],List.getElem?_set_self (by omega)⟩

theorem Terminated.strncpy {buf : List UInt8} {n : Nat} (h : Terminated buf n)
    (src : List UInt8) : Terminated (Remote.strncpy buf src (n - 1)) n :=
  ⟨by rw [strncpy_length (by rw [h.1]; omega),h.1],
    by rw [strncpy_getElem?_of_le _ _ le_rfl]; exact h.2⟩

section
variable {HOSTNAMELEN DOTTEDQUADLEN : Nat} {MAX_RPC_BUF_NEEDED : BitVec 32}
  (hH : 0 < HOSTNAMELEN) (hQ : 0 < DOTTEDQUADLEN) (hM : MAX_RPC_BUF_NEEDED ≠ 0)

theorem clampBuf_le (sz : BitVec 32) : clampBuf MAX_RPC_BUF_NEEDED sz ≤ MAX_RPC_BUF_NEEDED := by
  unfold clampBuf
  split_ifs with h
  · exact BitVec.le_def.mpr (Nat.le_refl _)
  · simp only [not_or,BitVec.ult,decide_eq_true_eq] at h
    exact BitVec.le_def.mpr (by omega)

include hM in
theorem clampBuf_ne_zero (sz : BitVec 32) : clampBuf MAX_RPC_BUF_NEEDED sz ≠ 0 := by
  unfold clampBuf
  split_ifs with h
  · exact hM
  · exact (not_or.mp h).2

include hH hQ in
theorem inv_zeroed : Inv HOSTNAMELEN DOTTEDQUADLEN MAX_RPC_BUF_NEEDED (zeroed HOSTNAMELEN DOTTEDQUADLEN) :=
  ⟨terminated_replicate hH,terminated_replicate hQ,BitVec.le_def.mpr (Nat.zero_le _),
    BitVec.le_def.mpr (Nat.zero_le _),fun h => absurd rfl h⟩

include hH hQ hM in
theorem inv_setremote {r : PeerInfo} (hr : Inv HOSTNAMELEN DOTTEDQUADLEN MAX_RPC_BUF_NEEDED r)
    (addr : UInt32) (ntoa : List UInt8) (snd rcv : SockOpt) :
    Inv HOSTNAMELEN DOTTEDQUADLEN MAX_RPC_BUF_NEEDED
      (setremote HOSTNAMELEN DOTTEDQUADLEN MAX_RPC_BUF_NEEDED r addr ntoa snd rcv) := by
  unfold setremote
  split_ifs
  · exact hr
  · exact ⟨terminated_replicate hH,
      terminated_set (by rw [strncpy_length (by simp),List.length_replicate]) hQ,
      clampBuf_le _,clampBuf_le _,fun _ => ⟨clampBuf_ne_zero hM _,clampBuf_ne_zero hM _⟩⟩

theorem inv_ensureRemoteName {r : PeerInfo} (hr : Inv HOSTNAMELEN DOTTEDQUADLEN MAX_RPC_BUF_NEEDED r)
    (host : List UInt8) :
    Inv HOSTNAMELEN DOTTEDQUADLEN MAX_RPC_BUF_NEEDED (ensureRemoteName HOSTNAMELEN r host) := by
  unfold ensureRemoteName
  split_ifs
  · exact { hr with name := hr.name.strncpy host }
  · exact hr

include hH hQ in
theorem inv_strSetremote {r : PeerInfo} (hr : Inv HOSTNAMELEN DOTTEDQUADLEN MAX_RPC_BUF_NEEDED r)
    (id : List UInt8) (isAddr : Bool) :
    Inv HOSTNAMELEN DOTTEDQUADLEN MAX_RPC_BUF_NEEDED
      (strSetremote HOSTNAMELEN DOTTEDQUADLEN r id isAddr) := by
  have hz : Inv HOSTNAMELEN DOTTEDQUADLEN MAX_RPC_BUF_NEEDED (zeroed HOSTNAMELEN DOTTEDQUADLEN) :=
    inv_zeroed hH hQ
  unfold strSetremote
  split_ifs
  · exact hr
  · exact { hz with
      name := terminated_set (by rw [strncpy_length (by simp),List.length_replicate]) hH }
  · exact { hz with
      astr := terminated_set (by rw [strncpy_length (by simp),List.length_replicate]) hQ
      name := by rw [List.set_replicate_self]; exact terminated_replicate hH }

include hH hQ hM in
theorem inv_apply {r : PeerInfo} (hr : Inv HOSTNAMELEN DOTTEDQUADLEN MAX_RPC_BUF_NEEDED r)
    (op : Op) : ∀ r' ∈ r.apply HOSTNAMELEN DOTTEDQUADLEN MAX_RPC_BUF_NEEDED op,
      Inv HOSTNAMELEN DOTTEDQUADLEN MAX_RPC_BUF_NEEDED r' := by
  intro r' hr'
  cases op with
  | setremote => cases hr'; exact inv_setremote hH hQ hM hr ..
  | svcSetremote => cases hr'; exact inv_ensureRemoteName (inv_setremote hH hQ hM hr ..) _
  | ensureRemoteName host => cases hr'; exact inv_ensureRemoteName hr host
  | strSetremote id isAddr => cases hr'; exact inv_strSetremote hH hQ hr id isAddr
  | updateRemoteClss want eq lcf =>
    simp only [PeerInfo.apply,updateRemoteClss,Option.mem_def] at hr'
    split_ifs at hr'
    · cases hr'; exact { hr with }
    · rcases hc : r.clssp with _ | c <;> simp [hc] at hr'
      subst hr'; exact { hr with }
  | setRemoteClass prodClass dupOk =>
    cases hr'
    rcases prodClass with _ | c <;> cases dupOk <;> exact { hr with }
  | freeRemoteClss => cases hr'; exact { hr with }

include hH hQ hM in
theorem inv_run {r : PeerInfo} (hr : Inv HOSTNAMELEN DOTTEDQUADLEN MAX_RPC_BUF_NEEDED r)
    (ops : List Op) : ∀ r' ∈ r.run HOSTNAMELEN DOTTEDQUADLEN MAX_RPC_BUF_NEEDED ops,
      Inv HOSTNAMELEN DOTTEDQUADLEN MAX_RPC_BUF_NEEDED r' := by
  induction ops generalizing r with
  | nil => intro r' h; cases h; exact hr
  | cons op ops ih =>
    intro r' h
    obtain ⟨r1,h1,h'⟩ := Option.bind_eq_some.mp h
    exact ih (inv_apply hH hQ hM hr op r1 h1) r' h'

theorem Inv.remoteName_lt {r : PeerInfo} (hr : Inv HOSTNAMELEN DOTTEDQUADLEN MAX_RPC_BUF_NEEDED r) :
    ∀ s ∈ remoteName r, (r.printname = .name ∧ s.length < HOSTNAMELEN) ∨
      (r.printname = .astr ∧ s.length < DOTTEDQUADLEN) := by
  intro s hs
  rcases hp : r.printname <;> simp only [remoteName,hp,Option.mem_def,reduceCtorEq,
    Option.some.injEq] at hs <;> subst hs
  · exact .inl ⟨rfl,hr.name.cstr_length_lt⟩
  · exact .inr ⟨rfl,hr.astr.cstr_length_lt⟩

end

/-- Over every sequence of calls on the static peer, until one writes through a `NULL`
class: `name` and `astr` end with a NUL, so the string `remote_name()` returns ends inside
its buffer; the RPC buffer sizes are at most `MAX_RPC_BUF_NEEDED`, and not zero once the
peer has an address. -/
theorem remote_terminated {HOSTNAMELEN DOTTEDQUADLEN : Nat} {MAX_RPC_BUF_NEEDED : BitVec 32}
    (hH : 0 < HOSTNAMELEN) (hQ : 0 < DOTTEDQUADLEN) (hM : MAX_RPC_BUF_NEEDED ≠ 0) (ops : List Op) :
    ∀ r ∈ (zeroed HOSTNAMELEN DOTTEDQUADLEN).run HOSTNAMELEN DOTTEDQUADLEN MAX_RPC_BUF_NEEDED ops,
      Inv HOSTNAMELEN DOTTEDQUADLEN MAX_RPC_BUF_NEEDED r ∧
      ∀ s ∈ remoteName r, (r.printname = .name ∧ s.length < HOSTNAMELEN) ∨
        (r.printname = .astr ∧ s.length < DOTTEDQUADLEN) := fun r h =>
  have hr := inv_run hH hQ hM (inv_zeroed hH hQ) ops r h
  ⟨hr,hr.remoteName_lt⟩

theorem remote_terminated_example :
    0 < 64 ∧ 0 < 16 ∧ (262144#32) ≠ 0 ∧
      ∀ r ∈ (zeroed 64 16).run 64 16 262144#32 [.strSetremote [104,111,115,116] false],
        Inv 64 16 262144#32 r ∧ ∀ s ∈ remoteName r, (r.printname = .name ∧ s.length < 64) ∨
          (r.printname = .astr ∧ s.length < 16) :=
  ⟨by decide,by decide,by decide,remote_terminated (by decide) (by decide) (by decide) _⟩

end Remote
end Ldm7
